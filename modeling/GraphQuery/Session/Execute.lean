import GraphQuery.Session.Writing

/-! Sending statements and reading their results. -/
namespace GraphQuery.Action

/-- What is reported of a statement: its text, the text with the parameters written out, and that it
was recorded. -/
def sendingNotices (s : Statement) : List Notice :=
  [.sent s,
    match inlineParameters s.text s.parameters with
    | .ok text => .inlined s.kind text
    | .error e => .notInlined s.kind e,
    .recorded s]

/-- Passes a statement to the connection and gives its answer. -/
def send (s : Statement) : Action ResultSet := do
  report (sendingNotices s)
  let (reply, recorder) := (← get).recorder.execute s
  modifyRecorder fun _ => recorder
  match reply with
  | .ok rows => return rows
  | .error e => throw (.transport e)

/-- The columns are used only when no projection was set, and stay set. -/
def fetch (d : Dialect) (columns : List String) : Action ResultSet := do
  modifyQuery fun q => { q with columns := q.columns.or (some columns) }
  let text ← selectText d
  send ⟨.select, text, (← query).parameters, false⟩

def fetchAll (d : Dialect) : Action ResultSet := fetch d ["*"]

def pluck (d : Dialect) (column : String) : Action (List Value) := do
  let rows ← fetch d [column]
  return rows.pluck (Identifier.lastSegment column)

def pluckKeyed (d : Dialect) (column key : String) : Action Row := do
  let rows ← fetch d [column, key]
  return rows.pluckKeyed (Identifier.lastSegment column) (Identifier.lastSegment key)

/-- The request lasts for this one statement, and the projection comes back after it. -/
def aggregate (d : Dialect) (function : String) (columns : List String)
    (percentile : Option Decimal.Binary64) : Action (Option Value) := do
  let before ← query
  modifyQuery fun q => { q with aggregate := some ⟨q.label, function, columns, percentile⟩ }
  let answer ← outcome (fetch d columns)
  modifyQuery fun q => { q with aggregate := none, columns := before.columns }
  let rows ← ofExcept answer
  return rows.aggregateValue? d.settings.aggregateAlias

def sum (d : Dialect) (column : String) : Action (Option Value) :=
  aggregate d "sum" [column] none

def avg (d : Dialect) (column : String) : Action (Option Value) :=
  aggregate d "avg" [column] none

def min (d : Dialect) (column : String) : Action (Option Value) :=
  aggregate d "min" [column] none

def max (d : Dialect) (column : String) : Action (Option Value) :=
  aggregate d "max" [column] none

/-- The deviation of a sample. -/
def stdev (d : Dialect) (column : String) : Action (Option Value) :=
  aggregate d "stdev" [column] none

/-- The deviation of a whole population. -/
def stdevp (d : Dialect) (column : String) : Action (Option Value) :=
  aggregate d "stdevp" [column] none

def percentileDisc (d : Dialect) (column : String) (percentile : Decimal.Binary64) :
    Action (Option Value) :=
  aggregate d "percentileDisc" [column] (some percentile)

def percentileCont (d : Dialect) (column : String) (percentile : Decimal.Binary64) :
    Action (Option Value) :=
  aggregate d "percentileCont" [column] (some percentile)

def count (d : Dialect) (column : String) : Action (Option Nat) := do
  return (← aggregate d "count" [column] none).bind Value.count?

def countDistinct (d : Dialect) (column : String) : Action (Option Nat) := do
  return (← aggregate d "countDistinct" [column] none).bind Value.count?

/-- A value that is no list is a list of one. -/
def collect (d : Dialect) (column : String) : Action (List Value) := do
  return match ← aggregate d "collect" [column] none with
    | some (.array values) => values
    | none | some .null => []
    | some v => [v]

/-- Rows are sent with their keys in ascending order. -/
def insert (d : Dialect) (rows : List Row) : Action ResultSet := do
  let rows := rows.map Record.sorted
  let text ← insertText d rows
  send ⟨.insert, text, Query.rowParameters rows, false⟩

/-- The identity of the new node, or its property `sequence` where one is named. -/
def insertReturning (d : Dialect) (row : Row) (sequence : Option String) :
    Action (Option Value) := do
  let row := row.sorted
  let text ← insertReturningText d row sequence
  let rows ← send ⟨.insert, text, Query.rowParameters [row], false⟩
  return rows.current?.bind (·.get? (sequence.getD d.settings.identityColumn))

/-- The number of changed nodes, which is the first value that comes back. -/
def update (d : Dialect) (values : Row) : Action Nat := do
  let text ← updateText d values
  let rows ← send ⟨.update, text, (← query).updateParameters d.settings values, false⟩
  return ((rows.current?.bind (·.values.head?)).bind Value.natural?).getD 0

/-- All values are in the text, so nothing is bound. -/
def create (d : Dialect) (new : NewNode) : Action ResultSet := do
  let text ← createText d new
  send ⟨.statement, text, .empty, true⟩

/-- Connects two stored nodes by a new relationship. -/
def connect (d : Dialect) (parent related : Node) (relationship : String) (properties : Row) :
    Action ResultSet := do
  let properties := properties.sorted
  let text ← connectText d parent related relationship properties
  send ⟨.insert, text, Query.rowParameters [properties], false⟩

end GraphQuery.Action
