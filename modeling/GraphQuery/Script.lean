import GraphQuery.Codec.Condition
import GraphQuery.Session.Execute
import GraphQuery.Session.Filter
import GraphQuery.Session.Traverse

/-! Steps as data: a script is a list of steps, and callbacks are scripts. -/
namespace GraphQuery

/-- One operation on a session. -/
inductive Step where
  | target (label : String)
  | select (columns : List String)
  | limit (rows : Nat)
  | offset (rows : Nat)
  | sortBy (column direction : String)
  | carry (parts : List (String × String))
  | addValue (value : Value) (bucket : String)
  | appendQuery (body : List Step)
  | appendEncoded (conditions : Value) (values : Parameters)
  | renew
  | filter (subject : Subject (List Step)) (operator : Option String)
      (operand : Operand (List Step)) (connective : Connective)
  | filterGroup (body : List Step) (connective : Connective)
  | filterQuery (column operator : String) (body : List Step) (connective : Connective)
  | filterIn (column : String) (members : Members (List Step)) (connective : Connective)
      (negated : Bool)
  | filterBetween (column : String) (low high : Value) (connective : Connective) (negated : Bool)
  | filterNull (column : String) (connective : Connective) (negated : Bool)
  | filterCarried (column operator identifier : String) (connective : Connective)
  | relate (parent related : Node) (relatedAlias relationship property : String)
      (value : Option Value) (direction : Direction)
  | relateToAny (parent : Node) (relatedAlias property : String) (value : Option Value)
      (direction : Direction)
  | respond (rows : List Row)
  | fail (error : TransportError)
  | fetchAll
  | fetch (columns : List String)
  | pluck (column : String)
  | pluckKeyed (column key : String)
  | aggregate (function : String) (columns : List String) (percentile : Option Decimal.Binary64)
  | sum (column : String)
  | avg (column : String)
  | min (column : String)
  | max (column : String)
  | stdev (column : String)
  | stdevp (column : String)
  | percentileDisc (column : String) (percentile : Decimal.Binary64)
  | percentileCont (column : String) (percentile : Decimal.Binary64)
  | count (column : String)
  | countDistinct (column : String)
  | collect (column : String)
  | insert (rows : List Row)
  | insertReturning (row : Row) (sequence : Option String)
  | update (values : Row)
  | create (new : NewNode)
  | connect (parent related : Node) (relationship : String) (properties : Row)
  | selectText
  | inlinedText
  | insertText (rows : List Row)
  | insertReturningText (row : Row) (sequence : Option String)
  | updateText (values : Row)
  | createText (new : NewNode)
  | connectText (parent related : Node) (relationship : String) (properties : Row)
  | nodeAlias (labels : Option (List String))
  | parameterForm (property : String)
  | rowNames (rows : List Row)
  | updateNames (values : Row)

abbrev Script := List Step

/-- What a step gives back. -/
inductive Answer where
  | nothing
  | rows (rows : ResultSet)
  | value (value : Option Value)
  | values (values : List Value)
  | record (record : Row)
  | count (count : Option Nat)
  | text (text : String)
  | names (names : List ParameterName)
  | rowNames (rows : List (List ParameterName))
  /-- The conditions to append could not be read. -/
  | unreadable

namespace Action

/-- Appends conditions in their encoded form; when they cannot be read, nothing happens. -/
def appendEncoded (conditions : Value) (values : Parameters) : Action Answer :=
  match Condition.decodeList? conditions with
  | some conditions => do
    append conditions values
    return .nothing
  | none => return .unreadable

/-- An action that gives nothing back. -/
def done (body : Action Unit) : Action Answer := do
  body
  return .nothing

end Action

namespace Step

mutual

def run (d : Dialect) : Step → Action Answer
  | .target label => .done (.modifyQuery fun q => { q with label := some label })
  | .select columns => .done (.modifyQuery fun q => { q with columns := some columns })
  | .limit rows => .done (.modifyQuery fun q => { q with limit := some rows })
  | .offset rows => .done (.modifyQuery fun q => { q with offset := some rows })
  | .sortBy column direction => .done (.modifyQuery (·.sortBy column direction))
  | .carry parts => .done (.modifyQuery (·.carry parts))
  | .addValue value bucket => .done (.addValue value bucket)
  | .appendQuery body => .done (.appendQuery (runAll d body))
  | .appendEncoded conditions values => .appendEncoded conditions values
  | .renew => .done (.modifyQuery fun _ => {})
  | .filter subject operator operand connective =>
    .done (.filter d (runSubject d subject) operator (runOperand d operand) connective)
  | .filterGroup body connective => .done (.filterGroup (runAll d body) connective)
  | .filterQuery column operator body connective =>
    .done (.filterQuery d column operator (runAll d body) connective)
  | .filterIn column members connective negated =>
    .done (.filterIn d column (runMembers d members) connective negated)
  | .filterBetween column low high connective negated =>
    .done (.filterBetween d column low high connective negated)
  | .filterNull column connective negated => .done (.filterNull column connective negated)
  | .filterCarried column operator identifier connective =>
    .done (.filterCarried column operator identifier connective)
  | .relate parent related relatedAlias relationship property value direction =>
    .done (.relate d parent related relatedAlias relationship property value direction)
  | .relateToAny parent relatedAlias property value direction =>
    .done (.relateToAny d parent relatedAlias property value direction)
  | .respond rows => .done (.modifyRecorder (·.respond rows))
  | .fail error => .done (.modifyRecorder (·.fail error))
  | .fetchAll => .rows <$> .fetchAll d
  | .fetch columns => .rows <$> .fetch d columns
  | .pluck column => .values <$> .pluck d column
  | .pluckKeyed column key => .record <$> .pluckKeyed d column key
  | .aggregate function columns percentile => .value <$> .aggregate d function columns percentile
  | .sum column => .value <$> .sum d column
  | .avg column => .value <$> .avg d column
  | .min column => .value <$> .min d column
  | .max column => .value <$> .max d column
  | .stdev column => .value <$> .stdev d column
  | .stdevp column => .value <$> .stdevp d column
  | .percentileDisc column percentile => .value <$> .percentileDisc d column percentile
  | .percentileCont column percentile => .value <$> .percentileCont d column percentile
  | .count column => .count <$> .count d column
  | .countDistinct column => .count <$> .countDistinct d column
  | .collect column => .values <$> .collect d column
  | .insert rows => .rows <$> .insert d rows
  | .insertReturning row sequence => .value <$> .insertReturning d row sequence
  | .update values => (.count <| some ·) <$> .update d values
  | .create new => .rows <$> .create d new
  | .connect parent related relationship properties =>
    .rows <$> .connect d parent related relationship properties
  | .selectText => .text <$> .selectText d
  | .inlinedText => .text <$> .inlinedText d
  | .insertText rows => .text <$> .insertText d rows
  | .insertReturningText row sequence => .text <$> .insertReturningText d row sequence
  | .updateText values => .text <$> .updateText d values
  | .createText new => .text <$> .createText d new
  | .connectText parent related relationship properties =>
    .text <$> .connectText d parent related relationship properties
  | .nodeAlias (some labels) => return .text (d.settings.nodeAlias labels)
  | .nodeAlias none => return .text ((← Action.query).targetAlias d.settings)
  | .parameterForm property => return .text (Identifier.parameterForm property)
  | .rowNames rows => return .rowNames (Query.rowNames rows)
  | .updateNames values => return .names ((← Action.query).updateNames d.settings values)

/-- Stops at the first step that fails. -/
def runAll (d : Dialect) : List Step → Action Unit
  | [] => pure ()
  | step :: rest => do
    let _ ← run d step
    runAll d rest

def runSubject (d : Dialect) : Subject (List Step) → Subject (Action Unit)
  | .column name => .column name
  | .equalities mapping => .equalities mapping
  | .group body => .group (runAll d body)

def runOperand (d : Dialect) : Operand (List Step) → Operand (Action Unit)
  | .value v => .value v
  | .raw expression => .raw expression
  | .query body => .query (runAll d body)

def runMembers (d : Dialect) : Members (List Step) → Members (Action Unit)
  | .listed values => .listed values
  | .query body => .query (runAll d body)

end

end Step
end GraphQuery
