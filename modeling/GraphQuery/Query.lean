import GraphQuery.Condition
import GraphQuery.Node
import GraphQuery.Parameter.Buckets
import GraphQuery.Projection

/-! The state of a query that is being written, and the steps that extend it. -/
namespace GraphQuery

/-- A query, with the values that its conditions and traversals have bound so far. -/
structure Query where
  label : Option String := none
  columns : Option (List String) := none
  conditions : List Condition := []
  traversals : List Traversal := []
  /-- Expressions carried over a WITH, by their aliases. -/
  carried : Record String := .empty
  sorting : List SortKey := []
  limit : Option Nat := none
  offset : Option Nat := none
  aggregate : Option AggregateRequest := none
  buckets : Buckets := {}
  /-- Names taken by an enclosing query or by sub-queries written into this one. -/
  reserved : List ParameterName := []

namespace Query

/-- The names of the query's own conditions and traversals. -/
def names (q : Query) : List ParameterName :=
  Condition.namesOf q.conditions ++ q.traversals.map Traversal.name

/-- The name that the next use of a column takes. -/
def nextName (q : Query) (column : String) : ParameterName :=
  .next (q.reserved ++ q.names) (Identifier.parameterBase column)

/-- The values sent along with the query. -/
def parameters (q : Query) : Parameters := q.buckets.flatten

/-- The alias of the target node. -/
def targetAlias (q : Query) (s : Settings) : String := s.nodeAlias q.label.toList

/-- A query inside this one, which avoids its names. -/
def child (q : Query) : Query := { reserved := q.reserved ++ q.names }

/-- A group inside this query reads the same target. -/
def groupChild (q : Query) : Query := { q.child with label := q.label }

def push (q : Query) (c : Condition) : Query := { q with conditions := q.conditions ++ [c] }

def bind (q : Query) (name : ParameterName) (value : Value) (b : Bucket) : Query :=
  { q with buckets := q.buckets.insert name.render value b }

def filterBound (q : Query) (column operator : String) (value : Value) (connective : Connective) :
    Query :=
  let name := q.nextName column
  (q.bind name value .filter).push (.comparison column operator (.bound value) connective name)

def filterRaw (q : Query) (column operator expression : String) (connective : Connective) : Query :=
  q.push (.comparison column operator (.raw expression) connective (q.nextName column))

/-- A null test binds no value, but takes a name. -/
def filterNull (q : Query) (column : String) (connective : Connective) (negated : Bool) : Query :=
  let name := q.nextName column
  q.push (if negated then .notNull column connective name else .isNull column connective name)

/-- The whole list is bound under one name. -/
def filterIn (q : Query) (column : String) (values : List Value) (connective : Connective)
    (negated : Bool) : Query :=
  let name := q.nextName column
  (q.bind name (.array values) .filter).push
    (if negated then .notIn column values connective name else .isIn column values connective name)

/-- The bounds are one pair under one name. The identity column is kept as the accessor of the
target node. -/
def filterBetween (q : Query) (s : Settings) (column : String) (low high : Value)
    (connective : Connective) (negated : Bool) : Query :=
  let name := q.nextName column
  let stored := if column = s.identityColumn then s.accessor (q.targetAlias s) else column
  (q.bind name (.array [low, high]) .filter).push (.between stored connective negated name)

/-- Compares with an identifier that an earlier stage carries; nothing is bound. -/
def filterCarried (q : Query) (column operator identifier : String) (connective : Connective) :
    Query :=
  q.push (.carried column operator identifier connective)

/-- Takes a finished group in; a group without conditions leaves no trace. -/
def filterGroup (q group : Query) (connective : Connective) : Query :=
  if group.conditions.isEmpty then q
  else
    push { q with buckets := q.buckets.merge (group.buckets.slot .filter).entries .filter }
      (.group group.conditions connective)

/-- Takes over the values of a sub-query, and keeps its names from being used again. -/
def adopt (q sub : Query) : Query :=
  { q with
    buckets := q.buckets.merge sub.parameters .filter
    reserved := q.reserved ++ sub.names }

/-- Appends conditions made elsewhere, with their values. -/
def append (q : Query) (conditions : List Condition) (values : Parameters) : Query :=
  { q with
    conditions := q.conditions ++ conditions
    buckets := q.buckets.merge values .filter }

/-- Whether a value is there to ask for. -/
def isGiven (value : Option Value) : Bool := !(value.getD .null).isNull

/-- The step from `parent` over `relationship` to a node called `relatedAlias`. -/
def relation (q : Query) (s : Settings) (parent related : Node)
    (relatedAlias relationship property : String) (value : Option Value) (direction : Direction) :
    Traversal :=
  .relation property direction relationship ⟨parent.aliasIn s, parent.labels⟩
    ⟨relatedAlias, related.labels⟩ (q.nextName property) (isGiven value)

/-- The step over any relationship to a node of any label. -/
def polymorphicRelation (q : Query) (s : Settings) (parent : Node) (relatedAlias property : String)
    (value : Option Value) (direction : Direction) : Traversal :=
  .polymorphic property direction relatedAlias ⟨parent.aliasIn s, parent.labels⟩
    (q.nextName property) (isGiven value)

/-- Appends a step, and binds the value of its property, null included. -/
def traverse (q : Query) (t : Traversal) (value : Option Value) : Query :=
  { q.bind t.name (value.getD .null) .traversal with traversals := q.traversals ++ [t] }

/-- Carries expressions on; an alias that is there already takes the new expression. -/
def carry (q : Query) (parts : List (String × String)) : Query :=
  { q with carried := q.carried.insertAll parts }

def sortBy (q : Query) (column direction : String) : Query :=
  { q with sorting := q.sorting ++ [⟨column, .ofText direction⟩] }

/-- Names for the keys of rows, in row and key order. -/
def rowNamesFrom (used : List ParameterName) : List Row → List (List ParameterName)
  | [] => []
  | row :: rest =>
    let names := ParameterName.nextAll used (row.keys.map Identifier.parameterBase)
    names :: rowNamesFrom (used ++ names) rest

/-- The parameter names of a batch of rows. -/
def rowNames (rows : List Row) : List (List ParameterName) := rowNamesFrom [] rows

/-- The parameter names of updated values, which step past all that the query binds. -/
def updateNames (q : Query) (s : Settings) (values : Row) : List ParameterName :=
  ParameterName.nextAll (q.parameters.keys.map .first)
    (values.keys.map fun key => Identifier.parameterBase key ++ s.updateSuffix)

/-- Values under their names. -/
def named (names : List ParameterName) (values : List Value) : List (String × Value) :=
  (names.map ParameterName.render).zip values

/-- The values of rows under their parameter names. -/
def rowParameters (rows : List Row) : Parameters :=
  .ofList (List.zipWith named (rowNames rows) (rows.map Record.values)).flatten

/-- The query's values, followed by the updated ones. -/
def updateParameters (q : Query) (s : Settings) (values : Row) : Parameters :=
  q.parameters.insertAll (named (q.updateNames s values) values.values)

end Query
end GraphQuery
