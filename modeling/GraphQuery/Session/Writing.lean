import GraphQuery.Session.Basic

/-! The statements that the query of a session is written as. -/
namespace GraphQuery.Action

/-- An aggregate request is on record before the query is written; a function outside the table is
reported only when it is. -/
def write (d : Dialect) (q : Query) : Action String := do
  modify fun s => { s with requests := s.requests ++ q.aggregate.toList }
  let text ← compiled (d.select q)
  report ((q.aggregate.filter fun r => (AggregateFunction.find? r.function).isNone).toList.map
    fun r => .unlistedAggregate r.function)
  return Template.render text

def selectText (d : Dialect) : Action String := do write d (← query)

/-- The query with its parameters written out, for people to read. -/
def inlinedText (d : Dialect) : Action String := do
  let q ← query
  compiled (inlineParameters (← write d q) q.parameters)

def insertText (d : Dialect) (rows : List Row) : Action String := do
  return Template.render (← compiled ((← query).insert d.settings rows))

def insertReturningText (d : Dialect) (row : Row) (sequence : Option String) : Action String := do
  return Template.render ((← query).insertReturning d.settings row sequence)

def updateText (d : Dialect) (values : Row) : Action String := do
  return Template.render (← compiled ((← query).update d.settings values))

def createText (d : Dialect) (new : NewNode) : Action String := do
  return Template.render ((← query).create d.settings new)

def connectText (d : Dialect) (parent related : Node) (relationship : String) (properties : Row) :
    Action String := do
  return Template.render
    (← compiled (Node.connect d.settings parent related relationship properties))

end GraphQuery.Action
