import GraphQuery.Session.Basic

/-! Traversals from one node to another. -/
namespace GraphQuery.Action

/-- Appends the step that `make` gives on the current query. -/
def traverse (make : Query → Traversal) (value : Option Value) : Action Unit := do
  let t := make (← query)
  report [.bound .traversal t.name, .traversed t]
  modifyQuery (·.traverse t value)

def relate (d : Dialect) (parent related : Node) (relatedAlias relationship property : String)
    (value : Option Value) (direction : Direction) : Action Unit :=
  traverse
    (·.relation d.settings parent related relatedAlias relationship property value direction) value

def relateToAny (d : Dialect) (parent : Node) (relatedAlias property : String)
    (value : Option Value) (direction : Direction) : Action Unit :=
  traverse (·.polymorphicRelation d.settings parent relatedAlias property value direction) value

end GraphQuery.Action
