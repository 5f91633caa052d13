import GraphQuery.Parameter.Name
import GraphQuery.Text.Lower

/-! Steps from one node of a query to another. -/
namespace GraphQuery

/-- The direction of a relationship, seen from the parent. -/
inductive Direction where
  | outgoing
  | incoming
  | either
deriving DecidableEq

namespace Direction

def name : Direction → String
  | .outgoing => "out"
  | .incoming => "in"
  | .either => "in-out"

/-- What is not recognised is outgoing. -/
def ofText (s : String) : Direction :=
  let word := Text.lower s
  if word = "in" then .incoming
  else if word = "in-out" ∨ word = "inout" ∨ word = "both" then .either
  else .outgoing

end Direction

/-- An end of a traversal, by alias and labels. -/
structure PathNode where
  nodeAlias : String
  labels : List String
deriving DecidableEq

/-- A step from a parent to a related node. The value of `property` is bound under `name`, and the
statement asks for it only when `constrained`. The related node of a polymorphic step may have any
label. -/
inductive Traversal where
  | relation (property : String) (direction : Direction) (relationship : String)
      (parent related : PathNode) (name : ParameterName) (constrained : Bool)
  | polymorphic (property : String) (direction : Direction) (related : String)
      (parent : PathNode) (name : ParameterName) (constrained : Bool)
deriving DecidableEq

namespace Traversal

def name : Traversal → ParameterName
  | relation _ _ _ _ _ n _ | polymorphic _ _ _ _ n _ => n

/-- The aliases of the two ends. -/
def aliases : Traversal → List String
  | relation _ _ _ parent related _ _ => [parent.nodeAlias, related.nodeAlias]
  | polymorphic _ _ related parent _ _ => [parent.nodeAlias, related]

end Traversal
end GraphQuery
