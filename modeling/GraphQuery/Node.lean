import GraphQuery.Record
import GraphQuery.Settings.Basic
import GraphQuery.Traversal

/-! Stored nodes, and nodes created together with the nodes they relate to. -/
namespace GraphQuery

/-- A node by its labels, with an alias to call it by and the identity it is stored under. -/
structure Node where
  labels : List String
  ownAlias : Option String
  key : Option Value
deriving DecidableEq

/-- The node's own alias, or the one its labels give. -/
def Node.aliasIn (n : Node) (s : Settings) : String := n.ownAlias.getD (s.nodeAlias n.labels)

/-- Nodes attached to a new node over one relationship. -/
structure RelatedNodes where
  relationship : String
  labels : List String
  direction : Direction
  records : List Row
deriving DecidableEq

structure NewNode where
  model : Row
  related : List RelatedNodes
deriving DecidableEq

end GraphQuery
