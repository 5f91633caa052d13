import GraphQuery.Query
import GraphQuery.Template

/-! Node and path patterns. -/
namespace GraphQuery

/-- Properties that a pattern gives, each with the expression of its value. -/
abbrev Properties := List (String × Template)

/-- Keys with their expressions, between braces. -/
def Properties.template (ps : Properties) : Template :=
  .text "\x7b" ::
    Template.joined ", " (ps.map fun p => .text (Identifier.quote p.1 ++ ": ") :: p.2) ++
      [.text "\x7d"]

/-- A pattern without properties shows no braces. -/
def Properties.suffix (ps : Properties) : Template :=
  if ps.isEmpty then [] else .text " " :: Properties.template ps

structure NodePattern where
  nodeAlias : String
  labels : List String := []
  properties : Properties := []

/-- A node that another pattern describes. -/
def NodePattern.bound (nodeAlias : String) : NodePattern := { nodeAlias := nodeAlias }

def NodePattern.template (n : NodePattern) : Template :=
  .text ("(" ++ n.nodeAlias ++ Identifier.labels n.labels) :: Properties.suffix n.properties ++
    [.text ")"]

inductive Relationship where
  | any
  | typed (edge type : String) (properties : Properties)

def Relationship.template : Relationship → Template
  | .any => []
  | .typed edge type properties =>
    .text ("[" ++ edge ++ ":" ++ Identifier.quote type) :: Properties.suffix properties ++
      [.text "]"]

inductive Pattern where
  | node (n : NodePattern)
  | path (left : NodePattern) (relationship : Relationship) (direction : Direction)
      (right : NodePattern)

def Direction.leftMark : Direction → String
  | .incoming => "<-"
  | _ => "-"

def Direction.rightMark : Direction → String
  | .outgoing => "->"
  | _ => "-"

namespace Pattern

def template : Pattern → Template
  | .node n => n.template
  | .path left relationship direction right =>
    left.template ++ .text direction.leftMark :: relationship.template ++
      .text direction.rightMark :: right.template

/-- The node patterns that it is made of. -/
def nodes : Pattern → List NodePattern
  | .node n => [n]
  | .path left _ _ right => [left, right]

end Pattern

def PathNode.pattern (n : PathNode) : NodePattern :=
  { nodeAlias := n.nodeAlias, labels := n.labels }

def Traversal.pattern : Traversal → Pattern
  | relation _ direction relationship parent related _ _ =>
    .path parent.pattern (.typed "" relationship []) direction related.pattern
  | polymorphic _ direction related parent _ _ =>
    .path parent.pattern .any direction (.bound related)

/-- Properties whose values are parameters. The names belong to the keys in order. -/
def parameterProperties (row : Row) (names : List ParameterName) : Properties :=
  List.zipWith
    (fun key (name : ParameterName) => (Identifier.lastSegment key, [.parameter name.render]))
    row.keys names

/-- Properties whose values are written out. -/
def literalProperties (row : Row) : Properties :=
  row.entries.map fun e => (e.1, [.text e.2.literal])

end GraphQuery
