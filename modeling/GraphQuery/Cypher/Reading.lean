import GraphQuery.Cypher.Pattern
import GraphQuery.Cypher.Predicate

/-! The reading half of a statement: what is matched, carried on and asked for. -/
namespace GraphQuery.Query

/-- The target stands alone only when no traversal binds its alias. -/
def patterns (q : Query) (s : Settings) : List Pattern :=
  let target : NodePattern := { nodeAlias := q.targetAlias s, labels := q.label.toList }
  let paths := q.traversals.map Traversal.pattern
  if target.nodeAlias ∈ q.traversals.flatMap Traversal.aliases then paths
  else .node target :: paths

/-- The aliases that come with the query, the target's first, each once. -/
def scope (q : Query) (s : Settings) : List String :=
  (q.traversals.flatMap Traversal.aliases).foldl
    (fun seen node => if seen.contains node then seen else seen ++ [node]) [q.targetAlias s]

def carriedTemplate (q : Query) (s : Settings) : Template :=
  if q.carried.isEmpty then []
  else
    [.text (" WITH " ++ ", ".intercalate (q.scope s ++
      q.carried.entries.map fun e => e.2 ++ " AS " ++ Identifier.quote e.1))]

/-- WITH stands before WHERE, so that predicates can use what it carries. -/
def reading (q : Query) (s : Settings) : Template :=
  let predicate := q.predicate s
  .text "MATCH " :: Template.joined ", " ((q.patterns s).map Pattern.template) ++
    q.carriedTemplate s ++
    if predicate.isEmpty then [] else .text " WHERE " :: predicate.flatMap Token.template

end GraphQuery.Query
