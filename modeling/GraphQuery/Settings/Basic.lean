import GraphQuery.Identifier

/-! Naming conventions that query text is written with. -/
namespace GraphQuery

structure Settings where
  /-- The column that callers use for a node's identity. -/
  identityColumn : String := "id"
  /-- The function that reads a node's identity. -/
  identityFunction : String := "id"
  /-- The name under which an aggregate is returned. -/
  aggregateAlias : String := "aggregate"
  /-- The alias of a node whose labels give none. -/
  fallbackAlias : String := "n"
  /-- Ends the names of updated values, so that they do not meet the query's own. -/
  updateSuffix : String := "_update"
deriving DecidableEq

namespace Settings

def nodeAlias (s : Settings) (labels : List String) : String :=
  match labels with
  | [] => s.fallbackAlias
  | label :: _ =>
    let kept := Identifier.aliasOfLabel label
    if kept.isEmpty then s.fallbackAlias else kept

/-- Reads a node's identity, as in `id(user)`. -/
def accessor (s : Settings) (node : String) : String :=
  s.identityFunction ++ "(" ++ node ++ ")"

end Settings
end GraphQuery
