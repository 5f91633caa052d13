import GraphQuery.Cypher.Mutation
import GraphQuery.Cypher.Select

/-! The conventions a query is compiled with. -/
namespace GraphQuery

/-- Naming conventions, and a label that cannot be read. -/
structure Dialect where
  settings : Settings := {}
  /-- A label from which nothing is selected. -/
  refused : Option String := none

namespace Dialect

def refuses (d : Dialect) (q : Query) : Bool := d.refused.isSome && d.refused = q.label

def select (d : Dialect) (q : Query) : Except CompileError Template :=
  if d.refuses q then .error (.unsupported "refused") else .ok (q.select d.settings)

end Dialect
end GraphQuery
