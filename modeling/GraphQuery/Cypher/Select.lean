import GraphQuery.Cypher.Aggregate
import GraphQuery.Cypher.Reading

/-! Queries as select statements. -/
namespace GraphQuery

def SortDirection.keyword : SortDirection → String
  | .ascending => "ASC"
  | .descending => "DESC"

namespace Query

def projection (q : Query) (s : Settings) : String :=
  match q.aggregate with
  | some request => request.projection s (q.targetAlias s)
  | none => s.projection (q.targetAlias s) q.columns

def ordering (q : Query) (s : Settings) : String :=
  if q.sorting.isEmpty then ""
  else " ORDER BY " ++ ", ".intercalate
    (q.sorting.map fun k => s.column (q.targetAlias s) k.column ++ " " ++ k.direction.keyword)

def paging (q : Query) : String :=
  (match q.offset with
    | some n => " SKIP " ++ n.repr
    | none => "") ++
  match q.limit with
  | some n => " LIMIT " ++ n.repr
  | none => ""

def select (q : Query) (s : Settings) : Template :=
  q.reading s ++ [.text (" RETURN " ++ q.projection s ++ q.ordering s ++ q.paging)]

end Query
end GraphQuery
