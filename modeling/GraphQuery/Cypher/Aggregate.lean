import GraphQuery.Cypher.Column
import GraphQuery.Projection

/-! Aggregate requests as projections. -/
namespace GraphQuery

namespace AggregateRequest

/-- Without columns the node itself is the argument; a percentile is a half unless given. -/
def arguments (r : AggregateRequest) (s : Settings) (target : String) : String :=
  let columns := if r.columns.isEmpty then target
    else ", ".intercalate (r.columns.map (s.column target))
  match AggregateFunction.find? r.function with
  | none => columns
  | some f =>
    let columns := if f.distinct then "DISTINCT " ++ columns else columns
    if f.takesPercentile then
      columns ++ ", " ++ match r.percentile with
        | some p => p.argument
        | none => "0.5"
    else columns

/-- A function that is not in the table is written as it was named. -/
def projection (r : AggregateRequest) (s : Settings) (target : String) : String :=
  let function := match AggregateFunction.find? r.function with
    | some f => f.spelling
    | none => r.function
  function ++ "(" ++ r.arguments s target ++ ") AS " ++ Identifier.quote s.aggregateAlias

end AggregateRequest
end GraphQuery
