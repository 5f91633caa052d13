import GraphQuery.Decimal.Numeral
import GraphQuery.Text.Lower

/-! What a query returns in place of columns, and in which order. -/
namespace GraphQuery

/-- How an aggregate function is spelled, and what it does to its arguments. -/
structure AggregateFunction where
  spelling : String
  distinct : Bool := false
  takesPercentile : Bool := false

namespace AggregateFunction

def table : List (String × AggregateFunction) :=
  [("count", { spelling := "count" }),
    ("sum", { spelling := "sum" }),
    ("avg", { spelling := "avg" }),
    ("min", { spelling := "min" }),
    ("max", { spelling := "max" }),
    ("collect", { spelling := "collect" }),
    ("stdev", { spelling := "stDev" }),
    ("stdevp", { spelling := "stDevP" }),
    ("countdistinct", { spelling := "count", distinct := true }),
    ("percentiledisc", { spelling := "percentileDisc", takesPercentile := true }),
    ("percentilecont", { spelling := "percentileCont", takesPercentile := true })]

/-- Letter case does not matter. -/
def find? (name : String) : Option AggregateFunction := table.lookup (Text.lower name)

end AggregateFunction

/-- A function over columns in place of a projection. -/
structure AggregateRequest where
  label : Option String
  function : String
  columns : List String
  percentile : Option Decimal.Binary64
deriving DecidableEq

inductive SortDirection where
  | ascending
  | descending
deriving DecidableEq

/-- Ascending, unless the word is `desc` in any letter case. -/
def SortDirection.ofText (s : String) : SortDirection :=
  if s.toList.map Char.toLower = "desc".toList then .descending else .ascending

structure SortKey where
  column : String
  direction : SortDirection
deriving DecidableEq

end GraphQuery
