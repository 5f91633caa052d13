import GraphQuery.Parameter.Name
import GraphQuery.Value.Basic

/-! What a query asks of its nodes, as data. -/
namespace GraphQuery

/-- How a condition is joined to those before it. -/
inductive Connective where
  | and
  | or
deriving DecidableEq

/-- The right side of a comparison: a bound value, or text that is never bound. -/
inductive Comparand where
  | bound (value : Value)
  | raw (expression : String)
deriving DecidableEq

/-- A condition that takes a parameter name keeps it. -/
inductive Condition where
  | comparison (column operator : String) (comparand : Comparand) (connective : Connective)
      (name : ParameterName)
  | isIn (column : String) (values : List Value) (connective : Connective) (name : ParameterName)
  | notIn (column : String) (values : List Value) (connective : Connective) (name : ParameterName)
  | inQuery (column query : String) (connective : Connective) (negated : Bool)
  | between (column : String) (connective : Connective) (negated : Bool) (name : ParameterName)
  | isNull (column : String) (connective : Connective) (name : ParameterName)
  | notNull (column : String) (connective : Connective) (name : ParameterName)
  | carried (column operator identifier : String) (connective : Connective)
  | group (conditions : List Condition) (connective : Connective)
  | queryComparison (column operator query : String) (connective : Connective)

namespace Condition

def connective : Condition → Connective
  | comparison _ _ _ c _ | isIn _ _ c _ | notIn _ _ c _ | inQuery _ _ c _ | between _ c _ _
  | isNull _ c _ | notNull _ c _ | carried _ _ _ c | group _ c | queryComparison _ _ _ c => c

/-- The name that the condition itself takes. -/
def name? : Condition → Option ParameterName
  | comparison _ _ _ _ n | isIn _ _ _ n | notIn _ _ _ n | between _ _ _ n | isNull _ _ n
  | notNull _ _ n => some n
  | inQuery .. | carried .. | group .. | queryComparison .. => none

mutual

/-- The names of the condition and of everything grouped in it, in order. -/
def names : Condition → List ParameterName
  | group conditions _ => namesOf conditions
  | condition => condition.name?.toList

def namesOf : List Condition → List ParameterName
  | [] => []
  | c :: rest => c.names ++ namesOf rest

end

end Condition
end GraphQuery
