import GraphQuery.Text.Upper

/-! The operators of predicates. -/
namespace GraphQuery.Operator

def known : List String :=
  ["+", "-", "*", "/", "%", "^", "=", "<>", "!=", "<", ">", "<=", ">=", "is null", "is not null",
    "and", "or", "xor", "not", "in", "=~"]

/-- Letter case does not matter; anything that is not known is taken for a value. -/
def isKnown (operator : String) : Bool := known.contains (Text.lower operator)

/-- The operators that may stand beside null, where they become null tests. -/
def isEquality (operator : String) : Bool :=
  operator = "=" || operator = "<>" || operator = "!="

/-- Word operators are written upper-case, and there is one spelling of inequality. -/
def render (operator : String) : String :=
  if operator = "!=" then "<>"
  else if operator.toList.any Char.isAlpha then Text.upper operator
  else operator

end GraphQuery.Operator
