import GraphQuery.Session.Writing

/-! Conditions. A callback is an action on a query inside the current one. -/
namespace GraphQuery

/-- What a condition is about: a column, equalities on several columns, or a group. -/
inductive Subject (κ : Type) where
  | column (name : String)
  | equalities (mapping : Row)
  | group (body : κ)

/-- What a column is compared with: a value, text that is never bound, or a sub-query. -/
inductive Operand (κ : Type) where
  | value (v : Value)
  | raw (expression : String)
  | query (body : κ)

/-- What a column is a member of: listed values, or the rows of a sub-query. -/
inductive Members (κ : Type) where
  | listed (values : List Value)
  | query (body : κ)

def Operand.isNull {κ : Type} : Operand κ → Bool
  | .value v => v.isNull
  | _ => false

namespace Action

/-- Null goes with an equality only. Text that is no operator is let through here. -/
def checkOperator {κ : Type} (operator : String) (operand : Operand κ) : Action Unit :=
  if operand.isNull && Operator.isKnown operator && !Operator.isEquality operator then
    throw (.operatorBesideNull operator)
  else pure ()

/-- Puts in parentheses what `body` asks for. -/
def filterGroup (body : Action Unit) (connective : Connective) : Action Unit := do
  let group ← inSubQuery (within (← query).groupChild body)
  if group.conditions.isEmpty then pure ()
  else
    report (Notice.ofAdded .filter (Row.toValue (group.buckets.slot .filter).entries))
    modifyQuery (·.filterGroup group connective)

/-- Writes a sub-query on a query of its own, takes over its values and gives its text. -/
def subQueryText (d : Dialect) (body : Action Unit) : Action String := do
  let sub ← inSubQuery (within (← query).child body)
  let text ← inSubQuery (write d sub)
  report (Notice.ofAdded .filter (Row.toValue sub.parameters))
  modifyQuery (·.adopt sub)
  return text

/-- Compares a column with the one value that a sub-query returns. -/
def filterQuery (d : Dialect) (column operator : String) (body : Action Unit)
    (connective : Connective) : Action Unit := do
  let text ← subQueryText d body
  modifyQuery (·.push (.queryComparison column operator text connective))

def filterNull (column : String) (connective : Connective) (negated : Bool) : Action Unit :=
  modifyQuery (·.filterNull column connective negated)

/-- Compares with a value that is not null. -/
def filterBound (column operator : String) (value : Value) (connective : Connective) :
    Action Unit := do
  let name := (← query).nextName column
  report [.comparedBound column operator name, .bound .filter name]
  modifyQuery (·.filterBound column operator value connective)

def filterRaw (column operator expression : String) (connective : Connective) : Action Unit := do
  report [.comparedRaw column operator expression]
  modifyQuery (·.filterRaw column operator expression connective)

/-- A comparison whose operator is known. Null becomes a null test. -/
def filterKnown (d : Dialect) (column operator : String) (operand : Operand (Action Unit))
    (connective : Connective) : Action Unit :=
  match operand with
  | .query body => filterQuery d column operator body connective
  | .raw expression => filterRaw column operator expression connective
  | .value v =>
    if v.isNull then filterNull column connective (operator ≠ "=")
    else filterBound column operator v connective

/-- No operator means equality, and text that is no operator is taken for the value of one. -/
def filterColumn (d : Dialect) (column : String) (operator : Option String)
    (operand : Operand (Action Unit)) (connective : Connective) : Action Unit :=
  match operator with
  | none => filterKnown d column "=" operand connective
  | some operator => do
    checkOperator operator operand
    if Operator.isKnown operator then filterKnown d column operator operand connective
    else
      report [.unknownOperator column operator]
      filterKnown d column "=" (.value (.string operator)) connective

/-- The equalities of a mapping, in order. -/
def filterEach (d : Dialect) : List (String × Value) → Action Unit
  | [] => pure ()
  | (column, v) :: rest => do
    filterColumn d column (some "=") (.value v) .and
    filterEach d rest

/-- The general condition. An operator beside a group is checked, but not used. -/
def filter (d : Dialect) (subject : Subject (Action Unit)) (operator : Option String)
    (operand : Operand (Action Unit)) (connective : Connective) : Action Unit :=
  match subject with
  | .column name => filterColumn d name operator operand connective
  | .equalities mapping => filterGroup (filterEach d mapping.entries) connective
  | .group body => do
    match operator with
    | some operator => checkOperator operator operand
    | none => pure ()
    filterGroup body connective

def filterIn (d : Dialect) (column : String) (members : Members (Action Unit))
    (connective : Connective) (negated : Bool) : Action Unit :=
  match members with
  | .listed values => do
    report [.bound .filter ((← query).nextName column)]
    modifyQuery (·.filterIn column values connective negated)
  | .query body => do
    let text ← subQueryText d body
    modifyQuery (·.push (.inQuery column text connective negated))

def filterBetween (d : Dialect) (column : String) (low high : Value) (connective : Connective)
    (negated : Bool) : Action Unit := do
  report [.bound .filter ((← query).nextName column)]
  modifyQuery (·.filterBetween d.settings column low high connective negated)

def filterCarried (column operator identifier : String) (connective : Connective) : Action Unit :=
  modifyQuery (·.filterCarried column operator identifier connective)

/-- Appends conditions made elsewhere, with their values. -/
def append (conditions : List Condition) (values : Parameters) : Action Unit := do
  report (Notice.ofAdded .filter (Row.toValue values))
  modifyQuery (·.append conditions values)

/-- Writes conditions on an unrelated query, then appends them. -/
def appendQuery (body : Action Unit) : Action Unit := do
  let q ← within {} body
  append q.conditions q.parameters

/-- Adds a value to the bucket of that name. -/
def addValue (value : Value) (bucket : String) : Action Unit := do
  let bucket ← ofExcept (Bucket.ofName bucket)
  report (Notice.ofAdded bucket value)
  modifyQuery fun q => { q with buckets := q.buckets.add value bucket }

end Action
end GraphQuery
