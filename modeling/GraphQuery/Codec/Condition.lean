import GraphQuery.Codec.Parts
import GraphQuery.Condition

/-! The encoded forms of conditions and of what they are made of. -/
namespace GraphQuery

def ParameterName.encode (n : ParameterName) : Value :=
  .object [("base", .string n.base), ("occurrence", .nat n.occurrence)]

def ParameterName.decode? (v : Value) : Option ParameterName := do
  let p ← v.parts?
  p.fits 2
  let base ← p.required "base" 0 Value.string?
  let occurrence ← p.required "occurrence" 1 Value.natural?
  return ⟨base, occurrence⟩

def Connective.encode : Connective → Value
  | .and => .string "and"
  | .or => .string "or"

def Connective.ofWord? : String → Option Connective
  | "and" => some .and
  | "or" => some .or
  | _ => none

def Connective.read? (word? : Value → Option String) (v : Value) : Option Connective :=
  (word? v).bind ofWord?

def Connective.decode? (v : Value) : Option Connective := read? Value.word? v

namespace Comparand

def encode : Comparand → Value
  | .bound v => .object [("kind", .string "bound"), ("value", v)]
  | .raw s => .object [("kind", .string "raw"), ("value", .string s)]

def read? (word? : Value → Option String) (v : Value) : Option Comparand := do
  let p ← v.parts?
  p.fits 2
  let kind ← p.required "kind" 0 word?
  let value ← p.find? "value" 1
  match kind with
  | "bound" => return .bound value
  | "raw" => return .raw (← value.string?)
  | _ => none

def decode? (v : Value) : Option Comparand := read? Value.word? v

end Comparand

namespace Condition

mutual

def encode : Condition → Value
  | .comparison column operator comparand connective name =>
    Value.tagged "Basic" [("column", .string column), ("operator", .string operator),
      ("value", comparand.encode), ("boolean", connective.encode), ("binding", name.encode)]
  | .isIn column values connective name =>
    Value.tagged "In" [("column", .string column), ("values", .array values),
      ("boolean", connective.encode), ("binding", name.encode)]
  | .notIn column values connective name =>
    Value.tagged "NotIn" [("column", .string column), ("values", .array values),
      ("boolean", connective.encode), ("binding", name.encode)]
  | .inQuery column query connective negated =>
    Value.tagged "InSub" [("column", .string column), ("query", .string query),
      ("boolean", connective.encode), ("negated", .bool negated)]
  | .between column connective negated name =>
    Value.tagged "Between" [("column", .string column), ("boolean", connective.encode),
      ("negated", .bool negated), ("binding", name.encode)]
  | .isNull column connective name =>
    Value.tagged "Null" [("column", .string column), ("boolean", connective.encode),
      ("binding", name.encode)]
  | .notNull column connective name =>
    Value.tagged "NotNull" [("column", .string column), ("boolean", connective.encode),
      ("binding", name.encode)]
  | .carried column operator identifier connective =>
    Value.tagged "Carried" [("column", .string column), ("operator", .string operator),
      ("value", .string identifier), ("boolean", connective.encode)]
  | .group conditions connective =>
    Value.tagged "Nested" [("clauses", .array (encodeAll conditions)),
      ("boolean", connective.encode)]
  | .queryComparison column operator query connective =>
    Value.tagged "Sub" [("column", .string column), ("operator", .string operator),
      ("query", .string query), ("boolean", connective.encode)]

def encodeAll : List Condition → List Value
  | [] => []
  | c :: rest => c.encode :: encodeAll rest

end

/-- A part of an encoded condition, with its reading as a list of conditions. -/
abbrev ReadPart := Value × Option (List Condition)

/-- The variants in order. -/
def types : List String :=
  ["Basic", "In", "NotIn", "InSub", "Between", "Null", "NotNull", "Carried", "Nested", "Sub"]

/-- The variant of a condition, which inside a group may also be given by its place. -/
def type? (inner : Bool) : Value → Option String
  | .string type => some type
  | v => if inner then v.natural?.bind (types[·]?) else none

/-- Reads a condition whose parts have been read. -/
def ofParts? (inner : Bool) (p : Parts ReadPart) : Option Condition := do
  let (type, p) ← p.tagged? "type" (type? inner ·.1)
  let text (field : String) (index : Nat) := p.required field index (·.1.string?)
  let flag (field : String) (index : Nat) := p.required field index (·.1.bool?)
  let connective (index : Nat) := p.required "boolean" index (Connective.read? Value.innerWord? ·.1)
  let name (index : Nat) := p.required "binding" index (ParameterName.decode? ·.1)
  let values (index : Nat) := p.required "values" index (·.1.array?)
  match type with
  | "Basic" =>
    p.fits 5
    return .comparison (← text "column" 0) (← text "operator" 1)
      (← p.required "value" 2 (Comparand.read? Value.innerWord? ·.1)) (← connective 3) (← name 4)
  | "In" =>
    p.fits 4
    return .isIn (← text "column" 0) (← values 1) (← connective 2) (← name 3)
  | "NotIn" =>
    p.fits 4
    return .notIn (← text "column" 0) (← values 1) (← connective 2) (← name 3)
  | "InSub" =>
    p.fits 4
    return .inQuery (← text "column" 0) (← text "query" 1) (← connective 2) (← flag "negated" 3)
  | "Between" =>
    p.fits 4
    return .between (← text "column" 0) (← connective 1) (← flag "negated" 2) (← name 3)
  | "Null" =>
    p.fits 3
    return .isNull (← text "column" 0) (← connective 1) (← name 2)
  | "NotNull" =>
    p.fits 3
    return .notNull (← text "column" 0) (← connective 1) (← name 2)
  | "Carried" =>
    p.fits 4
    return .carried (← text "column" 0) (← text "operator" 1) (← text "value" 2) (← connective 3)
  | "Nested" =>
    p.fits 2
    return .group (← p.required "clauses" 0 (·.2)) (← connective 1)
  | "Sub" =>
    p.fits 4
    return .queryComparison (← text "column" 0) (← text "operator" 1) (← text "query" 2)
      (← connective 3)
  | _ => none

mutual

def read? (inner : Bool) : Value → Option Condition
  | .object fields => ofParts? inner (.named (readFields fields))
  | .array items => ofParts? inner (.ordered (readItems items))
  | _ => none

/-- Reads a value as the conditions of a group. -/
def readGroup? : Value → Option (List Condition)
  | .array items => readAll? true items
  | _ => none

def readAll? (inner : Bool) : List Value → Option (List Condition)
  | [] => some []
  | v :: rest =>
    match read? inner v, readAll? inner rest with
    | some c, some cs => some (c :: cs)
    | _, _ => none

def readFields : List (String × Value) → List (String × ReadPart)
  | [] => []
  | (k, v) :: rest => (k, v, readGroup? v) :: readFields rest

def readItems : List Value → List ReadPart
  | [] => []
  | v :: rest => (v, readGroup? v) :: readItems rest

end

def decode? (v : Value) : Option Condition := read? false v

/-- Reads a value as a list of conditions. -/
def decodeList? : Value → Option (List Condition)
  | .array items => readAll? false items
  | _ => none

end Condition
end GraphQuery
