import GraphQuery.Value.Basic

/-! Structures as values: written as an object with a field for each part, and read from an object
by field name or from an array in field order. -/
namespace GraphQuery

namespace Value

def ofStrings (ss : List String) : Value := .array (ss.map .string)

/-- What is not there is null. -/
def ofOption (v : Option Value) : Value := v.getD .null

/-- A variant says first which one it is. -/
def tagged (type : String) (fields : List (String × Value)) : Value :=
  .object (("type", .string type) :: fields)

end Value

/-- The parts of an encoded structure. -/
inductive Parts (α : Type) where
  | named (fields : List (String × α))
  | ordered (items : List α)

def Value.parts? : Value → Option (Parts Value)
  | .object fields => some (.named fields)
  | .array items => some (.ordered items)
  | _ => none

namespace Parts

variable {α β : Type}

def find? (p : Parts α) (name : String) (index : Nat) : Option α :=
  match p with
  | .named fields => fields.lookup name
  | .ordered items => items[index]?

/-- An array may not hold more than the fields; an object may. -/
def fits (p : Parts α) (count : Nat) : Option Unit :=
  match p with
  | .named _ => some ()
  | .ordered items => if items.length ≤ count then some () else none

def required (p : Parts α) (name : String) (index : Nat) (read : α → Option β) : Option β :=
  (p.find? name index).bind read

/-- A field with a default may be missing, but not unreadable. -/
def withDefault (p : Parts α) (name : String) (index : Nat) (read : α → Option β) (default : β) :
    Option β :=
  match p.find? name index with
  | some v => read v
  | none => some default

/-- An optional field may be null; only an object may leave it out. -/
def optional (p : Parts Value) (name : String) (index : Nat) (read : Value → Option β) :
    Option (Option β) :=
  match p.find? name index, p with
  | some .null, _ => some none
  | some v, _ => (read v).map some
  | none, .named _ => some none
  | none, .ordered _ => none

/-- Takes the tag off: the field `name` of an object, the first item of an array. -/
def tagged? (p : Parts α) (name : String) (read : α → Option String) :
    Option (String × Parts α) :=
  match p with
  | .named fields => ((fields.lookup name).bind read).map (·, .named fields)
  | .ordered [] => none
  | .ordered (t :: rest) => (read t).map (·, .ordered rest)

end Parts

/-- A word that stands for a constant: a string, or an object that maps it to null. -/
def Value.word? : Value → Option String
  | .string s => some s
  | .object [(s, .null)] => some s
  | _ => none

/-- Inside a variant with a tag, an empty object may stand for null. -/
def Value.innerWord? : Value → Option String
  | .object [(s, .object [])] => some s
  | v => v.word?

end GraphQuery
