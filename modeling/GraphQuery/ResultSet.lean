import GraphQuery.Record

/-! Result rows with a cursor. -/
namespace GraphQuery

/-- Rows in result order. The cursor stands on a row or behind the last one. -/
structure ResultSet where
  rows : List Row
  position : Nat
deriving DecidableEq

namespace ResultSet

def ofRows (rows : List Row) : ResultSet := ⟨rows, 0⟩

def empty : ResultSet := ofRows []

/-- The row under the cursor. -/
def current? (rs : ResultSet) : Option Row := rs.rows[rs.position]?

def get? (rs : ResultSet) (index : Nat) : Option Row := rs.rows[index]?

def isValid (rs : ResultSet) : Bool := rs.position < rs.rows.length

/-- The cursor stops behind the last row. -/
def advance (rs : ResultSet) : ResultSet :=
  if rs.isValid then { rs with position := rs.position + 1 } else rs

def rewind (rs : ResultSet) : ResultSet := { rs with position := 0 }

/-- Whether the cursor stands where that of a new set does. -/
def isFresh (rs : ResultSet) : Bool := rs = ofRows rs.rows

def isEmpty (rs : ResultSet) : Bool := rs.rows.isEmpty

/-- The value of the current row's column of that name in any letter case, or else its first
value. -/
def aggregateValue? (rs : ResultSet) (name : String) : Option Value := do
  let row ← rs.current?
  let same (key : String) := key.toList.map Char.toLower = name.toList.map Char.toLower
  let entry ← (row.entries.find? fun e => same e.1).or row.entries.head?
  return entry.2

/-- One column of every row; a row without it gives null. -/
def pluck (rs : ResultSet) (name : String) : List Value :=
  rs.rows.map fun row => (row.get? name).getD .null

/-- The text of a key: a string itself, any other value as JSON, nothing as the empty text. -/
def keyText : Option Value → String
  | some (.string s) => s
  | some v => v.json
  | none => ""

/-- One column keyed by another. -/
def pluckKeyed (rs : ResultSet) (name key : String) : Row :=
  .ofList (rs.rows.map fun row => (keyText (row.get? key), (row.get? name).getD .null))

end ResultSet
end GraphQuery
