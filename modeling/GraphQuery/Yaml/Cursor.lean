import GraphQuery.Yaml.Line

/-! A place in a YAML text, and readers that move it. -/
namespace GraphQuery.Yaml

/-- What is left of a text, with the line and the column reached. -/
structure Cursor where
  rest : List Char
  line : Nat
  column : Nat

namespace Cursor

def next (c : Cursor) : Cursor :=
  match c.rest with
  | [] => c
  | d :: rest => if isBreak d then ⟨rest, c.line + 1, 0⟩ else ⟨rest, c.line, c.column + 1⟩

def drop : Nat → Cursor → Cursor
  | 0, c => c
  | n + 1, c => drop n c.next

/-- The marks between documents stand at the start of a line. -/
def atMarker (c : Cursor) : Bool :=
  c.column = 0 && (isMarker '-' c.rest || isMarker '.' c.rest)

end Cursor

/-- Reads from a place on, or refuses the text. -/
abbrev Reader := StateT Cursor Option

namespace Reader

def skip (n : Nat) : Reader Unit := modify (Cursor.drop n)

def peek : Reader (Option Char) := return (← get).rest.head?

def takeWhile (p : Char → Bool) : Reader (List Char) := do
  let taken := (← get).rest.takeWhile p
  skip taken.length
  return taken

def skipWhile (p : Char → Bool) : Reader Unit := do
  let _ ← takeWhile p

/-- Moves over a character, if it is the next one. -/
def accept (c : Char) : Reader Bool := do
  if (← peek) = some c then
    skip 1
    return true
  else return false

def require (condition : Bool) : Reader Unit := if condition then pure () else failure

def expect (c : Char) : Reader Unit := do require (← accept c)

def skipComment : Reader Unit := do
  if (← peek) = some '#' then skipWhile (!isBreak ·)

/-- Nothing but blanks and a comment may follow on the line. -/
def finishLine : Reader Unit := do
  skipWhile isBlank
  skipComment
  require ((← peek).all isBreak)
  skip 1

end Reader

end GraphQuery.Yaml
