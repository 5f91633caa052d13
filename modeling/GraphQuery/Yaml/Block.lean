import GraphQuery.Yaml.Cursor

/-! Block scalars, whose text is a run of indented lines. -/
namespace GraphQuery.Yaml
open Reader

/-- What becomes of the breaks at the end. -/
inductive Chomping where
  | strip
  | clip
  | keep

def chomping? : Reader (Option Chomping) := do
  if ← accept '+' then return some .keep
  else if ← accept '-' then return some .strip
  else return none

/-- An indentation that is given as a digit. -/
def indentation? : Reader (Option Nat) := do
  match (← peek).filter Char.isDigit with
  | some c =>
    require (c ≠ '0')
    skip 1
    return some (c.toNat - 48)
  | none => return none

/-- The two marks behind the indicator, in either order. -/
def blockHeader : Reader (Chomping × Option Nat) := do
  match ← chomping? with
  | some chomping => return (chomping, ← indentation?)
  | none =>
    match ← indentation? with
    | some n => return ((← chomping?).getD .clip, some n)
    | none => return (.clip, none)

/-- Reads lines without text: their breaks, and the deepest column. Spaces count as text from the
indentation on, if that is known. -/
def emptyLines (indent : Option Nat) : Nat → Reader (List Char × Nat)
  | 0 => failure
  | fuel + 1 => do
    let c ← get
    let spaces := (c.rest.takeWhile (· = ' ')).length
    skip (indent.elim spaces fun n => min spaces (n - c.column))
    let c ← get
    match c.rest with
    | [] => return ([], c.column)
    | d :: _ =>
      require (d ≠ '\t' || indent.any (· ≤ c.column))
      if isBreak d then
        skip 1
        let (breaks, deepest) ← emptyLines indent fuel
        return (d :: breaks, max c.column deepest)
      else return ([], c.column)

/-- A line of text, the break that ends it, if any, and the breaks of the empty lines below it. -/
structure BlockLine where
  text : List Char
  ending : List Char
  empties : List Char

def BlockLine.startsBlank (l : BlockLine) : Bool := l.text.head?.any isBlank

def blockLines (indent : Nat) : Nat → Reader (List BlockLine)
  | 0 => failure
  | fuel + 1 => do
    let c ← get
    if c.column = indent && !c.rest.isEmpty then
      let text ← takeWhile (!isBreak ·)
      let ending := (← peek).toList
      skip 1
      let (empties, _) ← emptyLines (some indent) fuel
      return ⟨text, ending, empties⟩ :: (← blockLines indent fuel)
    else return []

/-- The breaks between two lines. Where text folds, lines that start with a blank keep theirs. -/
def joint (folds : Bool) (a b : BlockLine) : List Char :=
  if folds && a.ending = ['\n'] && !a.startsBlank && !b.startsBlank then
    if a.empties.isEmpty then [' '] else a.empties
  else a.ending ++ a.empties

def Chomping.apply (chomping : Chomping) (ending empties : List Char) : List Char :=
  match chomping with
  | .strip => []
  | .clip => ending
  | .keep => ending ++ empties

def joinLines (folds : Bool) (chomping : Chomping) : List BlockLine → List Char
  | [] => []
  | [l] => l.text ++ chomping.apply l.ending l.empties
  | a :: b :: lines => a.text ++ joint folds a b ++ joinLines folds chomping (b :: lines)

/-- A scalar stands deeper than the block around it, whose columns start below `depth`. Without an
indentation in the header, the deepest of the first lines gives it. -/
def blockScalar (folds : Bool) (depth : Nat) : Reader String := do
  skip 1
  let (chomping, given) ← blockHeader
  finishLine
  let fuel := (← get).rest.length + 1
  let (empties, deepest) ← emptyLines (given.map (depth - 1 + ·)) fuel
  let indent := given.elim (max deepest (max depth 1)) (depth - 1 + ·)
  let lines ← blockLines indent fuel
  return String.ofList <|
    if lines.isEmpty then chomping.apply [] empties else empties ++ joinLines folds chomping lines

end GraphQuery.Yaml
