import GraphQuery.Yaml.Escape
import GraphQuery.Yaml.Token

/-! Tags, anchors and directives. -/
namespace GraphQuery.Yaml
open Reader

/-- The characters of a tag. Its full form also takes some marks of flow style. -/
def isTagChar (full : Bool) (c : Char) : Bool :=
  isWord c || (";/?:@&=+$.%!~*\x27()".toList.contains c) || (full && [',', '[', ']'].contains c)

/-- Moves over the characters of a tag, which are counted. Each step takes one at least, so the
length is enough fuel. -/
def tagChars (full : Bool) : Nat → Reader Nat
  | 0 => failure
  | fuel + 1 => do
    match (← peek).filter (isTagChar full) with
    | none => return 0
    | some c =>
      if c = '%' then skipOctets else skip 1
      return (← tagChars full fuel) + 1

def tagLength (full : Bool) : Reader Nat := do tagChars full ((← get).rest.length + 1)

/-- An exclamation mark, a name, and the mark that closes a handle, if it is there. -/
def tagHandle : Reader (List Char) := do
  expect '!'
  let name ← takeWhile isWord
  return '!' :: name ++ (if ← accept '!' then ['!'] else [])

/-- Reads a tag. Its handle is empty if no directive can change what the tag means. -/
def tag (flow : Bool) : Reader String := do
  let handle ←
    if ((← get).rest.drop 1).head? = some '<' then
      skip 2
      require ((← tagLength true) ≠ 0)
      expect '>'
      pure ""
    else
      let handle ← tagHandle
      let length ← tagLength false
      if handle ≠ ['!'] && handle.getLast? = some '!' then
        require (length ≠ 0)
        pure (String.ofList handle)
      else pure ""
  require (atBoundary (← get).rest || (flow && (← peek) = some ','))
  return handle

/-- The name of an anchor, behind its mark. -/
def anchorName : Reader String := do
  skip 1
  let name ← takeWhile isWord
  let rest := (← get).rest
  require (!name.isEmpty && (atBoundary rest || rest.head?.any "?:,]\x7d%@`".toList.contains))
  return String.ofList name

/-- A number of at most nine digits. -/
def versionNumber : Reader Nat := do
  let digits ← takeWhile Char.isDigit
  require (digits.length ≤ 9)
  (String.ofList digits).toNat?

def directive : Reader Token := do
  skip 1
  let name ← takeWhile isWord
  require (atBoundary (← get).rest)
  skipWhile isBlank
  let token ←
    match String.ofList name with
    | "YAML" => do
      let major ← versionNumber
      expect '.'
      pure (.version major (← versionNumber))
    | "TAG" => do
      let handle ← tagHandle
      require (handle.getLast? = some '!' && (← peek).any isBlank)
      skipWhile isBlank
      require ((← tagLength true) ≠ 0 && atBoundary (← get).rest)
      pure (.handle (String.ofList handle))
    | _ => failure
  finishLine
  return token

end GraphQuery.Yaml
