import GraphQuery.Yaml.Token

/-! The nodes of a YAML document, read from its tokens. -/
namespace GraphQuery.Yaml

/-- A scalar keeps its text, whatever it would be read as. Anchors are numbered. -/
inductive Node where
  | reference (number : Nat)
  | scalar (anchor : Option Nat) (isPlain : Bool) (text : String)
  | sequence (anchor : Option Nat) (items : List Node)
  | mapping (anchor : Option Nat) (entries : List (Node × Node))

namespace Node

def empty : Node := .scalar none true ""

def text? : Node → Option String
  | .scalar _ _ text => some text
  | _ => none

mutual

/-- The nodes with an anchor, each before those inside it. -/
def anchored : Node → List (Nat × Node)
  | .reference _ => []
  | .scalar anchor isPlain text => (anchor.map (·, .scalar anchor isPlain text)).toList
  | .sequence anchor items =>
    (anchor.map (·, .sequence anchor items)).toList ++ anchoredItems items
  | .mapping anchor entries =>
    (anchor.map (·, .mapping anchor entries)).toList ++ anchoredEntries entries

def anchoredItems : List Node → List (Nat × Node)
  | [] => []
  | n :: items => n.anchored ++ anchoredItems items

def anchoredEntries : List (Node × Node) → List (Nat × Node)
  | [] => []
  | (k, v) :: entries => k.anchored ++ v.anchored ++ anchoredEntries entries

end

/-- What a node of the document `root` stands for. Of two nodes with one number the last counts. -/
def resolve (root : Node) : Node → Option Node
  | .reference number => root.anchored.reverse.lookup number
  | n => some n

end Node

/-- The tokens that are left, the names of anchors with their numbers, latest first, and the handles
that tags may use. -/
structure Building where
  rest : List Token
  names : List (String × Nat)
  handles : List String

abbrev Builder := StateT Building Option

namespace Builder

def peek : Builder (Option Token) := return (← get).rest.head?

def skip : Builder Unit := modify fun s => { s with rest := s.rest.drop 1 }

/-- Moves over a token, if it is the next one. -/
def accept (t : Token) : Builder Bool := do
  if (← peek) = some t then
    skip
    return true
  else return false

def expect (t : Token) : Builder Unit := do if !(← accept t) then failure

def nextIn (ts : List Token) : Builder Bool := return (← peek).any ts.contains

/-- An anchor takes as its number how many names there were before it. A name that comes again
counts once, so its new number may be met a second time. -/
def number (name : String) : Builder Nat := do
  let n := ((← get).names.map (·.1)).eraseDups.length
  modify fun s => { s with names := (name, n) :: s.names }
  return n

def anchor? : Builder (Option String) := do
  match ← peek with
  | some (.anchor name) =>
    skip
    return some name
  | _ => return none

/-- Whether there is a tag, whose handle must be known. -/
def acceptTag : Builder Bool := do
  match ← peek with
  | some (.tag handle) =>
    if !((← get).handles.contains handle) then failure
    skip
    return true
  | _ => return false

/-- An anchor and a tag, in either order, and whether there was any of them. -/
def properties : Builder (Option Nat × Bool) := do
  let before ← anchor?
  let tagged ← acceptTag
  let name ← if before.isNone && tagged then anchor? else pure before
  match name with
  | some name => return (some (← number name), true)
  | none => return (none, tagged)

mutual

/-- Reads a node; `block` says whether it may be a block, and `level` whether it may be a sequence
that stands level with its key. Each step takes a token or goes on to one that does. -/
def node (block level : Bool) : Nat → Builder Node
  | 0 => failure
  | fuel + 1 => do
    if let some (.reference name) ← peek then
      skip
      return .reference (← (← get).names.lookup name)
    let (anchor, found) ← properties
    match ← peek with
    | some (.scalar isPlain text) =>
      skip
      return .scalar anchor isPlain text
    | some .flowSequence =>
      skip
      return .sequence anchor (← flowItems true fuel)
    | some .flowMapping =>
      skip
      return .mapping anchor (← flowEntries true fuel)
    | t =>
      if level && t = some .item then return .sequence anchor (← items true fuel)
      else if block && t = some .blockSequence then
        skip
        return .sequence anchor (← items false fuel)
      else if block && t = some .blockMapping then
        skip
        return .mapping anchor (← entries fuel)
      else if found then return .scalar anchor true ""
      else failure

/-- The items of a block sequence. One that is level with its key ends where no item follows. -/
def items (level : Bool) : Nat → Builder (List Node)
  | 0 => failure
  | fuel + 1 => do
    if ← accept .item then
      let isEmpty ← nextIn (if level then [.item, .key, .value, .blockEnd] else [.item, .blockEnd])
      let n ← if isEmpty then pure .empty else node true false fuel
      return n :: (← items level fuel)
    else
      if !level then expect .blockEnd
      return []

/-- The key or the value of an entry in a block. -/
def part : Nat → Builder Node
  | 0 => failure
  | fuel + 1 => do
    if ← nextIn [.key, .value, .blockEnd] then return .empty else node true true fuel

def entries : Nat → Builder (List (Node × Node))
  | 0 => failure
  | fuel + 1 => do
    if ← accept .key then
      let k ← part fuel
      let v ← if ← accept .value then part fuel else pure .empty
      return (k, v) :: (← entries fuel)
    else
      expect .blockEnd
      return []

/-- A key or a value between brackets, which may be left out before one of `ends`. -/
def flowPart (ends : List Token) : Nat → Builder Node
  | 0 => failure
  | fuel + 1 => do if ← nextIn ends then return .empty else node false false fuel

def flowValue (close : Token) : Nat → Builder Node
  | 0 => failure
  | fuel + 1 => do
    if ← accept .value then flowPart [.separator, close] fuel else return .empty

/-- An item behind the mark of a key is a mapping of one entry. Where the key is left out, the token
in its place is passed over. -/
def flowItems (first : Bool) : Nat → Builder (List Node)
  | 0 => failure
  | fuel + 1 => do
    if ← accept .flowSequenceEnd then return []
    if !first then expect .separator
    if ← accept .key then
      let k ←
        if ← nextIn [.value, .separator, .flowSequenceEnd] then do
          skip
          pure .empty
        else node false false fuel
      let v ← flowValue .flowSequenceEnd fuel
      return .mapping none [(k, v)] :: (← flowItems false fuel)
    else if ← accept .flowSequenceEnd then return []
    else
      let n ← node false false fuel
      return n :: (← flowItems false fuel)

/-- An entry without the mark of a key has no value. -/
def flowEntries (first : Bool) : Nat → Builder (List (Node × Node))
  | 0 => failure
  | fuel + 1 => do
    if ← accept .flowMappingEnd then return []
    if !first then expect .separator
    if ← accept .key then
      let k ← flowPart [.value, .separator, .flowMappingEnd] fuel
      let v ← flowValue .flowMappingEnd fuel
      return (k, v) :: (← flowEntries false fuel)
    else if ← accept .flowMappingEnd then return []
    else
      let k ← node false false fuel
      return (k, .empty) :: (← flowEntries false fuel)

end

end Builder

end GraphQuery.Yaml
