import GraphQuery.Yaml.Block
import GraphQuery.Yaml.Plain
import GraphQuery.Yaml.Tag

/-! Splitting a text into tokens. Blocks are closed by indentation, and the start of a key is known
only when its colon is met, so its tokens are inserted where it began. -/
namespace GraphQuery.Yaml

/-- A token that may turn out to start a key. A required one must. -/
structure KeyStart where
  position : Nat
  line : Nat
  column : Nat
  required : Bool

/-- A key fits on a line, within 1024 characters. -/
def KeyStart.isStale (k : KeyStart) (c : Cursor) : Bool :=
  k.line < c.line || k.column + 1024 < c.column

/-- The columns of the open blocks come innermost first, as do the brackets, each with the start of
a key outside it. -/
structure Lexer where
  cursor : Cursor
  tokens : List Token
  columns : List Nat
  keyAllowed : Bool
  key : Option KeyStart
  brackets : List (Option KeyStart)

namespace Lexer

def flow (s : Lexer) : Bool := !s.brackets.isEmpty

/-- The least column that is inside the innermost block. -/
def depth (s : Lexer) : Nat := s.columns.head?.elim 0 (· + 1)

end Lexer

abbrev Lexing := StateT Lexer Option

namespace Lexing

def reading {α : Type} (r : Reader α) : Lexing α := fun s =>
  (r s.cursor).map fun p => (p.1, { s with cursor := p.2 })

def require (condition : Bool) : Lexing Unit := reading (Reader.require condition)

def emit (t : Token) : Lexing Unit := modify fun s => { s with tokens := s.tokens ++ [t] }

def allowKey (allowed : Bool) : Lexing Unit := modify fun s => { s with keyAllowed := allowed }

def dropKey : Lexing Unit := do
  require (!(← get).key.any (·.required))
  modify fun s => { s with key := none }

/-- The next token may start a key, where one is allowed. -/
def markKey : Lexing Unit := do
  if (← get).keyAllowed then
    dropKey
    modify fun s =>
      let required := !s.flow && s.columns.head? = some s.cursor.column
      { s with key := some ⟨s.tokens.length, s.cursor.line, s.cursor.column, required⟩ }

/-- Gives up the starts of keys that the text has gone too far behind. -/
def dropStaleKeys : Lexing Unit := do
  let s ← get
  let isStale (k : Option KeyStart) := k.any (·.isStale s.cursor)
  let stale := (s.key :: s.brackets).filter isStale
  require (!stale.any (·.any (·.required)))
  let keep (k : Option KeyStart) := if isStale k then none else k
  set { s with key := keep s.key, brackets := s.brackets.map keep }

/-- Opens a block unless one is open at its column. Its first token goes to `position`. -/
def openBlock (column position : Nat) (t : Token) : Lexing Unit :=
  modify fun s =>
    if !s.flow && s.depth ≤ column then
      { s with
        columns := column :: s.columns
        tokens := s.tokens.take position ++ t :: s.tokens.drop position }
    else s

/-- Closes the blocks at `column` and right of it. -/
def closeBlocks (column : Nat) : Lexing Unit :=
  modify fun s =>
    if s.flow then s
    else
      let closed := s.columns.takeWhile (column ≤ ·)
      { s with
        columns := s.columns.drop closed.length
        tokens := s.tokens ++ closed.map fun _ => .blockEnd }

/-- Moves to the next token. Tabs may stand before it where no key can start. Each step takes a
line break, so the length is enough fuel. -/
def skipGap : Nat → Lexing Unit
  | 0 => failure
  | fuel + 1 => do
    if (← get).cursor.column = 0 then let _ ← reading (Reader.accept '\ufeff')
    let s ← get
    reading (Reader.skipWhile fun c => c = ' ' || (c = '\t' && (s.flow || !s.keyAllowed)))
    reading Reader.skipComment
    if (← reading Reader.peek).any isBreak then
      reading (Reader.skip 1)
      if !s.flow then allowKey true
      skipGap fuel

/-- A token that may start a key. -/
def keyToken (r : Reader Token) : Lexing Unit := do
  markKey
  allowKey false
  emit (← reading r)

/-- Everything is closed at a mark between documents, and at a directive. -/
def outerToken (r : Reader Token) : Lexing Unit := do
  closeBlocks 0
  dropKey
  allowKey false
  emit (← reading r)

def mark (n : Nat) (t : Token) : Reader Token := do
  Reader.skip n
  return t

def openBracket (t : Token) : Lexing Unit := do
  keyToken (mark 1 t)
  allowKey true
  modify fun s => { s with key := none, brackets := s.key :: s.brackets }

/-- What is inside the bracket cannot start a key, but the bracket as a whole can. -/
def closeBracket (t : Token) : Lexing Unit := do
  dropKey
  modify fun s => { s with key := s.brackets.headD s.key, brackets := s.brackets.drop 1 }
  allowKey false
  emit (← reading (mark 1 t))

/-- A mark that opens a block by itself, where a key would be allowed. -/
def blockMark (block : Token) : Lexing Unit := do
  let s ← get
  require (s.flow || s.keyAllowed)
  openBlock s.cursor.column s.tokens.length block

def item : Lexing Unit := do
  blockMark .blockSequence
  dropKey
  allowKey true
  emit (← reading (mark 1 .item))

def keyMark : Lexing Unit := do
  blockMark .blockMapping
  dropKey
  allowKey (!(← get).flow)
  emit (← reading (mark 1 .key))

/-- The colon behind a key, or of a key that has a mark of its own. -/
def valueMark : Lexing Unit := do
  match (← get).key with
  | some k =>
    modify fun s =>
      { s with
        key := none
        tokens := s.tokens.take k.position ++ .key :: s.tokens.drop k.position }
    openBlock k.column k.position .blockMapping
    allowKey false
  | none =>
    blockMark .blockMapping
    allowKey (!(← get).flow)
  emit (← reading (mark 1 .value))

def plainToken : Lexing Unit := do
  markKey
  let s ← get
  let p ← reading (plain s.flow s.depth)
  allowKey p.broken
  emit (.scalar true (String.ofList p.text))

def blockToken (folds : Bool) : Lexing Unit := do
  dropKey
  allowKey true
  emit (.scalar false (← reading (blockScalar folds (← get).depth)))

/-- Reads the token at `c`, with `cs` behind it. -/
def token (c : Char) (cs : List Char) : Lexing Unit := do
  let s ← get
  let outer := s.cursor.column = 0
  let marks := s.flow || atBoundary cs
  if outer && c = '%' then outerToken directive
  else if outer && isMarker '-' (c :: cs) then outerToken (mark 3 .documentStart)
  else if outer && isMarker '.' (c :: cs) then outerToken (mark 3 .documentEnd)
  else if c = '[' then openBracket .flowSequence
  else if c = '\x7b' then openBracket .flowMapping
  else if c = ']' then closeBracket .flowSequenceEnd
  else if c = '\x7d' then closeBracket .flowMappingEnd
  else if c = ',' then
    dropKey
    allowKey true
    emit (← reading (mark 1 .separator))
  else if c = '-' && atBoundary cs then item
  else if c = '?' && marks then keyMark
  else if c = ':' && marks then valueMark
  else if c = '*' then keyToken (return .reference (← anchorName))
  else if c = '&' then keyToken (return .anchor (← anchorName))
  else if c = '!' then keyToken (return .tag (← tag s.flow))
  else if c = '\x27' || c = '"' then keyToken (return .scalar false (← quoted c))
  else if !s.flow && (c = '|' || c = '>') then blockToken (c = '>')
  else if "|>%@`\t".toList.contains c then failure
  else plainToken

/-- Reads up to the end of the text. Each token takes a character at least, so the length is enough
fuel. -/
def tokens : Nat → Lexing (List Token)
  | 0 => failure
  | fuel + 1 => do
    skipGap ((← get).cursor.rest.length + 1)
    dropStaleKeys
    closeBlocks ((← get).cursor.column + 1)
    match (← get).cursor.rest with
    | [] =>
      closeBlocks 0
      dropKey
      return (← get).tokens
    | c :: cs =>
      token c cs
      tokens fuel

end Lexing

/-- The tokens of a text, if it is well formed. -/
def Token.ofText? (text : String) : Option (List Token) :=
  if text.toList.all isAllowed then
    let cs := normalizeBreaks text.toList
    (Lexing.tokens (cs.length + 1) ⟨⟨cs, 0, 0⟩, [], [], true, none, []⟩).map (·.1)
  else none

end GraphQuery.Yaml
