import GraphQuery.Yaml.Quoted

/-! Scalars without quotes. -/
namespace GraphQuery.Yaml
open Reader

/-- The characters up to white space, the colon of a key or, between brackets, one of their marks.
There a colon before such a mark is refused. -/
def plainWord (flow : Bool) : List Char → Option (List Char)
  | [] => some []
  | c :: cs =>
    if flow && c = ':' && cs.head?.any (fun d => d = '?' || isFlowMark d) then none
    else if isWhite c || (c = ':' && atBoundary cs) || (flow && isFlowMark c) then some []
    else (plainWord flow cs).map (c :: ·)

/-- Whether a tab stands left of a column, on a line behind the first. -/
def tabBefore (depth : Nat) : Nat → List Char → Bool
  | _, [] => false
  | column, c :: cs =>
    if isBreak c then tabBefore depth 0 cs
    else (c = '\t' && column < depth) || tabBefore depth (column + 1) cs

/-- A plain scalar, and whether the reader went on to another line behind it. -/
structure Plain where
  text : List Char
  broken : Bool

/-- Reads words. The white space before a word counts only if the word is there. Each step takes a
character at least, so the length is enough fuel. -/
def plainRest (flow : Bool) (depth : Nat) (before : List Char) (broken : Bool) :
    Nat → Reader Plain
  | 0 => failure
  | fuel + 1 => do
    let c ← get
    let word ← if c.atMarker || c.rest.head? = some '#' then pure [] else plainWord flow c.rest
    if word.isEmpty then return ⟨[], broken⟩
    skip word.length
    let white := (← get).rest.takeWhile isWhite
    if white.isEmpty then return ⟨before ++ word, false⟩
    require (!tabBefore depth 0 (white.dropWhile isBlank))
    let between ← gap
    let broken := white.any isBreak
    if !flow && (← get).column < depth then return ⟨before ++ word, broken⟩
    let more ← plainRest flow depth between broken fuel
    return ⟨before ++ word ++ more.text, more.broken⟩

/-- A plain scalar goes on in the lines that stand at `depth` or deeper. -/
def plain (flow : Bool) (depth : Nat) : Reader Plain := do
  plainRest flow depth [] false ((← get).rest.length + 1)

end GraphQuery.Yaml
