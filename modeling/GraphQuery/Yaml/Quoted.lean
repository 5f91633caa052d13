import GraphQuery.Yaml.Escape

/-! Scalars between quotes. -/
namespace GraphQuery.Yaml
open Reader

/-- White space between two words. Blanks beside a break do not count. -/
def gap : Reader (List Char) := do
  let white ← takeWhile isWhite
  return if white.any isBreak then folded (white.filter isBreak) else white

/-- A backslash before a break joins two lines. Further breaks stay. -/
def escape : Reader (List Char) := do
  if ((← get).rest.drop 1).head?.any isBreak then
    skip 2
    return (← takeWhile isWhite).filter isBreak
  else return [← escapedChar]

/-- Reads up to the closing quote. Each step takes a character at least, so the length is enough
fuel. -/
def quotedRest (quote : Char) : Nat → Reader (List Char)
  | 0 => failure
  | fuel + 1 => do
    require (!(← get).atMarker)
    let some c ← peek | failure
    if c = quote then
      skip 1
      -- A single quote inside is written twice.
      if quote = '\x27' && (← peek) = some quote then
        skip 1
        return quote :: (← quotedRest quote fuel)
      else return []
    else if c = '\\' && quote = '"' then return (← escape) ++ (← quotedRest quote fuel)
    else if isWhite c then return (← gap) ++ (← quotedRest quote fuel)
    else
      skip 1
      return c :: (← quotedRest quote fuel)

def quoted (quote : Char) : Reader String := do
  expect quote
  return String.ofList (← quotedRest quote ((← get).rest.length + 1))

end GraphQuery.Yaml
