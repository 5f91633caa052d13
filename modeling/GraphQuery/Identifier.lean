import GraphQuery.Text.Alphanumeric
import GraphQuery.Text.Blank
import GraphQuery.Text.Lower

/-! Names in query text: plain and quoted identifiers, labels, accessors, parameter names. -/
namespace GraphQuery.Identifier

def isStart (c : Char) : Bool := c.isAlpha || c = '_'

def isWord (c : Char) : Bool := c.isAlphanum || c = '_'

/-- A plain identifier needs no quotes. The pattern is `^[A-Za-z_][A-Za-z0-9_]*$`. Its anchors are
the two ends of the text and not those of a line, so a text with a line break at its end is not
plain. -/
def isPlain : List Char → Bool
  | [] => false
  | c :: cs => isStart c && cs.all isWord

/-- A backtick inside a quoted name is written twice. -/
def escape : List Char → List Char
  | [] => []
  | c :: cs => if c = '`' then '`' :: '`' :: escape cs else c :: escape cs

def quoteChars (cs : List Char) : List Char :=
  if isPlain cs then cs else '`' :: escape cs ++ ['`']

def quote (s : String) : String := String.ofList (quoteChars s.toList)

/-- Labels are written `:A:B`. -/
def labels (ls : List String) : String := String.join (ls.map fun l => ":" ++ quote l)

/-- A plain identifier at the front, as long as possible. -/
def readPlain : List Char → Option (List Char × List Char)
  | [] => none
  | c :: cs =>
    if isStart c then some (c :: cs.takeWhile isWord, cs.dropWhile isWord) else none

def skipBlank (cs : List Char) : List Char := cs.dropWhile Text.isBlank

def expect (c : Char) : List Char → Option (List Char)
  | [] => none
  | d :: rest => if d = c then some rest else none

/-- Reads `function(alias)`, with white space allowed between the tokens and around them. The
pattern is `^\s*(name)\s*\(\s*(name)\s*\)\s*$`, where `name` stands for a plain identifier. Its
anchors are the two ends of the text, and `\s` is every White_Space character, line breaks included.
Nothing that may follow a name can go on with it, so reading each part as far as it goes finds the
only match. -/
def readAccessor (cs : List Char) : Option (List Char × List Char) := do
  let (function, rest) ← readPlain (skipBlank cs)
  let rest ← expect '(' (skipBlank rest)
  let (argument, rest) ← readPlain (skipBlank rest)
  let rest ← expect ')' (skipBlank rest)
  if (skipBlank rest).isEmpty then some (function, argument) else none

def accessor? (s : String) : Option (String × String) :=
  (readAccessor s.toList).map fun p => (String.ofList p.1, String.ofList p.2)

/-- Drops backticks; what a parameter name cannot hold becomes an underscore. -/
def sanitizeChars (cs : List Char) : List Char :=
  (cs.filter (· ≠ '`')).map fun c => if isWord c || c = '.' then c else '_'

def sanitize (s : String) : String := String.ofList (sanitizeChars s.toList)

/-- The name that stands for a property or an accessor in parameters: `id(user)` is `id_user`. -/
def parameterForm (s : String) : String :=
  match accessor? s with
  | some (function, argument) => function ++ "_" ++ argument
  | none => sanitize s

def lastSegmentChars (cs : List Char) : List Char := (cs.reverse.takeWhile (· ≠ '.')).reverse

/-- What follows the last point. -/
def lastSegment (s : String) : String := String.ofList (lastSegmentChars s.toList)

/-- The base of the parameter names of a column. -/
def parameterBase (column : String) : String := lastSegment (parameterForm column)

/-- A lower-case alias from the letters and digits of a label. It never starts with an ASCII
digit. -/
def aliasOfLabel (label : String) : String :=
  let kept := label.toList.filter fun c => Text.isAlphanumeric c || c = '_'
  match Text.lowerFrom [] kept with
  | c :: cs => String.ofList (if c.isDigit then 'n' :: c :: cs else c :: cs)
  | [] => ""

end GraphQuery.Identifier
