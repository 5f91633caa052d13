/-! Characters of a YAML text: its blanks, its line breaks, and how breaks fold. -/
namespace GraphQuery.Yaml

/-- Control characters are refused anywhere in a text. -/
def isAllowed (c : Char) : Bool :=
  let n := c.toNat
  n = 0x09 || n = 0x0a || n = 0x0d || n = 0x85 || (0x20 ≤ n && n ≤ 0x7e) ||
    (0xa0 ≤ n && n ≠ 0xfffe && n ≠ 0xffff)

/-- A line ends with a line feed, whichever way it was written. The two separators of Unicode also
end a line, but stay what they are. -/
def normalizeBreaks : List Char → List Char
  | [] => []
  | '\r' :: '\n' :: cs => '\n' :: normalizeBreaks cs
  | c :: cs => (if c = '\r' || c = '\u0085' then '\n' else c) :: normalizeBreaks cs

def isBlank (c : Char) : Bool := c = ' ' || c = '\t'

def isBreak (c : Char) : Bool := c = '\n' || c = '\u2028' || c = '\u2029'

def isWhite (c : Char) : Bool := isBlank c || isBreak c

/-- A place where a token may end: white space or the end of the text. -/
def atBoundary : List Char → Bool
  | [] => true
  | c :: _ => isWhite c

/-- The breaks between two words as text. A single line feed is a space, and of several the first
does not count. -/
def folded : List Char → List Char
  | ['\n'] => [' ']
  | '\n' :: breaks => breaks
  | breaks => breaks

/-- Three marks that stand alone separate documents. -/
def isMarker (mark : Char) : List Char → Bool
  | a :: b :: c :: cs => a = mark && b = mark && c = mark && atBoundary cs
  | _ => false

/-- A letter of a name. -/
def isWord (c : Char) : Bool := c.isAlphanum || c = '_' || c = '-'

/-- The marks that end a plain scalar between brackets. -/
def isFlowMark (c : Char) : Bool := [',', '[', ']', '\x7b', '\x7d'].contains c

end GraphQuery.Yaml
