import GraphQuery.Yaml.Cursor

/-! Escapes: of a character between double quotes, and of the octets of a tag. -/
namespace GraphQuery.Yaml
open Reader

def hexValue? (cs : List Char) : Option Nat :=
  cs.foldlM (fun n c =>
    if c.isDigit then some (16 * n + (c.toNat - 48))
    else if 'a' ≤ c ∧ c ≤ 'f' then some (16 * n + (c.toNat - 87))
    else if 'A' ≤ c ∧ c ≤ 'F' then some (16 * n + (c.toNat - 55))
    else none) 0

/-- The escapes of one letter. -/
def escapes : List (Char × Char) :=
  [('0', '\x00'), ('a', '\x07'), ('b', '\x08'), ('t', '\t'), ('\t', '\t'), ('n', '\n'),
    ('v', '\x0b'), ('f', '\x0c'), ('r', '\r'), ('e', '\x1b'), (' ', ' '), ('"', '"'), ('/', '/'),
    ('\\', '\\'), ('N', '\u0085'), ('_', '\u00a0'), ('L', '\u2028'), ('P', '\u2029')]

/-- How many hexadecimal digits follow the letter of an escape. -/
def escapeDigits : Char → Nat
  | 'x' => 2
  | 'u' => 4
  | 'U' => 8
  | _ => 0

def codePoint? (n : Nat) : Option Char := if n.isValidChar then some (Char.ofNat n) else none

/-- The character that a backslash and what follows it stand for. -/
def escapedChar : Reader Char := do
  skip 1
  let some letter ← peek | failure
  skip 1
  match escapes.lookup letter with
  | some c => return c
  | none =>
    let n := escapeDigits letter
    let digits := (← get).rest.take n
    require (n ≠ 0 && digits.length = n)
    skip n
    codePoint? (← hexValue? digits)

/-- An octet is written as a percent sign and two digits. -/
def octet : Reader Nat := do
  expect '%'
  let digits := (← get).rest.take 2
  require (digits.length = 2)
  skip 2
  hexValue? digits

/-- How many octets a character has, by the first of them. -/
def octetCount? (lead : Nat) : Option Nat :=
  if lead < 0x80 then some 1
  else if lead < 0xc0 then none
  else if lead < 0xe0 then some 2
  else if lead < 0xf0 then some 3
  else if lead < 0xf8 then some 4
  else none

/-- A character of a tag that is written by its octets. -/
def skipOctets : Reader Unit := do
  let n ← octetCount? (← octet)
  for _ in List.range (n - 1) do
    require ((← octet) / 0x40 = 2)

end GraphQuery.Yaml
