import GraphQuery.Decimal.Shortest

/-! Written forms of doubles, and reading a decimal numeral. -/
namespace GraphQuery.Decimal

/-- How a shortest decimal is chosen and laid out. -/
structure Layout where
  /-- Leading exponents below this one are written with an exponent mark. -/
  least : Option Int
  /-- Leading exponents above this one are written with an exponent mark. -/
  greatest : Option Int
  /-- Whole numbers keep `.0`. -/
  fraction : Bool
  tie : Tie

/-- Values print with a fraction, and by exponent outside `-5 … 15`. A tie goes to the even
neighbour. -/
def Layout.value : Layout := ⟨some (-5), some 15, true, .toEven⟩

/-- Query arguments never use an exponent and have a fraction only when they need it. A tie goes
away from zero. -/
def Layout.argument : Layout := ⟨none, none, false, .awayFromZero⟩

def Layout.positional (l : Layout) (lead : Int) : Bool :=
  l.least.all (· ≤ lead) && l.greatest.all (lead ≤ ·)

/-- Splits the digits at the point, which stands `lead + 1` places in. -/
def positional (l : Layout) (digits : List Char) (lead : Int) : List Char :=
  if lead < 0 then
    '0' :: '.' :: List.replicate ((-lead).toNat - 1) '0' ++ digits
  else
    let whole := lead.toNat + 1
    let padded := digits ++ List.replicate (whole - digits.length) '0'
    let rest := padded.drop whole
    padded.take whole ++
      if rest.isEmpty then (if l.fraction then ['.', '0'] else []) else '.' :: rest

def scientific (digits : List Char) (lead : Int) : List Char :=
  let mantissa := match digits with
    | d :: e :: rest => d :: '.' :: e :: rest
    | ds => ds
  mantissa ++ 'e' :: (if lead < 0 then '-' else '+') :: Nat.toDigits 10 lead.natAbs

def Finite.write (l : Layout) (x : Finite) : List Char :=
  let d := x.shortest l.tie
  let digits := Nat.toDigits 10 d.digits
  let lead := d.exponent + digits.length - 1
  let body := if l.positional lead then positional l digits lead else scientific digits lead
  if x.negative then '-' :: body else body

/-- The text of a double as a query argument. -/
def Binary64.argument : Binary64 → String
  | .finite x => String.ofList (x.write .argument)
  | .infinite negative => if negative then "-inf" else "inf"
  | .nan => "NaN"

def digitsValue (cs : List Char) : Nat := Nat.ofDigitChars 10 cs 0

/-- A sign, if any, and what follows it. -/
def readSign : List Char → Bool × List Char
  | '-' :: cs => (true, cs)
  | '+' :: cs => (false, cs)
  | cs => (false, cs)

/-- An exponent part: nothing, or a mark and a signed number. -/
def readExponent : List Char → Option Int
  | [] => some 0
  | c :: cs =>
    let (negative, ds) := readSign cs
    if (c = 'e' || c = 'E') && !ds.isEmpty && ds.all Char.isDigit then
      some (if negative then -(digitsValue ds : Int) else digitsValue ds)
    else none

/-- An unsigned decimal numeral. -/
def readScientific (cs : List Char) : Option Scientific :=
  let whole := cs.takeWhile Char.isDigit
  let rest := cs.dropWhile Char.isDigit
  let (fraction, rest) := match rest with
    | '.' :: r => (r.takeWhile Char.isDigit, r.dropWhile Char.isDigit)
    | r => ([], r)
  if whole.isEmpty && fraction.isEmpty then none
  else (readExponent rest).map fun e => ⟨digitsValue (whole ++ fraction), e - fraction.length⟩

/-- Rounds a decimal with the given rounding of ratios. Magnitudes far outside every format are
settled without writing out the power of ten. -/
def Scientific.round (d : Scientific) (negative : Bool) (round : Bool → Nat → Nat → Binary64) :
    Binary64 :=
  let lead := d.exponent + digitCount d.digits
  if d.digits = 0 ∨ lead < -400 then round negative 0 1
  else if 400 < lead then .infinite negative
  else round negative (d.digits * Nat.pow 10 d.exponent.toNat) (Nat.pow 10 (-d.exponent).toNat)

/-- Reads a numeral, or a name of infinity or of no number, under the given rounding. -/
def readWith (round : Bool → Nat → Nat → Binary64) (text : String) : Option Binary64 :=
  let (negative, cs) := readSign text.toList
  let word := String.ofList (cs.map Char.toLower)
  if word = "inf" ∨ word = "infinity" then some (.infinite negative)
  else if word = "nan" then some .nan
  else (readScientific cs).map fun d => d.round negative round

def Binary64.ofText? (text : String) : Option Binary64 := readWith .ofRatio text

/-- Reads the numeral as a single, then widens it. -/
def Binary64.ofSingleText? (text : String) : Option Binary64 := readWith .ofRatioSingle text

end GraphQuery.Decimal
