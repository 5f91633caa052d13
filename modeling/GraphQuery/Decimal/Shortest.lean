import GraphQuery.Decimal.Binary64

/-! The shortest decimal that reads back as a given double. -/
namespace GraphQuery.Decimal

/-- The decimal `digits · 10^exponent`. -/
structure Scientific where
  digits : Nat
  exponent : Int
deriving DecidableEq

def digitCount (n : Nat) : Nat := if n = 0 then 0 else (Nat.toDigits 10 n).length

/-- The exponent of the leading decimal digit of `num / den`. -/
def leadingExponent (num den : Nat) : Int :=
  if den ≤ num then (digitCount (num / den) : Int) - 1
  else -(digitCount ((den - 1) / num) : Int)

/-- The numbers, in units of a fourth of a mantissa step, that round to a given double. -/
structure Interval where
  low : Nat
  high : Nat
  closed : Bool

/-- Below a power of two the step is half as wide. -/
def Finite.interval (x : Finite) : Interval where
  low := if x.mantissa = Nat.pow 2 52 ∧ 0 < x.scale then 4 * x.mantissa - 1 else 4 * x.mantissa - 2
  high := 4 * x.mantissa + 2
  closed := x.mantissa % 2 = 0

/-- Whether `num / den` lies in the interval. -/
def Interval.holds (i : Interval) (num den : Nat) : Bool :=
  if i.closed then i.low * den ≤ num && num ≤ i.high * den
  else i.low * den < num && num < i.high * den

/-- Which of two decimals is taken that are at the same distance from a number. -/
inductive Tie where
  | toEven
  | awayFromZero
deriving DecidableEq

/-- The decimal on the grid `10^exponent` that lies in the interval and is nearest to the number;
of two at the same distance, the one that `tie` names. -/
def Finite.onGrid (x : Finite) (tie : Tie) (exponent : Int) : Option Scientific :=
  let up := Nat.pow 10 exponent.toNat
  let down := Nat.pow 10 (-exponent).toNat
  -- a grid step is `step / (2^scale)` quarter steps, over the common denominator
  let step := up * 4 * Nat.pow 2 1074
  let size := Nat.pow 2 x.scale * down
  let value := 4 * x.mantissa * size
  let below := value / step
  let inside (d : Nat) := x.interval.holds (d * step) size
  let lowGap := value - below * step
  let highGap := (below + 1) * step - value
  match inside below, inside (below + 1) with
  | true, true =>
    if lowGap < highGap || (lowGap == highGap && tie == .toEven && below % 2 == 0) then
      some ⟨below, exponent⟩
    else some ⟨below + 1, exponent⟩
  | true, false => some ⟨below, exponent⟩
  | false, true => some ⟨below + 1, exponent⟩
  | false, false => none

/-- Drops zeros at the end of the digits; the fuel bounds their number. -/
def Scientific.normalize : Nat → Scientific → Scientific
  | 0, d => d
  | fuel + 1, d =>
    if d.digits ≠ 0 ∧ d.digits % 10 = 0 then normalize fuel ⟨d.digits / 10, d.exponent + 1⟩ else d

/-- Tries one digit, then two, and so on; seventeen always suffice. -/
def Finite.shortest (x : Finite) (tie : Tie) : Scientific :=
  if x.mantissa = 0 then ⟨0, 0⟩
  else
    let lead := leadingExponent (x.mantissa * Nat.pow 2 x.scale) (Nat.pow 2 1074)
    match (List.range 17).findSome? fun n => x.onGrid tie (lead - (n : Nat)) with
    | some d => d.normalize 20
    | none => ⟨0, 0⟩

end GraphQuery.Decimal
