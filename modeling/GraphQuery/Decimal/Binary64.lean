/-! Double-precision numbers by their parts, and rounding of exact ratios to them. -/
namespace GraphQuery.Decimal

/-- The number `mantissa · 2^scale / 2^1074` with a sign. Each finite double has one such form. -/
structure Finite where
  negative : Bool
  mantissa : Nat
  scale : Nat
  mantissa_lt : mantissa < Nat.pow 2 53
  scale_le : scale ≤ 2045
  normal : scale = 0 ∨ Nat.pow 2 52 ≤ mantissa
deriving DecidableEq

inductive Binary64 where
  | finite (x : Finite)
  | infinite (negative : Bool)
  | nan
deriving DecidableEq

/-- Rounds `num / den` to a multiple of one, a half going to the even neighbour. -/
def roundHalfEven (num den : Nat) : Nat :=
  let q := num / den
  let r := num % den
  if 2 * r < den then q
  else if den < 2 * r then q + 1
  else if q % 2 = 0 then q else q + 1

/-- A binary format: so many bits of mantissa, units of `2^-unit`, and a largest scale. -/
structure Format where
  precision : Nat
  unit : Nat
  maxScale : Nat

def Format.single : Format := ⟨24, 149, 253⟩
def Format.double : Format := ⟨53, 1074, 2045⟩

/-- Mantissa and scale of the number of the format nearest to `num / den`, or none above all. -/
def Format.round (f : Format) (num den : Nat) : Option (Nat × Nat) :=
  let units := num * Nat.pow 2 f.unit
  let scale := Nat.log2 (units / den) + 1 - f.precision
  let m := roundHalfEven units (den * Nat.pow 2 scale)
  let (m, scale) :=
    if m = Nat.pow 2 f.precision then (Nat.pow 2 (f.precision - 1), scale + 1) else (m, scale)
  if f.maxScale < scale then none else some (m, scale)

/-- Parts that are not in their one form count as infinite. -/
def Binary64.ofParts (negative : Bool) (mantissa scale : Nat) : Binary64 :=
  if h : mantissa < Nat.pow 2 53 ∧ scale ≤ 2045 ∧ (scale = 0 ∨ Nat.pow 2 52 ≤ mantissa) then
    .finite ⟨negative, mantissa, scale, h.1, h.2.1, h.2.2⟩
  else .infinite negative

/-- The double nearest to `num / den`. -/
def Binary64.ofRatio (negative : Bool) (num den : Nat) : Binary64 :=
  match Format.double.round num den with
  | some (m, scale) => .ofParts negative m scale
  | none => .infinite negative

/-- The double that holds the single nearest to `num / den`. -/
def Binary64.ofRatioSingle (negative : Bool) (num den : Nat) : Binary64 :=
  match Format.single.round num den with
  | some (m, scale) => .ofRatio negative (m * Nat.pow 2 scale) (Nat.pow 2 Format.single.unit)
  | none => .infinite negative

def Binary64.ofInt (n : Int) : Binary64 := .ofRatio (n < 0) n.natAbs 1

/-- The whole part of the number without its sign. -/
def Finite.whole (x : Finite) : Nat := x.mantissa * Nat.pow 2 x.scale / Nat.pow 2 1074

end GraphQuery.Decimal
