import GraphQuery.Text.Lower
import GraphQuery.Text.Numeric

/-! What lower-casing does to the kind of a character. A letter stays a letter, a number stays a
number, and only a dotted capital I becomes more than one character.

The tables are compared run by run: a run and its image lie inside one range of a table, or miss
every range of it. -/
namespace GraphQuery.Text

def within (ranges : List (Nat × Nat)) (n : Nat) : Bool :=
  ranges.any fun r => r.1 ≤ n && n ≤ r.2

/-- One range holds all of `first` to `last`. -/
def covers (ranges : List (Nat × Nat)) (first last : Nat) : Bool :=
  ranges.any fun r => r.1.ble first && last.ble r.2

/-- No range holds any of `first` to `last`. -/
def avoids (ranges : List (Nat × Nat)) (first last : Nat) : Bool :=
  ranges.all fun r => last.blt r.1 || r.2.blt first

theorem within_of_covers {ranges : List (Nat × Nat)} {first last n : Nat}
    (covered : covers ranges first last) (low : first ≤ n) (high : n ≤ last) :
    within ranges n = true := by
  obtain ⟨r, member, inside⟩ := List.any_eq_true.mp covered
  rw [Bool.and_eq_true, Nat.ble_eq, Nat.ble_eq] at inside
  refine List.any_eq_true.mpr ⟨r, member, ?_⟩
  rw [Bool.and_eq_true, decide_eq_true_eq, decide_eq_true_eq]
  omega

theorem within_of_avoids {ranges : List (Nat × Nat)} {first last n : Nat}
    (avoided : avoids ranges first last) (low : first ≤ n) (high : n ≤ last) :
    within ranges n = false := by
  refine List.any_eq_false.mpr fun r member => ?_
  have outside := List.all_eq_true.mp avoided r member
  rw [Bool.or_eq_true, Nat.blt_eq, Nat.blt_eq] at outside
  rw [Bool.and_eq_true, decide_eq_true_eq, decide_eq_true_eq]
  omega

/-- The last code point that a run is mapped to. -/
def lastImage (r : Nat × Nat × Nat × Nat) : Nat := r.2.2.2 + (r.2.1 - r.1)

theorem image_in_run {runs : List (Nat × Nat × Nat × Nat)} {n m : Nat}
    (found : imageIn runs n = some m) :
    ∃ r ∈ runs, r.1 ≤ n ∧ n ≤ r.2.1 ∧ r.2.2.2 ≤ m ∧ m ≤ lastImage r := by
  rw [imageIn, Option.map_eq_some_iff] at found
  obtain ⟨r, first, rfl⟩ := found
  have holds := List.find?_some first
  simp only [Bool.and_eq_true, decide_eq_true_eq] at holds
  refine ⟨r, List.mem_of_find?_eq_some first, holds.1.1, holds.1.2, ?_, ?_⟩
  · omega
  · unfold lastImage
    omega

/-- The Kelvin sign, whose image is `k`. -/
def kelvin : Nat × Nat × Nat × Nat := (0x212a, 0x212a, 1, 0x6b)

theorem runs_alphanumeric :
    ∀ r ∈ lowerRuns, r = kelvin ∨ 128 ≤ r.2.2.2 ∧
      covers alphanumericRanges r.2.2.2 (lastImage r) := by
  decide +kernel

theorem runs_numeric :
    ∀ r ∈ lowerRuns,
      covers numericRanges r.1 r.2.1 ∧ covers numericRanges r.2.2.2 (lastImage r) ∨
      avoids numericRanges r.1 r.2.1 ∧ avoids numericRanges r.2.2.2 (lastImage r) := by
  decide +kernel

theorem runs_valid :
    ∀ r ∈ lowerRuns, lastImage r < 0xd800 ∨ 0xdfff < r.2.2.2 ∧ lastImage r < 0x110000 := by
  decide +kernel

theorem code_of_nat {n : Nat} (valid : n.isValidChar) : (Char.ofNat n).toNat = n := by
  unfold Char.ofNat
  rw [dif_pos valid]
  rfl

theorem ascii_forall {p : Char → Prop} (each : ∀ n < 128, p (Char.ofNat n)) {c : Char}
    (low : c.toNat < 128) : p c := by
  have here := each c.toNat low
  rwa [Char.ofNat_toNat] at here

theorem not_digit {c : Char} (above : 128 ≤ c.toNat) : c.isDigit = false := by
  rw [Bool.eq_false_iff, ne_eq, Char.isDigit_iff_toNat]
  have nine : '9'.toNat = 57 := rfl
  omega

theorem is_numeric_above {c : Char} (above : 128 ≤ c.toNat) :
    isNumeric c = within numericRanges c.toNat := by
  simp [isNumeric, not_digit above, above, within]

/-- What lower-casing keeps of a character. -/
structure SameKind (c d : Char) : Prop where
  alphanumeric : isAlphanumeric c → isAlphanumeric d
  underscore : c = '_' → d = '_'
  numeric : isNumeric d = isNumeric c
  digit : d.isDigit = c.isDigit

instance (c d : Char) : Decidable (SameKind c d) :=
  decidable_of_iff ((isAlphanumeric c → isAlphanumeric d) ∧ (c = '_' → d = '_') ∧
    isNumeric d = isNumeric c ∧ d.isDigit = c.isDigit)
    ⟨fun h => ⟨h.1, h.2.1, h.2.2.1, h.2.2.2⟩,
      fun h => ⟨h.alphanumeric, h.underscore, h.numeric, h.digit⟩⟩

namespace SameKind

theorem refl (c : Char) : SameKind c c := ⟨id, id, rfl, rfl⟩

theorem ascii {c : Char} (low : c.toNat < 128) : SameKind c c.toLower :=
  ascii_forall (p := fun c => SameKind c c.toLower) (by decide +kernel) low

theorem in_run {c d : Char} {r : Nat × Nat × Nat × Nat} (member : r ∈ lowerRuns)
    (above : 128 ≤ c.toNat) (low : r.1 ≤ c.toNat) (high : c.toNat ≤ r.2.1)
    (imageLow : r.2.2.2 ≤ d.toNat) (imageHigh : d.toNat ≤ lastImage r) : SameKind c d := by
  obtain rfl | ⟨imageAbove, covered⟩ := runs_alphanumeric r member
  · -- a run of one character, so both characters are known
    have sign : c = Char.ofNat 0x212a := by
      rw [← Char.ofNat_toNat c, Nat.le_antisymm high low]
      rfl
    have image : d = Char.ofNat 0x6b := by
      rw [← Char.ofNat_toNat d, Nat.le_antisymm imageHigh imageLow]
      rfl
    subst sign image
    decide +kernel
  · have aboveToo : 128 ≤ d.toNat := by omega
    constructor
    · intro _
      have inside := within_of_covers covered imageLow imageHigh
      rw [isAlphanumeric, Bool.or_eq_true, Bool.and_eq_true, decide_eq_true_eq]
      exact .inr ⟨aboveToo, inside⟩
    · rintro rfl
      exact absurd above (by decide)
    · rw [is_numeric_above above, is_numeric_above aboveToo]
      obtain ⟨source, image⟩ | ⟨source, image⟩ := runs_numeric r member
      · rw [within_of_covers source low high, within_of_covers image imageLow imageHigh]
      · rw [within_of_avoids source low high, within_of_avoids image imageLow imageHigh]
    · rw [not_digit above, not_digit aboveToo]

end SameKind

theorem lower_char_same_kind {c : Char} (plain : c ≠ '\u0130') :
    ∃ d, lowerChar c = [d] ∧ SameKind c d := by
  unfold lowerChar
  by_cases low : c.toNat < 128
  · exact ⟨c.toLower, if_pos low, .ascii low⟩
  · rw [if_neg low, if_neg plain]
    cases found : imageIn lowerRuns c.toNat with
    | none => exact ⟨c, rfl, .refl c⟩
    | some n =>
      obtain ⟨r, member, first, last, imageFirst, imageLast⟩ := image_in_run found
      have code : (Char.ofNat n).toNat = n := by
        have valid := runs_valid r member
        exact code_of_nat (by unfold Nat.isValidChar; omega)
      rw [← code] at imageFirst imageLast
      exact ⟨_, rfl, .in_run member (by omega) first last imageFirst imageLast⟩

theorem lower_from_cons (before rest : List Char) {c : Char} (plain : c ≠ '\u0130') :
    ∃ d, lowerFrom before (c :: rest) = d :: lowerFrom (c :: before) rest ∧ SameKind c d := by
  rw [lowerFrom]
  by_cases sigma : c = 'Σ'
  · subst sigma
    refine ⟨_, rfl, ?_⟩
    -- which of the two sigmas it is depends on what stands around it
    split
    · decide +kernel
    · decide +kernel
  · obtain ⟨d, image, kept⟩ := lower_char_same_kind plain
    exact ⟨d, by simp [sigma, image], kept⟩

theorem lower_from_dotted (before rest : List Char) :
    lowerFrom before ('\u0130' :: rest) =
      'i' :: '\u0307' :: lowerFrom ('\u0130' :: before) rest := by
  rfl

end GraphQuery.Text
