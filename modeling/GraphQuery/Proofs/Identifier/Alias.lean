import GraphQuery.Proofs.Text.Dollarless
import GraphQuery.Proofs.Text.Lower
import GraphQuery.Settings.Validation

/-! Aliases of nodes as names written without quotes: a letter or an underscore, then letters,
numbers and underscores of any script.

An alias misses this form in two ways. Its first character can be a number that is no ASCII digit,
and a dotted capital I in the label leaves a combining dot, which is neither a letter nor a number,
because the label is filtered before it is lower-cased. -/
namespace GraphQuery
namespace Identifier

def isBareWord (c : Char) : Bool := Text.isAlphanumeric c || c = '_'

def isBareStart (c : Char) : Bool := Text.isLetter c || c = '_'

/-- A name that is written without quotes. -/
def isBare : List Char → Bool
  | [] => false
  | c :: cs => isBareStart c && cs.all isBareWord

theorem bare_start_iff (c : Char) :
    isBareStart c ↔ isBareWord c ∧ Text.isNumeric c = false := by
  by_cases score : c = '_'
  · subst score
    decide +kernel
  · simp [isBareStart, isBareWord, Text.isLetter, score]

theorem ne_dot_of_word {c : Char} (word : isBareWord c) : c ≠ '\u0307' := by
  rintro rfl
  have dot : isBareWord '\u0307' = false := by decide +kernel
  rw [dot] at word
  contradiction

theorem bare_iff {text : List Char} (nonempty : text ≠ [])
    (words : ∀ c ∈ text, isBareWord c ∨ c = '\u0307') :
    isBare text ↔ (∀ c ∈ text.head?, Text.isNumeric c = false) ∧ '\u0307' ∉ text := by
  cases text with
  | nil => exact absurd rfl nonempty
  | cons first rest =>
    rw [isBare, Bool.and_eq_true, bare_start_iff, List.all_eq_true]
    constructor
    · rintro ⟨⟨word, letter⟩, others⟩
      have each : ∀ c ∈ first :: rest, isBareWord c := List.forall_mem_cons.mpr ⟨word, others⟩
      exact ⟨by simpa using letter, fun dot => ne_dot_of_word (each _ dot) rfl⟩
    · rintro ⟨letter, undotted⟩
      have each : ∀ c ∈ first :: rest, isBareWord c := fun c member =>
        (words c member).resolve_right fun dot => undotted (dot ▸ member)
      rw [List.forall_mem_cons] at each
      exact ⟨⟨each.1, letter first rfl⟩, each.2⟩

/-- An alias and the label it comes from, if there is one. It has a combining dot where the label
has a dotted capital I, and starts with a number where the first character kept of the label is a
number but no ASCII digit. -/
structure Derived (label : Option String) (text : List Char) : Prop where
  nonempty : text ≠ []
  undigited : ∀ c ∈ text.head?, c.isDigit = false
  words : ∀ c ∈ text, isBareWord c ∨ c = '\u0307'
  dotted : '\u0307' ∈ text ↔ ∃ l ∈ label, '\u0130' ∈ l.toList
  lettered : (∀ c ∈ text.head?, Text.isNumeric c = false) ↔
    ∀ l ∈ label, ∀ c ∈ l.toList.find? isBareWord, Text.isNumeric c → c.isDigit

theorem Derived.bare_iff {label : Option String} {text : List Char} (derived : Derived label text) :
    isBare text ↔ ∀ l ∈ label, '\u0130' ∉ l.toList ∧
      ∀ c ∈ l.toList.find? isBareWord, Text.isNumeric c → c.isDigit := by
  rw [Identifier.bare_iff derived.nonempty derived.words, derived.lettered, derived.dotted]
  constructor
  · rintro ⟨letters, undotted⟩ l given
    exact ⟨fun dot => undotted ⟨l, given, dot⟩, letters l given⟩
  · intro each
    exact ⟨fun l given => (each l given).2, fun ⟨l, given, dot⟩ => (each l given).1 dot⟩

/-! A plain identifier stands in where the labels give nothing. -/

theorem bare_word_of_word {c : Char} (word : isWord c) : isBareWord c := by
  rw [isWord, Bool.or_eq_true] at word
  rw [isBareWord, Bool.or_eq_true]
  exact word.imp_left fun known => by simp [Text.isAlphanumeric, known]

theorem ascii_of_start {c : Char} (start : isStart c) : c.toNat < 128 := by
  rw [isStart, Bool.or_eq_true, decide_eq_true_eq] at start
  rcases start with letter | rfl
  · have last : c.val ≤ 'Z'.val ∨ c.val ≤ 'z'.val := by
      change (c.isUpper || c.isLower) = true at letter
      rw [Bool.or_eq_true] at letter
      rcases letter with upper | lower
      · exact .inl (of_decide_eq_true upper).2
      · exact .inr (of_decide_eq_true (Bool.and_eq_true_iff.mp lower).2)
    rw [UInt32.le_iff_toNat_le, UInt32.le_iff_toNat_le] at last
    change c.toNat ≤ 90 ∨ c.toNat ≤ 122 at last
    omega
  · decide

theorem letter_of_start {c : Char} (start : isStart c) :
    c.isDigit = false ∧ Text.isNumeric c = false := by
  have low := ascii_of_start start
  have digit : c.isDigit = false :=
    Text.ascii_forall (p := fun c => isStart c → c.isDigit = false) (by decide +kernel) low start
  exact ⟨digit, (Text.is_numeric_of_ascii c low).trans digit⟩

theorem derived_of_plain {text : List Char} (plain : isPlain text) {label : Option String}
    (nothing : ∀ l ∈ label, l.toList.filter isBareWord = []) : Derived label text := by
  have word {c : Char} (member : c ∈ text) : isBareWord c :=
    bare_word_of_word (word_of_plain plain c member)
  have letter : ∀ c ∈ text.head?, c.isDigit = false ∧ Text.isNumeric c = false := by
    intro c head
    cases text with
    | nil => cases head
    | cons first rest =>
      rw [isPlain, Bool.and_eq_true] at plain
      cases head
      exact letter_of_start plain.1
  constructor
  · rintro rfl
    contradiction
  · exact fun c head => (letter c head).1
  · exact fun c member => .inl (word member)
  · constructor
    · exact fun dot => absurd rfl (ne_dot_of_word (word dot))
    · rintro ⟨l, given, dot⟩
      have capital : isBareWord '\u0130' := by decide +kernel
      exact absurd capital (List.filter_eq_nil_iff.mp (nothing l given) _ dot)
  · constructor
    · intro _ l given c found
      rw [← List.head?_filter, nothing l given] at found
      cases found
    · exact fun _ c head => (letter c head).2

/-! The characters that a label keeps, and what they are lower-cased to. -/

theorem bare_word_lowered {c d : Char} (kind : Text.SameKind c d) (word : isBareWord c) :
    isBareWord d := by
  rw [isBareWord, Bool.or_eq_true, decide_eq_true_eq] at word ⊢
  exact word.imp kind.alphanumeric kind.underscore

theorem lowered_words (before : List Char) {cs : List Char} (words : ∀ c ∈ cs, isBareWord c) :
    ∀ d ∈ Text.lowerFrom before cs, isBareWord d ∨ d = '\u0307' := by
  induction cs generalizing before with
  | nil => simp [Text.lowerFrom]
  | cons c rest ih =>
    rw [List.forall_mem_cons] at words
    have later := ih (c :: before) words.2
    by_cases dotted : c = '\u0130'
    · subst dotted
      rw [Text.lower_from_dotted, List.forall_mem_cons, List.forall_mem_cons]
      exact ⟨.inl (by decide +kernel), .inr rfl, later⟩
    · obtain ⟨d, image, kind⟩ := Text.lower_from_cons before rest dotted
      rw [image, List.forall_mem_cons]
      exact ⟨.inl (bare_word_lowered kind words.1), later⟩

theorem dot_mem_lowered (before : List Char) {cs : List Char} (words : ∀ c ∈ cs, isBareWord c) :
    '\u0307' ∈ Text.lowerFrom before cs ↔ '\u0130' ∈ cs := by
  induction cs generalizing before with
  | nil => simp [Text.lowerFrom]
  | cons c rest ih =>
    rw [List.forall_mem_cons] at words
    by_cases dotted : c = '\u0130'
    · subst dotted
      rw [Text.lower_from_dotted]
      simp
    · obtain ⟨d, image, kind⟩ := Text.lower_from_cons before rest dotted
      have other := (ne_dot_of_word (bare_word_lowered kind words.1)).symm
      rw [image, List.mem_cons, List.mem_cons, ih (c :: before) words.2]
      simp [other, Ne.symm dotted]

theorem lowered_head (before rest : List Char) (c : Char) :
    ∃ d ds, Text.lowerFrom before (c :: rest) = d :: ds ∧ Text.SameKind c d := by
  by_cases dotted : c = '\u0130'
  · subst dotted
    exact ⟨_, _, Text.lower_from_dotted before rest, by decide +kernel⟩
  · obtain ⟨d, image, kind⟩ := Text.lower_from_cons before rest dotted
    exact ⟨d, _, image, kind⟩

theorem alias_of_lowered {label : String} {d : Char} {ds : List Char}
    (image : Text.lowerFrom [] (label.toList.filter isBareWord) = d :: ds) :
    (aliasOfLabel label).toList = if d.isDigit then 'n' :: d :: ds else d :: ds := by
  change Text.lowerFrom [] (label.toList.filter fun c => Text.isAlphanumeric c || c = '_') = _
    at image
  simp only [aliasOfLabel, image, String.toList_ofList]

theorem alias_of_nothing {label : String} (nothing : label.toList.filter isBareWord = []) :
    aliasOfLabel label = "" := by
  change label.toList.filter (fun c => Text.isAlphanumeric c || c = '_') = [] at nothing
  simp only [aliasOfLabel, nothing, Text.lowerFrom]

theorem derived_of_label {label : String} {c : Char} {rest : List Char}
    (kept : label.toList.filter isBareWord = c :: rest) :
    Derived (some label) (aliasOfLabel label).toList := by
  obtain ⟨d, ds, image, kind⟩ := lowered_head [] rest c
  have words : ∀ e ∈ c :: rest, isBareWord e := fun e member => by
    rw [← kept] at member
    exact (List.mem_filter.mp member).2
  have dotted : '\u0307' ∈ d :: ds ↔ '\u0130' ∈ label.toList := by
    rw [← image, dot_mem_lowered [] words, ← kept, List.mem_filter]
    exact and_iff_left (by decide +kernel)
  have found : label.toList.find? isBareWord = some c := by
    rw [← List.head?_filter, kept, List.head?_cons]
  have loweredWords : ∀ e ∈ d :: ds, isBareWord e ∨ e = '\u0307' :=
    image ▸ lowered_words [] words
  rw [alias_of_lowered (kept ▸ image)]
  by_cases digit : d.isDigit
  · rw [if_pos digit]
    constructor
    · exact List.cons_ne_nil _ _
    · rintro e ⟨⟩
      decide
    · exact List.forall_mem_cons.mpr ⟨.inl (by decide +kernel), loweredWords⟩
    · rw [List.mem_cons, dotted]
      simp
    · have led : Text.isNumeric 'n' = false := by decide +kernel
      simp [led, found, ← kind.digit, digit]
  · rw [if_neg digit]
    constructor
    · exact List.cons_ne_nil _ _
    · simpa using digit
    · exact loweredWords
    · simpa using dotted
    · simp [found, ← kind.digit, ← kind.numeric, digit]

end Identifier

namespace Settings

open Identifier

theorem violations_of_valid {s : Settings} (valid : s.validate = .ok s) : s.violations = [] := by
  rw [validate] at valid
  split at valid
  · rename_i nothing
    simpa using nothing
  · cases valid

theorem plain_of_unreported {field value : String}
    (unreported : identifierViolations field value = []) : Identifier.isPlain value.toList := by
  rw [identifierViolations] at unreported
  split at unreported
  · assumption
  · cases unreported

theorem plain_fallback {s : Settings} (valid : s.validate = .ok s) :
    Identifier.isPlain s.fallbackAlias.toList := by
  have nothing := violations_of_valid valid
  simp only [violations, List.append_eq_nil_iff] at nothing
  exact plain_of_unreported nothing.1.1.1.2

theorem plain_identity_function {s : Settings} (valid : s.validate = .ok s) :
    Identifier.isPlain s.identityFunction.toList := by
  have nothing := violations_of_valid valid
  simp only [violations, List.append_eq_nil_iff] at nothing
  exact plain_of_unreported nothing.1.2

/-- An alias is never empty, starts with no ASCII digit, and is made of letters, numbers,
underscores and the dots of capital letters I. It is a name that needs no quotes unless the first
label has such a letter, or the first character kept of it is a number but no ASCII digit. -/
theorem node_alias_bare_iff (s : Settings) (valid : s.validate = .ok s) (labels : List String) :
    (s.nodeAlias labels).toList ≠ [] ∧
    (∀ c ∈ (s.nodeAlias labels).toList.head?, c.isDigit = false) ∧
    (∀ c ∈ (s.nodeAlias labels).toList, isBareWord c ∨ c = '\u0307') ∧
    ('\u0307' ∈ (s.nodeAlias labels).toList ↔ ∃ label ∈ labels.head?, '\u0130' ∈ label.toList) ∧
    (isBare (s.nodeAlias labels).toList ↔ ∀ label ∈ labels.head?, '\u0130' ∉ label.toList ∧
      ∀ c ∈ label.toList.find? isBareWord, Text.isNumeric c → c.isDigit) := by
  have derived : Derived labels.head? (s.nodeAlias labels).toList := by
    have plain := plain_fallback valid
    cases labels with
    | nil => exact derived_of_plain plain (by simp)
    | cons label rest =>
      cases kept : label.toList.filter isBareWord with
      | nil =>
        have fallback : s.nodeAlias (label :: rest) = s.fallbackAlias := by
          simp [nodeAlias, alias_of_nothing kept]
        rw [fallback]
        exact derived_of_plain plain (by simpa using kept)
      | cons c more =>
        have derived := derived_of_label kept
        have own : s.nodeAlias (label :: rest) = aliasOfLabel label := by
          have written := derived.nonempty
          rw [ne_eq, String.toList_eq_nil_iff] at written
          simp [nodeAlias, written]
        rw [own]
        exact derived
  exact ⟨derived.nonempty, derived.undigited, derived.words, derived.dotted, derived.bare_iff⟩

theorem model_label_alias_bare :
    ({} : Settings).validate = .ok {} ∧
    ({} : Settings).nodeAlias ["3D ΜΟΔΕΛΟΣ"] = "n3dμοδελος" ∧ isBare "n3dμοδελος".toList := by
  have valid : ({} : Settings).validate = .ok {} := by decide +kernel
  have written : ({} : Settings).nodeAlias ["3D ΜΟΔΕΛΟΣ"] = "n3dμοδελος" := by decide +kernel
  have undotted : '\u0130' ∉ "3D ΜΟΔΕΛΟΣ".toList := by decide +kernel
  have first : "3D ΜΟΔΕΛΟΣ".toList.find? isBareWord = some '3' := by decide +kernel
  have bare := (node_alias_bare_iff {} valid ["3D ΜΟΔΕΛΟΣ"]).2.2.2.2
  rw [written] at bare
  refine ⟨valid, written, bare.mpr ?_⟩
  rintro label ⟨⟩
  refine ⟨undotted, fun c found _ => ?_⟩
  rw [first] at found
  cases found
  rfl

/-- An Arabic digit stays in front, where `3` would follow an `n`, and the capital I of Istanbul
leaves its dot behind. -/
theorem number_and_dot_not_bare :
    ({} : Settings).validate = .ok {} ∧
    ({} : Settings).nodeAlias ["\u0663D"] = "\u0663d" ∧ isBare "\u0663d".toList = false ∧
    ({} : Settings).nodeAlias ["\u0130stanbul"] = "i\u0307stanbul" ∧
    isBare "i\u0307stanbul".toList = false := by
  decide +kernel

end Settings
end GraphQuery
