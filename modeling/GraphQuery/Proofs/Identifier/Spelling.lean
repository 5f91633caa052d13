import GraphQuery.Proofs.Identifier.Accessor
import GraphQuery.Proofs.Identifier.Alias
import GraphQuery.Proofs.Identifier.Reading

/-! Every accessor is spelled in one way: two names, two parentheses, and five runs of white space,
each of which may be empty. What is spelled so is read, and nothing else is. -/
namespace GraphQuery
namespace Identifier

abbrev Blank := { s : String // IsBlank s.toList }

abbrev Plain := { s : String // isPlain s.toList }

/-- The tokens of an accessor but for its parentheses, and the white space between them. -/
@[ext]
structure Spelling where
  front : Blank
  function : Plain
  behind : Blank
  inner : Blank
  argument : Plain
  outer : Blank
  last : Blank

namespace Spelling

def text (w : Spelling) : String :=
  w.front ++ w.function ++ w.behind ++ "(" ++ w.inner ++ w.argument ++ w.outer ++ ")" ++ w.last

theorem chars_text (w : Spelling) :
    w.text.toList = w.front.1.toList ++ (w.function.1.toList ++ (w.behind.1.toList ++
      '(' :: (w.inner.1.toList ++ (w.argument.1.toList ++ (w.outer.1.toList ++
        ')' :: w.last.1.toList))))) := by
  simp [text]

end Spelling

/-! A run ends where the next token starts, for no character is both blank and a word. -/

theorem ascii_of_word {c : Char} (word : isWord c) : c.toNat < 128 := by
  rw [isWord, Char.isAlphanum, Bool.or_assoc, Bool.or_comm c.isDigit, ← Bool.or_assoc,
    Bool.or_eq_true] at word
  rcases word with start | digit
  · exact ascii_of_start start
  · have last := (Char.isDigit_iff_toNat.mp digit).2
    have nine : '9'.toNat = 57 := rfl
    omega

theorem not_blank_of_word {c : Char} (word : isWord c) : Text.isBlank c = false :=
  Text.ascii_forall (p := fun c => isWord c → Text.isBlank c = false) (by decide +kernel)
    (ascii_of_word word) word

theorem not_word_of_blank {c : Char} (blank : Text.isBlank c) : isWord c = false := by
  by_contra word
  rw [not_blank_of_word (by simpa using word)] at blank
  cases blank

theorem blank_stops {cs : List Char} (plain : isPlain cs) (rest : List Char) :
    ∀ c, (cs ++ rest).head? = some c → Text.isBlank c = false := by
  intro c head
  cases cs with
  | nil => cases plain
  | cons d more =>
    cases head
    exact not_blank_of_word (word_of_plain plain c List.mem_cons_self)

theorem word_stops {blank : List Char} (blanks : IsBlank blank) {d : Char}
    (other : isWord d = false) (rest : List Char) :
    ∀ c, (blank ++ d :: rest).head? = some c → isWord c = false := by
  intro c head
  cases blank with
  | nil =>
    cases head
    exact other
  | cons b more =>
    cases head
    exact not_word_of_blank (blanks c List.mem_cons_self)

theorem head_cons {p : Char → Bool} {d : Char} (other : p d = false) (rest : List Char) :
    ∀ c, (d :: rest).head? = some c → p c = false := by
  rintro c head
  cases head
  exact other

theorem skip_blank_run {blank rest : List Char} (blanks : IsBlank blank)
    (stops : ∀ c, rest.head? = some c → Text.isBlank c = false) :
    skipBlank (blank ++ rest) = rest :=
  drop_while_stopped blanks stops

theorem expect_self (c : Char) (rest : List Char) : expect c (c :: rest) = some rest := by
  rw [expect, if_pos rfl]

theorem read_accessor_of {cs function argument behind inner outer last : List Char}
    (name : readPlain (skipBlank cs) = some (function, behind))
    (opening : expect '(' (skipBlank behind) = some inner)
    (named : readPlain (skipBlank inner) = some (argument, outer))
    (closing : expect ')' (skipBlank outer) = some last) (ended : skipBlank last = []) :
    readAccessor cs = some (function, argument) := by
  simp [readAccessor, name, opening, named, closing, ended]

theorem read_spelled (w : Spelling) :
    readAccessor w.text.toList = some (w.function.1.toList, w.argument.1.toList) := by
  rw [w.chars_text]
  apply read_accessor_of
  · rw [skip_blank_run w.front.2 (blank_stops w.function.2 _),
      read_plain_stopped w.function.2 (word_stops w.behind.2 (by decide) _)]
  · rw [skip_blank_run w.behind.2 (head_cons (by decide) _), expect_self]
  · rw [skip_blank_run w.inner.2 (blank_stops w.argument.2 _),
      read_plain_stopped w.argument.2 (word_stops w.outer.2 (by decide) _)]
  · rw [skip_blank_run w.outer.2 (head_cons (by decide) _), expect_self]
  · exact List.dropWhile_eq_nil_iff.mpr w.last.2

theorem accessor_spelled (w : Spelling) :
    accessor? w.text = some (w.function.1, w.argument.1) := by
  rw [accessor?, read_spelled, Option.map_some, String.ofList_toList, String.ofList_toList]

theorem spelled_of_accessor {s f a : String} (found : accessor? s = some (f, a)) :
    ∃ w : Spelling, w.text = s ∧ w.function.1 = f ∧ w.argument.1 = a := by
  obtain ⟨⟨function, argument⟩, read, same⟩ := Option.map_eq_some_iff.mp found
  cases same
  obtain ⟨front, behind, inner, outer, last, ⟨h₀, h₁, h₂, h₃, h₄⟩, plain, other, cut⟩ :=
    read_accessor_split read
  have blank {cs : List Char} (blank : IsBlank cs) : IsBlank (String.ofList cs).toList := by
    rwa [String.toList_ofList]
  have word {cs : List Char} (plain : isPlain cs) : isPlain (String.ofList cs).toList := by
    rwa [String.toList_ofList]
  let w : Spelling := ⟨⟨_, blank h₀⟩, ⟨_, word plain⟩, ⟨_, blank h₁⟩, ⟨_, blank h₂⟩,
    ⟨_, word other⟩, ⟨_, blank h₃⟩, ⟨_, blank h₄⟩⟩
  have text : w.text.toList = s.toList := by
    rw [w.chars_text, cut]
    simp only [w, String.toList_ofList]
  exact ⟨w, String.toList_inj.mp text, rfl, rfl⟩

/-! A text is cut up in one way only. -/

theorem run_cancel {p : Char → Bool} {run other rest more : List Char} (inside : ∀ c ∈ run, p c)
    (within : ∀ c ∈ other, p c) (stops : ∀ c, rest.head? = some c → p c = false)
    (ends : ∀ c, more.head? = some c → p c = false) (same : run ++ rest = other ++ more) :
    run = other ∧ rest = more := by
  have runs : run = other := by
    rw [← take_while_stopped inside stops, same, take_while_stopped within ends]
  subst runs
  exact ⟨rfl, List.append_cancel_left same⟩

theorem text_injective : Function.Injective Spelling.text := by
  intro w v same
  have chars := congrArg String.toList same
  rw [w.chars_text, v.chars_text] at chars
  obtain ⟨front, afterFront⟩ := run_cancel w.front.2 v.front.2
    (blank_stops w.function.2 _) (blank_stops v.function.2 _) chars
  obtain ⟨function, afterName⟩ := run_cancel
    (word_of_plain w.function.2) (word_of_plain v.function.2)
    (word_stops w.behind.2 (by decide) _) (word_stops v.behind.2 (by decide) _) afterFront
  obtain ⟨behind, opening⟩ := run_cancel w.behind.2 v.behind.2
    (head_cons (by decide) _) (head_cons (by decide) _) afterName
  obtain ⟨inner, afterInner⟩ := run_cancel w.inner.2 v.inner.2
    (blank_stops w.argument.2 _) (blank_stops v.argument.2 _) (List.cons.inj opening).2
  obtain ⟨argument, afterArgument⟩ := run_cancel
    (word_of_plain w.argument.2) (word_of_plain v.argument.2)
    (word_stops w.outer.2 (by decide) _) (word_stops v.outer.2 (by decide) _) afterInner
  obtain ⟨outer, closing⟩ := run_cancel w.outer.2 v.outer.2
    (head_cons (by decide) _) (head_cons (by decide) _) afterArgument
  have last := (List.cons.inj closing).2
  have whole {t u : String} (same : t.toList = u.toList) : t = u := String.toList_inj.mp same
  apply Spelling.ext
  · exact Subtype.ext (whole front)
  · exact Subtype.ext (whole function)
  · exact Subtype.ext (whole behind)
  · exact Subtype.ext (whole inner)
  · exact Subtype.ext (whole argument)
  · exact Subtype.ext (whole outer)
  · exact Subtype.ext (whole last)

theorem form_spelled (w : Spelling) :
    parameterForm w.text = w.function.1 ++ "_" ++ w.argument.1 := by
  rw [parameterForm, accessor_spelled]

/-- The accessor that is written without any white space. -/
def Spelling.tight (function argument : Plain) : Spelling :=
  let nothing : Blank := ⟨"", List.forall_mem_nil _⟩
  ⟨nothing, function, nothing, nothing, argument, nothing, nothing⟩

/-- Just the spellings of accessors are read as such, as the function and the argument that are
spelled, and no text spells accessors in two ways. So the identity of a node whose alias is plain is
read back, and has its form in parameters, whatever white space is put between its tokens. -/
theorem accessors_read_back :
    (∀ s f a : String, accessor? s = some (f, a) ↔
      ∃ w : Spelling, w.text = s ∧ w.function.1 = f ∧ w.argument.1 = a) ∧
    (∀ s : String, accessor? s = none ↔ ∀ w : Spelling, w.text ≠ s) ∧
    Function.Injective Spelling.text ∧
    ∀ s : Settings, s.validate = .ok s → ∀ a : String, isPlain a.toList →
      accessor? (s.accessor a) = some (s.identityFunction, a) ∧
      parameterForm (s.accessor a) = s.identityFunction ++ "_" ++ a ∧
      ∀ w : Spelling, w.function.1 = s.identityFunction → w.argument.1 = a →
        accessor? w.text = some (s.identityFunction, a) ∧
        parameterForm w.text = s.identityFunction ++ "_" ++ a := by
  have read (s f a : String) : accessor? s = some (f, a) ↔
      ∃ w : Spelling, w.text = s ∧ w.function.1 = f ∧ w.argument.1 = a := by
    constructor
    · exact spelled_of_accessor
    · rintro ⟨w, rfl, rfl, rfl⟩
      exact accessor_spelled w
  refine ⟨read, ?_, text_injective, ?_⟩
  · intro s
    rw [Option.eq_none_iff_forall_not_mem]
    constructor
    · rintro unread w rfl
      exact unread _ (accessor_spelled w)
    · rintro unspelled ⟨f, a⟩ found
      obtain ⟨w, same, -, -⟩ := spelled_of_accessor found
      exact unspelled w same
  · intro s valid a plain
    have named : isPlain s.identityFunction.toList := Settings.plain_identity_function valid
    let w := Spelling.tight ⟨s.identityFunction, named⟩ ⟨a, plain⟩
    have tight : w.text = s.accessor a := by
      simp [w, Spelling.tight, Spelling.text, Settings.accessor]
    refine ⟨tight ▸ accessor_spelled w, tight ▸ form_spelled w, ?_⟩
    rintro v function rfl
    rw [← function]
    exact ⟨accessor_spelled v, form_spelled v⟩

def spacedIdentity : Spelling where
  front := ⟨"\t", by decide⟩
  function := ⟨"elementId", by decide⟩
  behind := ⟨"\u00a0", by decide⟩
  inner := ⟨"\u3000", by decide⟩
  argument := ⟨"user_1", by decide⟩
  outer := ⟨" ", by decide⟩
  last := ⟨"\n", by decide⟩

theorem spaced_identity_read :
    let s : Settings := { identityFunction := "elementId" }
    s.validate = .ok s ∧ isPlain "user_1".toList ∧
      accessor? (s.accessor "user_1") = some ("elementId", "user_1") ∧
      spacedIdentity.text = "\telementId\u00a0(\u3000user_1 )\n" ∧
      accessor? spacedIdentity.text = some ("elementId", "user_1") ∧
      parameterForm spacedIdentity.text = "elementId_user_1" := by
  intro s
  have valid : s.validate = .ok s := by decide +kernel
  have plain : isPlain "user_1".toList := by decide
  obtain ⟨-, -, -, identity⟩ := accessors_read_back
  obtain ⟨tight, -, spaced⟩ := identity s valid "user_1" plain
  exact ⟨valid, plain, tight, by decide +kernel, spaced spacedIdentity rfl rfl⟩

end Identifier
end GraphQuery
