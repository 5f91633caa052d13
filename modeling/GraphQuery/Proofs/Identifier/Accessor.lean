import GraphQuery.Cypher.Column
import GraphQuery.Proofs.Parameter.Stored
import GraphQuery.Proofs.Text.Dollarless

/-! What an accessor is made of, and when the last part of a column is the name that the column
comes back under. -/
namespace GraphQuery.Identifier

/-- Nothing but white space. -/
def IsBlank (cs : List Char) : Prop := ∀ c ∈ cs, Text.isBlank c

instance (cs : List Char) : Decidable (IsBlank cs) :=
  decidable_of_iff (cs.all Text.isBlank) List.all_eq_true

theorem skip_blank_split (cs : List Char) :
    ∃ blank, IsBlank blank ∧ cs = blank ++ skipBlank cs := by
  refine ⟨cs.takeWhile Text.isBlank, fun c hc => List.mem_takeWhile_imp hc, ?_⟩
  exact (List.takeWhile_append_dropWhile ..).symm

theorem read_plain_split {cs word rest : List Char} (read : readPlain cs = some (word, rest)) :
    isPlain word ∧ cs = word ++ rest := by
  cases cs with
  | nil => cases read
  | cons c more =>
    rw [readPlain] at read
    split at read
    · rename_i start
      cases read
      constructor
      · rw [isPlain, start, Bool.true_and, List.all_eq_true]
        exact fun d hd => List.mem_takeWhile_imp hd
      · exact congrArg (c :: ·) (List.takeWhile_append_dropWhile ..).symm
    · cases read

theorem expect_split {c : Char} {cs rest : List Char} (found : expect c cs = some rest) :
    cs = c :: rest := by
  cases cs with
  | nil => cases found
  | cons d more =>
    rw [expect] at found
    split at found
    · rename_i same
      cases found
      rw [same]
    · cases found

/-- An accessor is a function, an argument in parentheses, and white space. -/
theorem read_accessor_split {cs function argument : List Char}
    (read : readAccessor cs = some (function, argument)) :
    ∃ front behind inner outer last,
      (IsBlank front ∧ IsBlank behind ∧ IsBlank inner ∧ IsBlank outer ∧ IsBlank last) ∧
      isPlain function ∧ isPlain argument ∧
      cs = front ++ (function ++ (behind ++ '(' :: (inner ++ (argument ++
        (outer ++ ')' :: last))))) := by
  simp only [readAccessor, Option.bind_eq_bind, Option.bind_eq_some_iff] at read
  obtain ⟨⟨f, afterName⟩, name, afterOpen, opening, ⟨a, afterArgument⟩, named, afterClose,
    closing, finished⟩ := read
  split at finished
  · rename_i nothing
    cases finished
    obtain ⟨plain, cutName⟩ := read_plain_split name
    obtain ⟨plainArgument, cutArgument⟩ := read_plain_split named
    have cutOpen := expect_split opening
    have cutClose := expect_split closing
    obtain ⟨front, hfront, first⟩ := skip_blank_split cs
    obtain ⟨behind, hbehind, second⟩ := skip_blank_split afterName
    obtain ⟨inner, hinner, third⟩ := skip_blank_split afterOpen
    obtain ⟨outer, houter, fourth⟩ := skip_blank_split afterArgument
    obtain ⟨last, hlast, fifth⟩ := skip_blank_split afterClose
    refine ⟨front, behind, inner, outer, last, ⟨hfront, hbehind, hinner, houter, hlast⟩, plain,
      plainArgument, ?_⟩
    have ended : afterClose = last := by
      rw [fifth, List.isEmpty_iff.mp nothing, List.append_nil]
    rw [first, cutName, second, cutOpen, third, cutArgument, fourth, cutClose, ended]
  · cases finished

theorem is_segment_accessor {s : String} (found : (accessor? s).isSome) : IsSegment s := by
  obtain ⟨⟨f, a⟩, found⟩ := Option.isSome_iff_exists.mp found
  obtain ⟨⟨function, argument⟩, read, -⟩ := Option.map_eq_some_iff.mp found
  obtain ⟨front, behind, inner, outer, last, ⟨h₀, h₁, h₂, h₃, h₄⟩, plain, other, cut⟩ :=
    read_accessor_split read
  have blank {cs : List Char} (blank : IsBlank cs) : '.' ∉ cs :=
    fun point => absurd (blank '.' point) (by decide)
  have word {cs : List Char} (plain : isPlain cs) : '.' ∉ cs :=
    pointless_words (word_of_plain plain)
  rw [IsSegment, cut]
  simp [blank h₀, blank h₁, blank h₂, blank h₃, blank h₄, word plain, word other]

theorem is_segment_sanitize {s : String} (segment : IsSegment (sanitize s)) : IsSegment s := by
  intro point
  apply segment
  rw [sanitize, String.toList_ofList, sanitizeChars, List.mem_map]
  exact ⟨'.', List.mem_filter.mpr ⟨point, by decide⟩, by decide⟩

theorem is_segment_of_form {s : String} (segment : IsSegment (parameterForm s)) :
    IsSegment s := by
  rw [parameterForm] at segment
  split at segment
  · rename_i found
    exact is_segment_accessor (found ▸ rfl)
  · exact is_segment_sanitize segment

/-- With a parenthesis in it, a column comes back under its form in parameters, which has none. -/
theorem last_segment_iff_result (column : String) :
    lastSegment column = resultName column ↔ '(' ∉ column.toList := by
  rw [resultName]
  constructor
  · intro same opened
    rw [if_pos (List.contains_iff_mem.mpr opened)] at same
    have segment : IsSegment column := is_segment_of_form (same ▸ is_segment_last column)
    rw [last_segment_eq segment] at same
    rw [same] at opened
    rcases parameter_form_chars column '(' opened with word | point
    · exact absurd word (by decide)
    · exact absurd point (by decide)
  · intro absent
    rw [if_neg (mt List.contains_iff_mem.mp absent)]

end GraphQuery.Identifier
