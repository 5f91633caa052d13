import GraphQuery.Identifier
import Mathlib.Data.List.TakeWhile

/-! Reading a name back from what it is quoted as: a plain identifier as long as it goes on, or a
name between backticks in which two of them stand for one. -/
namespace GraphQuery.Identifier

/-- What is left of a name behind its first backtick. -/
def readQuoted : List Char → Option (List Char × List Char)
  | [] => none
  | '`' :: '`' :: cs => (readQuoted cs).map fun p => ('`' :: p.1, p.2)
  | '`' :: cs => some ([], cs)
  | c :: cs => (readQuoted cs).map fun p => (c :: p.1, p.2)

def readName : List Char → Option (List Char × List Char)
  | '`' :: cs => readQuoted cs
  | cs => readPlain cs

/-- A quoted or a plain name ends before these characters. -/
def Closes (rest : List Char) : Prop :=
  ∀ c, rest.head? = some c → isWord c = false ∧ c ≠ '`'

namespace Closes

theorem nothing : Closes "".toList := by
  rintro c ⟨⟩

theorem begun {s : String} {c : Char} (starts : s.toList.head? = some c)
    (ends : isWord c = false ∧ c ≠ '`') (text : String) :
    Closes (s ++ text).toList := by
  intro first head
  rw [String.toList_append, List.head?_append, starts] at head
  cases head
  exact ends

theorem append {s t : String} (first : Closes s.toList) (second : Closes t.toList) :
    Closes (s ++ t).toList := by
  intro c head
  rw [String.toList_append, List.head?_append] at head
  cases started : s.toList.head? with
  | none => exact second c (by simpa [started] using head)
  | some d => exact first c (by simpa [started] using head)

end Closes

theorem take_while_stopped {p : Char → Bool} {word rest : List Char} (inside : ∀ c ∈ word, p c)
    (stops : ∀ c, rest.head? = some c → p c = false) : (word ++ rest).takeWhile p = word := by
  rw [List.takeWhile_append_of_pos inside]
  cases rest with
  | nil => simp
  | cons c cs => simp [stops c rfl]

theorem drop_while_stopped {p : Char → Bool} {word rest : List Char} (inside : ∀ c ∈ word, p c)
    (stops : ∀ c, rest.head? = some c → p c = false) : (word ++ rest).dropWhile p = rest := by
  rw [List.dropWhile_append_of_pos inside]
  cases rest with
  | nil => simp
  | cons c cs => simp [stops c rfl]

theorem read_quoted_escape (cs : List Char) {rest : List Char} (ends : rest.head? ≠ some '`') :
    readQuoted (escape cs ++ '`' :: rest) = some (cs, rest) := by
  induction cs with
  | nil =>
    cases rest with
    | nil => rfl
    | cons c more =>
      have other : c ≠ '`' := fun same => ends (congrArg some same)
      rw [escape, List.nil_append, readQuoted]
      rintro d same
      exact other (List.cons.inj same).1
  | cons c cs ih =>
    rw [escape]
    by_cases tick : c = '`'
    · subst tick
      rw [if_pos rfl, List.cons_append, List.cons_append, readQuoted, ih]
      rfl
    · rw [if_neg tick, List.cons_append, readQuoted, ih]
      · rfl
      · exact fun _ same => absurd same tick
      · exact tick

theorem read_plain_stopped {cs : List Char} (plain : isPlain cs) {rest : List Char}
    (stops : ∀ c, rest.head? = some c → isWord c = false) :
    readPlain (cs ++ rest) = some (cs, rest) := by
  cases cs with
  | nil => cases plain
  | cons c more =>
    rw [isPlain, Bool.and_eq_true, List.all_eq_true] at plain
    obtain ⟨start, words⟩ := plain
    rw [List.cons_append, readPlain, if_pos start, take_while_stopped words stops,
      drop_while_stopped words stops]

/-- Whatever the name is, just what it was quoted as is read. -/
theorem read_name_quote (cs : List Char) {rest : List Char} (closes : Closes rest) :
    readName (quoteChars cs ++ rest) = some (cs, rest) := by
  rw [quoteChars]
  split
  · rename_i plain
    have read := read_plain_stopped plain fun c first => (closes c first).1
    cases cs with
    | nil => cases plain
    | cons c more =>
      rw [List.cons_append, readName]
      · exact read
      · intro d same
        rw [(List.cons.inj same).1] at plain
        cases plain
  · have ends : rest.head? ≠ some '`' := fun first => (closes '`' first).2 rfl
    rw [List.cons_append, List.cons_append, List.append_assoc, readName]
    exact read_quoted_escape cs ends

end GraphQuery.Identifier
