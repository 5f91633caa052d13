import GraphQuery.Proofs.Identifier.Reading
import Mathlib.Logic.Function.Basic

/-! Labels are read back, as a name behind each colon. Whatever a name holds, it ends where it was
quoted to end, so no list of labels is written like another one. -/
namespace GraphQuery.Identifier

theorem length_read_quoted {cs name rest : List Char} (read : readQuoted cs = some (name, rest)) :
    rest.length < cs.length := by
  induction cs using readQuoted.induct generalizing name with
  | case1 => cases read
  | case2 cs ih =>
    rw [readQuoted, Option.map_eq_some_iff] at read
    obtain ⟨⟨more, left⟩, inner, same⟩ := read
    cases same
    have shorter : left.length < cs.length := ih inner
    exact Nat.lt_succ_of_lt (Nat.lt_succ_of_lt shorter)
  | case3 cs other =>
    rw [readQuoted] at read
    · cases read
      exact Nat.lt_succ_self _
    · exact other
  | case4 c cs double single ih =>
    rw [readQuoted, Option.map_eq_some_iff] at read
    · obtain ⟨⟨more, left⟩, inner, same⟩ := read
      cases same
      exact Nat.lt_succ_of_lt (ih inner)
    · exact double
    · exact single

theorem length_read_plain {cs name rest : List Char} (read : readPlain cs = some (name, rest)) :
    rest.length < cs.length := by
  cases cs with
  | nil => cases read
  | cons c more =>
    rw [readPlain] at read
    split at read
    · cases read
      exact Nat.lt_succ_of_le (List.dropWhile_sublist _).length_le
    · cases read

/-- A name is never empty as it is written, so what is left behind one is shorter. -/
theorem length_read_name {cs name rest : List Char} (read : readName cs = some (name, rest)) :
    rest.length < cs.length := by
  unfold readName at read
  split at read
  · exact Nat.lt_succ_of_lt (length_read_quoted read)
  · exact length_read_plain read

/-- Reads a name behind each colon, for as long as a colon comes next. -/
def readLabels (cs : List Char) : Option (List String × List Char) :=
  match cs with
  | ':' :: named =>
    match read : readName named with
    | some (name, rest) =>
      have : rest.length < named.length := length_read_name read
      (readLabels rest).map fun p => (String.ofList name :: p.1, p.2)
    | none => none
  | _ => some ([], cs)
termination_by cs.length

theorem read_labels_named {named name rest : List Char}
    (read : readName named = some (name, rest)) :
    readLabels (':' :: named) =
      (readLabels rest).map fun p => (String.ofList name :: p.1, p.2) := by
  rw [readLabels]
  split
  · rename_i found
    rw [read] at found
    cases found
    rfl
  · rename_i missing
    rw [read] at missing
    cases missing

theorem read_labels_end {cs : List Char} (ends : cs.head? ≠ some ':') :
    readLabels cs = some ([], cs) := by
  rw [readLabels]
  rintro named rfl
  exact ends rfl

theorem labels_cons (l : String) (ls : List String) :
    (labels (l :: ls)).toList = ':' :: (quoteChars l.toList ++ (labels ls).toList) := by
  simp [labels, quote, String.toList_join]

/-- A colon ends a name, and so does what stands behind the labels. -/
theorem closes_labels (ls : List String) {rest : List Char} (closes : Closes rest) :
    Closes ((labels ls).toList ++ rest) := by
  cases ls with
  | nil => exact closes
  | cons l more =>
    rw [labels_cons]
    rintro c head
    cases head
    decide

theorem read_labels_behind (ls : List String) {rest : List Char} (closes : Closes rest)
    (ends : rest.head? ≠ some ':') :
    readLabels ((labels ls).toList ++ rest) = some (ls, rest) := by
  induction ls with
  | nil => exact read_labels_end ends
  | cons l more ih =>
    have name : readName (quoteChars l.toList ++ ((labels more).toList ++ rest)) =
        some (l.toList, (labels more).toList ++ rest) :=
      read_name_quote l.toList (closes_labels more closes)
    rw [labels_cons, List.cons_append, List.append_assoc, read_labels_named name, ih,
      String.ofList_toList]
    rfl

theorem read_labels (ls : List String) : readLabels (labels ls).toList = some (ls, []) := by
  have read : readLabels ((labels ls).toList ++ []) = some (ls, []) :=
    read_labels_behind ls Closes.nothing nofun
  rwa [List.append_nil] at read

theorem quote_injective : Function.Injective quote := by
  intro s t same
  have read (u : String) : readName (quote u).toList = some (u.toList, []) := by
    have whole : readName (quoteChars u.toList ++ []) = some (u.toList, []) :=
      read_name_quote u.toList Closes.nothing
    rw [quote, String.toList_ofList]
    rwa [List.append_nil] at whole
  have both : some (s.toList, ([] : List Char)) = some (t.toList, []) := by
    rw [← read s, ← read t, same]
  exact String.toList_injective (congrArg Prod.fst (Option.some.inj both))

theorem labels_injective : Function.Injective labels := by
  intro ls others same
  have both : some (ls, ([] : List Char)) = some (others, []) := by
    rw [← read_labels ls, ← read_labels others, same]
  exact congrArg Prod.fst (Option.some.inj both)

/-- Just what a name is quoted as is read as that name, before any text that cannot go on with it;
and just what labels are written as is read as those labels, before any text that cannot go on with
the last of them and starts no further one. -/
theorem labels_read_back :
    (∀ (name : String) (rest : List Char), Closes rest →
      readName ((quote name).toList ++ rest) = some (name.toList, rest)) ∧
    (∀ (ls : List String) (rest : List Char), Closes rest → rest.head? ≠ some ':' →
      readLabels ((labels ls).toList ++ rest) = some (ls, rest)) ∧
    (∀ ls : List String, readLabels (labels ls).toList = some (ls, [])) ∧
    Function.Injective quote ∧ Function.Injective labels := by
  refine ⟨?_, ?_, read_labels, quote_injective, labels_injective⟩
  · intro name rest closes
    rw [quote, String.toList_ofList]
    exact read_name_quote name.toList closes
  · intro ls rest closes ends
    exact read_labels_behind ls closes ends

example : labels ["a:`b`", "", "Person"] = ":`a:``b```:``:Person" := by decide +kernel

/-- Labels with colons and backticks at every place, and one without any character. -/
def thornyLabels : List String := ["a:`b`", "", "`", "Person", ":"]

theorem thorny_labels_read :
    Closes " \x7bage: 1\x7d".toList ∧
      readName ((quote "a:`b`").toList ++ " \x7bage: 1\x7d".toList) =
        some ("a:`b`".toList, " \x7bage: 1\x7d".toList) ∧
      readLabels ((labels thornyLabels).toList ++ " \x7bage: 1\x7d".toList) =
        some (thornyLabels, " \x7bage: 1\x7d".toList) := by
  have closes : Closes " \x7bage: 1\x7d".toList := by
    rintro c head
    cases head
    decide
  obtain ⟨names, behind, -⟩ := labels_read_back
  exact ⟨closes, names _ _ closes, behind _ _ closes (by decide)⟩

end GraphQuery.Identifier
