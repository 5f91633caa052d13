import GraphQuery.Proofs.Predicate.Legible
import GraphQuery.Proofs.Template.Asked

/-! One name throughout: what a value is stored under, what is written into the text, and what is
read from the text again. -/
namespace GraphQuery

namespace Template

/-- A name is read as far as it goes. -/
theorem scan_dollar (cs : List Char) :
    scan none ('$' :: cs) =
      named (cs.takeWhile isNameChar) :: scan none (cs.dropWhile isNameChar) := by
  have stops : Stops (cs.dropWhile isNameChar) := by
    intro c head
    have outside := List.head?_dropWhile_not isNameChar cs
    rw [head] at outside
    simpa using outside
  have word : ∀ c ∈ cs.takeWhile isNameChar, isNameChar c := fun c member =>
    List.mem_takeWhile_imp member
  have read := scan_name word [] stops
  rw [List.takeWhile_append_dropWhile, List.nil_append] at read
  rw [scan, if_pos rfl]
  exact read

theorem named_eq_parameter {cs : List Char} {name : String} :
    named cs = .parameter name ↔ name ≠ "" ∧ cs = name.toList := by
  cases cs with
  | nil =>
    constructor
    · intro same
      cases same
    · rintro ⟨given, empty⟩
      exact absurd (String.toList_eq_nil_iff.mp empty.symm) given
  | cons c more =>
    constructor
    · intro same
      cases same
      rw [String.toList_ofList]
      exact ⟨by simp, rfl⟩
    · rintro ⟨-, same⟩
      rw [named, same, String.ofList_toList]
      intro empty
      cases empty

theorem run_eq_nil {after : List Char} : after.takeWhile isNameChar = [] ↔ Stops after := by
  cases after with
  | nil => simp [Stops]
  | cons c rest => simp [Stops]

/-- Just a name that is not empty, before what ends a name, is read as it stands. -/
theorem scan_name_iff {name : String} (word : ∀ c ∈ name.toList, isNameChar c)
    (before after : List Char) :
    scan none (before ++ '$' :: (name.toList ++ after)) =
      scan none before ++ .parameter name :: scan none after ↔ name ≠ "" ∧ Stops after := by
  rw [scan_append before (stops_dollar _), List.append_cancel_left_eq, scan_dollar,
    List.takeWhile_append_of_pos word, List.dropWhile_append_of_pos word, List.cons.injEq,
    named_eq_parameter]
  constructor
  · rintro ⟨⟨given, run⟩, -⟩
    exact ⟨given, run_eq_nil.mp (List.append_right_eq_self.mp run)⟩
  · rintro ⟨given, stops⟩
    have run := run_eq_nil.mpr stops
    have rest : after.dropWhile isNameChar = after := by
      have whole := List.takeWhile_append_dropWhile (p := isNameChar) (l := after)
      rwa [run, List.nil_append] at whole
    rw [run, rest, List.append_nil]
    exact ⟨⟨given, rfl⟩, rfl⟩

end Template

/-- Where the name stands in a text, its value is written. -/
theorem inline_name {name : String} {value : Value} {values : Parameters}
    (bound : values.get? name = some value) {before after : String}
    (read : Template.scan none (before.toList ++ '$' :: (name.toList ++ after.toList)) =
      Template.scan none before.toList ++ .parameter name :: Template.scan none after.toList) :
    inlineParameters (before ++ "$" ++ name ++ after) values =
      (inlineParameters before values).bind fun text =>
        (inlineParameters after values).map fun rest => text ++ value.literal ++ rest := by
  have chars : (before ++ "$" ++ name ++ after).toList =
      before.toList ++ '$' :: (name.toList ++ after.toList) := by simp
  simp only [inlineParameters, Template.ofText, chars, read, Template.fill_append, Template.fill,
    bound]
  cases Template.fill values (.scan none before.toList) with
  | error e => rfl
  | ok text =>
    cases Template.fill values (.scan none after.toList) with
    | error e => rfl
    | ok rest => simp [Except.bind, Except.map, Value.literal, String.append_assoc]

namespace ParameterName

open Identifier (parameterBase lastSegment isWord)

/-- Whatever the column and the use of it, the name is made of ASCII letters, digits and
underscores. So a value is stored under the name as it is written. Behind a dollar sign the name is
read as it is written exactly if it is not empty and no letter, digit or underscore of any script
follows; then its value is put in its place. -/
theorem stored_and_read_as_written (column : String) (occurrence : Nat) :
    let name := (⟨parameterBase column, occurrence⟩ : ParameterName).render
    (∀ c ∈ name.toList, isWord c) ∧
    lastSegment name = name ∧
    (∀ (bs : Buckets) (value : Value) (b : Bucket),
      bs.insert name value b =
        bs.modify (fun slot => { slot with entries := slot.entries.insert name value }) b ∧
      ((bs.insert name value b).slot b).entries.get? name = some value) ∧
    (∀ before after : List Char,
      Template.scan none (before ++ '$' :: (name.toList ++ after)) =
        Template.scan none before ++ .parameter name :: Template.scan none after ↔
      name ≠ "" ∧ Template.Stops after) ∧
    (∀ before after : String, name ≠ "" → Template.Stops after.toList →
      ∀ (values : Parameters) (value : Value), values.get? name = some value →
        inlineParameters (before ++ "$" ++ name ++ after) values =
          (inlineParameters before values).bind fun text =>
            (inlineParameters after values).map fun rest => text ++ value.literal ++ rest) := by
  intro name
  have words : ∀ c ∈ name.toList, isWord c := render_words (Identifier.base_words column)
  have segment : Identifier.IsSegment name := Identifier.pointless_words words
  have scanned := Template.scan_name_iff fun c member => is_name_char_of_word (words c member)
  refine ⟨words, Identifier.last_segment_eq segment, ?_, scanned, ?_⟩
  · intro bs value b
    have stored := bs.insert_segment segment value b
    refine ⟨stored, ?_⟩
    rw [stored, Buckets.slot_modify, if_pos rfl, Record.get_insert, if_pos rfl]
  · intro before after given stops values value bound
    exact inline_name bound ((scanned before.toList after.toList).mpr ⟨given, stops⟩)

/-- Of a path with quotes, blanks and an accent, the second name is stored and read. -/
theorem unusual_column_read :
    let name := (⟨parameterBase "straße.`first näme`", 2⟩ : ParameterName).render
    let values : Parameters := (Buckets.insert {} name (.string "north") .filter).flatten
    name = "first_n_me_2" ∧ (∀ c ∈ name.toList, isWord c) ∧ Template.Stops ", b".toList ∧
      values.get? name = some (.string "north") ∧
      inlineParameters ("a = " ++ "$" ++ name ++ ", b") values = .ok "a = \'north\', b" := by
  intro name values
  obtain ⟨words, -, -, -, inlined⟩ := stored_and_read_as_written "straße.`first näme`" 2
  have stops : Template.Stops ", b".toList := Template.stops_cons (by decide +kernel)
  have bound : values.get? name = some (.string "north") := by decide +kernel
  have written := inlined "a = " ", b" (by decide +kernel) stops values (.string "north") bound
  refine ⟨by decide +kernel, words, stops, bound, written.trans ?_⟩
  decide +kernel

end ParameterName
end GraphQuery
