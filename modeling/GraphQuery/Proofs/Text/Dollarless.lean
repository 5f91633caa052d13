import GraphQuery.Cypher.Select
import GraphQuery.Proofs.Parameter.Stored
import GraphQuery.Proofs.Text.Lower
import Mathlib.Data.List.Basic

/-! Texts without a dollar sign. Names, columns and keywords that are made of such texts are such
texts. -/
namespace GraphQuery

/-- No parameter starts in the text. -/
def Dollarless (s : String) : Prop := '$' ∉ s.toList

instance (s : String) : Decidable (Dollarless s) := inferInstanceAs (Decidable ('$' ∉ s.toList))

namespace Dollarless

@[simp] theorem append (s t : String) : Dollarless (s ++ t) ↔ Dollarless s ∧ Dollarless t := by
  simp [Dollarless]

@[simp] theorem of_list (cs : List Char) : Dollarless (String.ofList cs) ↔ '$' ∉ cs := by
  simp [Dollarless]

theorem not_mem_intercalate {separator : List Char} (plain : '$' ∉ separator)
    {ts : List (List Char)} (each : ∀ t ∈ ts, '$' ∉ t) : '$' ∉ separator.intercalate ts := by
  induction ts with
  | nil => simp
  | cons t rest ih =>
    have here := each t List.mem_cons_self
    have later := ih fun u hu => each u (List.mem_cons_of_mem _ hu)
    cases rest with
    | nil => simpa using here
    | cons u more =>
      rw [List.intercalate_cons_cons]
      simp only [List.mem_append, not_or]
      exact ⟨⟨here, plain⟩, later⟩

theorem intercalate {separator : String} (plain : Dollarless separator) {ts : List String}
    (each : ∀ t ∈ ts, Dollarless t) : Dollarless (separator.intercalate ts) := by
  rw [Dollarless, String.toList_intercalate]
  refine not_mem_intercalate plain fun cs member => ?_
  obtain ⟨t, ht, rfl⟩ := List.mem_map.mp member
  exact each t ht

theorem repr (n : Nat) : Dollarless n.repr := by
  intro member
  rw [Nat.toList_repr] at member
  have digit := Nat.isDigit_of_mem_toDigits (by decide) (by decide) member
  exact absurd digit (by decide)

theorem render {n : ParameterName} (base : Dollarless n.base) : Dollarless n.render := by
  unfold ParameterName.render
  split
  · exact (append _ _).mpr ⟨(append _ _).mpr ⟨base, by decide⟩, repr _⟩
  · exact base

/-! Letter case. -/

theorem of_nat_ne {n : Nat} (above : 36 < n) : '$' ≠ Char.ofNat n := by
  by_cases valid : n.isValidChar
  · have code := Text.code_of_nat valid
    intro same
    rw [← same] at code
    have dollar : '$'.toNat = 36 := rfl
    omega
  · have zero : Char.ofNat n = '\x00' := by
      unfold Char.ofNat
      rw [dif_neg valid]
      rfl
    rw [zero]
    decide

theorem image_above {runs : List (Nat × Nat × Nat × Nat)} (above : ∀ r ∈ runs, 36 < r.2.2.2)
    {n m : Nat} (found : Text.imageIn runs n = some m) : 36 < m := by
  obtain ⟨r, hr, -, -, first, -⟩ := Text.image_in_run found
  exact Nat.lt_of_lt_of_le (above r hr) first

theorem lower_runs_above : ∀ r ∈ Text.lowerRuns, 36 < r.2.2.2 := by decide +kernel

theorem upper_runs_above : ∀ r ∈ Text.upperRuns, 36 < r.2.2.2 := by decide +kernel

theorem expansions_above : ∀ e ∈ Text.upperExpansions, ∀ n ∈ e.2, 36 < n := by decide +kernel

theorem ascii_case {c : Char} (other : '$' ≠ c) (ascii : c.toNat < 128) :
    '$' ≠ c.toLower ∧ '$' ≠ c.toUpper :=
  Text.ascii_forall (p := fun c => '$' ≠ c → '$' ≠ c.toLower ∧ '$' ≠ c.toUpper) (by decide +kernel)
    ascii other

theorem lower_char {c : Char} (other : '$' ≠ c) : '$' ∉ Text.lowerChar c := by
  unfold Text.lowerChar
  split
  · rename_i ascii
    simpa using (ascii_case other ascii).1
  · split
    · decide
    · split
      · rename_i found
        simpa using of_nat_ne (image_above lower_runs_above found)
      · simpa using other

theorem upper_char {c : Char} (other : '$' ≠ c) : '$' ∉ Text.upperChar c := by
  unfold Text.upperChar
  split
  · rename_i ascii
    simpa using (ascii_case other ascii).2
  · split
    · rename_i image found
      intro member
      obtain ⟨n, hn, same⟩ := List.mem_map.mp member
      obtain ⟨before, after, split, -⟩ := List.lookup_eq_some_iff.mp found
      have entry : (c.toNat, image) ∈ Text.upperExpansions := by
        rw [split]
        simp
      exact of_nat_ne (expansions_above _ entry n hn) same.symm
    · split
      · rename_i found
        simpa using of_nat_ne (image_above upper_runs_above found)
      · simpa using other

theorem lower_from {before cs : List Char} (plain : '$' ∉ cs) : '$' ∉ Text.lowerFrom before cs := by
  induction cs generalizing before with
  | nil => exact plain
  | cons c rest ih =>
    rw [List.mem_cons, not_or] at plain
    rw [Text.lowerFrom, List.mem_append, not_or]
    refine ⟨?_, ih plain.2⟩
    split
    · split <;> decide
    · exact lower_char plain.1

/-- A dollar sign has no other case. -/
theorem dollar_lower_from {before cs : List Char} (inside : '$' ∈ cs) :
    '$' ∈ Text.lowerFrom before cs := by
  induction cs generalizing before with
  | nil => cases inside
  | cons c rest ih =>
    rw [Text.lowerFrom, List.mem_append]
    rcases List.mem_cons.mp inside with here | later
    · subst here
      rw [if_neg (by decide)]
      exact .inl (by decide)
    · exact .inr (ih later)

theorem of_lower {s : String} (plain : Dollarless (Text.lower s)) : Dollarless s := by
  rw [Text.lower, of_list] at plain
  exact fun inside => plain (dollar_lower_from inside)

theorem of_known {operator : String} (known : Operator.isKnown operator) :
    Dollarless operator := by
  have listed : ∀ word ∈ Operator.known, Dollarless word := by decide
  exact of_lower (listed _ (List.contains_iff_mem.mp known))

theorem upper {s : String} (plain : Dollarless s) : Dollarless (Text.upper s) := by
  rw [Text.upper, of_list, List.mem_flatMap]
  rintro ⟨c, hc, member⟩
  exact upper_char (fun same => plain (same ▸ hc)) member

/-! Names and columns. -/

theorem escape {cs : List Char} (plain : '$' ∉ cs) : '$' ∉ Identifier.escape cs := by
  induction cs with
  | nil => exact plain
  | cons c rest ih =>
    rw [List.mem_cons, not_or] at plain
    rw [Identifier.escape]
    split
    · simpa using ih plain.2
    · simpa using ⟨plain.1, ih plain.2⟩

theorem quote {s : String} (plain : Dollarless s) : Dollarless (Identifier.quote s) := by
  rw [Identifier.quote, of_list, Identifier.quoteChars]
  split
  · exact plain
  · simpa using escape plain

theorem labels {ls : List String} (each : ∀ l ∈ ls, Dollarless l) :
    Dollarless (Identifier.labels ls) := by
  rw [Dollarless, Identifier.labels, String.toList_join, List.mem_flatMap]
  rintro ⟨l, hl, member⟩
  obtain ⟨label, here, rfl⟩ := List.mem_map.mp hl
  have written : Dollarless (":" ++ Identifier.quote label) :=
    (append _ _).mpr ⟨by decide, quote (each label here)⟩
  exact written member

/-- Only letters and digits of a label get into its alias. -/
theorem alias_of_label (label : String) : Dollarless (Identifier.aliasOfLabel label) := by
  have kept : '$' ∉ Text.lowerFrom []
      (label.toList.filter fun c => Text.isAlphanumeric c || c = '_') := by
    apply lower_from
    intro member
    have letter := (List.mem_filter.mp member).2
    exact absurd letter (by decide +kernel)
  unfold Identifier.aliasOfLabel
  dsimp only
  split
  · rename_i c cs found
    rw [found] at kept
    rw [of_list]
    split
    · simpa using kept
    · exact kept
  · decide

end Dollarless

namespace Identifier

theorem is_word_of_start {c : Char} (start : isStart c) : isWord c := by
  simp only [isStart, isWord, Char.isAlphanum, Bool.or_eq_true] at *
  tauto

theorem word_of_plain {cs : List Char} (plain : isPlain cs) : ∀ c ∈ cs, isWord c := by
  cases cs with
  | nil => cases plain
  | cons c more =>
    rw [isPlain, Bool.and_eq_true, List.all_eq_true] at plain
    exact List.forall_mem_cons.mpr ⟨is_word_of_start plain.1, plain.2⟩

theorem pointless_words {cs : List Char} (words : ∀ c ∈ cs, isWord c) : '.' ∉ cs := by
  intro point
  exact absurd (words '.' point) (by decide)

theorem read_plain_words {cs word rest : List Char} (read : readPlain cs = some (word, rest)) :
    ∀ c ∈ word, isWord c := by
  cases cs with
  | nil => cases read
  | cons c more =>
    rw [readPlain] at read
    split at read
    · rename_i start
      cases read
      exact List.forall_mem_cons.mpr ⟨is_word_of_start start, fun d hd => List.mem_takeWhile_imp hd⟩
    · cases read

theorem read_accessor_words {cs function argument : List Char}
    (read : readAccessor cs = some (function, argument)) :
    (∀ c ∈ function, isWord c) ∧ ∀ c ∈ argument, isWord c := by
  simp only [readAccessor, Option.bind_eq_bind, Option.bind_eq_some_iff] at read
  obtain ⟨⟨word, _⟩, first, _, -, ⟨other, _⟩, second, _, -, last⟩ := read
  split at last
  · cases last
    exact ⟨read_plain_words first, read_plain_words second⟩
  · cases last

/-- The form of a property in parameters is made of words and points. -/
theorem parameter_form_chars (s : String) :
    ∀ c ∈ (parameterForm s).toList, isWord c ∨ c = '.' := by
  intro c member
  unfold parameterForm at member
  split at member
  · rename_i function argument found
    obtain ⟨⟨f, a⟩, read, same⟩ := Option.map_eq_some_iff.mp found
    cases same
    have words := read_accessor_words read
    simp only [String.toList_append, String.toList_ofList, List.mem_append] at member
    rcases member with (inside | dash) | inside
    · exact .inl (words.1 c inside)
    · have joined : c = '_' := by simpa using dash
      subst joined
      exact .inl (by decide)
    · exact .inl (words.2 c inside)
  · simp only [sanitize, sanitizeChars, String.toList_ofList, List.mem_map] at member
    obtain ⟨d, -, rfl⟩ := member
    split
    · rename_i kept
      simpa using kept
    · exact .inl (by decide)

theorem base_words (column : String) : ∀ c ∈ (parameterBase column).toList, isWord c := by
  intro c member
  have segment := is_segment_last (parameterForm column)
  have inside : c ∈ (parameterForm column).toList := by
    simp only [parameterBase, lastSegment, lastSegmentChars, String.toList_ofList,
      List.mem_reverse] at member
    exact List.mem_reverse.mp ((List.takeWhile_sublist _).subset member)
  rcases parameter_form_chars column c inside with word | point
  · exact word
  · subst point
    exact absurd member segment

theorem dollarless_parameter_form (s : String) : Dollarless (parameterForm s) := by
  intro member
  rcases parameter_form_chars s '$' member with word | point
  · exact absurd word (by decide)
  · exact absurd point (by decide)

theorem dollarless_last_segment {s : String} (plain : Dollarless s) :
    Dollarless (lastSegment s) := by
  simp only [lastSegment, lastSegmentChars, Dollarless.of_list, List.mem_reverse]
  exact fun member => plain (List.mem_reverse.mp ((List.takeWhile_sublist _).subset member))

end Identifier

theorem Dollarless.node_alias {s : Settings} (fallback : Dollarless s.fallbackAlias)
    (labels : List String) : Dollarless (s.nodeAlias labels) := by
  unfold Settings.nodeAlias
  cases labels with
  | nil => exact fallback
  | cons label rest =>
    dsimp only
    split
    · exact fallback
    · exact .alias_of_label label

/-- The conventions put no dollar sign into a text. -/
structure Settings.Dollarless (s : Settings) : Prop where
  identityFunction : GraphQuery.Dollarless s.identityFunction
  fallbackAlias : GraphQuery.Dollarless s.fallbackAlias

namespace Settings.Dollarless

variable {s : Settings}

theorem node_alias (plain : s.Dollarless) (labels : List String) :
    GraphQuery.Dollarless (s.nodeAlias labels) :=
  .node_alias plain.fallbackAlias labels

theorem target_alias (plain : s.Dollarless) (q : Query) : GraphQuery.Dollarless (q.targetAlias s) :=
  plain.node_alias q.label.toList

theorem accessor (plain : s.Dollarless) {node : String} (named : GraphQuery.Dollarless node) :
    GraphQuery.Dollarless (s.accessor node) := by
  simp only [Settings.accessor, GraphQuery.Dollarless.append]
  exact ⟨⟨⟨plain.identityFunction, by decide⟩, named⟩, by decide⟩

theorem alias_in (plain : s.Dollarless) {n : Node}
    (own : ∀ a ∈ n.ownAlias.toList, GraphQuery.Dollarless a) :
    GraphQuery.Dollarless (n.aliasIn s) := by
  unfold Node.aliasIn
  cases called : n.ownAlias with
  | none => exact plain.node_alias n.labels
  | some a => exact own a (by simp [called])

theorem trimmed {cs : List Char} (plain : '$' ∉ cs) : '$' ∉ Text.trimChars cs := by
  intro member
  simp only [Text.trimChars, List.mem_reverse] at member
  have inner := (List.dropWhile_sublist _).subset member
  rw [List.mem_reverse] at inner
  exact plain ((List.dropWhile_sublist _).subset inner)

theorem split_node {target : String} {column : List Char} (node : GraphQuery.Dollarless target)
    (plain : '$' ∉ column) :
    GraphQuery.Dollarless (splitNode target column).1 ∧
      GraphQuery.Dollarless (splitNode target column).2 := by
  unfold splitNode
  split
  · exact ⟨node, by rwa [GraphQuery.Dollarless.of_list]⟩
  · rename_i rest dropped
    have behind : ∀ c ∈ rest, c ∈ column := by
      intro c hc
      refine (List.dropWhile_sublist (· ≠ '.')).subset ?_
      rw [dropped]
      exact List.mem_cons_of_mem _ hc
    simp only [GraphQuery.Dollarless.of_list]
    exact ⟨fun member => plain ((List.takeWhile_sublist _).subset member),
      fun member => plain (behind _ member)⟩

theorem column (plain : s.Dollarless) {target column : String}
    (node : GraphQuery.Dollarless target) (named : GraphQuery.Dollarless column) :
    GraphQuery.Dollarless (s.column target column) := by
  have cut := trimmed named
  unfold Settings.column
  dsimp only
  split
  · rwa [GraphQuery.Dollarless.of_list]
  · split
    · exact node
    · have parts := split_node node cut
      split
      · exact plain.accessor parts.1
      · simp only [GraphQuery.Dollarless.append]
        exact ⟨⟨parts.1, by decide⟩, .quote parts.2⟩

theorem projected_column (plain : s.Dollarless) {target column : String}
    (node : GraphQuery.Dollarless target) (named : GraphQuery.Dollarless column) :
    GraphQuery.Dollarless (s.projectedColumn target column) := by
  have result : GraphQuery.Dollarless (resultName column) := by
    unfold resultName
    split
    · exact Identifier.dollarless_parameter_form column
    · exact Identifier.dollarless_last_segment named
  unfold projectedColumn
  split
  · exact node
  · simp only [GraphQuery.Dollarless.append]
    exact ⟨⟨plain.column node named, by decide⟩, .quote result⟩

theorem projection (plain : s.Dollarless) {target : String} (node : GraphQuery.Dollarless target)
    {columns : Option (List String)}
    (named : ∀ list, columns = some list → ∀ column ∈ list, GraphQuery.Dollarless column) :
    GraphQuery.Dollarless (s.projection target columns) := by
  unfold Settings.projection
  dsimp only
  split
  · exact node
  · refine .intercalate (by decide) fun t ht => ?_
    obtain ⟨column, hc, rfl⟩ := List.mem_map.mp ht
    cases columns with
    | none => cases hc
    | some list => exact plain.projected_column node (named list rfl column hc)

end Settings.Dollarless
end GraphQuery
