import GraphQuery.Proofs.Script.Inserted

/-! Creating one node with its values written out, and inserting it with parameters. -/
namespace GraphQuery

open Template (Legible Readable Stops legible_append legible_text stops_cons inlined)

namespace Identifier

/-- A key that is written as it is called, and that gives its parameter a name. -/
structure PlainKey (key : String) : Prop where
  segment : IsSegment key
  dollarless : Dollarless key
  filled : ∃ c ∈ key.toList, c ≠ '`'

instance (key : String) : Decidable (PlainKey key) :=
  decidable_of_iff (IsSegment key ∧ Dollarless key ∧ key.toList.any (· ≠ '`'))
    ⟨fun h => ⟨h.1, h.2.1, by simpa using h.2.2⟩,
      fun h => ⟨h.segment, h.dollarless, by simpa using h.filled⟩⟩

theorem is_segment_form {key : String} (segment : IsSegment key) :
    IsSegment (parameterForm key) := by
  unfold parameterForm
  split
  · rename_i function argument found
    obtain ⟨⟨f, a⟩, read, same⟩ := Option.map_eq_some_iff.mp found
    cases same
    have words := read_accessor_words read
    apply IsSegment.append
    · apply IsSegment.append
      · simpa [IsSegment] using pointless_words words.1
      · decide
    · simpa [IsSegment] using pointless_words words.2
  · intro point
    simp only [sanitize, sanitizeChars, String.toList_ofList, List.mem_map,
      List.mem_filter] at point
    obtain ⟨c, ⟨member, -⟩, same⟩ := point
    split at same
    · exact segment (same ▸ member)
    · exact absurd same (by decide)

theorem parameter_form_named {key : String} (filled : ∃ c ∈ key.toList, c ≠ '`') :
    parameterForm key ≠ "" := by
  obtain ⟨c, member, other⟩ := filled
  unfold parameterForm
  split
  · intro empty
    have lengths := congrArg String.length empty
    simp at lengths
  · intro empty
    have kept : c ∈ key.toList.filter (· ≠ '`') := by
      rw [List.mem_filter]
      exact ⟨member, by simpa using other⟩
    have written := List.mem_map_of_mem (f := fun c => if isWord c || c = '.' then c else '_') kept
    have nothing : sanitizeChars key.toList = [] := by
      simpa [sanitize] using empty
    rw [sanitizeChars] at nothing
    rw [nothing] at written
    cases written

theorem PlainKey.base_named {key : String} (plain : PlainKey key) : parameterBase key ≠ "" := by
  rw [parameterBase, last_segment_eq (is_segment_form plain.segment)]
  exact parameter_form_named plain.filled

end Identifier

section Row

variable {row : Row}

theorem readable_cell_names (plain : ∀ key ∈ row.keys, Identifier.PlainKey key) :
    ∀ n ∈ (Query.rowNames [row]).flatten, Readable n.render := by
  intro n member
  rw [Query.names_of_row] at member
  have base := List.mem_map_of_mem (f := ParameterName.base) member
  rw [ParameterName.bases_next_all] at base
  obtain ⟨key, here, same⟩ := List.mem_map.mp base
  apply ParameterName.readable_render
  · rw [← same]
    exact (plain key here).base_named
  · rw [← same]
    exact Identifier.base_words key

/-- Each name stands for the value in its place. -/
theorem cell_found {j : Nat} {n : ParameterName} {cell : String × Value}
    (named : (Query.rowNames [row]).flatten[j]? = some n) (here : row.entries[j]? = some cell) :
    (Query.rowParameters [row]).get? n.render = some cell.2 := by
  obtain ⟨ns, name, row_there, there, found⟩ :=
    (Query.bound_row_parameters [row]).found 0 j row cell rfl here
  have only : Query.cellNames [row] = [(Query.cellNames [row]).flatten] :=
    congrArg (fun names => [names]) (List.append_nil _).symm
  rw [only, Query.cells_of_row] at row_there
  cases row_there
  rw [List.getElem?_map, named] at there
  cases there
  exact found

theorem filled_properties (plain : ∀ key ∈ row.keys, Identifier.PlainKey key) :
    (parameterProperties row (Query.rowNames [row]).flatten).map
        (fun p => (p.1, p.2.map (Template.filled (Query.rowParameters [row])))) =
      literalProperties row := by
  apply List.ext_getElem?
  intro j
  rw [literalProperties, parameterProperties, List.getElem?_map, List.getElem?_map,
    List.getElem?_zipWith, Record.keys, List.getElem?_map]
  cases here : row.entries[j]? with
  | none => rfl
  | some cell =>
    obtain ⟨inside, -⟩ := List.getElem?_eq_some_iff.mp here
    have named := List.getElem?_eq_getElem (Query.row_fits row ▸ inside)
    have found := cell_found named here
    have key := plain cell.1 (List.mem_map_of_mem (List.mem_of_getElem? here))
    rw [named]
    simp only [Option.map_some, List.map_cons, List.map_nil, Template.filled, found,
      Option.getD_some, Identifier.last_segment_eq key.segment]

theorem legible_properties (plain : ∀ key ∈ row.keys, Identifier.PlainKey key) (next : List Char) :
    Legible (Properties.suffix (parameterProperties row (Query.rowNames [row]).flatten)) next := by
  have cells : ∀ t ∈ (parameterProperties row (Query.rowNames [row]).flatten).map
      (fun p => Part.text (Identifier.quote p.1 ++ ": ") :: p.2),
      ∀ next, Stops next → Legible t next := by
    intro t member next stops
    rw [parameterProperties, List.map_zipWith, ← List.map_uncurry_zip_eq_zipWith] at member
    obtain ⟨⟨key, name⟩, pair, rfl⟩ := List.mem_map.mp member
    obtain ⟨key_there, name_there⟩ := List.of_mem_zip pair
    have key_plain := plain key key_there
    have shown : Dollarless (Identifier.quote (Identifier.lastSegment key) ++ ": ") := by
      rw [Identifier.last_segment_eq key_plain.segment, Dollarless.append]
      exact ⟨.quote key_plain.dollarless, by decide⟩
    exact ⟨shown, readable_cell_names plain name name_there, stops, trivial⟩
  have separated : ", ".toList = ',' :: " ".toList := by decide
  -- The brace ends the last name.
  have closes : Stops (Template.chars [.text "\x7d"] ++ next) :=
    stops_cons (c := '\x7d') (by decide)
  have inside := Template.legible_joined (by decide) separated (by decide) cells closes
  rw [Properties.suffix]
  split
  · trivial
  · exact ⟨by decide, by decide, legible_append.mpr ⟨inside, legible_text (by decide) next⟩⟩

theorem parameters_suffix (ps : Properties) :
    Template.parameters ps.suffix = ps.flatMap fun p => Template.parameters p.2 := by
  rw [Properties.suffix]
  split
  · rename_i none_given
    rw [List.isEmpty_iff.mp none_given]
    rfl
  · rw [Properties.template, List.cons_append, Template.parameters_text, Template.parameters_text,
      Template.parameters_append, Template.parameters_joined, List.flatMap_map]
    exact List.append_nil _

theorem properties_bound :
    ∀ x ∈ Template.parameters
      (Properties.suffix (parameterProperties row (Query.rowNames [row]).flatten)),
      ((Query.rowParameters [row]).get? x).isSome := by
  intro x member
  rw [parameters_suffix, parameterProperties, ← List.map_uncurry_zip_eq_zipWith,
    List.flatMap_map, List.mem_flatMap] at member
  obtain ⟨⟨key, name⟩, pair, shown⟩ := member
  cases List.mem_singleton.mp shown
  obtain ⟨j, inside, named⟩ := List.mem_iff_getElem.mp (List.of_mem_zip pair).2
  have there := List.getElem?_eq_getElem (Query.row_fits row ▸ inside)
  rw [cell_found (List.getElem?_eq_some_iff.mpr ⟨inside, named⟩) there]
  rfl

theorem filled_suffix (values : Parameters) (ps : Properties) :
    ps.suffix.map (Template.filled values) =
      Properties.suffix (ps.map fun p => (p.1, p.2.map (Template.filled values))) := by
  rw [Properties.suffix, Properties.suffix, List.isEmpty_map]
  split
  · rfl
  · rw [Properties.template, Properties.template]
    simp only [List.map_cons, List.map_append, Template.filled_joined, List.map_map,
      Template.filled]
    rfl

end Row

namespace Query

variable {q : Query} {s : Settings} {row : Row}

/-- One node with the given properties, which is returned. -/
def single (q : Query) (s : Settings) (properties : Properties) : Template :=
  .text "CREATE " :: NodePattern.template ⟨q.targetAlias s, q.label.toList, properties⟩ ++
    [.text (" RETURN " ++ q.targetAlias s)]

theorem insert_single :
    q.insert s [row] = .ok (q.single s (parameterProperties row (rowNames [row]).flatten)) := by
  rw [names_of_row]
  rfl

theorem create_single : q.create s ⟨row, []⟩ = q.single s (literalProperties row) := rfl

theorem filled_single (values : Parameters) (ps : Properties) :
    (q.single s ps).map (Template.filled values) =
      q.single s (ps.map fun p => (p.1, p.2.map (Template.filled values))) := by
  simp only [single, NodePattern.template, List.map_cons, List.map_append, Template.filled,
    filled_suffix, List.cons_append, List.map_nil]

theorem parameters_single (ps : Properties) :
    (q.single s ps).parameters = Template.parameters ps.suffix := by
  simp only [single, NodePattern.template, List.cons_append, Template.parameters_text,
    Template.parameters_append, Template.parameters_nil, List.append_nil]

theorem legible_single (label : ∀ l ∈ q.label.toList, Dollarless l)
    (fallback : Dollarless s.fallbackAlias) {ps : Properties}
    (inside : ∀ next, Legible ps.suffix next) : Legible (q.single s ps) [] := by
  have target : Dollarless (q.targetAlias s) := .node_alias fallback _
  have opening : Dollarless ("(" ++ q.targetAlias s ++ Identifier.labels q.label.toList) := by
    simp only [Dollarless.append]
    exact ⟨⟨by decide, target⟩, .labels label⟩
  have returned : Dollarless (" RETURN " ++ q.targetAlias s) :=
    (Dollarless.append _ _).mpr ⟨by decide, target⟩
  have node (next : List Char) : Legible
      (NodePattern.template ⟨q.targetAlias s, q.label.toList, ps⟩) next :=
    legible_append.mpr ⟨⟨opening, inside _⟩, legible_text (by decide) _⟩
  exact legible_append.mpr ⟨⟨by decide, node _⟩, legible_text returned _⟩

/-- The text of a single row becomes that of a new node once its parameters are written out. -/
theorem insert_inlined (plain : ∀ key ∈ row.keys, Identifier.PlainKey key)
    (label : ∀ l ∈ q.label.toList, Dollarless l) (fallback : Dollarless s.fallbackAlias) :
    ∃ t, q.insert s [row] = .ok t ∧
      inlineParameters t.render (rowParameters [row]) = .ok (q.create s ⟨row, []⟩).render := by
  refine ⟨_, insert_single, ?_⟩
  have legible := legible_single label fallback (legible_properties plain)
  have bound : ∀ x ∈ (q.single s (parameterProperties row (rowNames [row]).flatten)).parameters,
      ((rowParameters [row]).get? x).isSome := by
    rw [parameters_single]
    exact properties_bound
  rw [Template.inline_render legible bound, ← Template.chars_filled, filled_single,
    filled_properties plain, create_single]
  rfl

end Query

namespace Step

/-- What is inserted for one row, with its values written out, is what creating the row sends. -/
theorem inserted_as_created (d : Dialect) (s : Session) (row : Row)
    (sorted : row.keys.Pairwise (· ≤ ·)) (plain : ∀ key ∈ row.keys, Identifier.PlainKey key)
    (label : ∀ l, s.query.label = some l → Dollarless l)
    (fallback : Dollarless d.settings.fallbackAlias) :
    ∃ inserted created : Statement,
      (run d (.insert [row]) s).2.recorder.statements = s.recorder.statements ++ [inserted] ∧
      (run d (.create ⟨row, []⟩) s).2.recorder.statements = s.recorder.statements ++ [created] ∧
      inlineParameters inserted.text inserted.parameters = .ok created.text := by
  have labels : ∀ l ∈ s.query.label.toList, Dollarless l :=
    fun l member => label l (Option.mem_toList.mp member)
  obtain ⟨t, made, same⟩ := Query.insert_inlined plain labels fallback
  have ready : [row].map Record.sorted = [row] := by
    rw [List.map_singleton, Record.sorted_of_ascending sorted]
  refine ⟨⟨.insert, t.render, Query.rowParameters [row], false⟩,
    ⟨.statement, (s.query.create d.settings ⟨row, []⟩).render, .empty, true⟩, ?_, ?_, same⟩
  · apply ((Action.sends_insert d [row]).map Answer.rows).statements
    rw [ready, made]
    rfl
  · exact ((Action.sends_create d ⟨row, []⟩).map Answer.rows).statements rfl

/-- A key that is quoted, dollar signs and quotes in the values, and a list inside a map. -/
def thornyRow : Row :=
  ⟨[("`age", .string "it's $age"), ("age", .array [.object [("$k", .string "$age_2")], .null])],
    by decide⟩

theorem thorny_row_created :
    let s : Session := { query := { label := some "Person" } }
    (run {} (.insert [thornyRow]) s).2.recorder.statements.map
        (fun x => inlineParameters x.text x.parameters) =
      (run {} (.create ⟨thornyRow, []⟩) s).2.recorder.statements.map (Except.ok ·.text) ∧
    (run {} (.create ⟨thornyRow, []⟩) s).2.recorder.statements.map Statement.text =
      ["CREATE (person:Person \x7b```age`: 'it\\'s $age', " ++
        "age: [\x7b`$k`: '$age_2'\x7d, null]\x7d) RETURN person"] := by
  intro s
  have label : ∀ l, s.query.label = some l → Dollarless l := by
    rintro l ⟨⟩
    decide
  obtain ⟨inserted, created, first, second, same⟩ :=
    inserted_as_created {} s thornyRow (by decide) (by decide) label (by decide)
  constructor
  · rw [first, second]
    simp [s, same]
  · decide +kernel

end Step
end GraphQuery
