import GraphQuery.Proofs.Parameter.Fresh
import GraphQuery.Proofs.Record.Merge
import GraphQuery.Query

/-! The cells of a batch of rows are bound once each, under names of their own. -/
namespace GraphQuery.Query

/-- Each row has as many names as cells. -/
abbrev Fits {α : Type} : List Row → List (List α) → Prop :=
  List.Forall₂ fun row names => names.length = row.entries.length

theorem row_names_from_fit (used : List ParameterName) (rows : List Row) :
    Fits rows (rowNamesFrom used rows) := by
  induction rows generalizing used with
  | nil => exact .nil
  | cons row rest ih =>
    have bases := congrArg List.length
      (ParameterName.bases_next_all used (row.keys.map Identifier.parameterBase))
    rw [List.length_map, List.length_map, Record.keys, List.length_map] at bases
    exact .cons bases (ih _)

/-- The names of a row step past those of the rows before it. -/
theorem flatten_row_names_from (used : List ParameterName) (rows : List Row) :
    (rowNamesFrom used rows).flatten = ParameterName.nextAll used
      (rows.flatMap fun row => row.keys.map Identifier.parameterBase) := by
  induction rows generalizing used with
  | nil => rfl
  | cons row rest ih =>
    rw [rowNamesFrom, List.flatten_cons, ih, List.flatMap_cons, ParameterName.next_all_append]

/-- The names that the cells are written with, row by row. -/
def cellNames (rows : List Row) : List (List String) :=
  (rowNames rows).map (·.map ParameterName.render)

theorem cell_names_fit (rows : List Row) : Fits rows (cellNames rows) := by
  apply List.forall₂_map_right_iff.mpr
  apply (row_names_from_fit [] rows).imp
  intro row names fits
  rw [List.length_map, fits]

theorem cell_names_distinct (rows : List Row) : (cellNames rows).flatten.Nodup := by
  have names := flatten_row_names_from [] rows
  rw [cellNames, ← List.map_flatten, rowNames, names]
  exact ParameterName.next_all_distinct _ _

/-- The cells with their names, in row and key order. -/
def cells (rows : List Row) : List (String × Value) :=
  (List.zipWith List.zip (cellNames rows) (rows.map Record.values)).flatten

theorem names_of_fitting {rows : List Row} {names : List (List String)} (fits : Fits rows names) :
    (List.zipWith List.zip names (rows.map Record.values)).flatten.map Prod.fst =
      names.flatten := by
  induction fits with
  | nil => rfl
  | @cons row ns rest more here _ ih =>
    have own : (ns.zip row.values).map Prod.fst = ns := by
      apply List.map_fst_zip
      simp [here, Record.values]
    rw [List.map_cons, List.zipWith_cons_cons, List.flatten_cons, List.map_append, own, ih,
      List.flatten_cons]

theorem entries_row_parameters (rows : List Row) : (rowParameters rows).entries = cells rows := by
  have names : (cells rows).map Prod.fst = (cellNames rows).flatten :=
    names_of_fitting (cell_names_fit rows)
  have same : (List.zipWith named (rowNames rows) (rows.map Record.values)).flatten =
      cells rows := by
    rw [cells, cellNames, List.zipWith_map_left]
    rfl
  rw [rowParameters, same]
  apply Record.insert_all_new
  · rw [names]
    exact cell_names_distinct rows
  · intro key _ inside
    cases inside

theorem length_of_fitting {α : Type} {rows : List Row} {names : List (List α)}
    (fits : Fits rows names) :
    names.flatten.length = (rows.flatMap Record.entries).length := by
  induction fits with
  | nil => rfl
  | cons here _ ih =>
    rw [List.flatten_cons, List.length_append, ih, here, List.flatMap_cons, List.length_append]

theorem cell_named {rows : List Row} {names : List (List String)} (fits : Fits rows names)
    {i j : Nat} {row : Row} {cell : String × Value} (here : rows[i]? = some row)
    (there : row.entries[j]? = some cell) :
    ∃ ns name, names[i]? = some ns ∧ ns[j]? = some name ∧
      (name, cell.2) ∈ (List.zipWith List.zip names (rows.map Record.values)).flatten := by
  induction fits generalizing i with
  | nil => cases here
  | @cons first ns rest more fit _ ih =>
    rw [List.map_cons, List.zipWith_cons_cons, List.flatten_cons]
    cases i with
    | zero =>
      cases here
      obtain ⟨inside, -⟩ := List.getElem?_eq_some_iff.mp there
      have within : j < ns.length := fit ▸ inside
      have named : ns[j]? = some ns[j] := List.getElem?_eq_getElem within
      have valued : row.values[j]? = some cell.2 := by
        rw [Record.values, List.getElem?_map, there]
        rfl
      have paired : (ns.zip row.values)[j]? = some (ns[j], cell.2) :=
        List.getElem?_zip_eq_some.mpr ⟨named, valued⟩
      exact ⟨ns, _, rfl, named, List.mem_append_left _ (List.mem_of_getElem? paired)⟩
    | succ i =>
      obtain ⟨ms, name, row_there, named, member⟩ := ih here
      exact ⟨ms, name, row_there, named, List.mem_append_right _ member⟩

/-- Each cell is held under the name in its place, no two names are the same, and there is nothing
else. -/
structure Bound (rows : List Row) (names : List (List String)) (sent : Parameters) : Prop where
  fits : Fits rows names
  distinct : names.flatten.Nodup
  found : ∀ (i j : Nat) (row : Row) (cell : String × Value), rows[i]? = some row →
    row.entries[j]? = some cell → ∃ ns name, names[i]? = some ns ∧ ns[j]? = some name ∧
      sent.get? name = some cell.2
  counted : sent.entries.length = (rows.flatMap Record.entries).length

theorem bound_row_parameters (rows : List Row) :
    Bound rows (cellNames rows) (rowParameters rows) := by
  have fits := cell_names_fit rows
  refine ⟨fits, cell_names_distinct rows, ?_, ?_⟩
  · intro i j row cell here there
    obtain ⟨ns, name, row_there, named, member⟩ := cell_named fits here there
    refine ⟨ns, name, row_there, named, Record.get_of_mem ?_⟩
    rwa [entries_row_parameters]
  · have names := congrArg List.length (names_of_fitting fits)
    rw [List.length_map, length_of_fitting fits] at names
    rw [entries_row_parameters]
    exact names

end GraphQuery.Query
