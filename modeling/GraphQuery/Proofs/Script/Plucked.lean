import GraphQuery.Proofs.Identifier.Accessor
import GraphQuery.Proofs.Identifier.Reading
import GraphQuery.Proofs.Script.Inserted

/-! Plucking looks a column up by the last part of its path. That is the name it was projected
under, unless it has a parenthesis in it. -/
namespace GraphQuery

open Identifier (lastSegment readName Closes)
open ResultSet (keyText)
open Template (render render_append render_single)

/-- A column, and the name it comes back under. -/
def Settings.named (s : Settings) (target column : String) : String :=
  s.column target column ++ " AS " ++ Identifier.quote (resultName column)

theorem Settings.projection_named (s : Settings) (target : String) {columns : List String}
    (given : columns ≠ []) (named : ∀ column ∈ columns, column ≠ "*") :
    s.projection target (some columns) = ", ".intercalate (columns.map (s.named target)) := by
  have some_named : ¬ columns.all (· = "*") := by
    obtain ⟨column, member⟩ := List.exists_mem_of_ne_nil columns given
    intro all
    have star := List.all_eq_true.mp all column member
    exact named column member (of_decide_eq_true star)
  have each : columns.map (s.projectedColumn target) = columns.map (s.named target) :=
    List.map_congr_left fun column member => if_neg (named column member)
  rw [projection, Option.getD_some, if_neg some_named, each]

namespace Query

variable {d : Dialect} {q : Query}

/-- What a query without a projection sends for these columns. -/
def projected (q : Query) (s : Settings) (columns : List String) : Statement :=
  ⟨.select, (q.reading s).render ++ (" RETURN " ++
    ", ".intercalate (columns.map (s.named (q.targetAlias s))) ++ q.ordering s ++ q.paging),
    q.parameters, false⟩

theorem selection_projecting (unasked : q.aggregate = none) (unprojected : q.columns = none)
    (willing : d.refuses q = false) {columns : List String} (given : columns ≠ [])
    (named : ∀ column ∈ columns, column ≠ "*") :
    (q.projecting columns).selection d = .ok (q.projected d.settings columns) := by
  have returned : (q.projecting columns).projection d.settings =
      ", ".intercalate (columns.map (d.settings.named (q.targetAlias d.settings))) := by
    rw [← d.settings.projection_named _ given named]
    simp only [projection, projecting, unasked, unprojected, Option.none_or]
    rfl
  have selected : d.select (q.projecting columns) =
      .ok ((q.projecting columns).select d.settings) := by
    have still : d.refuses (q.projecting columns) = false := willing
    rw [Dialect.select, still]
    rfl
  rw [selection, selected, select, Except.map, Except.map, render_append, render_single, returned]
  rfl

/-- Behind the last column, every clause starts with a space. -/
theorem closes_tail (q : Query) (s : Settings) : Closes (q.ordering s ++ q.paging).toList := by
  have ordered : Closes (q.ordering s).toList := by
    rw [ordering]
    split
    · exact .nothing
    · exact .begun (c := ' ') (by decide) (by decide) _
  have paged : Closes q.paging.toList := by
    rw [paging]
    apply Closes.append
    · cases q.offset with
      | none => exact .nothing
      | some n => exact .begun (c := ' ') (by decide) (by decide) _
    · cases q.limit with
      | none => exact .nothing
      | some n => exact .begun (c := ' ') (by decide) (by decide) _
  exact ordered.append paged

end Query

theorem Action.Sends.answer {α : Type} {statement : Query → Except CompileError Statement}
    {change : Query → Query} {read : ResultSet → α} {action : Action α}
    (sends : Action.Sends statement change read action) {s : Session} {x : Statement}
    (made : statement s.query = .ok x) {rows : ResultSet} {later : List Reply}
    (replied : s.recorder.replies = .ok rows :: later) : (action s).1 = .ok (read rows) := by
  obtain ⟨answer, t, ran, -, sent⟩ := sends s
  simp only [made, Recorder.execute, replied] at sent
  rw [ran]
  exact sent.1

theorem ResultSet.pluck_named {name : String} {rows : List Row} {values : List Value}
    (keyed : rows.map (·.get? name) = values.map some) : (ofRows rows).pluck name = values := by
  have looked : rows.map (fun row => (row.get? name).getD .null) =
      (rows.map (·.get? name)).map (·.getD .null) := by rw [List.map_map]; rfl
  rw [pluck]
  change rows.map (fun row => (row.get? name).getD .null) = values
  rw [looked, keyed, List.map_map]
  exact List.map_id values

theorem ResultSet.pluck_keyed_named {name key : String} {rows : List Row}
    {pairs : List (Value × Value)}
    (keyed : rows.map (fun row => (row.get? key, row.get? name)) =
      pairs.map fun p => (some p.1, some p.2)) :
    (ofRows rows).pluckKeyed name key =
      .ofList (pairs.map fun p => (keyText (some p.1), p.2)) := by
  let entry (p : Option Value × Option Value) : String × Value := (keyText p.1, p.2.getD .null)
  have looked : (rows.map fun row => (row.get? key, row.get? name)).map entry =
      rows.map fun row => (keyText (row.get? key), (row.get? name).getD .null) := by
    rw [List.map_map]
    rfl
  have given : (pairs.map fun p => (some p.1, some p.2)).map entry =
      pairs.map fun p => (keyText (some p.1), p.2) := by
    rw [List.map_map]
    rfl
  exact congrArg Record.ofList (looked.symm.trans (keyed ▸ given))

theorem ResultSet.pluck_other {name other : String} (apart : name ≠ other) {rows : List Row}
    (others : ∀ row ∈ rows, row.keys = [other]) :
    (ofRows rows).pluck name = rows.map fun _ => .null := by
  apply List.map_congr_left
  intro row member
  have absent : name ∉ row.keys := by
    rw [others row member, List.mem_singleton]
    exact apart
  rw [Record.mem_keys_iff, Option.not_isSome_iff_eq_none] at absent
  rw [absent, Option.getD_none]

namespace Step

variable {d : Dialect} {s : Session}

/-- The columns that are plucked are the ones that are returned, each under a name that reads back
as its result name. A column is looked up under that name unless it has a parenthesis in it; with
one, and nothing else in the rows, all that is found is null. -/
theorem plucked_as_projected (reached : Reached d s) (unprojected : s.query.columns = none)
    (willing : d.refuses s.query = false) :
    let q := s.query
    let sentBy := fun step => (run d step s).2.recorder.statements
    let answer := fun step => (run d step s).1
    (∀ column, lastSegment column = resultName column ↔ '(' ∉ column.toList) ∧
    (∀ column rest, rest = q.ordering d.settings ++ q.paging ∨ (∃ more, rest = ", " ++ more) →
      readName (Identifier.quote (resultName column) ++ rest).toList =
        some ((resultName column).toList, rest.toList)) ∧
    (∀ column, column ≠ "*" →
      sentBy (.pluck column) = s.recorder.statements ++ [q.projected d.settings [column]] ∧
      ∀ rows later, s.recorder.replies = .ok (.ofRows rows) :: later →
        answer (.pluck column) =
          .ok (.values (rows.map fun row => (row.get? (lastSegment column)).getD .null)) ∧
        ('(' ∉ column.toList → ∀ values, rows.map (·.get? (resultName column)) = values.map some →
          answer (.pluck column) = .ok (.values values)) ∧
        ('(' ∈ column.toList → (∀ row ∈ rows, row.keys = [resultName column]) →
          answer (.pluck column) = .ok (.values (rows.map fun _ => .null)))) ∧
    (∀ column key, column ≠ "*" → key ≠ "*" →
      sentBy (.pluckKeyed column key) =
        s.recorder.statements ++ [q.projected d.settings [column, key]] ∧
      ∀ rows later, s.recorder.replies = .ok (.ofRows rows) :: later →
        answer (.pluckKeyed column key) = .ok (.record (.ofList (rows.map fun row =>
          (keyText (row.get? (lastSegment key)), (row.get? (lastSegment column)).getD .null)))) ∧
        ('(' ∉ column.toList → '(' ∉ key.toList → ∀ pairs : List (Value × Value),
          rows.map (fun row => (row.get? (resultName key), row.get? (resultName column))) =
            pairs.map (fun p => (some p.1, some p.2)) →
          answer (.pluckKeyed column key) =
            .ok (.record (.ofList (pairs.map fun p => (keyText (some p.1), p.2)))))) := by
  intro q sentBy answer
  have looked := Identifier.last_segment_iff_result
  have selected {columns : List String} (given : columns ≠ [])
      (named : ∀ column ∈ columns, column ≠ "*") :
      (q.projecting columns).selection d = .ok (q.projected d.settings columns) :=
    Query.selection_projecting reached.unasked unprojected willing given named
  refine ⟨looked, ?_, ?_, ?_⟩
  · intro column rest follows
    have closes : Closes rest.toList := by
      rcases follows with rfl | ⟨more, rfl⟩
      · exact q.closes_tail d.settings
      · exact .begun (c := ',') (by decide) (by decide) more
    rw [Identifier.quote, String.toList_append, String.toList_ofList]
    exact Identifier.read_name_quote _ closes
  · intro column named
    have made := selected (List.cons_ne_nil column []) (by simpa using named)
    have sends := ((Action.sends_fetch d [column]).map
      (·.pluck (lastSegment column))).map Answer.values
    refine ⟨sends.statements made, fun rows later replied => ⟨?_, ?_, ?_⟩⟩
    · exact sends.answer made replied
    · intro plain values keyed
      rw [← (looked column).mpr plain] at keyed
      rw [← ResultSet.pluck_named keyed]
      exact sends.answer made replied
    · intro opened keyed
      have apart : lastSegment column ≠ resultName column :=
        fun same => (looked column).mp same opened
      rw [← ResultSet.pluck_other apart keyed]
      exact sends.answer made replied
  · intro column key named keyNamed
    have both : ∀ c ∈ [column, key], c ≠ "*" := by simp [named, keyNamed]
    have made := selected (List.cons_ne_nil column [key]) both
    have sends := ((Action.sends_fetch d [column, key]).map
      (·.pluckKeyed (lastSegment column) (lastSegment key))).map Answer.record
    refine ⟨sends.statements made, fun rows later replied => ⟨?_, ?_⟩⟩
    · exact sends.answer made replied
    · intro plain keyPlain pairs keyed
      rw [← (looked column).mpr plain, ← (looked key).mpr keyPlain] at keyed
      rw [← ResultSet.pluck_keyed_named keyed]
      exact sends.answer made replied

/-- Two people by age, who are still to come. -/
def peopleByAge : List Step :=
  [.target "Person", .sortBy "age" "desc",
    .respond [⟨[("name", .string "Ann"), ("id", .nat 1)], by decide⟩,
      ⟨[("name", .string "Bea"), ("id", .nat 2)], by decide⟩]]

theorem people_plucked :
    let s := runEach {} peopleByAge {}
    (run {} (.pluck "person.name") s).2.recorder.statements.map Statement.text =
        ["MATCH (person:Person) RETURN person.name AS name ORDER BY person.age DESC"] ∧
      (run {} (.pluck "person.name") s).1 = .ok (.values [.string "Ann", .string "Bea"]) ∧
      (run {} (.pluckKeyed "name" "id") s).1 =
        .ok (.record ⟨[("1", .string "Ann"), ("2", .string "Bea")], by decide⟩) := by
  intro s
  have reached : Reached {} s := .step (.step (.step (.start {}) _) _) _
  obtain ⟨-, -, plucked, keyed⟩ := plucked_as_projected reached rfl rfl
  obtain ⟨sent, named⟩ := plucked "person.name" (by decide)
  obtain ⟨-, paired⟩ := keyed "name" "id" (by decide) (by decide)
  refine ⟨?_, ?_, ?_⟩
  · exact (congrArg (List.map Statement.text) sent).trans (by decide +kernel)
  · exact (named _ _ rfl).2.1 (by decide) _ (by decide +kernel)
  · exact (paired _ _ rfl).2 (by decide) (by decide)
      [(.nat 1, .string "Ann"), (.nat 2, .string "Bea")] (by decide +kernel)

/-- The identity of a person comes back under another name than the one it is looked up by. -/
theorem accessor_plucked_as_null :
    let s := runEach {} [.target "Person", .respond [⟨[("id_person", .nat 1)], by decide⟩]] {}
    (run {} (.pluck "id(person)") s).2.recorder.statements.map Statement.text =
        ["MATCH (person:Person) RETURN id(person) AS id_person"] ∧
      (run {} (.pluck "id(person)") s).1 = .ok (.values [.null]) ∧
      lastSegment "id(person)" ≠ resultName "id(person)" := by
  refine ⟨by decide +kernel, rfl, by decide +kernel⟩

end Step
end GraphQuery
