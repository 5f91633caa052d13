import GraphQuery.Proofs.Predicate.Legible
import GraphQuery.Proofs.Record.Merge
import GraphQuery.Proofs.Script.Execution
import GraphQuery.Settings.Validation

/-! Values that are written go beside the values that are filtered on, under names of their own. -/
namespace GraphQuery

namespace Query

open Template (Readable)

variable (q : Query) (s : Settings) (values : Row)

theorem length_update_names : (q.updateNames s values).length = values.keys.length := by
  have bases := congrArg List.length (ParameterName.bases_next_all
    (q.parameters.keys.map .first)
    (values.keys.map fun key => Identifier.parameterBase key ++ s.updateSuffix))
  rwa [List.length_map, List.length_map] at bases

theorem render_firsts (keys : List String) :
    (keys.map ParameterName.first).map ParameterName.render = keys := by
  rw [List.map_map]
  exact List.map_id keys

theorem update_names_new :
    ∀ name ∈ (q.updateNames s values).map ParameterName.render, name ∉ q.parameters.keys := by
  intro name member
  obtain ⟨n, hn, rfl⟩ := List.mem_map.mp member
  have outside := ParameterName.next_all_new _ _ n hn
  rwa [render_firsts] at outside

theorem entries_update_parameters : (q.updateParameters s values).entries =
    q.parameters.entries ++
      ((q.updateNames s values).map ParameterName.render).zip values.values := by
  have names : (named (q.updateNames s values) values.values).map Prod.fst =
      (q.updateNames s values).map ParameterName.render := by
    refine List.map_fst_zip ?_
    rw [List.length_map, length_update_names, Record.keys, Record.values, List.length_map,
      List.length_map]
  apply Record.insert_all_new
  · rw [names]
    exact ParameterName.next_all_distinct _ _
  · rw [names]
    exact q.update_names_new s values

/-- Under valid settings the whole name is read after a dollar sign. -/
theorem readable_update_names (valid : s.violations = []) :
    ∀ name ∈ (q.updateNames s values).map ParameterName.render, Readable name := by
  have suffix : Settings.suffixViolations "update_suffix" s.updateSuffix = [] :=
    (List.append_eq_nil_iff.mp valid).2
  obtain ⟨filled, spelled⟩ := List.append_eq_nil_iff.mp suffix
  have named : s.updateSuffix ≠ "" := by
    intro empty
    rw [empty] at filled
    cases filled
  have words : ∀ c ∈ s.updateSuffix.toList, Identifier.isWord c := by
    by_contra other
    rw [← List.all_eq_true] at other
    rw [if_neg other] at spelled
    cases spelled
  intro name member
  obtain ⟨n, hn, rfl⟩ := List.mem_map.mp member
  have base := List.mem_map_of_mem (f := ParameterName.base) hn
  rw [updateNames, ParameterName.bases_next_all] at base
  obtain ⟨key, -, same⟩ := List.mem_map.mp base
  apply ParameterName.readable_render
  · rw [← same]
    intro empty
    exact named (String.append_eq_empty_iff.mp empty).2
  · rw [← same]
    intro c hc
    rw [String.toList_append] at hc
    rcases List.mem_append.mp hc with column | ending
    · exact Identifier.base_words key c column
    · exact words c ending

theorem update_written (given : ¬ values.isEmpty) :
    let target := q.targetAlias s
    let names := (q.updateNames s values).map ParameterName.render
    (q.update s values).map Template.render = .ok
      ((q.reading s).render ++ " SET " ++
        ", ".intercalate (List.zipWith (fun key name => s.column target key ++ " = $" ++ name)
          values.keys names) ++
        " RETURN count(" ++ target ++ ") AS updated") := by
  intro target names
  have assignment (key : String) (name : ParameterName) :
      Template.render [.text (s.column target key ++ " = "), .parameter name.render] =
        s.column target key ++ " = $" ++ name.render := by
    rw [Template.render_text_cons, Template.render_parameter, String.append_assoc,
      String.append_assoc]
    rfl
  rw [update, if_neg given, Except.map, Template.render_append, Template.render_append,
    Template.render_text_cons, Template.render_joined, List.map_zipWith,
    Template.render_single]
  simp only [assignment, names, List.zipWith_map_right, String.append_assoc, target]

theorem update_refused (empty : values.isEmpty) : q.update s values = .error .nothingToUpdate :=
  if_pos empty

end Query

namespace Step

/-- An update sends all values of the query as they are, and after them each written value under a
name of its own. The text assigns to each column the parameter that its value is sent under. Without
values nothing is sent. -/
theorem update_keeps_parameters (d : Dialect) (values : Row) (s : Session) :
    let q := s.query
    let target := q.targetAlias d.settings
    let names := (q.updateNames d.settings values).map ParameterName.render
    let sent := q.updateParameters d.settings values
    let t := (run d (.update values) s).2
    (values.isEmpty → (run d (.update values) s).1 = .error (.compile .nothingToUpdate) ∧
      t.recorder = s.recorder) ∧
    (¬ values.isEmpty →
      names.length = values.keys.length ∧ names.Nodup ∧
      (∀ name ∈ names, name ∉ q.parameters.keys) ∧
      (d.settings.violations = [] → ∀ name ∈ names, Template.Readable name) ∧
      sent.entries = q.parameters.entries ++ names.zip values.values ∧
      t.recorder.statements = s.recorder.statements ++
        [⟨.update, (q.reading d.settings).render ++ " SET " ++
            ", ".intercalate (List.zipWith
              (fun key name => d.settings.column target key ++ " = $" ++ name) values.keys names) ++
            " RETURN count(" ++ target ++ ") AS updated",
          sent, false⟩]) := by
  intro q target names parameters t
  have sends := (Action.sends_update d values).map (Answer.count <| some ·)
  obtain ⟨answer, u, ran, -, sent⟩ := sends s
  have result : run d (.update values) s = (answer, u) := ran
  have after : t = u := congrArg Prod.snd result
  rw [result, after]
  constructor
  · intro empty
    simp only [Query.update_refused _ _ _ empty] at sent
    exact sent
  · intro given
    simp only [Query.update_written _ _ _ given] at sent
    refine ⟨?_, ParameterName.next_all_distinct _ _, q.update_names_new d.settings values,
      q.readable_update_names d.settings values, q.entries_update_parameters d.settings values, ?_⟩
    · rw [List.length_map, Query.length_update_names]
    · rw [sent.2, execute_statements]

/-- The first name that an update would take is bound already. -/
def occupied : Session :=
  runEach {} [.target "Person", .addValue (.object [("name_update", .nat 1)]) "having",
    .filter (.column "name") (some "=") (.value (.string "Ann")) .and] {}

/-- Three columns of one base. -/
def renamed : Row :=
  ⟨[("name", .string "Bea"), ("person.name", .string "Cleo"), ("age", .nat 9)], by decide⟩

theorem occupied_parameters_kept :
    let q := occupied.query
    let names := (q.updateNames {} renamed).map ParameterName.render
    names = ["name_update_2", "name_update_3", "age_update"] ∧
      (∀ name ∈ names, name ∉ q.parameters.keys ∧ Template.Readable name) ∧
      (q.updateParameters {} renamed).entries = q.parameters.entries ++ names.zip renamed.values ∧
      (run {} (.update renamed) occupied).2.recorder.statements.map Statement.text =
        ["MATCH (person:Person) WHERE person.name = $name SET person.name = $name_update_2, " ++
          "person.name = $name_update_3, person.age = $age_update " ++
          "RETURN count(person) AS updated"] := by
  intro q names
  obtain ⟨-, updates⟩ := update_keeps_parameters {} renamed occupied
  obtain ⟨-, -, new, readable, kept, sent⟩ := updates (by decide)
  refine ⟨by decide +kernel, fun name member => ⟨new name member, ?_⟩, kept, ?_⟩
  · exact readable rfl name member
  · rw [sent]
    decide +kernel

end Step
end GraphQuery
