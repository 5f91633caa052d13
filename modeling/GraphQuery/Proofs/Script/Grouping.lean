import GraphQuery.Proofs.Parameter.Stored
import GraphQuery.Proofs.Script.Run
import GraphQuery.Proofs.Script.Twin

/-! Conditions ask the same inside parentheses and without them. A group is followed beside the
query that takes its conditions directly. -/
namespace GraphQuery

namespace Slot

/-- The entries of `top` put over those of `bottom`. -/
structure Over (bottom both top : Slot) : Prop where
  entries : both.entries = bottom.entries.insertAll top.entries.entries
  positional : both.positional = bottom.positional
  segments : top.entries.Segments

theorem Over.insert {bottom both top : Slot} (covers : Over bottom both top) (key : String)
    (value : Value) : Over bottom (both.insert key value) (top.insert key value) where
  entries := by
    simp only [Slot.insert, covers.entries]
    exact (Record.merge_insert ..).symm
  positional := covers.positional
  segments := by
    intro k hk
    rcases (mem_keys_upsert _ value top.entries.entries k).mp hk with rfl | old
    · exact Identifier.is_segment_last key
    · exact covers.segments k old

theorem Over.insert_all {bottom both top : Slot} (covers : Over bottom both top)
    (entries : List (String × Value)) :
    Over bottom (both.insertAll entries) (top.insertAll entries) := by
  induction entries generalizing both top with
  | nil => exact covers
  | cons e rest ih => exact ih (covers.insert e.1 e.2)

theorem over_empty (s : Slot) : Over s s .empty where
  entries := rfl
  positional := rfl
  segments := by simp [Record.Segments, Record.keys, Slot.empty, Record.empty]

/-- Merging the entries is putting them over those that are there. -/
theorem Over.merge {bottom both top : Slot} (covers : Over bottom both top) :
    bottom.insertAll top.entries.entries = both := by
  rw [insert_all_segments _ covers.segments.of_entries, ← covers.entries, ← covers.positional]

end Slot

namespace Query

/-- Appends a condition, together with the values and the names that come with it. -/
def grow (q : Query) (entries : List (String × Value)) (names : List ParameterName)
    (c : Condition) : Query :=
  { q with
    conditions := q.conditions ++ [c]
    buckets := q.buckets.modify (·.insertAll entries) .filter
    reserved := q.reserved ++ names }

theorem push_grow (q : Query) (c : Condition) : q.push c = q.grow [] [] c := by
  simp only [push, grow, List.append_nil]
  rfl

theorem ask_grow (q : Query) (column : String) (value : Option Value)
    (make : Option String → ParameterName → Condition) :
    q.ask column value make =
      q.grow (value.toList.map ((q.nextName column).render, ·)) []
        (make q.label (q.nextName column)) := by
  cases value <;> simp only [ask, grow, List.append_nil] <;> rfl

theorem filter_group_grow (q : Query) {g : Query} (asked : g.conditions.isEmpty = false)
    (connective : Connective) : q.filterGroup g connective =
      q.grow g.buckets.filter.entries.entries [] (.group g.conditions connective) := by
  simp only [filterGroup, asked, grow, List.append_nil]
  rfl

theorem adopt_grow (q sub : Query) (c : Condition) :
    (q.adopt sub).push c = q.grow sub.parameters.entries sub.names c := rfl

theorem taken_grow (q : Query) (entries : List (String × Value)) (names : List ParameterName)
    (c : Condition) :
    ((q.grow entries names c).reserved ++ (q.grow entries names c).names).Perm
      (q.reserved ++ q.names ++ (names ++ c.names)) := by
  have append : Condition.namesOf (q.conditions ++ [c]) =
      Condition.namesOf q.conditions ++ c.names := by
    rw [Condition.names_of_append, Condition.names_of_single]
  simp only [Query.names, grow, append, List.perm_iff_count, List.count_append]
  intro n
  omega

/-- A query that has taken conditions directly, beside a group on the same query that has taken them
inside. -/
structure Beside (outer direct group : Query) : Prop where
  label : direct.label = group.label
  conditions : direct.conditions = outer.conditions ++ group.conditions
  taken : (direct.reserved ++ direct.names).Perm (group.reserved ++ group.names)
  filter : Slot.Over outer.buckets.filter direct.buckets.filter group.buckets.filter
  others : direct.buckets = { outer.buckets with filter := direct.buckets.filter }
  unasked : group.conditions = [] → group.buckets.filter = .empty

namespace Beside

variable {outer direct group : Query}

theorem start (q : Query) : Beside q q q.groupChild where
  label := rfl
  conditions := (List.append_nil _).symm
  taken := by
    have none : q.groupChild.names = [] := rfl
    rw [none, List.append_nil]
    exact .refl _
  filter := Slot.over_empty _
  others := rfl
  unasked := fun _ => rfl

theorem grow (beside : Beside outer direct group) (entries : List (String × Value))
    (names : List ParameterName) (c : Condition) :
    Beside outer (direct.grow entries names c) (group.grow entries names c) where
  label := beside.label
  conditions := by simp only [Query.grow, beside.conditions, List.append_assoc]
  taken := by
    refine (direct.taken_grow entries names c).trans ?_
    exact (beside.taken.append_right _).trans (group.taken_grow entries names c).symm
  filter := beside.filter.insert_all entries
  others := by
    simp only [Query.grow]
    rw [beside.others]
    rfl
  unasked := by simp [Query.grow]

theorem ask (beside : Beside outer direct group) (column : String) (value : Option Value)
    (make : Option String → ParameterName → Condition) :
    Beside outer (direct.ask column value make) (group.ask column value make) := by
  rw [ask_grow, ask_grow, next_name_perm beside.taken, beside.label]
  exact beside.grow _ _ _

theorem filter_group (beside : Beside outer direct group) {g h : Query} (groups : g.Twin h)
    (connective : Connective) :
    Beside outer (direct.filterGroup g connective) (group.filterGroup h connective) := by
  rw [groups.filter_group_eq]
  cases asked : g.conditions.isEmpty with
  | true => simpa [Query.filterGroup, asked] using beside
  | false =>
    rw [filter_group_grow _ asked, filter_group_grow _ asked]
    exact beside.grow _ _ _

theorem adopt (beside : Beside outer direct group) {g h : Query} (subs : g.Twin h) (c : Condition) :
    Beside outer ((direct.adopt g).push c) ((group.adopt h).push c) := by
  cases subs with
  | intro =>
    rw [adopt_grow, adopt_grow]
    exact beside.grow _ _ _

/-- Closing the group leaves the same values as going on directly. -/
theorem close (beside : Beside outer direct group) (connective : Connective) :
    (outer.filterGroup group connective).buckets = direct.buckets := by
  have merged := beside.filter.merge
  unfold Query.filterGroup
  split
  · rename_i empty
    rw [beside.unasked (List.isEmpty_iff.mp empty)] at merged
    rw [beside.others, ← merged]
    rfl
  · rw [beside.others, ← merged]
    rfl

end Beside
end Query

namespace Change

variable {d : Dialect}

theorem Asking.respects_beside {change : Change} {outer : Query}
    (asking : Asking d (fun body => (Step.changeAll d body).Respects Query.Twin)
      (fun body => (Step.changeAll d body).Respects Query.Twin) change) :
    change.Respects (Query.Beside outer) := by
  intro direct group beside
  cases asking with
  | refused e => exact .error e
  | nameless nameless =>
    refine .ok ?_
    simp only [Query.push_grow]
    exact beside.grow _ _ _
  | @asked column value f make asks takes =>
    refine .ok ?_
    simp only [asks]
    exact beside.ask column value make
  | @grouped body connective inside =>
    unfold Change.group
    match Step.changeAll d body direct.groupChild, Step.changeAll d body group.groupChild,
      inside (.of_taken_group beside.taken beside.label) with
    | _, _, .error e => exact .error e.insideSubQuery
    | _, _, .ok groups => exact .ok (beside.filter_group groups connective)
  | @spliced body make inside nameless =>
    unfold splice
    match Step.changeAll d body direct.child, Step.changeAll d body group.child,
      inside (.of_taken beside.taken) with
    | _, _, .error e => exact .error e.insideSubQuery
    | _, _, @Both.ok _ o p subs =>
      simp only [subs.select d]
      cases d.select p.query with
      | error e => exact .error _
      | ok t => exact .ok (beside.adopt subs _)

end Change

namespace Step

variable {d : Dialect}

theorem change_respects_beside {step : Step} (building : step.Everywhere fun s => s.builds)
    (filters : step.isFilter) (outer : Query) :
    (step.change d).Respects (Query.Beside outer) := by
  have callbacks : ∀ body ∈ step.callbacks, (changeAll d body).Respects Query.Twin :=
    fun body called => Change.respects_all fun inner member =>
      change_respects_twin (building.inside body called inner member)
  refine (Change.asking_of_filter filters ?_ ?_).respects_beside
  · exact fun body member => callbacks body (group_called member)
  · exact fun body member => callbacks body (sub_query_called member)

/-- Conditions that succeed on a query are appended as one group when they are asked inside of one,
or not at all where there are none, and the same values are bound in the same order. Those that fail
do so inside a group as well. A mapping is the group of its equalities. -/
theorem grouped_as_direct {steps : List Step} (building : Building steps)
    (filters : ∀ step ∈ steps, step.isFilter) (connective : Connective) (s : Session) :
    (∀ t, runAll d steps s = (.ok (), t) →
      ∃ added u, run d (.filterGroup steps connective) s = (.ok .nothing, u) ∧
        t.query.conditions = s.query.conditions ++ added ∧
        u.query.conditions =
          s.query.conditions ++ (if added.isEmpty then [] else [.group added connective]) ∧
        u.query.parameters = t.query.parameters) ∧
    (∀ e t, runAll d steps s = (.error e, t) →
      ∃ u, run d (.filterGroup steps connective) s = (.error e.insideSubQuery, u) ∧
        u.query = s.query) ∧
    ∀ (mapping : Row) (operator : Option String) (operand : Operand (List Step)),
      run d (.filter (.equalities mapping) operator operand connective) =
        run d (.filterGroup (equalities mapping.entries) connective) := by
  have direct := run_all_follows (d := d) building s
  have grouped := Action.performs_group (run_all_follows (d := d) building) connective s
  have respects := Change.respects_all (d := d) fun step member =>
    change_respects_beside (building step member) (filters step member) s.query
  have start := Query.Beside.start s.query
  unfold Change.group at grouped
  refine ⟨fun t ran => ?_, fun e t failed => ?_, fun mapping operator operand => ?_⟩
  · cases made : changeAll d steps s.query with
    | error e =>
      simp only [made, ran] at direct
      obtain ⟨_, failed⟩ := direct
      cases failed
    | ok o =>
      obtain ⟨g, inside, beside⟩ := respects.ok start made
      simp only [made, ran] at direct
      simp only [inside] at grouped
      obtain ⟨_, _, same, last⟩ := direct
      obtain ⟨_, u, closed, group⟩ := grouped
      cases same
      refine ⟨g.query.conditions, u, Action.bind_ok closed _, ?_, ?_, ?_⟩
      · rw [last, beside.conditions]
      · rw [group, Query.filterGroup]
        split
        · exact (List.append_nil _).symm
        · rfl
      · rw [Query.parameters, Query.parameters, group, last, beside.close]
  · cases made : changeAll d steps s.query with
    | error cause =>
      simp only [made, failed] at direct
      simp only [respects.error start made] at grouped
      obtain ⟨_, same⟩ := direct
      obtain ⟨u, refused, kept⟩ := grouped
      cases same
      exact ⟨u, Action.bind_error refused _, kept⟩
    | ok o =>
      simp only [made, failed] at direct
      obtain ⟨_, _, ran, _⟩ := direct
      cases ran
  · simp only [run, runSubject, Action.filter, run_equalities]

/-- Conditions of all kinds, on columns whose names collide. -/
def mixedConditions : List Step :=
  [.filter (.column "age") (some ">") (.value (.nat 5)) .and,
    .filter (.equalities (.ofList [("age", .nat 1), ("age_2", .null)])) none (.value .null) .or,
    .filterIn "id" (.query [.target "Post", .filter (.column "age") none (.value (.nat 3)) .and])
      .and false,
    .filterGroup [.filterBetween "age" (.nat 7) (.nat 8) .and true] .and,
    .filterCarried "total" ">" "limit" .and]

def aged : Session := { query := Query.filterNull {} "age" .and true }

theorem mixed_conditions_grouped :
    Building mixedConditions ∧ (∀ step ∈ mixedConditions, step.isFilter) ∧
      ∃ t added u, runAll {} mixedConditions aged = (.ok (), t) ∧
        run {} (.filterGroup mixedConditions .or) aged = (.ok .nothing, u) ∧
        t.query.conditions = aged.query.conditions ++ added ∧
        u.query.conditions = aged.query.conditions ++ [.group added .or] ∧
        u.query.parameters = t.query.parameters := by
  have building : Building mixedConditions :=
    .cons (.leaf rfl rfl) <| .cons (.call rfl rfl (building_equalities _)) <| .cons
      (.call rfl rfl <| .cons (.leaf rfl rfl) <| .cons (.leaf rfl rfl) .nil) <| .cons
      (.call rfl rfl <| .cons (.leaf rfl rfl) .nil) <| .cons (.leaf rfl rfl) .nil
  have filters : ∀ step ∈ mixedConditions, step.isFilter := by decide
  have succeeds : (runAll {} mixedConditions aged).1.toBool &&
      (runAll {} mixedConditions aged).2.query.conditions.length == 6 := by decide +kernel
  rcases ran : runAll {} mixedConditions aged with ⟨e | _, t⟩
  · rw [ran] at succeeds
    cases succeeds
  · obtain ⟨added, u, closed, direct, grouped, same⟩ :=
      (grouped_as_direct (d := {}) building filters .or aged).1 t ran
    rw [ran, direct] at succeeds
    refine ⟨building, filters, t, added, u, rfl, closed, direct, ?_, same⟩
    cases added with
    | nil => cases succeeds
    | cons => exact grouped

end Step
end GraphQuery
