import GraphQuery.Proofs.Script.Elementary
import GraphQuery.Proofs.Session.Apply

/-! Running a building step makes the change that the step stands for, and a step that fails leaves
the query as it was. -/
namespace GraphQuery

namespace Action

variable {α : Type}

/-- The action succeeds just when the change does, and leaves the query that the change gives. -/
def Follows (body : Action α) (change : Change) : Prop :=
  ∀ s : Session,
    match change s.query with
    | .ok o => ∃ a t, body s = (.ok a, t) ∧ t.query = o.query
    | .error e => ∃ t, body s = (.error e, t)

/-- The action follows the change, and leaves the query alone when it fails. -/
def Performs (body : Action α) (change : Change) : Prop :=
  ∀ s : Session,
    match change s.query with
    | .ok o => ∃ a t, body s = (.ok a, t) ∧ t.query = o.query
    | .error e => ∃ t, body s = (.error e, t) ∧ t.query = s.query

/-- A callback is run on a query of its own; afterwards the session has its own query again. -/
theorem within_follows {body : Action Unit} {change : Change} (follows : Follows body change)
    (q : Query) (s : Session) :
    match change q with
    | .ok o => ∃ t, inSubQuery (within q body) s = (.ok o.query, t) ∧ t.query = s.query
    | .error e => ∃ t, inSubQuery (within q body) s = (.error e.insideSubQuery, t) ∧
        t.query = s.query := by
  have h := follows { s with query := q }
  cases made : change q with
  | ok o =>
    simp only [made] at h
    obtain ⟨_, t, ran, same⟩ := h
    exact ⟨{ t with query := s.query }, same ▸ in_sub_query_ok (within_ok ran), rfl⟩
  | error e =>
    simp only [made] at h
    obtain ⟨t, failed⟩ := h
    exact ⟨{ t with query := s.query }, in_sub_query_error (within_error failed), rfl⟩

theorem performs_fail (e : QueryError) : Performs (throw e : Action α) fun _ => .error e :=
  fun s => ⟨s, rfl, rfl⟩

theorem performs_group {body : Action Unit} {change : Change} (follows : Follows body change)
    (connective : Connective) :
    Performs (filterGroup body connective) (.group change connective) := by
  intro s
  have h := within_follows follows s.query.groupChild s
  unfold filterGroup Change.group
  rw [bind_ok (query_apply s)]
  cases made : change s.query.groupChild with
  | error e =>
    simp only [made] at h ⊢
    obtain ⟨t, failed, kept⟩ := h
    exact ⟨t, bind_error failed _, kept⟩
  | ok g =>
    simp only [made] at h ⊢
    obtain ⟨t, ran, kept⟩ := h
    rw [bind_ok ran]
    by_cases empty : g.query.conditions.isEmpty
    · exact ⟨(), t, by simp [empty], by simp [Query.filterGroup, empty, kept]⟩
    · rw [if_neg empty, bind_ok (report_apply _ t)]
      exact ⟨(), _, rfl, by simp [kept]⟩

/-- What is said of a sub-query's text holds of the condition it is put into. -/
theorem performs_splice {d : Dialect} {body : Action Unit} {change : Change}
    (follows : Follows body change) (make : String → Condition) :
    Performs (subQueryText d body >>= fun text => modifyQuery (·.push (make text)))
      (.splice d change make) := by
  intro s
  have h := within_follows follows s.query.child s
  rw [bind_apply]
  unfold subQueryText Change.splice
  rw [bind_ok (query_apply s)]
  cases made : change s.query.child with
  | error e =>
    simp only [made] at h ⊢
    obtain ⟨t, failed, kept⟩ := h
    rw [bind_error failed]
    exact ⟨t, rfl, kept⟩
  | ok sub =>
    simp only [made] at h ⊢
    obtain ⟨t, ran, kept⟩ := h
    rw [bind_ok ran]
    cases selected : d.select sub.query with
    | error e =>
      obtain ⟨u, failed, same⟩ := write_error selected t
      rw [bind_error (in_sub_query_error failed)]
      exact ⟨u, rfl, same.trans kept⟩
    | ok template =>
      obtain ⟨u, wrote, same⟩ := write_ok selected t
      rw [bind_ok (in_sub_query_ok wrote), bind_ok (report_apply _ u)]
      exact ⟨(), _, rfl, by simp [same, kept]⟩

end Action

namespace Step

variable {d : Dialect}

abbrev CallbackFollows (d : Dialect) (body : List Step) : Prop :=
  Action.Follows (runAll d body) (changeAll d body)

theorem performs_filter_known (column operator : String) (operand : Operand (List Step))
    (connective : Connective) (follows : ∀ body, operand = .query body → CallbackFollows d body) :
    Action.Performs (.filterKnown d column operator (runOperand d operand) connective)
      (.filterKnown d column operator (changeOperand d operand) connective) := by
  cases operand with
  | query body => exact Action.performs_splice (follows body rfl) _
  | raw expression => exact fun s => ⟨(), _, rfl, rfl⟩
  | value v =>
    simp only [runOperand, changeOperand, Action.filterKnown, Change.filterKnown]
    split
    · exact fun s => ⟨(), _, rfl, rfl⟩
    · exact fun s => ⟨(), _, rfl, rfl⟩

theorem is_null_operand (operand : Operand (List Step)) :
    (runOperand d operand).isNull = (changeOperand d operand).isNull := by
  cases operand <;> rfl

theorem performs_filter_column (column : String) (operator : Option String)
    {operand : Operand (List Step)} (connective : Connective)
    (follows : ∀ body, operand = .query body → CallbackFollows d body) :
    Action.Performs (.filterColumn d column operator (runOperand d operand) connective)
      (.filterColumn d column operator (changeOperand d operand) connective) := by
  cases operator with
  | none => exact performs_filter_known column "=" operand connective follows
  | some operator =>
    simp only [Action.filterColumn, Change.filterColumn, Action.checkOperator, is_null_operand]
    split
    · exact Action.performs_fail _
    · split
      · exact performs_filter_known column operator operand connective follows
      · intro s
        have asValue : Action.Performs
            (.filterKnown d column "=" (.value (.string operator)) connective)
            (.filterKnown d column "=" (.value (.string operator)) connective) :=
          performs_filter_known column "=" (.value (.string operator)) connective
            fun _ h => by cases h
        exact asValue { s with notices := s.notices ++ [.unknownOperator column operator] }

theorem run_equalities (d : Dialect) (entries : List (String × Value)) :
    runAll d (equalities entries) = Action.filterEach d entries := by
  induction entries with
  | nil => rfl
  | cons e rest ih =>
    simp only [equalities, List.map_cons, runAll, run, Action.done, Action.filterEach] at ih ⊢
    rw [ih]
    simp only [bind_assoc, pure_bind]
    rfl

theorem performs_filter {subject : Subject (List Step)} (operator : Option String)
    {operand : Operand (List Step)} (connective : Connective)
    (follows : ∀ body ∈ (Step.filter subject operator operand connective).callbacks,
      CallbackFollows d body) :
    Action.Performs
      (.filter d (runSubject d subject) operator (runOperand d operand) connective)
      (.filter d (changeSubject d subject) operator (changeOperand d operand) connective) := by
  cases subject with
  | column name =>
    refine performs_filter_column name operator connective fun body h => follows body ?_
    subst h
    exact List.mem_cons_self
  | equalities mapping =>
    simp only [runSubject, changeSubject, Action.filter, Change.filter]
    rw [← run_equalities, ← Change.change_equalities]
    exact Action.performs_group (follows _ List.mem_cons_self) connective
  | group body =>
    have grouped := Action.performs_group (follows body List.mem_cons_self) connective
    cases operator with
    | none => exact grouped
    | some operator =>
      simp only [runSubject, changeSubject, Action.filter, Change.filter, Action.checkOperator,
        is_null_operand]
      split
      · exact Action.performs_fail _
      · exact grouped

theorem performs_done {body : Action Unit} {change : Change}
    (performs : Action.Performs body change) : Action.Performs (.done body) change := by
  intro s
  have h := performs s
  split at h
  · obtain ⟨_, t, ran, same⟩ := h
    exact ⟨.nothing, t, Action.bind_ok ran _, same⟩
  · obtain ⟨t, failed, same⟩ := h
    exact ⟨t, Action.bind_error failed _, same⟩

theorem performs_step {step : Step} (builds : step.builds)
    (follows : ∀ body ∈ step.callbacks, CallbackFollows d body) :
    Action.Performs (step.run d) (step.change d) := by
  cases step with
  | filter subject operator operand connective =>
    exact performs_done (performs_filter operator connective follows)
  | filterGroup body connective =>
    exact performs_done (Action.performs_group (follows body List.mem_cons_self) connective)
  | filterQuery column operator body connective =>
    exact performs_done (Action.performs_splice (follows body List.mem_cons_self) _)
  | filterIn column members connective negated =>
    cases members with
    | query body => exact performs_done (Action.performs_splice (follows body List.mem_cons_self) _)
    | listed values => exact fun s => ⟨.nothing, _, rfl, rfl⟩
  | target | select | limit | offset | sortBy | carry | filterBetween | filterNull
  | filterCarried | relate | relateToAny => exact fun s => ⟨.nothing, _, rfl, rfl⟩
  | _ => cases builds

theorem follows_all {steps : List Step} (performs : ∀ step ∈ steps,
    Action.Performs (step.run d) (step.change d)) : CallbackFollows d steps := by
  induction steps with
  | nil => exact fun s => ⟨(), s, rfl, rfl⟩
  | cons step rest ih =>
    intro s
    have head := performs step List.mem_cons_self s
    have tail := ih fun next hn => performs next (List.mem_cons_of_mem _ hn)
    simp only [runAll, changeAll, Change.andThen]
    cases made : step.change d s.query with
    | error e =>
      simp only [made] at head ⊢
      obtain ⟨t, failed, _⟩ := head
      exact ⟨t, Action.bind_error failed _⟩
    | ok o =>
      simp only [made] at head ⊢
      obtain ⟨a, t, ran, same⟩ := head
      have after := tail t
      rw [same] at after
      cases more : changeAll d rest o.query with
      | error e =>
        simp only [more] at after ⊢
        obtain ⟨u, failed⟩ := after
        exact ⟨u, (Action.bind_ok ran _).trans failed⟩
      | ok r =>
        simp only [more] at after ⊢
        obtain ⟨b, u, finished, last⟩ := after
        exact ⟨b, u, (Action.bind_ok ran _).trans finished, last⟩

/-- A building step performs its change; callbacks are covered by induction over their depth. -/
theorem run_performs {step : Step} (building : step.Everywhere fun s => s.builds) :
    Action.Performs (step.run d) (step.change d) := by
  induction building with
  | intro here _ ih => exact performs_step here fun body called => follows_all (ih body called)

theorem run_all_follows {steps : List Step} (building : Building steps) :
    CallbackFollows d steps :=
  follows_all fun step member => run_performs (building step member)

/-- What a run leaves of the query is what its changes give. -/
theorem run_each_query {steps : List Step} (building : Building steps) (s : Session) :
    (runEach d steps s).query = (changeEach d steps s.query).query := by
  induction steps generalizing s with
  | nil => rfl
  | cons step rest ih =>
    have head := run_performs (d := d) (building step List.mem_cons_self) s
    have tail := ih fun next hn => building next (List.mem_cons_of_mem _ hn)
    have after : runEach d (step :: rest) s = runEach d rest (step.run d s).2 := rfl
    rw [after, tail, changeEach]
    cases made : step.change d s.query with
    | error e =>
      simp only [made] at head ⊢
      obtain ⟨t, failed, same⟩ := head
      rw [failed, same]
    | ok o =>
      simp only [made] at head ⊢
      obtain ⟨a, t, ran, same⟩ := head
      rw [ran, same]

end Step
end GraphQuery
