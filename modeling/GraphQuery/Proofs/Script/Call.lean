import GraphQuery.Proofs.Predicate.Normal
import GraphQuery.Proofs.Script.Run
import GraphQuery.Proofs.Session.Sending

/-! A step calls at most one callback. What the step comes to is told from what the callback came
to; a step that calls none fails by itself. -/
namespace GraphQuery

namespace Action

variable {d : Dialect} {body : Action Unit} {s t : Session}

theorem called_error {q : Query} {e : QueryError}
    (failed : body { s with query := q } = (.error e, t)) :
    inSubQuery (within q body) s = (.error e.insideSubQuery, { t with query := s.query }) :=
  in_sub_query_error (within_error failed)

theorem called_ok {q : Query} (ran : body { s with query := q } = (.ok (), t)) :
    inSubQuery (within q body) s = (.ok t.query, { t with query := s.query }) :=
  in_sub_query_ok (within_ok ran)

theorem filter_group_error {e : QueryError} (connective : Connective)
    (failed : body { s with query := s.query.groupChild } = (.error e, t)) :
    filterGroup body connective s = (.error e.insideSubQuery, { t with query := s.query }) :=
  (bind_ok (query_apply s) _).trans (bind_error (called_error failed) _)

theorem filter_group_ok (connective : Connective)
    (ran : body { s with query := s.query.groupChild } = (.ok (), t)) :
    ∃ u, filterGroup body connective s = (.ok (), u) ∧
      u.query = s.query.filterGroup t.query connective := by
  unfold filterGroup Query.filterGroup
  rw [bind_ok (query_apply s), bind_ok (called_ok ran)]
  split
  · exact ⟨_, rfl, rfl⟩
  · exact ⟨_, rfl, rfl⟩

theorem sub_query_text_error {e : QueryError}
    (failed : body { s with query := s.query.child } = (.error e, t)) :
    subQueryText d body s = (.error e.insideSubQuery, { t with query := s.query }) :=
  (bind_ok (query_apply s) _).trans (bind_error (called_error failed) _)

/-- A sub-query that is complete may still not be written. -/
theorem sub_query_text_ok (ran : body { s with query := s.query.child } = (.ok (), t)) :
    match d.select t.query with
    | .ok template => ∃ u, subQueryText d body s = (.ok template.render, u) ∧
        u.query = s.query.adopt t.query
    | .error e => ∃ u, subQueryText d body s = (.error (.inSubQuery (.compile e)), u) ∧
        u.query = s.query := by
  obtain ⟨u, wrote, kept, -⟩ := write_apply d t.query { t with query := s.query }
  unfold subQueryText
  rw [bind_ok (query_apply s), bind_ok (called_ok ran)]
  cases selected : d.select t.query with
  | error e =>
    rw [selected] at wrote
    exact ⟨u, bind_error (in_sub_query_error wrote) _, kept⟩
  | ok template =>
    rw [selected] at wrote
    rw [bind_ok (in_sub_query_ok wrote)]
    exact ⟨_, rfl, congrArg (·.adopt t.query) kept⟩

end Action

/-- What becomes of the query that a callback has written: a group, or the text of a sub-query. -/
inductive Call where
  | group (body : List Step) (connective : Connective)
  | splice (body : List Step) (make : String → Condition)

namespace Call

def body : Call → List Step
  | group body _ | splice body _ => body

/-- The query that the callback is run on. -/
def start (q : Query) : Call → Query
  | group .. => q.groupChild
  | splice .. => q.child

/-- What the calling query becomes, once the callback has written the query `inner`. -/
def finish (d : Dialect) (q inner : Query) : Call → Except CompileError Query
  | group _ connective => .ok (q.filterGroup inner connective)
  | splice _ make => (d.select inner).map fun t => (q.adopt inner).push (make t.render)

def action (d : Dialect) : Call → Action Unit
  | group body connective => .filterGroup (Step.runAll d body) connective
  | splice body make => do
    let text ← .subQueryText d (Step.runAll d body)
    .modifyQuery (·.push (make text))

variable {d : Dialect} {s t : Session} {call : Call}

/-- The error of a callback is marked, and the calling query is as it was. -/
theorem action_error {e : QueryError}
    (failed : Step.runAll d call.body { s with query := call.start s.query } = (.error e, t)) :
    call.action d s = (.error e.insideSubQuery, { t with query := s.query }) := by
  cases call with
  | group body connective => exact Action.filter_group_error connective failed
  | splice body make => exact Action.bind_error (Action.sub_query_text_error failed) _

theorem action_ok
    (ran : Step.runAll d call.body { s with query := call.start s.query } = (.ok (), t)) :
    match call.finish d s.query t.query with
    | .ok q => ∃ u, call.action d s = (.ok (), u) ∧ u.query = q
    | .error e => ∃ u, call.action d s = (.error (.inSubQuery (.compile e)), u) ∧
        u.query = s.query := by
  cases call with
  | group body connective => exact Action.filter_group_ok connective ran
  | splice body make =>
    have text := Action.sub_query_text_ok (d := d) ran
    rw [finish]
    cases selected : d.select t.query with
    | error e =>
      simp only [selected] at text
      obtain ⟨u, refused, kept⟩ := text
      exact ⟨u, Action.bind_error refused _, kept⟩
    | ok template =>
      simp only [selected] at text
      obtain ⟨u, wrote, adopted⟩ := text
      exact ⟨_, Action.bind_ok wrote _, congrArg (·.push (make template.render)) adopted⟩

/-- Whatever the callback does, a failing call leaves the calling query alone. -/
theorem action_kept {e : QueryError} {u : Session} (failed : call.action d s = (.error e, u)) :
    u.query = s.query := by
  rcases ran : Step.runAll d call.body { s with query := call.start s.query } with ⟨cause | _, t⟩
  · rw [action_error ran] at failed
    cases failed
    rfl
  · have after := action_ok ran
    split at after
    · obtain ⟨_, done, _⟩ := after
      rw [done] at failed
      cases failed
    · obtain ⟨_, refused, kept⟩ := after
      rw [refused] at failed
      cases failed
      exact kept

end Call

namespace Step

/-- Null beside an operator that is known and no equality. -/
def refuses (operator : Option String) (operand : Operand (List Step)) : Bool :=
  operator.any fun o => operand.isNull && Operator.isKnown o && !Operator.isEquality o

/-- The callback that a step does call. One beside a refused operator is not called, and neither is
a sub-query beside text that is no operator. -/
def call? : Step → Option Call
  | .filter (.group body) operator operand connective =>
    if refuses operator operand then none else some (.group body connective)
  | .filter (.equalities mapping) _ _ connective =>
    some (.group (equalities mapping.entries) connective)
  | .filter (.column column) operator (.query body) connective =>
    if operator.all Operator.isKnown then
      some (.splice body (.queryComparison column (operator.getD "=") · connective))
    else none
  | .filterGroup body connective => some (.group body connective)
  | .filterQuery column operator body connective =>
    some (.splice body (.queryComparison column operator · connective))
  | .filterIn column (.query body) connective negated =>
    some (.splice body (.inQuery column · connective negated))
  | _ => none

variable {d : Dialect} {step : Step} {call : Call}

theorem is_null_run (operand : Operand (List Step)) :
    (runOperand d operand).isNull = operand.isNull := by
  cases operand <;> rfl

/-- An operator beside a group is checked before the group is called. -/
theorem run_beside_group (operator : Option String) (operand : Operand (List Step))
    (body : List Step) (connective : Connective) :
    run d (.filter (.group body) operator operand connective) =
      if refuses operator operand then .done (throw (.operatorBesideNull (operator.getD "")))
      else .done (.filterGroup (runAll d body) connective) := by
  cases operator with
  | none => rfl
  | some operator =>
    have checked : refuses (some operator) operand =
      (operand.isNull && Operator.isKnown operator && !Operator.isEquality operator) := rfl
    simp only [run, runSubject, Action.filter, Action.checkOperator, is_null_run, ← checked]
    cases refuses (some operator) operand <;> rfl

theorem run_call (calls : step.call? = some call) : run d step = .done (call.action d) := by
  cases step with
  | filter subject operator operand connective =>
    cases subject with
    | column column =>
      cases operand with
      | query body =>
        simp only [call?] at calls
        split at calls
        · rename_i known
          cases calls
          cases operator with
          | none => rfl
          | some operator =>
            have kept : Operator.isKnown operator = true := known
            simp only [run, runSubject, runOperand, Action.filter, Action.filterColumn,
              Action.checkOperator, Operand.isNull, kept, Bool.false_and, if_true]
            rfl
        · cases calls
      | value | raw => cases calls
    | equalities mapping =>
      cases calls
      simp only [Call.action, run_equalities]
      rfl
    | group body =>
      rw [run_beside_group]
      simp only [call?] at calls
      split at calls
      · cases calls
      · rename_i accepted
        cases calls
        rw [if_neg accepted]
        rfl
  | filterGroup | filterQuery =>
    cases calls
    rfl
  | filterIn column members connective negated =>
    cases members with
    | query body =>
      cases calls
      rfl
    | listed => cases calls
  | _ => cases calls

/-- The query takes conditions and values in, and keeps all else. -/
def Extending (q r : Query) : Prop :=
  r = { q with conditions := r.conditions, buckets := r.buckets }

/-- One condition more, and it is in form. -/
structure Gains (q r : Query) : Prop where
  extending : Extending q r
  condition : ∃ c : Condition, c.isNormal ∧ r.conditions = q.conditions ++ [c]

theorem gains_null (q : Query) (column : String) (connective : Connective) (negated : Bool) :
    Gains q (q.filterNull column connective negated) := by
  cases negated with
  | false => exact ⟨rfl, .isNull column connective (q.nextName column), rfl, rfl⟩
  | true => exact ⟨rfl, .notNull column connective (q.nextName column), rfl, rfl⟩

theorem filter_value_apply {operator : String} (known : Operator.isKnown operator)
    (column : String) (v : Value) (connective : Connective) (s : Session) :
    ∃ t, Action.filterKnown d column operator (.value v) connective s = (.ok (), t) ∧
      Gains s.query t.query := by
  unfold Action.filterKnown
  dsimp only
  split
  · exact ⟨_, rfl, gains_null s.query column connective _⟩
  · rename_i given
    have here : (Condition.comparison column operator (.bound v) connective
        (s.query.nextName column)).isNormal := by
      rw [Condition.isNormal, known, Bool.eq_false_iff.mpr given]
      rfl
    exact ⟨_, rfl, rfl, _, here, rfl⟩

theorem filter_known_apply {operator : String} (known : Operator.isKnown operator)
    (column : String) {operand : Operand (List Step)} (connective : Connective)
    (valued : ∀ body, operand ≠ .query body) (s : Session) :
    ∃ t, Action.filterKnown d column operator (runOperand d operand) connective s = (.ok (), t) ∧
      Gains s.query t.query := by
  cases operand with
  | value v => exact filter_value_apply known column v connective s
  | raw expression =>
    have here : (Condition.comparison column operator (.raw expression) connective
        (s.query.nextName column)).isNormal := known
    exact ⟨_, rfl, rfl, _, here, rfl⟩
  | query body => exact absurd rfl (valued body)

/-- Text that is no operator becomes the value of an equality. -/
theorem filter_column_apply (column : String) (operator : Option String)
    {operand : Operand (List Step)} (connective : Connective)
    (valued : ∀ body, operand = .query body → operator.all Operator.isKnown = false) (s : Session) :
    (∃ o, Action.filterColumn d column operator (runOperand d operand) connective s =
        (.error (.operatorBesideNull o), s)) ∨
      ∃ t, Action.filterColumn d column operator (runOperand d operand) connective s = (.ok (), t) ∧
        Gains s.query t.query := by
  cases operator with
  | none =>
    have plain : ∀ body, operand ≠ .query body := fun body same => by cases valued body same
    exact .inr (filter_known_apply Operator.known_equality column connective plain s)
  | some operator =>
    simp only [Action.filterColumn, Action.checkOperator]
    split
    · exact .inl ⟨operator, rfl⟩
    · rw [Action.bind_ok (Action.pure_apply () s)]
      split
      · rename_i known
        have plain : ∀ body, operand ≠ .query body := by
          intro body same
          have unknown : Operator.isKnown operator = false := valued body same
          rw [known] at unknown
          cases unknown
        exact .inr (filter_known_apply known column connective plain s)
      · rw [Action.bind_ok (Action.report_apply _ s)]
        exact .inr (filter_value_apply Operator.known_equality column (.string operator)
          connective _)

/-- A condition that calls nothing is refused for its operator, or is put on the query. -/
theorem run_uncalled (filters : step.isFilter) (uncalled : step.call? = none) (s : Session) :
    (∃ operator, run d step s = (.error (.operatorBesideNull operator), s)) ∨
      ∃ t, run d step s = (.ok .nothing, t) ∧ Gains s.query t.query := by
  cases step with
  | filter subject operator operand connective =>
    cases subject with
    | column column =>
      have valued : ∀ body, operand = .query body → operator.all Operator.isKnown = false := by
        rintro body rfl
        simp only [call?] at uncalled
        split at uncalled
        · cases uncalled
        · rename_i unknown
          exact Bool.eq_false_iff.mpr unknown
      rcases filter_column_apply (d := d) column operator connective valued s with
        ⟨o, refused⟩ | ⟨t, ran, gains⟩
      · exact .inl ⟨o, Action.bind_error refused _⟩
      · exact .inr ⟨t, Action.bind_ok ran _, gains⟩
    | equalities mapping => cases uncalled
    | group body =>
      rw [run_beside_group]
      simp only [call?] at uncalled
      split at uncalled
      · rename_i beside
        rw [if_pos beside]
        exact .inl ⟨_, rfl⟩
      · cases uncalled
  | filterGroup | filterQuery => cases uncalled
  | filterIn column members connective negated =>
    cases members with
    | query => cases uncalled
    | listed values =>
      refine .inr ⟨_, rfl, rfl, _, ?_, rfl⟩
      cases negated <;> rfl
  | filterNull column connective negated =>
    exact .inr ⟨_, rfl, gains_null s.query column connective negated⟩
  | filterBetween | filterCarried => exact .inr ⟨_, rfl, rfl, _, rfl, rfl⟩
  | _ => cases filters

/-- The lists of steps that a step may run: its callbacks, and the steps of an unrelated query. -/
def bodies : Step → List (List Step)
  | .appendQuery body => [body]
  | step => step.callbacks

theorem body_mem (calls : step.call? = some call) : call.body ∈ step.bodies := by
  cases step with
  | filter subject operator operand connective =>
    cases subject with
    | column column =>
      cases operand with
      | query body =>
        simp only [call?] at calls
        split at calls <;> cases calls
        exact List.mem_cons_self
      | value | raw => cases calls
    | equalities mapping =>
      cases calls
      exact List.mem_cons_self
    | group body =>
      simp only [call?] at calls
      split at calls <;> cases calls
      exact List.mem_cons_self
  | filterGroup | filterQuery =>
    cases calls
    exact List.mem_cons_self
  | filterIn column members connective negated =>
    cases members with
    | query body =>
      cases calls
      exact List.mem_cons_self
    | listed => cases calls
  | _ => cases calls

theorem body_smaller {body : List Step} (member : body ∈ step.bodies) {inner : Step}
    (here : inner ∈ body) : sizeOf inner < sizeOf step ∨ inner.bodies = [] := by
  have smaller := List.sizeOf_lt_of_mem here
  cases step with
  | filter subject operator operand connective =>
    cases subject with
    | column column =>
      cases operand with
      | query =>
        cases List.mem_singleton.mp member
        left
        simp
        omega
      | value | raw => cases member
    | equalities mapping =>
      -- The equalities are no parts of the step, but run nothing themselves.
      cases List.mem_singleton.mp member
      obtain ⟨e, -, rfl⟩ := List.mem_map.mp here
      exact .inr rfl
    | group =>
      cases List.mem_singleton.mp member
      left
      simp
      omega
  | appendQuery | filterGroup | filterQuery =>
    cases List.mem_singleton.mp member
    left
    simp
    omega
  | filterIn column members connective negated =>
    cases members with
    | query =>
      cases List.mem_singleton.mp member
      left
      simp
      omega
    | listed => cases member
  | _ => cases member

/-- Induction on the depth to which a step runs others. -/
theorem of_bodies {motive : Step → Prop}
    (next : ∀ step, (∀ body ∈ step.bodies, ∀ inner ∈ body, motive inner) → motive step)
    (step : Step) : motive step := by
  refine next step fun body member inner here => ?_
  rcases body_smaller member here with smaller | leaf
  · exact of_bodies next inner
  · exact next inner (by simp [leaf])
termination_by sizeOf step

end Step
end GraphQuery
