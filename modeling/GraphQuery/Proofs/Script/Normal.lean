import GraphQuery.Proofs.Script.Execution

/-! The form of conditions. Whatever operators and values a script gives, those that its conditions
keep are known and are not null, and no group is empty. -/
namespace GraphQuery

open Condition (areNormal)

namespace Call

/-- A condition made of a sub-query is normal whatever the text. -/
def isSound : Call → Prop
  | group .. => True
  | splice _ make => ∀ text, (make text).isNormal

variable {d : Dialect} {call : Call} {q inner r : Query}

theorem start_normal (q : Query) (call : Call) : (call.start q).Normal := by
  cases call <;> rfl

theorem finish_normal (sound : call.isSound) (normal : q.Normal) (inside : inner.Normal)
    (finished : call.finish d q inner = .ok r) : r.Normal := by
  cases call with
  | group body connective =>
    cases finished
    exact normal.filter_group inside connective
  | splice body make =>
    rw [finish] at finished
    cases selected : d.select inner with
    | error e =>
      rw [selected] at finished
      cases finished
    | ok template =>
      rw [selected] at finished
      cases finished
      exact Query.Normal.push (q := q.adopt inner) normal (sound template.render)

/-- A call keeps the calling query normal if its callback does so with the query it is run on. -/
theorem action_normal (sound : call.isSound)
    (inside : ∀ s : Session, s.query.Normal → (Step.runAll d call.body s).2.query.Normal)
    {s : Session} (normal : s.query.Normal) : (call.action d s).2.query.Normal := by
  have within := inside { s with query := call.start s.query } (start_normal s.query call)
  rcases ran : Step.runAll d call.body { s with query := call.start s.query } with ⟨cause | _, t⟩
  · rw [action_error ran]
    exact normal
  · rw [ran] at within
    have after := action_ok ran
    split at after
    · rename_i finished
      obtain ⟨u, done, last⟩ := after
      rw [done, last]
      exact finish_normal sound normal within finished
    · obtain ⟨u, refused, kept⟩ := after
      rw [refused, kept]
      exact normal

end Call

theorem Query.Normal.gains {q r : Query} (normal : q.Normal) (gains : Step.Gains q r) :
    r.Normal := by
  obtain ⟨c, here, more⟩ := gains.condition
  rw [Query.Normal, more]
  exact Query.Normal.push normal here

namespace Step

variable {d : Dialect} {step : Step} {s : Session}

/-- A direct comparison with a sub-query takes any text for an operator, and conditions made
elsewhere are taken as they are. Here these are normal. -/
def isChecked : Step → Bool
  | .filterQuery _ operator _ _ => Operator.isKnown operator
  | .appendEncoded conditions _ => (Condition.decodeList? conditions).all areNormal
  | _ => true

/-- The step and all that it may run are checked. -/
inductive Checked : Step → Prop where
  | intro {step : Step} (here : step.isChecked)
      (inside : ∀ body ∈ step.bodies, ∀ inner ∈ body, Checked inner) : Checked step

theorem Checked.leaf (here : step.isChecked) (none : step.bodies = []) : Checked step :=
  .intro here (by simp [none])

theorem Checked.one {body : List Step} (here : step.isChecked) (runs : step.bodies = [body])
    (inside : ∀ inner ∈ body, Checked inner) : Checked step :=
  .intro here (by simpa [runs] using inside)

theorem sound_of_checked {call : Call} (here : step.isChecked) (calls : step.call? = some call) :
    call.isSound := by
  cases step with
  | filter subject operator operand connective =>
    cases subject with
    | column column =>
      cases operand with
      | query body =>
        simp only [call?] at calls
        split at calls
        · rename_i known
          cases calls
          intro text
          cases operator with
          | none => exact Operator.known_equality
          | some operator => exact known
        · cases calls
      | value | raw => cases calls
    | equalities mapping =>
      cases calls
      trivial
    | group body =>
      simp only [call?] at calls
      split at calls <;> cases calls
      trivial
  | filterGroup =>
    cases calls
    trivial
  | filterQuery =>
    cases calls
    exact fun _ => here
  | filterIn column members connective negated =>
    cases members with
    | query body =>
      cases calls
      exact fun _ => rfl
    | listed => cases calls
  | _ => cases calls

theorem run_all_normal {steps : List Step}
    (each : ∀ step ∈ steps, ∀ s : Session, s.query.Normal → (run d step s).2.query.Normal)
    (normal : s.query.Normal) : (runAll d steps s).2.query.Normal := by
  induction steps generalizing s with
  | nil => exact normal
  | cons step rest ih =>
    have head := each step List.mem_cons_self s normal
    rw [runAll, Action.bind_apply]
    rcases ran : run d step s with ⟨_ | _, t⟩ <;> rw [ran] at head
    · exact head
    · exact ih (fun next hn => each next (List.mem_cons_of_mem _ hn)) head

theorem append_query_normal {body : List Step}
    (inside : ∀ s : Session, s.query.Normal → (runAll d body s).2.query.Normal)
    (normal : s.query.Normal) : (run d (.appendQuery body) s).2.query.Normal := by
  have written := inside { s with query := {} } rfl
  simp only [run, done_apply, Action.appendQuery, Action.bind_apply, Action.within]
  rcases ran : runAll d body { s with query := {} } with ⟨_ | _, t⟩
  · exact normal
  · rw [ran] at written
    exact Query.Normal.append (q := s.query) normal written _

theorem append_encoded_normal {conditions : Value}
    (checked : (Condition.decodeList? conditions).all areNormal) (values : Parameters)
    (normal : s.query.Normal) : (run d (.appendEncoded conditions values) s).2.query.Normal := by
  simp only [run, Action.appendEncoded]
  cases read : Condition.decodeList? conditions with
  | none => exact normal
  | some conditions =>
    rw [read] at checked
    exact normal.append checked values

/-- What sends a statement leaves the conditions alone. -/
theorem after_conditions (q : Query) (step : Step) : (step.after q).conditions = q.conditions := by
  unfold after
  split <;> rfl

theorem run_normal (checked : step.Checked) (normal : s.query.Normal) :
    (run d step s).2.query.Normal := by
  induction checked generalizing s with
  | @intro step here _ ih =>
    have bodies : ∀ body ∈ step.bodies, ∀ s : Session, s.query.Normal →
        (runAll d body s).2.query.Normal :=
      fun body called s =>
        run_all_normal fun inner member s normal => ih body called inner member normal
    by_cases executes : step.executes
    · obtain ⟨_, _, -, sends⟩ := run_sends d executes
      obtain ⟨_, t, ran, left, -⟩ := sends s
      rw [ran, left, Query.Normal, after_conditions]
      exact normal
    · cases calls : step.call? with
      | some call =>
        rw [run_call calls, done_apply]
        exact Call.action_normal (sound_of_checked here calls) (bodies _ (body_mem calls)) normal
      | none =>
        by_cases filters : step.isFilter
        · rcases run_uncalled (d := d) filters calls s with ⟨_, refused⟩ | ⟨t, ran, gains⟩
          · rw [refused]
            exact normal
          · rw [ran]
            exact normal.gains gains
        · -- Of the other steps only two append conditions.
          cases step with
          | appendQuery body => exact append_query_normal (bodies _ List.mem_cons_self) normal
          | appendEncoded conditions values => exact append_encoded_normal here values normal
          | target | select | limit | offset | sortBy | carry | relate | relateToAny | respond
          | fail => exact normal
          | renew => rfl
          | addValue value bucket =>
            simp only [run, done_apply, Action.addValue, Action.bind_apply]
            cases Bucket.ofName bucket <;> exact normal
          | selectText | inlinedText | insertText | insertReturningText | updateText | createText
          | connectText => exact (congrArg Query.Normal (writes_query (by rfl) s)).mpr normal
          | nodeAlias labels => cases labels <;> exact normal
          | parameterForm | rowNames | updateNames => exact normal
          | filter | filterGroup | filterQuery | filterIn | filterBetween | filterNull
          | filterCarried => exact absurd rfl filters
          | _ => exact absurd rfl executes

/-- The sessions that checked scripts lead to, in callbacks and in queries to be appended too. -/
inductive Built (d : Dialect) : Session → Prop where
  | start (recorder : Recorder) : Built d { recorder := recorder }
  | step {s : Session} (built : Built d s) {step : Step} (checked : step.Checked) :
      Built d (run d step s).2
  | called {s : Session} (built : Built d s) {step : Step} {call : Call}
      (calls : step.call? = some call) : Built d { s with query := call.start s.query }
  | unrelated {s : Session} (built : Built d s) : Built d { s with query := {} }

theorem Built.each {steps : List Step} (built : Built d s)
    (checked : ∀ step ∈ steps, step.Checked) : Built d (runEach d steps s) := by
  induction steps generalizing s with
  | nil => exact built
  | cons step rest ih =>
    have head := built.step (checked step List.mem_cons_self)
    exact ih head fun next hn => checked next (List.mem_cons_of_mem _ hn)

theorem Built.normal (built : Built d s) : s.query.Normal := by
  induction built with
  | start | unrelated => rfl
  | step _ checked normal => exact run_normal checked normal
  | @called s _ _ call => exact Call.start_normal s.query call

theorem null_known {operator : String} (known : Operator.isKnown operator) (column : String)
    (connective : Connective) (s : Session) :
    run d (.filter (.column column) (some operator) (.value .null) connective) s =
      if Operator.isEquality operator then
        (.ok .nothing, { s with query := s.query.filterNull column connective (operator ≠ "=") })
      else (.error (.operatorBesideNull operator), s) := by
  have beside : (Operand.value (κ := Action Unit) .null).isNull = true := rfl
  simp only [run, runSubject, runOperand, Action.filter, Action.filterColumn, Action.checkOperator,
    beside, known, Bool.true_and, if_true]
  cases Operator.isEquality operator <;> rfl

/-- Text that is no operator takes the place of null. -/
theorem null_unknown {operator : String} (unknown : Operator.isKnown operator = false)
    (column : String) (connective : Connective) (s : Session) :
    ∃ t, run d (.filter (.column column) (some operator) (.value .null) connective) s =
        (.ok .nothing, t) ∧
      t.query = s.query.filterBound column "=" (.string operator) connective := by
  simp only [run, runSubject, runOperand, Action.filter, Action.filterColumn, Action.checkOperator,
    unknown, Bool.and_false, Bool.false_and, Bool.false_eq_true, if_false]
  exact ⟨_, rfl, rfl⟩

/-- Whatever a checked script gives to its conditions, no comparison on a query of it or of its
callbacks has an operator that is not known or a bound null, and no group is empty. Null beside a
column becomes a null test, gives way to text that is no operator, or is refused. -/
theorem conditions_normal (d : Dialect) :
    (∀ s, Built d s → s.query.Normal) ∧
    ∀ (column : String) (connective : Connective) (s : Session),
      let asked := fun operator =>
        run d (.filter (.column column) operator (.value .null) connective) s
      let q := s.query
      let name := q.nextName column
      (∀ operator, operator = none ∨ operator = some "=" →
        ∃ t, asked operator = (.ok .nothing, t) ∧
          t.query = q.push (.isNull column connective name)) ∧
      (∀ operator, operator = "<>" ∨ operator = "!=" →
        ∃ t, asked (some operator) = (.ok .nothing, t) ∧
          t.query = q.push (.notNull column connective name)) ∧
      (∀ operator, ¬ Operator.isKnown operator →
        ∃ t, asked (some operator) = (.ok .nothing, t) ∧
          t.query = (q.bind name (.string operator) .filter).push
            (.comparison column "=" (.bound (.string operator)) connective name)) ∧
      (∀ operator, Operator.isKnown operator → operator ∉ ["=", "<>", "!="] →
        asked (some operator) = (.error (.operatorBesideNull operator), s)) := by
  refine ⟨fun s built => built.normal, fun column connective s => ?_⟩
  intro asked q name
  refine ⟨?absent, ?unequal, ?unknown, ?other⟩
  case absent =>
    rintro operator (rfl | rfl)
    · exact ⟨_, rfl, rfl⟩
    · exact ⟨_, null_known Operator.known_equality column connective s, rfl⟩
  case unequal =>
    rintro operator (rfl | rfl)
    · exact ⟨_, null_known (by decide +kernel) column connective s, rfl⟩
    · exact ⟨_, null_known (by decide +kernel) column connective s, rfl⟩
  case unknown =>
    exact fun operator unknown =>
      null_unknown (Bool.eq_false_iff.mpr unknown) column connective s
  case other =>
    intro operator known other
    have distinct : Operator.isEquality operator = false := by
      simpa [Operator.isEquality, and_assoc] using other
    have refused := null_known (d := d) known column connective s
    rwa [distinct, if_neg Bool.false_ne_true] at refused

/-- Conditions two callbacks deep, with null, with text that is no operator and with an empty
group. -/
def rough : Step :=
  .filter (.group
    [.filter (.column "name") (some "near") (.query [.renew]) .and,
      .filter (.equalities ⟨[("age", .null), ("city", .string "Rome")], by decide⟩) none
        (.value .null) .or,
      .filterGroup [] .and,
      .filter (.column "age") (some "In")
        (.query [.filter (.column "born") (some "!=") (.value .null) .and]) .and])
    none (.value .null) .and

theorem rough_normal :
    let s := runEach {} [.target "Person", rough] {}
    s.query.Normal ∧
      (s.query.select {}).render =
        "MATCH (person:Person) WHERE (person.name = $name OR (person.age IS NULL AND " ++
          "person.city = $city) AND person.age IN " ++
          "head(COLLECT \x7b MATCH (n) WHERE n.born IS NOT NULL RETURN n \x7d)) RETURN person" ∧
      run {} (.filter (.column "age") (some "Is Null") (.value .null) .and) s =
        (.error (.operatorBesideNull "Is Null"), s) := by
  intro s
  have checked : rough.Checked := by
    refine .one rfl rfl fun inner member => ?_
    simp only [List.mem_cons, List.not_mem_nil, or_false] at member
    rcases member with rfl | rfl | rfl | rfl
    · exact .one rfl rfl (List.forall_mem_singleton.mpr (.leaf rfl rfl))
    · refine .one rfl rfl (List.forall_mem_cons.mpr ⟨.leaf rfl rfl, ?_⟩)
      exact List.forall_mem_singleton.mpr (.leaf rfl rfl)
    · exact .one rfl rfl (List.forall_mem_nil _)
    · exact .one rfl rfl (List.forall_mem_singleton.mpr (.leaf rfl rfl))
  have built : Built {} s := (Built.start {}).each
    (List.forall_mem_cons.mpr ⟨.leaf rfl rfl, List.forall_mem_singleton.mpr checked⟩)
  obtain ⟨normal, nulls⟩ := conditions_normal {}
  obtain ⟨-, -, -, refused⟩ := nulls "age" .and s
  exact ⟨normal s built, by decide +kernel, refused "Is Null" (by decide +kernel) (by decide)⟩

end Step
end GraphQuery
