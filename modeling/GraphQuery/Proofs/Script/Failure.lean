import GraphQuery.Proofs.Script.Heeded

/-! Where the error of a step comes from, how it is marked on its way out, and what a failing step
leaves behind. -/
namespace GraphQuery

namespace QueryError

/-- The error bears no mark of a sub-query. -/
def isPlain : QueryError → Bool
  | .inSubQuery _ => false
  | _ => true

/-- How an error comes out that was raised inside so many callbacks: with one mark, or with none
where there was no callback. -/
def raisedAt (cause : QueryError) : Nat → QueryError
  | 0 => cause
  | _ + 1 => .inSubQuery cause

theorem inside_raised {cause : QueryError} (plain : cause.isPlain) (depth : Nat) :
    (cause.raisedAt depth).insideSubQuery = cause.raisedAt (depth + 1) := by
  cases depth with
  | succ => rfl
  | zero =>
    cases cause with
    | inSubQuery => cases plain
    | _ => rfl

end QueryError

namespace Step

variable {d : Dialect} {s t : Session} {step : Step}

/-- The step fails because of `cause`, which some step or the writing of a sub-query raises inside
so many callbacks. All steps before it have succeeded. -/
inductive Fails (d : Dialect) : Step → Session → QueryError → Nat → Prop where
  | itself {step : Step} {s t : Session} {cause : QueryError} (uncalled : step.call? = none)
      (lone : ∀ body, step ≠ .appendQuery body) (failed : run d step s = (.error cause, t)) :
      Fails d step s cause 0
  | called {step inner : Step} {call : Call} {done rest : List Step} {s t : Session}
      {cause : QueryError} {depth : Nat} (calls : step.call? = some call)
      (body : call.body = done ++ inner :: rest)
      (ran : runAll d done { s with query := call.start s.query } = (.ok (), t))
      (failed : Fails d inner t cause depth) : Fails d step s cause (depth + 1)
  | unwritten {step : Step} {call : Call} {s t : Session} {cause : CompileError}
      (calls : step.call? = some call)
      (ran : runAll d call.body { s with query := call.start s.query } = (.ok (), t))
      (refused : call.finish d s.query t.query = .error cause) : Fails d step s (.compile cause) 1
  | appended {inner : Step} {done rest : List Step} {s t : Session} {cause : QueryError}
      {depth : Nat} (ran : runAll d done { s with query := {} } = (.ok (), t))
      (failed : Fails d inner t cause depth) :
      Fails d (.appendQuery (done ++ inner :: rest)) s cause depth

theorem run_all_append {done : List Step} (ran : runAll d done s = (.ok (), t)) (more : List Step) :
    runAll d (done ++ more) s = runAll d more t := by
  induction done generalizing s with
  | nil =>
    cases ran
    rfl
  | cons step rest ih =>
    rw [List.cons_append, runAll, Action.bind_apply]
    rw [runAll, Action.bind_apply] at ran
    rcases first : run d step s with ⟨_ | _, u⟩
    · rw [first] at ran
      cases ran
    · rw [first] at ran
      exact ih ran

theorem run_all_failed {inner : Step} {done : List Step} {e : QueryError} {u : Session}
    (ran : runAll d done s = (.ok (), t)) (failed : run d inner t = (.error e, u))
    (rest : List Step) : runAll d (done ++ inner :: rest) s = (.error e, u) :=
  (run_all_append ran _).trans (Action.bind_error failed _)

/-- The steps before the first one that fails have succeeded. -/
theorem first_failed {body : List Step} {e : QueryError} {u : Session}
    (failed : runAll d body s = (.error e, u)) :
    ∃ done inner rest t, body = done ++ inner :: rest ∧ runAll d done s = (.ok (), t) ∧
      run d inner t = (.error e, u) := by
  induction body generalizing s with
  | nil => cases failed
  | cons step rest ih =>
    rw [runAll, Action.bind_apply] at failed
    rcases first : run d step s with ⟨cause | a, v⟩
    · rw [first] at failed
      cases failed
      exact ⟨[], step, rest, s, rfl, rfl, first⟩
    · rw [first] at failed
      obtain ⟨done, inner, more, t, split, ran, last⟩ := ih failed
      refine ⟨step :: done, inner, more, t, congrArg (step :: ·) split, ?_, last⟩
      exact (Action.bind_ok first _).trans ran

theorem append_error {body : List Step} {e : QueryError}
    (failed : runAll d body { s with query := {} } = (.error e, t)) :
    run d (.appendQuery body) s = (.error e, { t with query := s.query }) :=
  Action.bind_error (Action.bind_error (Action.within_error failed) _) _

theorem append_ok {body : List Step}
    (ran : runAll d body { s with query := {} } = (.ok (), t)) :
    ∃ u, run d (.appendQuery body) s = (.ok .nothing, u) :=
  ⟨_, Action.bind_ok (Action.bind_ok (Action.within_ok ran) _) _⟩

section Plain

variable {α : Type}

theorem plain_of_writes (writes : step.writes) {e : QueryError}
    (failed : run d step s = (.error e, t)) : e.isPlain := by
  obtain ⟨text, _, asks, written⟩ := run_writes d writes
  obtain ⟨u, wrote, -⟩ := written s
  rw [asks, map_apply, wrote] at failed
  cases written : text s.query with
  | error cause =>
    rw [written] at failed
    cases failed
    rfl
  | ok _ =>
    rw [written] at failed
    cases failed

theorem plain_of_sends {statement : Query → Except CompileError Statement}
    {change : Query → Query} {read : ResultSet → α} {action : Action α}
    (sends : Action.Sends statement change read action) {e : QueryError}
    (failed : action s = (.error e, t)) : e.isPlain := by
  obtain ⟨answer, u, ran, -, sent⟩ := sends s
  rw [ran] at failed
  cases failed
  split at sent
  · cases sent.1
    rfl
  · have answered := sent.1
    cases reply : (s.recorder.execute _).1 with
    | ok rows =>
      rw [reply] at answered
      cases answered
    | error cause =>
      rw [reply] at answered
      cases answered
      rfl

theorem add_value_apply (value : Value) (bucket : String) (s : Session) :
    run d (.addValue value bucket) s = (.error (.unknownBucket bucket), s) ∨
      ∃ u, run d (.addValue value bucket) s = (.ok .nothing, u) := by
  cases named : Bucket.named? bucket with
  | none =>
    have unknown : Bucket.ofName bucket = .error (.unknownBucket bucket) := by
      rw [Bucket.ofName, named]
    simp only [run, done_apply, Action.addValue, unknown]
    exact .inl rfl
  | some b =>
    have known : Bucket.ofName bucket = .ok b := by
      rw [Bucket.ofName, named]
    simp only [run, done_apply, Action.addValue, known]
    exact .inr ⟨_, rfl⟩

/-- A step that calls nothing raises its own error. -/
theorem plain_of_uncalled (uncalled : step.call? = none) (lone : ∀ body, step ≠ .appendQuery body)
    {e : QueryError} (failed : run d step s = (.error e, t)) : e.isPlain := by
  by_cases executes : step.executes
  · obtain ⟨_, _, -, sends⟩ := run_sends d executes
    exact plain_of_sends sends failed
  · by_cases filters : step.isFilter
    · rcases run_uncalled (d := d) filters uncalled s with ⟨_, refused⟩ | ⟨_, ran, _⟩
      · rw [refused] at failed
        cases failed
        rfl
      · rw [ran] at failed
        cases failed
    · cases step with
      | addValue value bucket =>
        rcases add_value_apply (d := d) value bucket s with refused | ⟨_, ran⟩
        · rw [refused] at failed
          cases failed
          rfl
        · rw [ran] at failed
          cases failed
      | appendQuery body => exact absurd rfl (lone body)
      | appendEncoded conditions values =>
        simp only [run, Action.appendEncoded] at failed
        cases decoded : Condition.decodeList? conditions <;> rw [decoded] at failed <;> cases failed
      | selectText | inlinedText | insertText | insertReturningText | updateText | createText
      | connectText => exact plain_of_writes rfl failed
      | nodeAlias labels => cases labels <;> cases failed
      | filter | filterGroup | filterQuery | filterIn | filterBetween | filterNull
      | filterCarried => exact absurd rfl filters
      | target | select | limit | offset | sortBy | carry | renew | relate | relateToAny | respond
      | fail | parameterForm | rowNames | updateNames => cases failed
      | _ => exact absurd rfl executes

end Plain

theorem call_failed {call : Call} {e : QueryError} {u : Session} (calls : step.call? = some call)
    (failed : call.action d s = (.error e, u)) : run d step s = (.error e, u) := by
  rw [run_call calls]
  exact Action.bind_error failed _

theorem Fails.outcome {cause : QueryError} {depth : Nat} (fails : Fails d step s cause depth) :
    cause.isPlain ∧ ∃ t, run d step s = (.error (cause.raisedAt depth), t) := by
  -- A plain cause is what lets the mark of the innermost callback be the only one.
  induction fails with
  | @itself step s t cause uncalled lone failed =>
    exact ⟨plain_of_uncalled uncalled lone failed, t, failed⟩
  | @called step inner call done rest s t cause depth calls body ran _ ih =>
    obtain ⟨plain, u, failed⟩ := ih
    have inside := run_all_failed ran failed rest
    rw [← body] at inside
    have marked := call_failed calls (Call.action_error inside)
    rw [QueryError.inside_raised plain] at marked
    exact ⟨plain, _, marked⟩
  | @unwritten step call s t cause calls ran refused =>
    have after := Call.action_ok ran
    rw [refused] at after
    obtain ⟨u, failed, -⟩ := after
    exact ⟨rfl, u, call_failed calls failed⟩
  | @appended inner done rest s t cause depth ran _ ih =>
    obtain ⟨plain, u, failed⟩ := ih
    exact ⟨plain, _, append_error (run_all_failed ran failed rest)⟩

theorem fails_of_error {e : QueryError} (failed : run d step s = (.error e, t)) :
    ∃ cause depth, Fails d step s cause depth := by
  -- The induction is on the depth of callbacks, and goes into the first step that failed in one.
  induction step using of_bodies generalizing s e t with
  | next step ih =>
    cases calls : step.call? with
    | some call =>
      rcases ran : runAll d call.body { s with query := call.start s.query } with ⟨inside | _, u⟩
      · obtain ⟨done, inner, rest, v, body, first, last⟩ := first_failed ran
        have member : inner ∈ call.body := by simp [body]
        obtain ⟨cause, depth, fails⟩ := ih call.body (body_mem calls) inner member last
        exact ⟨cause, depth + 1, .called calls body first fails⟩
      · have after := Call.action_ok ran
        split at after
        · obtain ⟨v, done, -⟩ := after
          have succeeded : run d step s = (.ok .nothing, v) := by
            rw [run_call calls]
            exact Action.bind_ok done _
          rw [succeeded] at failed
          cases failed
        · rename_i cause refused
          exact ⟨.compile cause, 1, .unwritten calls ran refused⟩
    | none =>
      by_cases appends : ∃ body, step = .appendQuery body
      · obtain ⟨body, rfl⟩ := appends
        rcases ran : runAll d body { s with query := {} } with ⟨inside | _, u⟩
        · obtain ⟨done, inner, rest, v, rfl, first, last⟩ := first_failed ran
          have member : inner ∈ done ++ inner :: rest := by simp
          obtain ⟨cause, depth, fails⟩ := ih _ List.mem_cons_self inner member last
          exact ⟨cause, depth, .appended first fails⟩
        · obtain ⟨v, succeeded⟩ := append_ok ran
          rw [succeeded] at failed
          cases failed
      · exact ⟨e, 0, .itself calls (fun body same => appends ⟨body, same⟩) failed⟩

/-- A condition that fails, or a value that is not added, leaves the query as it was. -/
theorem kept_of_error {e : QueryError} (conditional : step.isFilter ∨ ∃ v b, step = .addValue v b)
    (failed : run d step s = (.error e, t)) : t.query = s.query := by
  rcases conditional with filters | ⟨value, bucket, rfl⟩
  · cases calls : step.call? with
    | some call =>
      rw [run_call calls, done_apply] at failed
      rcases ran : call.action d s with ⟨cause | _, u⟩
      · rw [ran] at failed
        cases failed
        exact Call.action_kept ran
      · rw [ran] at failed
        cases failed
    | none =>
      rcases run_uncalled (d := d) filters calls s with ⟨_, refused⟩ | ⟨_, ran, _⟩
      · rw [refused] at failed
        cases failed
        rfl
      · rw [ran] at failed
        cases failed
  · rcases add_value_apply (d := d) value bucket s with refused | ⟨_, ran⟩
    · rw [refused] at failed
      cases failed
      rfl
    · rw [ran] at failed
      cases failed

end Step

/-- No steps tell the sessions apart, by an answer, by the query they lead to or by what they
send. -/
def Session.Same (d : Dialect) (s t : Session) : Prop :=
  ∀ steps : List Step, Step.answersEach d steps s = Step.answersEach d steps t ∧
    (Step.runEach d steps s).Beside Eq (Step.runEach d steps t)

theorem Session.Beside.same {s t : Session} (beside : s.Beside Eq t) (d : Dialect) :
    s.Same d t := fun _ => Step.answers_beside beside

namespace Step

variable {d : Dialect} {s t : Session} {step : Step}

/-- When a condition or a value is refused, the query is as if it had never been asked for: all that
is left is what the callbacks have sent, and where they use no connection no steps tell the sessions
before and after apart. The error is that of one first step to fail, or of a sub-query that cannot
be written, and is marked once if it comes out of any callback, however deep. -/
theorem refused_undone {e : QueryError} (conditional : step.isFilter ∨ ∃ v b, step = .addValue v b)
    (failed : run d step s = (.error e, t)) :
    t.query = s.query ∧ t.Same d { s with recorder := t.recorder } ∧
      (step.Offline → t.Same d s) ∧ (∃ cause depth, Fails d step s cause depth) ∧
      ∀ cause depth, Fails d step s cause depth → cause.isPlain ∧ e = cause.raisedAt depth := by
  have kept := kept_of_error conditional failed
  refine ⟨kept, ?_, fun offline => ?_, fails_of_error failed, fun cause depth fails => ?_⟩
  · have beside : t.Beside Eq { s with recorder := t.recorder } := ⟨kept, rfl⟩
    exact beside.same d
  · have recorder := offline.recorder (d := d) s
    rw [failed] at recorder
    have beside : t.Beside Eq s := ⟨kept, recorder⟩
    exact beside.same d
  · obtain ⟨plain, u, ran⟩ := fails.outcome
    rw [failed] at ran
    cases ran
    exact ⟨plain, rfl⟩

/-- A comparison with null, two callbacks deep and behind conditions that succeed. -/
def nestedRefusal : Step :=
  .filterGroup
    [.filter (.column "age") (some ">") (.value (.nat 5)) .and,
      .filterQuery "id" "="
        [.target "Post", .filter (.column "likes") (some ">") (.value .null) .and] .or] .and

theorem nested_refusal_undone :
    let s := runEach {} [.target "Person", .filterNull "name" .and true] {}
    Fails {} nestedRefusal s (.operatorBesideNull ">") 2 ∧
      ∃ t, run {} nestedRefusal s = (.error (.inSubQuery (.operatorBesideNull ">")), t) ∧
        t.query = s.query ∧ t.Same {} s := by
  intro s
  have offline : Offline nestedRefusal := by
    refine .one rfl rfl (List.forall_mem_cons.mpr ⟨.leaf rfl rfl, List.forall_mem_singleton.mpr ?_⟩)
    exact .one rfl rfl
      (List.forall_mem_cons.mpr ⟨.leaf rfl rfl, List.forall_mem_singleton.mpr (.leaf rfl rfl)⟩)
  have alone : ∀ body, Step.filter (.column "likes") (some ">") (.value .null) .and ≠
      .appendQuery body := by
    rintro body ⟨⟩
  have fails : Fails {} nestedRefusal s (.operatorBesideNull ">") 2 :=
    .called rfl (rfl : _ = ([_] : List Step) ++ _ :: _) rfl
      (.called rfl (rfl : _ = ([_] : List Step) ++ _ :: _) rfl (.itself rfl alone rfl))
  obtain ⟨-, t, failed⟩ := fails.outcome
  obtain ⟨kept, -, same, -, -⟩ := refused_undone (.inl rfl) failed
  exact ⟨fails, t, failed, kept, same offline⟩

end Step
end GraphQuery
