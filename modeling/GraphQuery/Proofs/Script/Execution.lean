import GraphQuery.Proofs.Script.Call

/-! What an executing step sends, and what it leaves of the query. -/
namespace GraphQuery

namespace Step

/-- The columns that a fetching step asks for. -/
def fetched? : Step → Option (List String)
  | .fetchAll => some ["*"]
  | .fetch columns => some columns
  | .pluck column => some [column]
  | .pluckKeyed column key => some [column, key]
  | _ => none

/-- The request of an aggregating step on a query with that label. -/
def request? (label : Option String) : Step → Option AggregateRequest
  | .aggregate function columns percentile => some ⟨label, function, columns, percentile⟩
  | .sum column => some ⟨label, "sum", [column], none⟩
  | .avg column => some ⟨label, "avg", [column], none⟩
  | .min column => some ⟨label, "min", [column], none⟩
  | .max column => some ⟨label, "max", [column], none⟩
  | .stdev column => some ⟨label, "stdev", [column], none⟩
  | .stdevp column => some ⟨label, "stdevp", [column], none⟩
  | .percentileDisc column percentile => some ⟨label, "percentileDisc", [column], some percentile⟩
  | .percentileCont column percentile => some ⟨label, "percentileCont", [column], some percentile⟩
  | .count column => some ⟨label, "count", [column], none⟩
  | .countDistinct column => some ⟨label, "countDistinct", [column], none⟩
  | .collect column => some ⟨label, "collect", [column], none⟩
  | _ => none

/-- The statement that a step sends from a query, where it is a step that sends any. -/
def statement? (d : Dialect) (q : Query) : Step → Option (Except CompileError Statement)
  | .insert rows =>
    let rows := rows.map Record.sorted
    some <| ((q.insert d.settings rows).map Template.render).map
      (⟨.insert, ·, Query.rowParameters rows, false⟩)
  | .insertReturning row sequence =>
    let row := row.sorted
    some <| .ok ⟨.insert, (q.insertReturning d.settings row sequence).render,
      Query.rowParameters [row], false⟩
  | .update values =>
    some <| ((q.update d.settings values).map Template.render).map
      (⟨.update, ·, q.updateParameters d.settings values, false⟩)
  | .create new => some (.ok ⟨.statement, (q.create d.settings new).render, .empty, true⟩)
  | .connect parent related relationship properties =>
    let properties := properties.sorted
    some <| ((Node.connect d.settings parent related relationship properties).map
      Template.render).map (⟨.insert, ·, Query.rowParameters [properties], false⟩)
  | step =>
    match step.fetched?, step.request? q.label with
    | some columns, _ => some ((q.projecting columns).selection d)
    | none, some request => some (Query.selection d { q with aggregate := some request })
    | none, none => none

def executes : Step → Bool
  | .insert .. | .insertReturning .. | .update .. | .create .. | .connect .. => true
  | step => step.fetched?.isSome || (step.request? none).isSome

/-- What an executing step leaves of the query. -/
def after (q : Query) (step : Step) : Query :=
  match step.fetched?, step.request? q.label with
  | some columns, _ => q.projecting columns
  | none, some _ => { q with aggregate := none }
  | none, none => q

theorem after_eq {q : Query} (unasked : q.aggregate = none) (step : Step) :
    step.after q = { q with columns := q.columns.or step.fetched? } := by
  unfold after
  split
  · rename_i fetched
    rw [fetched]
    rfl
  · rename_i fetched _
    rw [fetched, Option.or_none, ← unasked]
  · rename_i fetched _
    rw [fetched, Option.or_none]

/-- The steps that execute are those that have a statement, whatever the query. -/
theorem run_sends (d : Dialect) {step : Step} (executes : step.executes) :
    ∃ statement read, (∀ q, step.statement? d q = some (statement q)) ∧
      Action.Sends statement (after · step) read (run d step) := by
  have fetch := Action.sends_fetch d
  have aggregate := Action.sends_aggregate d
  cases step with
  | fetchAll => exact ⟨_, _, fun _ => rfl, (fetch ["*"]).map Answer.rows⟩
  | fetch columns => exact ⟨_, _, fun _ => rfl, (fetch columns).map Answer.rows⟩
  | pluck column =>
    have plucked := (fetch [column]).map (·.pluck (Identifier.lastSegment column))
    exact ⟨_, _, fun _ => rfl, plucked.map Answer.values⟩
  | pluckKeyed column key =>
    have plucked := (fetch [column, key]).map
      (·.pluckKeyed (Identifier.lastSegment column) (Identifier.lastSegment key))
    exact ⟨_, _, fun _ => rfl, plucked.map Answer.record⟩
  | aggregate function columns percentile =>
    exact ⟨_, _, fun _ => rfl, (aggregate function columns percentile).map Answer.value⟩
  | sum column => exact ⟨_, _, fun _ => rfl, (aggregate "sum" [column] none).map Answer.value⟩
  | avg column => exact ⟨_, _, fun _ => rfl, (aggregate "avg" [column] none).map Answer.value⟩
  | min column => exact ⟨_, _, fun _ => rfl, (aggregate "min" [column] none).map Answer.value⟩
  | max column => exact ⟨_, _, fun _ => rfl, (aggregate "max" [column] none).map Answer.value⟩
  | stdev column => exact ⟨_, _, fun _ => rfl, (aggregate "stdev" [column] none).map Answer.value⟩
  | stdevp column => exact ⟨_, _, fun _ => rfl, (aggregate "stdevp" [column] none).map Answer.value⟩
  | percentileDisc column percentile =>
    exact ⟨_, _, fun _ => rfl,
      (aggregate "percentileDisc" [column] (some percentile)).map Answer.value⟩
  | percentileCont column percentile =>
    exact ⟨_, _, fun _ => rfl,
      (aggregate "percentileCont" [column] (some percentile)).map Answer.value⟩
  | count column =>
    have counted := (aggregate "count" [column] none).map (·.bind Value.count?)
    exact ⟨_, _, fun _ => rfl, counted.map Answer.count⟩
  | countDistinct column =>
    have counted := (aggregate "countDistinct" [column] none).map (·.bind Value.count?)
    exact ⟨_, _, fun _ => rfl, counted.map Answer.count⟩
  | collect column =>
    exact ⟨_, _, fun _ => rfl, ((aggregate "collect" [column] none).map _).map Answer.values⟩
  | insert rows => exact ⟨_, _, fun _ => rfl, (Action.sends_insert d rows).map Answer.rows⟩
  | insertReturning row sequence =>
    exact ⟨_, _, fun _ => rfl, (Action.sends_insert_returning d row sequence).map Answer.value⟩
  | update values =>
    exact ⟨_, _, fun _ => rfl, (Action.sends_update d values).map (Answer.count <| some ·)⟩
  | create new => exact ⟨_, _, fun _ => rfl, (Action.sends_create d new).map Answer.rows⟩
  | connect parent related relationship properties =>
    exact ⟨_, _, fun _ => rfl,
      (Action.sends_connect d parent related relationship properties).map Answer.rows⟩
  | _ => cases executes

/-- Gives a text of the query. -/
def writes : Step → Bool
  | .selectText | .inlinedText | .insertText .. | .insertReturningText .. | .updateText ..
  | .createText .. | .connectText .. => true
  | _ => false

theorem run_writes (d : Dialect) {step : Step} (writes : step.writes) :
    ∃ text action, run d step = Answer.text <$> action ∧ Action.Writes text action := by
  cases step with
  | selectText => exact ⟨_, _, rfl, Action.writes_select d⟩
  | inlinedText => exact ⟨_, _, rfl, Action.writes_inlined d⟩
  | insertText rows => exact ⟨_, _, rfl, Action.writes_insert d rows⟩
  | insertReturningText row sequence =>
    exact ⟨_, _, rfl, Action.writes_insert_returning d row sequence⟩
  | updateText values => exact ⟨_, _, rfl, Action.writes_update d values⟩
  | createText new => exact ⟨_, _, rfl, Action.writes_create d new⟩
  | connectText parent related relationship properties =>
    exact ⟨_, _, rfl, Action.writes_connect d parent related relationship properties⟩
  | _ => cases writes

theorem statement_of_request {step : Step} {d : Dialect} {q : Query} {request : AggregateRequest}
    (asks : step.request? q.label = some request) :
    step.statement? d q = some (Query.selection d { q with aggregate := some request }) := by
  cases step <;> cases asks <;> rfl

/-- What an aggregate sends does not depend on the projection. -/
theorem statement_unprojected {step : Step} {d : Dialect} {q : Query}
    (asks : (step.request? q.label).isSome) (columns : Option (List String)) :
    step.statement? d { q with columns := columns } = step.statement? d q := by
  obtain ⟨request, asks⟩ := Option.isSome_iff_exists.mp asks
  let other : Query := { q with columns := columns }
  have projected : step.request? other.label = some request := asks
  let asked : Query := { q with aggregate := some request }
  have same := Query.selection_of_aggregate (d := d) (q := asked) rfl columns
  rw [statement_of_request projected, statement_of_request asks]
  exact congrArg some same

section Unasked

variable {d : Dialect}

theorem map_apply {α β : Type} (f : α → β) (action : Action α) (s : Session) :
    (f <$> action) s = ((action s).1.map f, (action s).2) := by
  rw [map_eq_pure_bind, Action.bind_apply]
  rcases action s with ⟨_ | a, t⟩ <;> rfl

theorem done_apply (body : Action Unit) (s : Session) :
    Action.done body s = ((body s).1.map fun _ => .nothing, (body s).2) := by
  unfold Action.done
  rw [Action.bind_apply]
  rcases body s with ⟨_ | a, t⟩ <;> rfl

theorem finish_aggregate {call : Call} {q inner r : Query}
    (finished : call.finish d q inner = .ok r) : r.aggregate = q.aggregate := by
  cases call with
  | group body connective =>
    have grouped : r = q.filterGroup inner connective := (Except.ok.inj finished).symm
    rw [grouped, Query.filterGroup]
    split <;> rfl
  | splice body make =>
    rw [Call.finish] at finished
    cases selected : d.select inner with
    | error e =>
      rw [selected] at finished
      cases finished
    | ok template =>
      rw [selected] at finished
      cases finished
      rfl

theorem call_aggregate (call : Call) (s : Session) :
    (call.action d s).2.query.aggregate = s.query.aggregate := by
  rcases ran : runAll d call.body { s with query := call.start s.query } with ⟨cause | _, t⟩
  · rw [Call.action_error ran]
  · have after := Call.action_ok ran
    split at after
    · rename_i finished
      obtain ⟨u, done, last⟩ := after
      rw [done]
      exact (congrArg Query.aggregate last).trans (finish_aggregate finished)
    · obtain ⟨u, refused, kept⟩ := after
      rw [refused]
      exact congrArg Query.aggregate kept

theorem writes_query {step : Step} (writes : step.writes) (s : Session) :
    (run d step s).2.query = s.query := by
  obtain ⟨_, _, asks, written⟩ := run_writes d writes
  obtain ⟨t, ran, kept, -⟩ := written s
  rw [asks, map_apply, ran]
  exact kept

/-- No step leaves a request on the query. -/
theorem run_unasked (step : Step) {s : Session} (unasked : s.query.aggregate = none) :
    (run d step s).2.query.aggregate = none := by
  by_cases executes : step.executes
  · obtain ⟨_, _, -, sends⟩ := run_sends d executes
    obtain ⟨_, t, ran, after, -⟩ := sends s
    rw [ran]
    exact (congrArg Query.aggregate (after.trans (after_eq unasked step))).trans unasked
  · cases calls : step.call? with
    | some call =>
      rw [run_call calls, done_apply]
      exact (call_aggregate call s).trans unasked
    | none =>
      by_cases filters : step.isFilter
      · rcases run_uncalled (d := d) filters calls s with ⟨_, refused⟩ | ⟨t, ran, gains⟩
        · rw [refused]
          exact unasked
        · rw [ran, gains.extending]
          exact unasked
      · -- None of the other steps has anything to do with aggregates.
        cases step with
        | target | select | limit | offset | sortBy | carry | renew | relate | relateToAny | respond
        | fail => first | exact unasked | rfl
        | addValue value bucket =>
          simp only [run, done_apply, Action.addValue, Action.bind_apply]
          cases Bucket.ofName bucket <;> exact unasked
        | appendQuery body =>
          simp only [run, done_apply, Action.appendQuery, Action.bind_apply, Action.within]
          rcases runAll d body { s with query := {} } with ⟨_ | _, t⟩ <;> exact unasked
        | appendEncoded conditions values =>
          simp only [run, Action.appendEncoded]
          cases Condition.decodeList? conditions <;> exact unasked
        | selectText | inlinedText | insertText | insertReturningText | updateText | createText
        | connectText => exact (congrArg Query.aggregate (writes_query (by rfl) s)).trans unasked
        | nodeAlias labels => cases labels <;> exact unasked
        | parameterForm | rowNames | updateNames => exact unasked
        | filter | filterGroup | filterQuery | filterIn | filterBetween | filterNull
        | filterCarried => exact absurd rfl filters
        | _ => exact absurd rfl executes

/-- The sessions that scripts lead to, in callbacks and in queries to be appended as well. -/
inductive Reached (d : Dialect) : Session → Prop where
  | start (recorder : Recorder) : Reached d { recorder := recorder }
  | step {s : Session} (reached : Reached d s) (step : Step) : Reached d (run d step s).2
  | called {s : Session} (reached : Reached d s) {step : Step} {call : Call}
      (calls : step.call? = some call) : Reached d { s with query := call.start s.query }
  | unrelated {s : Session} (reached : Reached d s) : Reached d { s with query := {} }

theorem Reached.unasked {s : Session} (reached : Reached d s) : s.query.aggregate = none := by
  induction reached with
  | start | unrelated => rfl
  | step _ step unasked => exact run_unasked step unasked
  | @called _ _ _ call => cases call <;> rfl

end Unasked

/-- One statement is sent, or none because it cannot be written. Of the query nothing changes but
that fetching sets a projection where there was none. -/
structure Executed (d : Dialect) (step : Step) (s : Session)
    (statement : Except CompileError Statement) : Prop where
  made : step.statement? d s.query = some statement
  query : (run d step s).2.query = { s.query with columns := s.query.columns.or step.fetched? }
  unasked : (run d step s).2.query.aggregate = none
  sent : (run d step s).2.recorder.statements =
    s.recorder.statements ++ statement.toOption.toList
  refused : ∀ e, statement = .error e →
    (run d step s).1 = .error (.compile e) ∧ (run d step s).2.recorder = s.recorder
  passed : ∀ x, statement = .ok x → (run d step s).2.recorder = (s.recorder.execute x).2

variable {d : Dialect} {s : Session}

theorem execute_statements (recorder : Recorder) (x : Statement) :
    (recorder.execute x).2.statements = recorder.statements ++ [x] := by
  unfold Recorder.execute
  split <;> rfl

theorem executed {step : Step} (executes : step.executes) (unasked : s.query.aggregate = none) :
    ∃ statement, Executed d step s statement := by
  obtain ⟨statement, read, made, sends⟩ := run_sends d executes
  obtain ⟨answer, t, ran, after, sent⟩ := sends s
  have query := after.trans (after_eq unasked step)
  have still : t.query.aggregate = none := (congrArg Query.aggregate query).trans unasked
  cases written : statement s.query with
  | error e =>
    simp only [written] at sent
    refine ⟨.error e, ?_, ?_, ?_, ?_, ?_, ?_⟩
    · rw [made, written]
    · rw [ran, query]
    · rw [ran, still]
    · rw [ran, sent.2]
      exact (List.append_nil _).symm
    · rintro _ ⟨⟩
      rw [ran]
      exact sent
    · rintro _ ⟨⟩
  | ok x =>
    simp only [written] at sent
    refine ⟨.ok x, ?_, ?_, ?_, ?_, ?_, ?_⟩
    · rw [made, written]
    · rw [ran, query]
    · rw [ran, still]
    · rw [ran, sent.2, execute_statements]
      rfl
    · rintro _ ⟨⟩
    · rintro _ ⟨⟩
      rw [ran]
      exact sent.2

/-- Fetching all sends the text and the values that the query has just before. -/
theorem fetch_all_statement (d : Dialect) (s : Session) :
    ∃ statement, fetchAll.statement? d s.query = some statement ∧
      statement.mapError .compile =
        (Action.selectText d s).1.map (⟨.select, ·, s.query.parameters, false⟩) := by
  obtain ⟨t, wrote, -⟩ := Action.writes_select d s
  refine ⟨s.query.selection d, congrArg some (s.query.selection_all d), ?_⟩
  rw [wrote, Query.selection]
  dsimp only
  cases d.select s.query <;> rfl

theorem fetch_all_again {statement : Except CompileError Statement}
    (first : Executed d fetchAll s statement) :
    fetchAll.statement? d (run d fetchAll s).2.query = some statement := by
  have projected : (run d fetchAll s).2.query = s.query.projecting ["*"] := first.query
  have same : fetchAll.statement? d (s.query.projecting ["*"]) = fetchAll.statement? d s.query :=
    (congrArg some (Query.selection_all d _))
  rw [projected, same, first.made]

/-- Executing changes nothing of a query that scripts lead to but a projection that was not set, and
sends what compiles just once. What an aggregate sends does not depend on the projection, and what
fetching all sends is what could be read off the query before, the second time as the first. -/
theorem execution_framed (reached : Reached d s) {step : Step} (executes : step.executes) :
    ∃ statement, Executed d step s statement ∧
      ((step.request? s.query.label).isSome → ∀ columns,
        step.statement? d { s.query with columns := columns } = some statement) ∧
      (step = .fetchAll →
        statement.mapError .compile =
            (Action.selectText d s).1.map (⟨.select, ·, s.query.parameters, false⟩) ∧
          Executed d .fetchAll (run d .fetchAll s).2 statement) := by
  obtain ⟨statement, done⟩ := executed (d := d) executes reached.unasked
  refine ⟨statement, done, fun asks columns => ?_, ?_⟩
  · rw [statement_unprojected asks, done.made]
  · rintro rfl
    constructor
    · obtain ⟨other, made, read⟩ := fetch_all_statement d s
      rw [done.made] at made
      cases made
      exact read
    · obtain ⟨other, again⟩ := executed (d := d) executes done.unasked
      have same := again.made
      rw [fetch_all_again done] at same
      cases same
      exact again

/-- A projected query whose connection will not answer. -/
def unanswered : Session :=
  runEach {} [.target "Person", .select ["name"],
    .filter (.column "age") (some ">") (.value (.nat 5)) .and, .fail (.rejected "busy")] {}

theorem count_unanswered :
    Reached {} unanswered ∧ executes (.count "*") ∧
      unanswered.query.columns = some ["name"] ∧
      (run {} (.count "*") unanswered).2.query = unanswered.query ∧
      (run {} (.count "*") unanswered).2.recorder.statements.map Statement.text =
        ["MATCH (person:Person) WHERE person.age > $age RETURN count(person) AS aggregate"] := by
  have reached : Reached {} unanswered :=
    .step (.step (.step (.step (.start {}) _) _) _) _
  have executing : executes (.count "*") := rfl
  obtain ⟨statement, done, -, -⟩ := execution_framed reached executing
  refine ⟨reached, rfl, by decide +kernel, ?_, by decide +kernel⟩
  rw [done.query]
  rfl

end Step
end GraphQuery
