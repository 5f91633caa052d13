import GraphQuery.Proofs.Script.Execution
import GraphQuery.Proofs.Session.Heeded

/-! Scripts heed the query and the connection only, and those that leave the connection alone heed
the query only. -/
namespace GraphQuery.Step

variable {P : Recorder → Recorder → Prop} {d : Dialect}

/-- The step itself uses the connection. -/
def connects (step : Step) : Bool :=
  step.executes ||
    match step with
    | .respond .. | .fail .. => true
    | _ => false

/-- Neither the step nor anything it may run uses the connection. -/
inductive Offline : Step → Prop where
  | intro {step : Step} (here : step.connects = false)
      (inside : ∀ body ∈ step.bodies, ∀ inner ∈ body, Offline inner) : Offline step

theorem Offline.leaf {step : Step} (here : step.connects = false) (none : step.bodies = []) :
    Offline step :=
  .intro here (by simp [none])

theorem Offline.one {step : Step} {body : List Step} (here : step.connects = false)
    (runs : step.bodies = [body]) (inside : ∀ inner ∈ body, Offline inner) : Offline step :=
  .intro here (by simpa [runs] using inside)

theorem heeds_done {body : Action Unit} (heeds : body.Heeds P) : (Action.done body).Heeds P :=
  .bind heeds fun _ => .pure _

theorem heeds_all {steps : List Step} (each : ∀ step ∈ steps, (run d step).Heeds P) :
    (runAll d steps).Heeds P := by
  induction steps with
  | nil => exact .pure ()
  | cons step rest ih =>
    have tail := ih fun next hn => each next (List.mem_cons_of_mem _ hn)
    exact .bind (each step List.mem_cons_self) fun _ => tail

theorem heeds_filter {subject : Subject (List Step)} {operator : Option String}
    {operand : Operand (List Step)} {connective : Connective}
    (inside : ∀ body ∈ (Step.filter subject operator operand connective).bodies,
      (runAll d body).Heeds P) :
    (run d (.filter subject operator operand connective)).Heeds P := by
  refine heeds_done ?_
  cases subject with
  | column column =>
    refine Action.heeds_column d column operator _ (fun body same => ?_) connective
    cases operand with
    | query steps =>
      cases same
      exact inside steps List.mem_cons_self
    | value | raw => cases same
  | equalities mapping => exact Action.heeds_group (Action.heeds_each d mapping.entries) connective
  | group body =>
    have grouped := Action.heeds_group (inside body List.mem_cons_self) connective
    cases operator with
    | none => exact grouped
    | some operator => exact .bind (Action.heeds_check operator _) fun _ => grouped

theorem heeds_writes {step : Step} (writes : step.writes) : (run d step).Heeds P := by
  obtain ⟨_, _, asks, written⟩ := run_writes d writes
  exact asks ▸ .map (.writes written) _

/-- Where a step uses the connection, `P` must be equality. -/
theorem heeds_step {step : Step} (connection : step.connects → P = Eq)
    (inside : ∀ body ∈ step.bodies, (runAll d body).Heeds P) : (run d step).Heeds P := by
  by_cases executes : step.executes
  · have used : step.connects := by simp [connects, executes]
    obtain ⟨_, _, -, sends⟩ := run_sends d executes
    rw [connection used]
    exact .sends sends
  · cases step with
    | target | select | limit | offset | sortBy | carry | renew =>
      exact heeds_done (.modify_query _)
    | addValue value bucket => exact heeds_done (Action.heeds_add_value value bucket)
    | appendQuery body =>
      exact heeds_done (Action.heeds_append_query (inside body List.mem_cons_self))
    | appendEncoded conditions values => exact Action.heeds_append_encoded conditions values
    | filter subject operator operand connective => exact heeds_filter inside
    | filterGroup body connective =>
      exact heeds_done (Action.heeds_group (inside body List.mem_cons_self) connective)
    | filterQuery column operator body connective =>
      exact heeds_done (.bind (Action.heeds_sub_query d (inside body List.mem_cons_self))
        fun _ => .modify_query _)
    | filterIn column members connective negated =>
      cases members with
      | query body =>
        exact heeds_done (.bind (Action.heeds_sub_query d (inside body List.mem_cons_self))
          fun _ => .modify_query _)
      | listed values =>
        exact heeds_done (.bind .query fun _ => .bind (.report _) fun _ => .modify_query _)
    | filterBetween =>
      exact heeds_done (.bind .query fun _ => .bind (.report _) fun _ => .modify_query _)
    | filterNull | filterCarried => exact heeds_done (.modify_query _)
    | relate | relateToAny => exact heeds_done (Action.heeds_traverse _ _)
    | respond rows =>
      rw [connection rfl]
      exact heeds_done (.modify_recorder fun _ _ same => congrArg (·.respond rows) same)
    | fail error =>
      rw [connection rfl]
      exact heeds_done (.modify_recorder fun _ _ same => congrArg (·.fail error) same)
    | selectText | inlinedText | insertText | insertReturningText | updateText | createText
    | connectText => exact heeds_writes rfl
    | nodeAlias labels =>
      cases labels with
      | none => exact .bind .query fun _ => .pure _
      | some labels => exact .pure _
    | parameterForm | rowNames => exact .pure _
    | updateNames => exact .bind .query fun _ => .pure _
    | _ => exact absurd rfl executes

theorem run_heeds (step : Step) : (run d step).Heeds Eq := by
  induction step using of_bodies with
  | next step ih => exact heeds_step (fun _ => rfl) fun body called => heeds_all (ih body called)

theorem Offline.heeds {step : Step} (offline : step.Offline) : (run d step).Heeds P := by
  induction offline with
  | intro here _ ih =>
    refine heeds_step (fun used => ?_) fun body called => heeds_all (ih body called)
    rw [here] at used
    cases used

/-- What does not use the connection leaves it as it was. -/
theorem Offline.recorder {step : Step} (offline : step.Offline) (s : Session) :
    (run d step s).2.recorder = s.recorder :=
  (offline.heeds (P := fun r _ => r = s.recorder) (s := s) (t := s) ⟨rfl, rfl⟩).2.recorder

/-- The answers of steps that are run one after the other, also after one that fails. -/
def answersEach (d : Dialect) : List Step → Session → List (Except QueryError Answer)
  | [], _ => []
  | step :: rest, s => (run d step s).1 :: answersEach d rest (run d step s).2

theorem answers_beside {steps : List Step} {s t : Session} (beside : s.Beside Eq t) :
    answersEach d steps s = answersEach d steps t ∧
      (runEach d steps s).Beside Eq (runEach d steps t) := by
  induction steps generalizing s t with
  | nil => exact ⟨rfl, beside⟩
  | cons step rest ih =>
    obtain ⟨same, after⟩ := run_heeds (d := d) step beside
    obtain ⟨answers, last⟩ := ih after
    exact ⟨congrArg₂ List.cons same answers, last⟩

end GraphQuery.Step
