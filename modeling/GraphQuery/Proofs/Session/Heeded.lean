import GraphQuery.Proofs.Session.Sending
import GraphQuery.Script

/-! Actions heed the query and the connection of a session, not what was reported before.
Connections are compared by `P`: by equality where the action uses them, and by anything at all
where it does not. -/
namespace GraphQuery

/-- The same query over connections that `P` relates. -/
structure Session.Beside (P : Recorder → Recorder → Prop) (s t : Session) : Prop where
  query : s.query = t.query
  recorder : P s.recorder t.recorder

namespace Action

variable {P : Recorder → Recorder → Prop} {α β : Type}

/-- Sessions that stand beside each other get the same answer, and still do afterwards. -/
def Heeds (P : Recorder → Recorder → Prop) (action : Action α) : Prop :=
  ∀ ⦃s t : Session⦄, s.Beside P t →
    (action s).1 = (action t).1 ∧ (action s).2.Beside P (action t).2

namespace Heeds

theorem pure (a : α) : Heeds P (Pure.pure a) := fun _ _ beside => ⟨rfl, beside⟩

theorem throw (e : QueryError) : Heeds P (MonadExcept.throw e : Action α) :=
  fun _ _ beside => ⟨rfl, beside⟩

theorem bind {body : Action α} {next : α → Action β} (first : Heeds P body)
    (rest : ∀ a, Heeds P (next a)) : Heeds P (body >>= next) := by
  intro s t beside
  obtain ⟨same, after⟩ := first beside
  rw [bind_apply, bind_apply]
  rcases hs : body s with ⟨x, u⟩
  rcases ht : body t with ⟨y, v⟩
  rw [hs, ht] at same after
  cases same
  cases x with
  | ok a => exact rest a after
  | error e => exact ⟨rfl, after⟩

theorem map {body : Action α} (first : Heeds P body) (f : α → β) : Heeds P (f <$> body) := by
  rw [map_eq_pure_bind]
  exact first.bind fun a => .pure (f a)

theorem query : Heeds P query := by
  intro s t beside
  rw [query_apply, query_apply, beside.query]
  exact ⟨rfl, beside⟩

theorem modify_query (f : Query → Query) : Heeds P (modifyQuery f) :=
  fun _ _ beside => ⟨rfl, congrArg f beside.query, beside.recorder⟩

theorem modify_recorder {f : Recorder → Recorder} (keeps : ∀ r q, P r q → P (f r) (f q)) :
    Heeds P (modifyRecorder f) :=
  fun _ _ beside => ⟨rfl, beside.query, keeps _ _ beside.recorder⟩

theorem report (notices : List Notice) : Heeds P (report notices) :=
  fun _ _ beside => ⟨rfl, beside.query, beside.recorder⟩

theorem within (q : Query) {body : Action Unit} (inside : Heeds P body) :
    Heeds P (within q body) := by
  intro s t beside
  have start : Session.Beside P { s with query := q } { t with query := q } :=
    ⟨rfl, beside.recorder⟩
  obtain ⟨same, after⟩ := inside start
  unfold Action.within
  rcases hs : body { s with query := q } with ⟨x, u⟩
  rcases ht : body { t with query := q } with ⟨y, v⟩
  rw [hs, ht] at same after
  cases same
  cases x with
  | ok a => exact ⟨congrArg Except.ok after.query, beside.query, after.recorder⟩
  | error e => exact ⟨rfl, beside.query, after.recorder⟩

theorem in_sub_query {body : Action α} (inside : Heeds P body) : Heeds P (inSubQuery body) := by
  intro s t beside
  obtain ⟨same, after⟩ := inside beside
  unfold Action.inSubQuery
  rcases hs : body s with ⟨x, u⟩
  rcases ht : body t with ⟨y, v⟩
  rw [hs, ht] at same after
  cases same
  cases x with
  | ok a => exact ⟨rfl, after⟩
  | error e => exact ⟨rfl, after⟩

theorem writes {text : Query → Except CompileError String} {action : Action String}
    (writes : Writes text action) : Heeds P action := by
  intro s t beside
  obtain ⟨u, hs, query, recorder⟩ := writes s
  obtain ⟨v, ht, query', recorder'⟩ := writes t
  rw [hs, ht, beside.query]
  exact ⟨rfl, query.trans (beside.query.trans query'.symm), by
    rw [recorder, recorder']; exact beside.recorder⟩

theorem write (d : Dialect) (q : Query) : Heeds P (write d q) := by
  intro s t beside
  obtain ⟨u, hs, query, recorder⟩ := write_apply d q s
  obtain ⟨v, ht, query', recorder'⟩ := write_apply d q t
  rw [hs, ht]
  exact ⟨rfl, query.trans (beside.query.trans query'.symm), by
    rw [recorder, recorder']; exact beside.recorder⟩

/-- Actions that send heed the connection itself. -/
theorem sends {statement : Query → Except CompileError Statement} {change : Query → Query}
    {read : ResultSet → α} {action : Action α} (sends : Sends statement change read action) :
    Heeds Eq action := by
  intro s t beside
  obtain ⟨x, u, hs, query, sent⟩ := sends s
  obtain ⟨y, v, ht, query', sent'⟩ := sends t
  rw [← beside.query, ← beside.recorder] at sent'
  have after : u.query = v.query := by rw [query, query', beside.query]
  rw [hs, ht]
  cases written : statement s.query with
  | error e =>
    simp only [written] at sent sent'
    exact ⟨sent.1.trans sent'.1.symm, after, sent.2.trans sent'.2.symm⟩
  | ok made =>
    simp only [written] at sent sent'
    exact ⟨sent.1.trans sent'.1.symm, after, sent.2.trans sent'.2.symm⟩

end Heeds

theorem heeds_check {κ : Type} (operator : String) (operand : Operand κ) :
    Heeds P (checkOperator operator operand) := by
  unfold checkOperator
  split
  · exact .throw _
  · exact .pure ()

theorem heeds_group {body : Action Unit} (inside : Heeds P body) (connective : Connective) :
    Heeds P (filterGroup body connective) := by
  refine .bind .query fun q => .bind (.in_sub_query (.within _ inside)) fun group => ?_
  split
  · exact .pure ()
  · exact .bind (.report _) fun _ => .modify_query _

theorem heeds_sub_query (d : Dialect) {body : Action Unit} (inside : Heeds P body) :
    Heeds P (subQueryText d body) := by
  refine .bind .query fun q => .bind (.in_sub_query (.within _ inside)) fun sub => ?_
  refine .bind (.in_sub_query (.write d sub)) fun text => ?_
  exact .bind (.report _) fun _ => .bind (.modify_query _) fun _ => .pure text

theorem heeds_known (d : Dialect) (column operator : String) (operand : Operand (Action Unit))
    (inside : ∀ body, operand = .query body → Heeds P body) (connective : Connective) :
    Heeds P (filterKnown d column operator operand connective) := by
  cases operand with
  | query body => exact .bind (heeds_sub_query d (inside body rfl)) fun _ => .modify_query _
  | raw expression => exact .bind (.report _) fun _ => .modify_query _
  | value v =>
    unfold filterKnown
    dsimp only
    split
    · exact .modify_query _
    · exact .bind .query fun _ => .bind (.report _) fun _ => .modify_query _

theorem heeds_column (d : Dialect) (column : String) (operator : Option String)
    (operand : Operand (Action Unit)) (inside : ∀ body, operand = .query body → Heeds P body)
    (connective : Connective) : Heeds P (filterColumn d column operator operand connective) := by
  cases operator with
  | none => exact heeds_known d column "=" operand inside connective
  | some operator =>
    refine .bind (heeds_check operator operand) fun _ => ?_
    split
    · exact heeds_known d column operator operand inside connective
    · exact .bind (.report _) fun _ => heeds_known d column "=" _ (by simp) connective

theorem heeds_each (d : Dialect) (entries : List (String × Value)) :
    Heeds P (filterEach d entries) := by
  induction entries with
  | nil => exact .pure ()
  | cons e rest ih =>
    exact .bind (heeds_column d e.1 (some "=") (.value e.2) (by simp) .and) fun _ => ih

theorem heeds_append (conditions : List Condition) (values : Parameters) :
    Heeds P (append conditions values) :=
  .bind (.report _) fun _ => .modify_query _

theorem heeds_append_query {body : Action Unit} (inside : Heeds P body) :
    Heeds P (appendQuery body) :=
  .bind (.within _ inside) fun q => heeds_append q.conditions q.parameters

theorem heeds_append_encoded (conditions : Value) (values : Parameters) :
    Heeds P (appendEncoded conditions values) := by
  unfold appendEncoded
  split
  · exact .bind (heeds_append _ values) fun _ => .pure _
  · exact .pure _

theorem heeds_add_value (value : Value) (bucket : String) : Heeds P (addValue value bucket) := by
  unfold addValue
  cases Bucket.ofName bucket with
  | error e => exact .bind (.throw e) fun _ => .bind (.report _) fun _ => .modify_query _
  | ok b => exact .bind (.pure b) fun _ => .bind (.report _) fun _ => .modify_query _

theorem heeds_traverse (make : Query → Traversal) (value : Option Value) :
    Heeds P (traverse make value) :=
  .bind .query fun _ => .bind (.report _) fun _ => .modify_query _

end Action
end GraphQuery
