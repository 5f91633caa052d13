import GraphQuery.Proofs.Erasure.Statement
import GraphQuery.Proofs.Session.Apply
import GraphQuery.Session.Execute

/-! Two sessions side by side that differ in bound values only. Actions that keep them so are built
from a few rules. -/
namespace GraphQuery

/-- The statement without the values that go with it. -/
def Statement.bare (s : Statement) : Statement := { s with parameters := .empty }

/-- The same but for the values that are bound. -/
structure Session.Alike (s t : Session) : Prop where
  query : s.query.erase = t.query.erase
  statements : s.recorder.statements.map Statement.bare = t.recorder.statements.map Statement.bare
  replies : s.recorder.replies = t.recorder.replies

namespace Session.Alike

theorem refl (s : Session) : s.Alike s := ⟨rfl, rfl, rfl⟩

theorem symm {s t : Session} (alike : s.Alike t) : t.Alike s :=
  ⟨alike.query.symm, alike.statements.symm, alike.replies.symm⟩

theorem trans {s t u : Session} (first : s.Alike t) (second : t.Alike u) : s.Alike u :=
  ⟨first.query.trans second.query, first.statements.trans second.statements,
    first.replies.trans second.replies⟩

end Session.Alike

namespace Action

variable {α β γ δ : Type}

/-- Both end in answers that `R` relates, or both in the same error. -/
inductive Agree (R : α → β → Prop) :
    Except QueryError α × Session → Except QueryError β × Session → Prop where
  | ok {x : α} {y : β} {s t : Session} (answers : R x y) (alike : s.Alike t) :
      Agree R (.ok x, s) (.ok y, t)
  | error {s t : Session} (e : QueryError) (alike : s.Alike t) : Agree R (.error e, s) (.error e, t)

theorem Agree.sessions {R : α → β → Prop} {u : Except QueryError α × Session}
    {v : Except QueryError β × Session} (agree : Agree R u v) : u.2.Alike v.2 := by
  cases agree with
  | ok _ alike => exact alike
  | error _ alike => exact alike

/-- From sessions that are alike the actions lead to sessions that are alike. -/
def Couples (R : α → β → Prop) (a : Action α) (b : Action β) : Prop :=
  ∀ ⦃s t : Session⦄, s.Alike t → Agree R (a s) (b t)

def Any : α → β → Prop := fun _ _ => True

namespace Couples

theorem pure {R : α → β → Prop} {x : α} {y : β} (related : R x y) :
    Couples R (Pure.pure x) (Pure.pure y) :=
  fun _ _ alike => .ok related alike

theorem throw {R : α → β → Prop} (e : QueryError) :
    Couples R (MonadExcept.throw e) (MonadExcept.throw e) :=
  fun _ _ alike => .error e alike

theorem bind {R : α → β → Prop} {S : γ → δ → Prop} {a : Action α} {b : Action β}
    {f : α → Action γ} {g : β → Action δ} (first : Couples R a b)
    (next : ∀ x y, R x y → Couples S (f x) (g y)) : Couples S (a >>= f) (b >>= g) := by
  intro s t alike
  rw [bind_apply, bind_apply]
  match a s, b t, first alike with
  | _, _, .ok answers after => exact next _ _ answers after
  | _, _, .error e after => exact .error e after

theorem map {R : α → β → Prop} {S : γ → δ → Prop} {a : Action α} {b : Action β} {f : α → γ}
    {g : β → δ} (first : Couples R a b) (related : ∀ x y, R x y → S (f x) (g y)) :
    Couples S (f <$> a) (g <$> b) := by
  rw [map_eq_pure_bind, map_eq_pure_bind]
  exact first.bind fun x y h => .pure (related x y h)

/-- Only the first answer decides what comes next. -/
theorem bind_eq {S : γ → δ → Prop} {a b : Action α} {f : α → Action γ} {g : α → Action δ}
    (first : Couples Eq a b) (next : ∀ x, Couples S (f x) (g x)) :
    Couples S (a >>= f) (b >>= g) :=
  first.bind fun x _ same => same ▸ next x

theorem query : Couples (fun q r => q.erase = r.erase) query query :=
  fun _ _ alike => .ok alike.query alike

theorem modify_query {f g : Query → Query}
    (step : ∀ q r, q.erase = r.erase → (f q).erase = (g r).erase) :
    Couples Any (modifyQuery f) (modifyQuery g) :=
  fun _ _ alike => .ok trivial ⟨step _ _ alike.query, alike.statements, alike.replies⟩

theorem report (notices others : List Notice) : Couples Any (report notices) (report others) :=
  fun _ _ alike => .ok trivial ⟨alike.query, alike.statements, alike.replies⟩

theorem of_except (x : Except QueryError α) : Couples Eq (ofExcept x) (ofExcept x) := by
  cases x with
  | ok a => exact .pure rfl
  | error e => exact .throw e

theorem compiled (x : Except CompileError α) : Couples Eq (compiled x) (compiled x) := by
  cases x with
  | ok a => exact .pure rfl
  | error e => exact .throw (.compile e)

theorem within {q r : Query} (same : q.erase = r.erase) {a b : Action Unit}
    (body : Couples Any a b) :
    Couples (fun q r => q.erase = r.erase) (within q a) (within r b) := by
  intro s t alike
  have inner : Session.Alike { s with query := q } { t with query := r } :=
    ⟨same, alike.statements, alike.replies⟩
  unfold Action.within
  match a { s with query := q }, b { t with query := r }, body inner with
  | _, _, .ok _ after => exact .ok after.query ⟨alike.query, after.statements, after.replies⟩
  | _, _, .error e after => exact .error e ⟨alike.query, after.statements, after.replies⟩

theorem in_sub_query {R : α → β → Prop} {a : Action α} {b : Action β} (body : Couples R a b) :
    Couples R (inSubQuery a) (inSubQuery b) := by
  intro s t alike
  unfold inSubQuery
  match a s, b t, body alike with
  | _, _, .ok answers after => exact .ok answers after
  | _, _, .error e after => exact .error e.insideSubQuery after

theorem outcome {a b : Action α} (body : Couples Eq a b) :
    Couples Eq (outcome a) (outcome b) := by
  intro s t alike
  unfold Action.outcome
  match a s, b t, body alike with
  | _, _, .ok answers after => exact .ok (answers ▸ rfl) after
  | _, _, .error e after => exact .ok rfl after

end Couples

/-! Writing and sending statements. -/

theorem couples_write (d : Dialect) {q r : Query} (same : q.erase = r.erase) :
    Couples Eq (write d q) (write d r) := by
  have aggregate : q.erase.aggregate = r.erase.aggregate := congrArg Query.aggregate same
  have selected : d.select q = d.select r := by rw [← d.select_erase q, same, d.select_erase]
  unfold write
  rw [selected, show q.aggregate = r.aggregate from aggregate]
  refine .bind (R := Any) (fun _ _ alike => ?_) fun _ _ _ => ?_
  · exact .ok trivial ⟨alike.query, alike.statements, alike.replies⟩
  · refine .bind_eq (.compiled _) fun text => ?_
    exact .bind (.report _ _) fun _ _ _ => .pure rfl

theorem couples_select_text (d : Dialect) : Couples Eq (selectText d) (selectText d) :=
  .bind .query fun _ _ same => couples_write d same

theorem couples_insert_text (d : Dialect) {rows others : List Row}
    (same : rows.map Record.erase = others.map Record.erase) :
    Couples Eq (insertText d rows) (insertText d others) := by
  refine .bind .query fun q r alike => ?_
  have written : q.insert d.settings rows = r.insert d.settings others := by
    rw [← Query.insert_erase, alike, same, Query.insert_erase]
  rw [written]
  exact .bind_eq (.compiled _) fun _ => .pure rfl

theorem couples_insert_returning_text (d : Dialect) {row other : Row}
    (same : row.erase = other.erase) (sequence : Option String) :
    Couples Eq (insertReturningText d row sequence) (insertReturningText d other sequence) := by
  refine .bind .query fun q r alike => .pure ?_
  rw [← Query.insert_returning_erase, alike, same, Query.insert_returning_erase]

theorem couples_update_text (d : Dialect) {values others : Row}
    (same : values.erase = others.erase) :
    Couples Eq (updateText d values) (updateText d others) := by
  refine .bind .query fun q r alike => ?_
  have written : q.update d.settings values = r.update d.settings others := by
    rw [← Query.update_erase, alike, same, Query.update_erase]
  rw [written]
  exact .bind_eq (.compiled _) fun _ => .pure rfl

theorem couples_create_text (d : Dialect) (new : NewNode) :
    Couples Eq (createText d new) (createText d new) := by
  refine .bind .query fun q r alike => .pure ?_
  have label : q.erase.label = r.erase.label := congrArg Query.label alike
  simp only [Query.erase] at label
  simp only [Query.create, Query.createdPatterns, Query.createdAliases, Query.targetAlias, label]

theorem couples_connect_text (d : Dialect) (parent related : Node) (relationship : String)
    {properties others : Row} (same : properties.erase = others.erase) :
    Couples Eq (connectText d parent related relationship properties)
      (connectText d parent related relationship others) := by
  have written : Node.connect d.settings parent related relationship properties =
      Node.connect d.settings parent related relationship others := by
    rw [← Node.connect_erase, same, Node.connect_erase]
  unfold connectText
  rw [written]
  exact .bind_eq (.compiled _) fun _ => .pure rfl

/-- The connection answers by what is queued, not by what it is sent. -/
theorem execute_alike {s t : Session} (alike : s.Alike t) {x y : Statement}
    (same : x.bare = y.bare) :
    (s.recorder.execute x).1 = (t.recorder.execute y).1 ∧
      Session.Alike { s with recorder := (s.recorder.execute x).2 }
        { t with recorder := (t.recorder.execute y).2 } := by
  have statements : (s.recorder.statements ++ [x]).map Statement.bare =
      (t.recorder.statements ++ [y]).map Statement.bare := by
    rw [List.map_append, List.map_append, alike.statements, List.map_singleton, List.map_singleton,
      same]
  unfold Recorder.execute
  rw [alike.replies]
  cases h : t.recorder.replies with
  | nil => exact ⟨rfl, alike.query, statements, rfl⟩
  | cons reply rest => exact ⟨rfl, alike.query, statements, rfl⟩

theorem couples_send {x y : Statement} (same : x.bare = y.bare) :
    Couples Eq (send x) (send y) := by
  refine .bind (.report _ _) fun _ _ _ s t alike => ?_
  obtain ⟨reply, after⟩ := execute_alike alike same
  rw [bind_ok (show (get : Action Session) s = (.ok s, s) from rfl),
    bind_ok (show (get : Action Session) t = (.ok t, t) from rfl)]
  rcases hx : s.recorder.execute x with ⟨answer, u⟩
  rcases hy : t.recorder.execute y with ⟨other, v⟩
  simp only [hx, hy] at reply after
  subst reply
  cases answer with
  | ok rows => exact .ok rfl after
  | error e => exact .error (.transport e) after

theorem couples_fetch (d : Dialect) (columns : List String) :
    Couples Eq (fetch d columns) (fetch d columns) := by
  refine .bind (.modify_query fun q r same => ?_) fun _ _ _ => ?_
  · have projected : q.erase.columns = r.erase.columns := congrArg Query.columns same
    have reprojected (q : Query) : Query.erase { q with columns := q.columns.or (some columns) } =
      { q.erase with columns := q.erase.columns.or (some columns) } := rfl
    rw [reprojected, reprojected, same]
  · refine .bind_eq (couples_select_text d) fun text => ?_
    exact .bind .query fun _ _ _ => couples_send rfl

theorem couples_aggregate (d : Dialect) (function : String) (columns : List String)
    (percentile : Option Decimal.Binary64) :
    Couples Eq (aggregate d function columns percentile)
      (aggregate d function columns percentile) := by
  refine .bind .query fun before others same => ?_
  have projected : before.erase.columns = others.erase.columns := congrArg Query.columns same
  simp only [Query.erase] at projected
  refine .bind (.modify_query fun q r alike => ?_) fun _ _ _ => ?_
  · have asked (q : Query) :
        Query.erase { q with aggregate := some ⟨q.label, function, columns, percentile⟩ } =
          { q.erase with aggregate := some ⟨q.erase.label, function, columns, percentile⟩ } := rfl
    rw [asked, asked, alike]
  · refine .bind_eq (.outcome (couples_fetch d columns)) fun answer => ?_
    refine .bind (.modify_query fun q r alike => ?_) fun _ _ _ => ?_
    · have restored (q : Query) (columns : Option (List String)) :
          Query.erase { q with aggregate := none, columns := columns } =
            { q.erase with aggregate := none, columns := columns } := rfl
      rw [restored, restored, alike, projected]
    · exact .bind_eq (.of_except answer) fun _ => .pure rfl

theorem erase_sorted_rows {rows others : List Row}
    (same : rows.map Record.erase = others.map Record.erase) :
    (rows.map Record.sorted).map Record.erase = (others.map Record.sorted).map Record.erase := by
  have sorted (rows : List Row) : (rows.map Record.sorted).map Record.erase =
      (rows.map Record.erase).map Record.sorted := by
    simp only [List.map_map, Function.comp_def, Record.erase_sorted]
  rw [sorted, sorted, same]

theorem couples_insert (d : Dialect) {rows others : List Row}
    (same : rows.map Record.erase = others.map Record.erase) :
    Couples Eq (insert d rows) (insert d others) := by
  refine .bind_eq (couples_insert_text d (erase_sorted_rows same)) fun text => ?_
  exact couples_send rfl

theorem couples_insert_returning (d : Dialect) {row other : Row} (same : row.erase = other.erase)
    (sequence : Option String) :
    Couples Eq (insertReturning d row sequence) (insertReturning d other sequence) := by
  have sorted : row.sorted.erase = other.sorted.erase := by
    rw [Record.erase_sorted, Record.erase_sorted, same]
  refine .bind_eq (couples_insert_returning_text d sorted sequence) fun text => ?_
  exact .bind_eq (couples_send rfl) fun _ => .pure rfl

theorem couples_update (d : Dialect) {values others : Row} (same : values.erase = others.erase) :
    Couples Eq (update d values) (update d others) := by
  refine .bind_eq (couples_update_text d same) fun text => .bind .query fun _ _ _ => ?_
  exact .bind_eq (couples_send rfl) fun _ => .pure rfl

theorem couples_create (d : Dialect) (new : NewNode) :
    Couples Eq (create d new) (create d new) :=
  .bind_eq (couples_create_text d new) fun _ => couples_send rfl

theorem couples_connect (d : Dialect) (parent related : Node) (relationship : String)
    {properties others : Row} (same : properties.erase = others.erase) :
    Couples Eq (connect d parent related relationship properties)
      (connect d parent related relationship others) := by
  have sorted : properties.sorted.erase = others.sorted.erase := by
    rw [Record.erase_sorted, Record.erase_sorted, same]
  refine .bind_eq (couples_connect_text d parent related relationship sorted) fun text => ?_
  exact couples_send rfl

/-- The written-out query shows the values, but what keeps it from being written does not depend on
them. -/
theorem couples_inlined_text (d : Dialect) :
    Couples Any (inlinedText d) (inlinedText d) := by
  refine .bind .query fun q r same => .bind_eq (couples_write d same) fun text => ?_
  have shown : (inlineParameters text q.parameters).map (fun _ => ()) =
      (inlineParameters text r.parameters).map fun _ => () := by
    rw [← inline_parameters_erase, ← Query.parameters_erase, same, Query.parameters_erase,
      inline_parameters_erase]
  cases h : inlineParameters text q.parameters <;> cases g : inlineParameters text r.parameters <;>
    simp only [h, g] at shown
  · cases shown
    exact .throw _
  · cases shown
  · cases shown
  · exact .pure trivial

end Action
end GraphQuery
