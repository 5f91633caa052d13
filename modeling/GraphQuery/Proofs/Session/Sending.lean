import GraphQuery.Proofs.Session.Apply
import GraphQuery.Session.Execute

/-! What writing and sending do to a session. Writing leaves the query and the connection alone;
sending passes on one statement, or none where it cannot be written. -/
namespace GraphQuery

namespace Query

/-- The columns are used only when no projection was set. -/
def projecting (q : Query) (columns : List String) : Query :=
  { q with columns := q.columns.or (some columns) }

def selection (d : Dialect) (q : Query) : Except CompileError Statement :=
  ((d.select q).map Template.render).map fun text => ⟨.select, text, q.parameters, false⟩

theorem selection_of_aggregate {d : Dialect} {q : Query} {request : AggregateRequest}
    (asked : q.aggregate = some request) (columns : Option (List String)) :
    selection d { q with columns := columns } = selection d q := by
  -- An aggregate stands in the place of the projection.
  have projected :
      projection { q with columns := columns } d.settings = q.projection d.settings := by
    simp only [projection, asked]
    rfl
  have selected : d.select { q with columns := columns } = d.select q := by
    simp only [Dialect.select, select, projected]
    rfl
  rw [selection, selected]
  rfl

theorem projection_all (q : Query) (s : Settings) :
    (q.projecting ["*"]).projection s = q.projection s := by
  unfold projection projecting
  cases q.aggregate with
  | some request => rfl
  | none =>
    cases q.columns with
    | some columns => rfl
    | none => rfl

/-- Without a projection the whole node is written, so asking for all columns changes no text. -/
theorem selection_all (d : Dialect) (q : Query) :
    (q.projecting ["*"]).selection d = q.selection d := by
  have selected : d.select (q.projecting ["*"]) = d.select q := by
    simp only [Dialect.select, select, projection_all]
    rfl
  rw [selection, selected]
  rfl

end Query

namespace Action

variable {α β : Type}

/-- The action gives the text, and changes neither the query nor the connection. -/
def Writes (text : Query → Except CompileError String) (action : Action String) : Prop :=
  ∀ s : Session, ∃ t, action s = ((text s.query).mapError .compile, t) ∧
    t.query = s.query ∧ t.recorder = s.recorder

/-- The action sends the statement and reads the rows that come back, or sends nothing because the
statement cannot be written. Either way `change` is what becomes of the query. -/
def Sends (statement : Query → Except CompileError Statement) (change : Query → Query)
    (read : ResultSet → α) (action : Action α) : Prop :=
  ∀ s : Session, ∃ answer t, action s = (answer, t) ∧ t.query = change s.query ∧
    match statement s.query with
    | .error e => answer = .error (.compile e) ∧ t.recorder = s.recorder
    | .ok x => answer = ((s.recorder.execute x).1.mapError .transport).map read ∧
        t.recorder = (s.recorder.execute x).2

theorem compiled_apply (x : Except CompileError α) (s : Session) :
    compiled x s = (x.mapError .compile, s) := by
  cases x <;> rfl

theorem write_apply (d : Dialect) (q : Query) (s : Session) :
    ∃ t, write d q s = (((d.select q).map Template.render).mapError .compile, t) ∧
      t.query = s.query ∧ t.recorder = s.recorder := by
  unfold write
  cases d.select q with
  | error e => exact ⟨_, rfl, rfl, rfl⟩
  | ok template => exact ⟨_, rfl, rfl, rfl⟩

theorem writes_select (d : Dialect) :
    Writes (fun q => (d.select q).map Template.render) (selectText d) :=
  fun s => write_apply d s.query s

theorem writes_inlined (d : Dialect) :
    Writes (fun q => (d.select q).bind fun t => inlineParameters t.render q.parameters)
      (inlinedText d) := by
  intro s
  obtain ⟨t, wrote, kept⟩ := write_apply d s.query s
  refine ⟨t, ?_, kept⟩
  unfold inlinedText
  rw [bind_ok (query_apply s)]
  dsimp only
  cases selected : d.select s.query with
  | error e =>
    rw [selected] at wrote
    exact bind_error wrote _
  | ok template =>
    rw [selected] at wrote
    exact (bind_ok wrote _).trans (compiled_apply _ t)

/-- Text that is compiled from the query, with nothing else on the way. -/
theorem writes_compiled (template : Query → Except CompileError Template) :
    Writes (fun q => (template q).map Template.render)
      (do return Template.render (← compiled (template (← query)))) := by
  intro s
  refine ⟨s, ?_, rfl, rfl⟩
  rw [bind_ok (query_apply s), bind_apply, compiled_apply]
  dsimp only
  cases template s.query <;> rfl

theorem sends_send (x : Statement) : Sends (fun _ => .ok x) id id (send x) := by
  intro s
  unfold send
  rw [bind_ok (report_apply _ s)]
  rcases executed : s.recorder.execute x with ⟨reply, recorder⟩
  have got : (get : Action Session) { s with notices := s.notices ++ sendingNotices x } =
    (.ok { s with notices := s.notices ++ sendingNotices x },
      { s with notices := s.notices ++ sendingNotices x }) := rfl
  rw [bind_ok got]
  simp only [executed]
  cases reply with
  | ok rows => exact ⟨_, _, rfl, rfl, rfl, rfl⟩
  | error e => exact ⟨_, _, rfl, rfl, rfl, rfl⟩

section Rules

variable {statement : Query → Except CompileError Statement} {change : Query → Query}
  {read : ResultSet → α} {action : Action α}

theorem Sends.map (sends : Sends statement change read action) (f : α → β) :
    Sends statement change (f ∘ read) (f <$> action) := by
  intro s
  obtain ⟨answer, t, ran, after, sent⟩ := sends s
  refine ⟨answer.map f, t, ?_, after, ?_⟩
  · rw [map_eq_pure_bind, bind_apply, ran]
    cases answer <;> rfl
  · split at sent
    · exact ⟨sent.1 ▸ rfl, sent.2⟩
    · refine ⟨?_, sent.2⟩
      rw [sent.1]
      cases (s.recorder.execute _).1 <;> rfl

theorem Writes.send {text : Query → Except CompileError String} {writing : Action String}
    (writes : Writes text writing) {make : Query → String → Statement}
    {next : String → Action ResultSet}
    (sends : ∀ written, Sends (fun q => .ok (make q written)) id id (next written)) :
    Sends (fun q => (text q).map (make q)) id id (writing >>= next) := by
  intro s
  obtain ⟨t, wrote, query, recorder⟩ := writes s
  dsimp only
  cases written : text s.query with
  | error e =>
    rw [written] at wrote
    exact ⟨_, t, bind_error wrote _, query, rfl, recorder⟩
  | ok made =>
    rw [written] at wrote
    obtain ⟨answer, u, ran, after, sent⟩ := sends made t
    rw [query, recorder] at sent
    exact ⟨answer, u, (bind_ok wrote _).trans ran, after.trans query, sent⟩

end Rules

theorem sends_fetch (d : Dialect) (columns : List String) :
    Sends (fun q => (q.projecting columns).selection d) (·.projecting columns) id
      (fetch d columns) := by
  intro s
  have sending (text : String) :
      Sends (fun q => .ok ⟨.select, text, q.parameters, false⟩) id id
        (do send ⟨.select, text, (← query).parameters, false⟩) :=
    fun t => sends_send ⟨.select, text, t.query.parameters, false⟩ t
  exact (writes_select d).send sending { s with query := s.query.projecting columns }

/-- The request and the columns that came with it are gone afterwards. -/
theorem sends_aggregate (d : Dialect) (function : String) (columns : List String)
    (percentile : Option Decimal.Binary64) :
    Sends
      (fun q => Query.selection d
        { q with aggregate := some ⟨q.label, function, columns, percentile⟩ })
      (fun q => { q with aggregate := none })
      (·.aggregateValue? d.settings.aggregateAlias) (aggregate d function columns percentile) := by
  intro s
  let asked : Query :=
    { s.query with aggregate := some ⟨s.query.label, function, columns, percentile⟩ }
  obtain ⟨answer, t, ran, after, sent⟩ := sends_fetch d columns { s with query := asked }
  refine ⟨answer.map (·.aggregateValue? d.settings.aggregateAlias),
    { t with query := { t.query with aggregate := none, columns := s.query.columns } }, ?_, ?_, ?_⟩
  · unfold aggregate
    rw [bind_ok (query_apply s), bind_ok (modify_query_apply _ s)]
    have handed : outcome (fetch d columns) { s with query := asked } = (.ok answer, t) := by
      unfold outcome
      rw [ran]
    rw [bind_ok handed, bind_ok (modify_query_apply _ t)]
    cases answer <;> rfl
  · simp only [after]
    rfl
  · have same : (asked.projecting columns).selection d = asked.selection d :=
      Query.selection_of_aggregate rfl _
    simp only [same] at sent
    dsimp only at sent ⊢
    cases made : asked.selection d with
    | error e =>
      simp only [made, asked] at sent ⊢
      exact ⟨sent.1 ▸ rfl, sent.2⟩
    | ok x =>
      simp only [made, asked] at sent ⊢
      refine ⟨?_, sent.2⟩
      rw [sent.1]
      cases (s.recorder.execute x).1 <;> rfl

theorem writes_insert (d : Dialect) (rows : List Row) :
    Writes (fun q => (q.insert d.settings rows).map Template.render) (insertText d rows) :=
  writes_compiled _

theorem writes_insert_returning (d : Dialect) (row : Row) (sequence : Option String) :
    Writes (fun q => .ok (q.insertReturning d.settings row sequence).render)
      (insertReturningText d row sequence) :=
  fun s => ⟨s, rfl, rfl, rfl⟩

theorem writes_update (d : Dialect) (values : Row) :
    Writes (fun q => (q.update d.settings values).map Template.render) (updateText d values) :=
  writes_compiled _

theorem writes_create (d : Dialect) (new : NewNode) :
    Writes (fun q => .ok (q.create d.settings new).render) (createText d new) :=
  fun s => ⟨s, rfl, rfl, rfl⟩

theorem writes_connect (d : Dialect) (parent related : Node) (relationship : String)
    (properties : Row) :
    Writes
      (fun _ =>
        (Node.connect d.settings parent related relationship properties).map Template.render)
      (connectText d parent related relationship properties) :=
  writes_compiled fun _ => Node.connect d.settings parent related relationship properties

theorem sends_insert (d : Dialect) (rows : List Row) :
    Sends
      (fun q => ((q.insert d.settings (rows.map Record.sorted)).map Template.render).map fun text =>
        ⟨.insert, text, Query.rowParameters (rows.map Record.sorted), false⟩)
      id id (insert d rows) :=
  (writes_insert d _).send fun text =>
    sends_send ⟨.insert, text, Query.rowParameters (rows.map Record.sorted), false⟩

theorem sends_insert_returning (d : Dialect) (row : Row) (sequence : Option String) :
    Sends
      (fun q => .ok ⟨.insert, (q.insertReturning d.settings row.sorted sequence).render,
        Query.rowParameters [row.sorted], false⟩)
      id (fun rows => rows.current?.bind (·.get? (sequence.getD d.settings.identityColumn)))
      (insertReturning d row sequence) := by
  have sent := (writes_insert_returning d row.sorted sequence).send fun text =>
    sends_send ⟨.insert, text, Query.rowParameters [row.sorted], false⟩
  have read := sent.map fun rows =>
    rows.current?.bind (·.get? (sequence.getD d.settings.identityColumn))
  rw [map_eq_pure_bind, bind_assoc] at read
  exact read

theorem sends_update (d : Dialect) (values : Row) :
    Sends
      (fun q => ((q.update d.settings values).map Template.render).map fun text =>
        ⟨.update, text, q.updateParameters d.settings values, false⟩)
      id (fun rows => ((rows.current?.bind (·.values.head?)).bind Value.natural?).getD 0)
      (update d values) := by
  have sending (text : String) :
      Sends (fun q => .ok ⟨.update, text, q.updateParameters d.settings values, false⟩) id id
        (do send ⟨.update, text, (← query).updateParameters d.settings values, false⟩) :=
    fun t => sends_send ⟨.update, text, t.query.updateParameters d.settings values, false⟩ t
  have read := ((writes_update d values).send sending).map fun rows =>
    ((rows.current?.bind (·.values.head?)).bind Value.natural?).getD 0
  rw [map_eq_pure_bind, bind_assoc] at read
  exact read

theorem sends_create (d : Dialect) (new : NewNode) :
    Sends (fun q => .ok ⟨.statement, (q.create d.settings new).render, .empty, true⟩) id id
      (create d new) :=
  (writes_create d new).send fun text => sends_send ⟨.statement, text, .empty, true⟩

theorem sends_connect (d : Dialect) (parent related : Node) (relationship : String)
    (properties : Row) :
    Sends
      (fun _ =>
        ((Node.connect d.settings parent related relationship properties.sorted).map
          Template.render).map fun text =>
            ⟨.insert, text, Query.rowParameters [properties.sorted], false⟩)
      id id (connect d parent related relationship properties) :=
  (writes_connect d parent related relationship properties.sorted).send fun text =>
    sends_send ⟨.insert, text, Query.rowParameters [properties.sorted], false⟩

end Action
end GraphQuery
