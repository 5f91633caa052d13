import GraphQuery.Proofs.Script.Inserted

/-! Inserting does not show in which order the cells of a row were put together. -/
namespace GraphQuery

/-- Row by row the same cells, in whatever order. -/
abbrev Reordered : List Row → List Row → Prop :=
  List.Forall₂ fun row other => row.entries.Perm other.entries

theorem Reordered.sorted {rows others : List Row} (same : Reordered rows others) :
    rows.map Record.sorted = others.map Record.sorted := by
  induction same with
  | nil => rfl
  | cons here _ ih => rw [List.map_cons, List.map_cons, Record.sorted_of_perm here, ih]

namespace Action

variable (d : Dialect)

theorem insert_reordered {rows others : List Row} (same : Reordered rows others) :
    insert d rows = insert d others := by
  unfold insert
  rw [same.sorted]

theorem insert_returning_reordered {row other : Row} (same : row.entries.Perm other.entries)
    (sequence : Option String) :
    insertReturning d row sequence = insertReturning d other sequence := by
  unfold insertReturning
  rw [Record.sorted_of_perm same]

theorem connect_reordered {properties others : Row}
    (same : properties.entries.Perm others.entries) (parent related : Node)
    (relationship : String) :
    connect d parent related relationship properties =
      connect d parent related relationship others := by
  unfold connect
  rw [Record.sorted_of_perm same]

end Action

namespace Step

/-- The step sends one statement, which is `x`. -/
def SendsOne (d : Dialect) (s : Session) (step : Step) (x : Statement) : Prop :=
  (run d step s).2.recorder.statements = s.recorder.statements ++ [x]

theorem sends_one {d : Dialect} {s : Session} {step : Step}
    {statement : Query → Except CompileError Statement} {change : Query → Query}
    {read : ResultSet → Answer} (sends : Action.Sends statement change read (run d step))
    (made : ∃ x, statement s.query = .ok x) : ∃ x, SendsOne d s step x := by
  obtain ⟨x, written⟩ := made
  exact ⟨x, sends.statements written⟩

theorem insert_sends_one (d : Dialect) (s : Session) {rows : List Row} (given : rows ≠ []) :
    ∃ x, SendsOne d s (.insert rows) x := by
  apply sends_one ((Action.sends_insert d rows).map Answer.rows)
  have full : rows.map Record.sorted ≠ [] := mt List.map_eq_nil_iff.mp given
  rw [Query.insert_written s.query d.settings full]
  exact ⟨_, rfl⟩

theorem insert_returning_sends_one (d : Dialect) (s : Session) (row : Row)
    (sequence : Option String) : ∃ x, SendsOne d s (.insertReturning row sequence) x :=
  sends_one ((Action.sends_insert_returning d row sequence).map Answer.value) ⟨_, rfl⟩

theorem connect_sends_one (d : Dialect) (s : Session) {parent related : Node}
    {parentKey relatedKey : String} (stored : parent.identity = .ok parentKey)
    (other : related.identity = .ok relatedKey) (relationship : String) (properties : Row) :
    ∃ x, SendsOne d s (.connect parent related relationship properties) x := by
  apply sends_one
    ((Action.sends_connect d parent related relationship properties).map Answer.rows)
  rw [Node.connect_written stored other]
  exact ⟨_, rfl⟩

/-- Rows with the same cells are inserted by the same statement, text and parameters and the order
of the parameters included, and leave the same session behind; so does the one row of an insert
that returns its identity, and so do the properties of a new relationship. -/
theorem sent_in_any_order (d : Dialect) (s : Session) :
    (∀ rows others, Reordered rows others →
      run d (.insert rows) s = run d (.insert others) s ∧
      (rows ≠ [] → ∃ x, SendsOne d s (.insert rows) x ∧ SendsOne d s (.insert others) x)) ∧
    (∀ (row other : Row) sequence, row.entries.Perm other.entries →
      run d (.insertReturning row sequence) s = run d (.insertReturning other sequence) s ∧
      ∃ x, SendsOne d s (.insertReturning row sequence) x ∧
        SendsOne d s (.insertReturning other sequence) x) ∧
    (∀ parent related relationship (properties others : Row),
      properties.entries.Perm others.entries →
      let one := Step.connect parent related relationship properties
      let other := Step.connect parent related relationship others
      run d one s = run d other s ∧
      ∀ parentKey relatedKey, parent.identity = .ok parentKey →
        related.identity = .ok relatedKey → ∃ x, SendsOne d s one x ∧ SendsOne d s other x) := by
  have shared {one other : Step} (alike : run d one s = run d other s)
      (sends : ∃ x, SendsOne d s one x) : ∃ x, SendsOne d s one x ∧ SendsOne d s other x := by
    obtain ⟨x, sent⟩ := sends
    refine ⟨x, sent, ?_⟩
    rw [SendsOne, ← alike]
    exact sent
  refine ⟨?_, ?_, ?_⟩
  · intro rows others same
    have alike : run d (.insert rows) s = run d (.insert others) s :=
      congrArg (fun action => (Answer.rows <$> action : Action Answer) s)
        (Action.insert_reordered d same)
    exact ⟨alike, fun given => shared alike (insert_sends_one d s given)⟩
  · intro row other sequence same
    have alike : run d (.insertReturning row sequence) s =
        run d (.insertReturning other sequence) s :=
      congrArg (fun action => (Answer.value <$> action : Action Answer) s)
        (Action.insert_returning_reordered d same sequence)
    exact ⟨alike, shared alike (insert_returning_sends_one d s row sequence)⟩
  · intro parent related relationship properties others same one other
    have alike : run d one s = run d other s :=
      congrArg (fun action => (Answer.rows <$> action : Action Answer) s)
        (Action.connect_reordered d same parent related relationship)
    refine ⟨alike, fun parentKey relatedKey stored known => shared alike ?_⟩
    exact connect_sends_one d s stored known relationship properties

/-- The cells of two people. Their names are numbered in the order in which the cells are sorted. -/
def agesUp : List Row :=
  [⟨[("age", .nat 4), ("person.age", .nat 5)], by decide⟩,
    ⟨[("age", .nat 6), ("age_2", .nat 7)], by decide⟩]

def agesDown : List Row :=
  [⟨[("person.age", .nat 5), ("age", .nat 4)], by decide⟩,
    ⟨[("age_2", .nat 7), ("age", .nat 6)], by decide⟩]

/-- A stored node to connect with itself. -/
def zoe : Node := ⟨["Person"], none, some (.nat 1)⟩

theorem ages_sent_in_any_order :
    let s : Session := { query := { label := some "Person" } }
    let up : Row := ⟨[("age", .nat 4), ("age_2", .nat 5)], by decide⟩
    let down : Row := ⟨[("age_2", .nat 5), ("age", .nat 4)], by decide⟩
    Reordered agesUp agesDown ∧ agesUp ≠ agesDown ∧
      run {} (.insert agesUp) s = run {} (.insert agesDown) s ∧
      (∃ x, SendsOne {} s (.insert agesUp) x ∧ SendsOne {} s (.insert agesDown) x) ∧
      (∃ x, SendsOne {} s (.insertReturning up none) x ∧
        SendsOne {} s (.insertReturning down none) x) ∧
      ∃ x, SendsOne {} s (.connect zoe zoe "KNOWS" up) x ∧
        SendsOne {} s (.connect zoe zoe "KNOWS" down) x := by
  intro s up down
  have same : Reordered agesUp agesDown :=
    .cons (List.Perm.swap ..) (.cons (List.Perm.swap ..) .nil)
  have turned : up.entries.Perm down.entries := List.Perm.swap ..
  have key : zoe.identity = .ok "1" := by decide +kernel
  obtain ⟨inserts, returns, connects⟩ := sent_in_any_order {} s
  obtain ⟨alike, sends⟩ := inserts agesUp agesDown same
  obtain ⟨-, returning⟩ := returns up down none turned
  obtain ⟨-, connecting⟩ := connects zoe zoe "KNOWS" up down turned
  exact ⟨same, by decide, alike, sends (by decide), returning, connecting "1" "1" key key⟩

end Step
end GraphQuery
