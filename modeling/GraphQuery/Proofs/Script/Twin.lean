import GraphQuery.Dialect
import GraphQuery.Proofs.Script.Elementary
import GraphQuery.Proofs.Parameter.Fresh

/-! The order in which names were reserved does not matter to what is built. -/
namespace GraphQuery

namespace Change

/-- Both succeed with queries that `R` relates, or both are refused for the same reason. -/
inductive Both (R : Query → Query → Prop) :
    Except QueryError Outcome → Except QueryError Outcome → Prop where
  | ok {o p : Outcome} (related : R o.query p.query) : Both R (.ok o) (.ok p)
  | error (e : QueryError) : Both R (.error e) (.error e)

/-- Queries that `R` relates are related after the change. -/
def Respects (R : Query → Query → Prop) (change : Change) : Prop :=
  ∀ ⦃q r⦄, R q r → Both R (change q) (change r)

theorem Respects.ok {R : Query → Query → Prop} {change : Change} (respects : change.Respects R)
    {q r : Query} (related : R q r) {o : Outcome} (made : change q = .ok o) :
    ∃ p, change r = .ok p ∧ R o.query p.query := by
  have both := respects related
  rw [made] at both
  generalize change r = other at both
  cases both with
  | ok after => exact ⟨_, rfl, after⟩

theorem Respects.error {R : Query → Query → Prop} {change : Change} (respects : change.Respects R)
    {q r : Query} (related : R q r) {e : QueryError} (refused : change q = .error e) :
    change r = .error e := by
  have both := respects related
  rw [refused] at both
  generalize change r = other at both
  cases both with
  | error => rfl

theorem Respects.and_then {R : Query → Query → Prop} {first second : Change}
    (head : first.Respects R) (tail : second.Respects R) : (first.andThen second).Respects R := by
  intro q r related
  unfold andThen
  match first q, first r, head related with
  | _, _, .error e => exact .error e
  | _, _, @Both.ok _ o p after =>
    simp only
    match second o.query, second p.query, tail after with
    | _, _, .error e => exact .error e
    | _, _, .ok last => exact .ok last

theorem respects_all {R : Query → Query → Prop} {d : Dialect} {steps : List Step}
    (each : ∀ step ∈ steps, (step.change d).Respects R) : (Step.changeAll d steps).Respects R := by
  induction steps with
  | nil => exact fun _ _ related => .ok related
  | cons step rest ih =>
    exact (each step List.mem_cons_self).and_then
      (ih fun next hn => each next (List.mem_cons_of_mem _ hn))

end Change

namespace Query

/-- The same query with its reserved names in another order. -/
inductive Twin (q : Query) : Query → Prop where
  | intro {names : List ParameterName} (same : q.reserved.Perm names) :
      Twin q { q with reserved := names }

/-- Where the same names are taken, the next name is the same. -/
theorem next_name_perm {q r : Query} (same : (q.reserved ++ q.names).Perm (r.reserved ++ r.names))
    (column : String) : q.nextName column = r.nextName column :=
  ParameterName.next_perm same _

namespace Twin

variable {q r : Query}

theorem names (twin : q.Twin r) : (q.reserved ++ q.names).Perm (r.reserved ++ r.names) := by
  cases twin with
  | intro same => exact same.append_right _

theorem next_name (twin : q.Twin r) (column : String) : q.nextName column = r.nextName column :=
  next_name_perm twin.names column

/-- Two queries that have taken the same names, in whatever order, have twin children. -/
theorem of_taken (same : (q.reserved ++ q.names).Perm (r.reserved ++ r.names)) :
    q.child.Twin r.child := .intro same

theorem of_taken_group (same : (q.reserved ++ q.names).Perm (r.reserved ++ r.names))
    (label : q.label = r.label) : q.groupChild.Twin r.groupChild := by
  unfold groupChild
  rw [label]
  exact .intro (q := { q.child with label := r.label }) same

theorem select (twin : q.Twin r) (d : Dialect) : d.select q = d.select r := by
  cases twin with
  | intro => rfl

theorem ask (twin : q.Twin r) (column : String) (value : Option Value)
    (make : Option String → ParameterName → Condition) :
    (q.ask column value make).Twin (r.ask column value make) := by
  have name := twin.next_name column
  cases twin with
  | intro same =>
    unfold Query.ask
    rw [← name]
    cases value <;> exact .intro same

theorem traverse (twin : q.Twin r) (property : String) (value : Option Value)
    (make : ParameterName → Traversal) :
    (q.traverse (make (q.nextName property)) value).Twin
      (r.traverse (make (r.nextName property)) value) := by
  rw [← twin.next_name property]
  cases twin with
  | intro same => exact .intro same

theorem filter_group_eq {g h : Query} (groups : g.Twin h) (q : Query) (connective : Connective) :
    q.filterGroup h connective = q.filterGroup g connective := by
  cases groups
  rfl

theorem filter_group (twin : q.Twin r) {g h : Query} (groups : g.Twin h)
    (connective : Connective) : (q.filterGroup g connective).Twin (r.filterGroup h connective) := by
  rw [groups.filter_group_eq]
  cases twin with
  | intro same =>
    unfold Query.filterGroup
    split <;> exact .intro same

theorem adopt (twin : q.Twin r) {g h : Query} (subs : g.Twin h) (c : Condition) :
    ((q.adopt g).push c).Twin ((r.adopt h).push c) := by
  cases twin with
  | intro same =>
    cases subs with
    | intro => exact .intro (same.append_right g.names)

end Twin
end Query

namespace Change

variable {d : Dialect}

theorem Elementary.respects_twin {change : Change}
    (elementary : Elementary d (fun body => (Step.changeAll d body).Respects Query.Twin)
      (fun body => (Step.changeAll d body).Respects Query.Twin) change) :
    change.Respects Query.Twin := by
  intro q r twin
  cases elementary with
  | @settled f frame =>
    cases twin with
    | @intro names same =>
      have blind : (f q).Twin (f { q with reserved := names }) := by
        rw [frame.blind q names]
        exact .intro (frame.reserved q ▸ same)
      exact .ok blind
  | traversed make named constrained => exact .ok (twin.traverse _ _ make)
  | asking asking =>
    cases asking with
    | refused e => exact .error e
    | nameless nameless =>
      cases twin with
      | intro same => exact .ok (.intro same)
    | @asked column value f make asks takes =>
      refine .ok ?_
      simp only [asks]
      exact twin.ask column value make
    | @grouped body connective inside =>
      have label : q.label = r.label := by cases twin; rfl
      unfold group
      match Step.changeAll d body q.groupChild, Step.changeAll d body r.groupChild,
        inside (.of_taken_group twin.names label) with
      | _, _, .error e => exact .error e.insideSubQuery
      | _, _, .ok groups => exact .ok (twin.filter_group groups connective)
    | @spliced body make inside nameless =>
      unfold splice
      match Step.changeAll d body q.child, Step.changeAll d body r.child,
        inside (.of_taken twin.names) with
      | _, _, .error e => exact .error e.insideSubQuery
      | _, _, @Both.ok _ o p subs =>
        simp only [subs.select d]
        cases d.select p.query with
        | error e => exact .error _
        | ok t => exact .ok (twin.adopt subs _)

end Change

/-- What building steps do to twins keeps them twins; the induction is on the depth of callbacks. -/
theorem Step.change_respects_twin {d : Dialect} {step : Step}
    (building : step.Everywhere fun s => s.builds) : (step.change d).Respects Query.Twin := by
  induction building with
  | intro here _ ih =>
    refine (Change.elementary_of_builds here ?_ ?_).respects_twin
    · exact fun body member => Change.respects_all (ih body (group_called member))
    · exact fun body member => Change.respects_all (ih body (sub_query_called member))

end GraphQuery
