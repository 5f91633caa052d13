import GraphQuery.Proofs.Script.Run
import GraphQuery.Proofs.Script.Twin
import GraphQuery.Proofs.Session.Sending

/-! Predicates do not look at the label of the target node, so it may be set before them or after
them. Only a range of identities is kept with the alias that the node had at the time. -/
namespace GraphQuery

namespace Step

/-- Holds of the step and of all steps in its groups. What a sub-query is made of does not count. -/
inductive Within (p : Step → Prop) : Step → Prop where
  | intro {step : Step} (here : p step)
      (inside : ∀ body ∈ step.groups, ∀ inner ∈ body, Within p inner) : Within p step

theorem Everywhere.within {p : Step → Prop} {step : Step} (everywhere : Everywhere p step) :
    Within p step := by
  induction everywhere with
  | intro here _ ih => exact .intro here fun body member => ih body (group_called member)

def asksIdentityRange (d : Dialect) : Step → Bool
  | .filterBetween column .. => column = d.settings.identityColumn
  | _ => false

end Step

namespace Query

/-- The same query with that label. -/
def Relabelled (label : Option String) (q r : Query) : Prop := r = { q with label := label }

/-- The same names are taken, and the same values are bound. -/
structure Alike (q r : Query) : Prop where
  conditions : Condition.namesOf r.conditions = Condition.namesOf q.conditions
  given : r.conditions.isEmpty = q.conditions.isEmpty
  traversals : r.traversals = q.traversals
  reserved : r.reserved = q.reserved
  buckets : r.buckets = q.buckets

end Query

namespace Change

theorem respects_each {R : Query → Query → Prop} {d : Dialect} {steps : List Step}
    (each : ∀ step ∈ steps, (step.change d).Respects R) {q r : Query} (related : R q r) :
    R (Step.changeEach d steps q).query (Step.changeEach d steps r).query := by
  induction steps generalizing q r with
  | nil => exact related
  | cons step rest ih =>
    have head := each step List.mem_cons_self
    have tail {q r : Query} := @ih (fun next hn => each next (List.mem_cons_of_mem _ hn)) q r
    simp only [Step.changeEach]
    cases made : step.change d q with
    | error e =>
      rw [head.error related made]
      exact tail related
    | ok o =>
      obtain ⟨p, other, after⟩ := head.ok related made
      rw [other]
      exact tail after

section Label

variable {d : Dialect} {label : Option String}

open Query (Relabelled)

theorem quiet_relabelled {f : Query → Query}
    (blind : ∀ q, f { q with label := label } = { f q with label := label }) :
    (quiet f).Respects (Relabelled label) := by
  rintro q _ rfl
  exact .ok (blind q)

theorem named_relabelled {column : String} {value : Option Value} {f : Query → Query}
    (blind : ∀ q, f { q with label := label } = { f q with label := label }) :
    (named column value f).Respects (Relabelled label) := by
  rintro q _ rfl
  exact .ok (blind q)

theorem refused_relabelled (e : QueryError) :
    Respects (Relabelled label) fun _ => .error e :=
  fun _ _ _ => .error e

theorem group_relabelled {body : Change} (inside : body.Respects (Relabelled label))
    (connective : Connective) : (group body connective).Respects (Relabelled label) := by
  rintro q _ rfl
  have child : Query.groupChild { q with label := label } =
      { q.groupChild with label := label } := rfl
  have both : Both (Relabelled label) (body q.groupChild)
      (body { q.groupChild with label := label }) := inside rfl
  unfold group
  rw [child]
  match body q.groupChild, body { q.groupChild with label := label }, both with
  | _, _, .error e => exact .error _
  | _, _, @Both.ok _ g h same =>
    refine .ok ?_
    rw [same]
    unfold Query.filterGroup
    split <;> rfl

/-- A sub-query never sees the label. -/
theorem splice_relabelled (body : Change) (make : String → Condition) :
    (splice d body make).Respects (Relabelled label) := by
  rintro q _ rfl
  have child : Query.child { q with label := label } = q.child := rfl
  unfold splice
  rw [child]
  cases body q.child with
  | error e => exact .error _
  | ok sub =>
    dsimp only
    cases d.select sub.query with
    | error e => exact .error _
    | ok t => exact .ok rfl

theorem filter_known_relabelled (column operator : String) (operand : Operand Change)
    (connective : Connective) :
    (filterKnown d column operator operand connective).Respects (Relabelled label) := by
  cases operand with
  | query body => exact splice_relabelled body (.queryComparison column operator · connective)
  | raw expression => exact named_relabelled fun _ => rfl
  | value v =>
    rw [filterKnown]
    split
    · exact named_relabelled fun _ => rfl
    · exact named_relabelled fun _ => rfl

theorem filter_column_relabelled (column : String) (operator : Option String)
    (operand : Operand Change) (connective : Connective) :
    (filterColumn d column operator operand connective).Respects (Relabelled label) := by
  cases operator with
  | none => exact filter_known_relabelled column "=" operand connective
  | some operator =>
    rw [filterColumn]
    split
    · exact refused_relabelled _
    · split
      · exact filter_known_relabelled column operator operand connective
      · exact filter_known_relabelled column "=" _ connective

theorem filter_each_relabelled (entries : List (String × Value)) :
    (filterEach d entries).Respects (Relabelled label) := by
  induction entries with
  | nil => exact quiet_relabelled fun _ => rfl
  | cons e rest ih => exact (filter_column_relabelled e.1 _ _ _).and_then ih

theorem filter_relabelled {subject : Subject Change} (operator : Option String)
    (operand : Operand Change) (connective : Connective)
    (inside : ∀ body, subject = .group body → body.Respects (Relabelled label)) :
    (filter d subject operator operand connective).Respects (Relabelled label) := by
  cases subject with
  | column name => exact filter_column_relabelled name operator operand connective
  | equalities mapping => exact group_relabelled (filter_each_relabelled _) connective
  | group body =>
    have grouped := group_relabelled (inside body rfl) connective
    cases operator with
    | none => exact grouped
    | some operator =>
      rw [filter]
      split
      · exact refused_relabelled _
      · exact grouped

end Label

end Change

namespace Query.Alike

variable {q r : Query}

theorem next_name (alike : q.Alike r) (column : String) :
    r.nextName column = q.nextName column := by
  rw [nextName, nextName, names, names, alike.conditions, alike.traversals, alike.reserved]

theorem push (alike : q.Alike r) {c e : Condition} (same : e.names = c.names) :
    (q.push c).Alike (r.push e) where
  conditions := by
    rw [Query.push, Query.push, Condition.names_of_append, Condition.names_of_append,
      Condition.names_of_single, Condition.names_of_single, alike.conditions, same]
  given := by
    have filled (conditions : List Condition) (last : Condition) :
        (conditions ++ [last]).isEmpty = false := by simp
    exact (filled r.conditions e).trans (filled q.conditions c).symm
  traversals := alike.traversals
  reserved := alike.reserved
  buckets := alike.buckets

theorem bind (alike : q.Alike r) (name : ParameterName) (value : Value) (b : Bucket) :
    (q.bind name value b).Alike (r.bind name value b) :=
  { alike with buckets := congrArg (Buckets.insert · name.render value b) alike.buckets }

/-- The condition may depend on the label, as long as its name does not. -/
theorem ask (alike : q.Alike r) (column : String) (value : Option Value)
    {make : Option String → ParameterName → Condition}
    (takes : ∀ label name, (make label name).Takes name value.isSome) :
    (q.ask column value make).Alike (r.ask column value make) := by
  have same (name : ParameterName) : (make r.label name).names = (make q.label name).names := by
    rw [(takes r.label name).names, (takes q.label name).names]
  unfold Query.ask
  rw [alike.next_name]
  cases value with
  | none => exact alike.push (same _)
  | some v => exact (alike.bind _ v .filter).push (same _)

theorem child_eq (alike : q.Alike r) : r.child = q.child := by
  rw [child, child, names, names, alike.conditions, alike.traversals, alike.reserved]

theorem group_child (alike : q.Alike r) : q.groupChild.Alike r.groupChild := by
  have taken := congrArg Query.reserved alike.child_eq
  exact ⟨rfl, rfl, rfl, taken, rfl⟩

theorem filter_group (alike : q.Alike r) {g h : Query} (groups : g.Alike h)
    (connective : Connective) :
    (q.filterGroup g connective).Alike (r.filterGroup h connective) := by
  unfold Query.filterGroup
  rw [groups.given]
  split
  · exact alike
  · apply push
    · exact { alike with buckets := by rw [alike.buckets, groups.buckets] }
    · exact groups.conditions

theorem adopt (alike : q.Alike r) (sub : Query) : (q.adopt sub).Alike (r.adopt sub) :=
  { alike with
    reserved := congrArg (· ++ sub.names) alike.reserved
    buckets := congrArg (Buckets.merge · sub.parameters .filter) alike.buckets }

end Query.Alike

namespace Change

variable {d : Dialect}

theorem respects_alike {r : List Step → Prop} {change : Change}
    (asking : Asking d (fun body => (Step.changeAll d body).Respects Query.Alike) r change) :
    change.Respects Query.Alike := by
  intro q t alike
  cases asking with
  | refused e => exact .error e
  | nameless nameless => exact .ok (alike.push rfl)
  | @asked column value f make asks takes =>
    refine .ok ?_
    simp only [asks]
    exact alike.ask column value takes
  | @grouped body connective inside =>
    unfold group
    match Step.changeAll d body q.groupChild, Step.changeAll d body t.groupChild,
      inside alike.group_child with
    | _, _, .error e => exact .error e.insideSubQuery
    | _, _, .ok groups => exact .ok (alike.filter_group groups connective)
  | @spliced body make inside nameless =>
    unfold splice
    rw [alike.child_eq]
    cases Step.changeAll d body q.child with
    | error e => exact .error _
    | ok sub =>
      dsimp only
      cases d.select sub.query with
      | error e => exact .error _
      | ok text => exact .ok ((alike.adopt sub.query).push rfl)

end Change

namespace Step

variable {d : Dialect}

theorem change_respects_alike {step : Step} (asks : step.Within (·.isFilter)) :
    (step.change d).Respects Query.Alike := by
  induction asks with
  | intro here _ ih =>
    have groups := fun body member => Change.respects_all (ih body member)
    exact Change.respects_alike (r := fun _ => True)
      (Change.asking_of_filter here groups fun _ _ => trivial)

theorem change_relabelled {step : Step} (label : Option String) (asks : step.Within (·.isFilter))
    (timeless : step.Within fun s => !s.asksIdentityRange d) :
    (step.change d).Respects (Query.Relabelled label) := by
  induction asks with
  | @intro step here _ ih =>
    obtain ⟨no_range, later⟩ := timeless
    have inside : ∀ body ∈ step.groups, (changeAll d body).Respects (Query.Relabelled label) :=
      fun body member => Change.respects_all fun inner within =>
        ih body member inner within (later body member inner within)
    cases step with
    | filter subject operator operand connective =>
      apply Change.filter_relabelled
      intro change grouped
      cases subject with
      | group body =>
        cases grouped
        exact inside body List.mem_cons_self
      | column | equalities => cases grouped
    | filterGroup body connective =>
      exact Change.group_relabelled (inside body List.mem_cons_self) connective
    | filterQuery column operator body connective =>
      exact Change.splice_relabelled _ (.queryComparison column operator · connective)
    | filterIn column members connective negated =>
      cases members with
      | query body => exact Change.splice_relabelled _ (.inQuery column · connective negated)
      | listed values => exact Change.named_relabelled fun _ => rfl
    | filterBetween column low high connective negated =>
      apply Change.named_relabelled
      intro q
      have other : column ≠ d.settings.identityColumn := by simpa [asksIdentityRange] using no_range
      simp only [Query.filterBetween, if_neg other]
      rfl
    | filterNull column connective negated => exact Change.named_relabelled fun _ => rfl
    | filterCarried column operator identifier connective =>
      exact Change.quiet_relabelled fun _ => rfl
    | _ => cases here

theorem run_each_last (steps : List Step) (label : String) (s : Session) :
    (runEach d (steps ++ [.target label]) s).query =
      { (runEach d steps s).query with label := some label } := by
  rw [runEach, List.foldl_append]
  rfl

/-- Whether the label is set before the predicates or after them, the same values are bound. The
query is the same, and so is its text, where no predicate asks for a range of identities. -/
theorem label_early_or_late (d : Dialect) (s : Session) (label : String) {steps : List Step}
    (building : Building steps) (predicates : ∀ step ∈ steps, step.Within (·.isFilter)) :
    let early := runEach d (.target label :: steps) s
    let late := runEach d (steps ++ [.target label]) s
    early.query.parameters = late.query.parameters ∧
    ((∀ step ∈ steps, step.Within fun s => !s.asksIdentityRange d) →
      early.query = late.query ∧ (Action.selectText d early).1 = (Action.selectText d late).1) := by
  intro early late
  let q := s.query
  let labelled : Query := { q with label := some label }
  have first : early.query = (changeEach d steps labelled).query :=
    run_each_query building { s with query := labelled }
  have last : late.query = { (changeEach d steps q).query with label := some label } := by
    rw [← run_each_query building s]
    exact run_each_last steps label s
  constructor
  · have start : q.Alike labelled := ⟨rfl, rfl, rfl, rfl, rfl⟩
    have alike := Change.respects_each
      (fun step member => change_respects_alike (d := d) (predicates step member)) start
    rw [first, last]
    exact congrArg Buckets.flatten alike.buckets
  · intro timeless
    have relabelled := Change.respects_each
      (fun step member => change_relabelled (d := d) (some label) (predicates step member)
        (timeless step member)) (q := q) rfl
    have same : early.query = late.query := by
      rw [first, last]
      exact relabelled
    refine ⟨same, ?_⟩
    obtain ⟨_, wrote, -⟩ := Action.writes_select d early
    obtain ⟨_, other, -⟩ := Action.writes_select d late
    rw [wrote, other, same]

/-- A range of identities, before the label is set. -/
theorem range_before_label :
    let steps : List Step := [.filterBetween "id" (.nat 1) (.nat 5) .and false]
    let early := runEach {} (.target "Person" :: steps) {}
    let late := runEach {} (steps ++ [.target "Person"]) {}
    (Action.selectText {} early).1.toOption = some ("MATCH (person:Person) " ++
        "WHERE (id(person) >= $id[0] AND id(person) <= $id[1]) RETURN person") ∧
      (Action.selectText {} late).1.toOption = some ("MATCH (person:Person) " ++
        "WHERE (id(n) >= $id[0] AND id(n) <= $id[1]) RETURN person") ∧
      (Action.selectText {} early).1 ≠ (Action.selectText {} late).1 := by
  intro steps early late
  have first : (Action.selectText {} early).1.toOption = some ("MATCH (person:Person) " ++
      "WHERE (id(person) >= $id[0] AND id(person) <= $id[1]) RETURN person") := by decide +kernel
  have last : (Action.selectText {} late).1.toOption = some ("MATCH (person:Person) " ++
      "WHERE (id(n) >= $id[0] AND id(n) <= $id[1]) RETURN person") := by decide +kernel
  refine ⟨first, last, ?_⟩
  intro same
  rw [same, last] at first
  exact absurd first (by decide)

/-- The identity is compared, in a group as well, and ranges over it are not asked for. -/
def adults : List Step :=
  [.filter (.column "id") (some ">") (.value (.nat 3)) .and,
    .filterBetween "age" (.nat 18) (.nat 30) .and false,
    .filterGroup [.filterNull "name" .and true,
      .filter (.equalities ⟨[("id", .nat 7)], by decide⟩) none (.value .null) .or] .or]

theorem adults_labelled :
    let early := runEach {} (.target "Person" :: adults) {}
    let late := runEach {} (adults ++ [.target "Person"]) {}
    early.query.parameters = late.query.parameters ∧
      (Action.selectText {} early).1 = (Action.selectText {} late).1 ∧
      (Action.selectText {} late).1.toOption = some ("MATCH (person:Person) WHERE " ++
        "id(person) > $id AND (person.age >= $age[0] AND person.age <= $age[1]) OR " ++
        "(person.name IS NOT NULL OR (id(person) = $id_2)) RETURN person") := by
  let p : Step → Prop := fun s => s.isFilter ∧ !s.asksIdentityRange {}
  have mapped : Throughout p (equalities [("id", .nat 7)]) := .cons (.leaf ⟨rfl, rfl⟩ rfl) .nil
  have grouped : Throughout p [.filterNull "name" .and true,
      .filter (.equalities ⟨[("id", .nat 7)], by decide⟩) none (.value .null) .or] :=
    .cons (.leaf ⟨rfl, rfl⟩ rfl) <| .cons (.call ⟨rfl, rfl⟩ rfl mapped) .nil
  have everywhere : Throughout p adults :=
    .cons (.leaf ⟨rfl, rfl⟩ rfl) <| .cons (.leaf ⟨rfl, rfl⟩ rfl) <|
      .cons (.call ⟨rfl, rfl⟩ rfl grouped) .nil
  have builds (step : Step) (holds : p step) : step.builds := by
    obtain ⟨filters, -⟩ := holds
    cases step <;> first | rfl | cases filters
  have building : Building adults := fun step member => (everywhere step member).imp builds
  have predicates : ∀ step ∈ adults, step.Within (·.isFilter) :=
    fun step member => ((everywhere step member).imp fun _ => And.left).within
  have timeless : ∀ step ∈ adults, step.Within fun s => !s.asksIdentityRange {} :=
    fun step member => ((everywhere step member).imp fun _ => And.right).within
  obtain ⟨bound, texts⟩ := label_early_or_late {} {} "Person" building predicates
  exact ⟨bound, (texts timeless).2, by decide +kernel⟩

end Step
end GraphQuery
