import GraphQuery.Proofs.Script.Change

/-! The few kinds of change that every building step comes down to. What holds of these kinds holds
of all steps, so the ways in which columns, operators and values are given are told apart only
here. -/
namespace GraphQuery

namespace Query

/-- Appends a condition under the next name of a column, and binds its value if it has one. -/
def ask (q : Query) (column : String) (value : Option Value)
    (make : Option String → ParameterName → Condition) : Query :=
  let name := q.nextName column
  match value with
  | some v => (q.bind name v .filter).push (make q.label name)
  | none => q.push (make q.label name)

/-- Changes nothing that names or values depend on. -/
structure Frame (f : Query → Query) : Prop where
  conditions : ∀ q, (f q).conditions = q.conditions
  traversals : ∀ q, (f q).traversals = q.traversals
  buckets : ∀ q, (f q).buckets = q.buckets
  reserved : ∀ q, (f q).reserved = q.reserved
  blind : ∀ q names, f { q with reserved := names } = { f q with reserved := names }

end Query

/-- The condition takes no name. -/
structure Condition.Nameless (c : Condition) : Prop where
  names : c.names = []
  boundNames : c.boundNames = []

/-- The condition takes just this name, and binds a value under it or not. -/
structure Condition.Takes (c : Condition) (name : ParameterName) (bound : Bool) : Prop where
  names : c.names = [name]
  boundNames : c.boundNames = if bound then [name] else []

namespace Change

/-- The changes that put a condition on a query. `p` holds of the callbacks of groups, `r` of those
of sub-queries. -/
inductive Asking (d : Dialect) (p r : List Step → Prop) : Change → Prop where
  | refused (e : QueryError) : Asking d p r fun _ => .error e
  | nameless {c : Condition} (nameless : c.Nameless) : Asking d p r (.quiet (·.push c))
  | asked {column : String} {value : Option Value} {f : Query → Query}
      (make : Option String → ParameterName → Condition)
      (asks : ∀ q, f q = q.ask column value make)
      (takes : ∀ label name, (make label name).Takes name value.isSome) :
      Asking d p r (.named column value f)
  | grouped {body : List Step} {connective : Connective} (inside : p body) :
      Asking d p r (.group (Step.changeAll d body) connective)
  | spliced {body : List Step} (make : String → Condition) (inside : r body)
      (nameless : ∀ text, (make text).Nameless) :
      Asking d p r (.splice d (Step.changeAll d body) make)

/-- The changes that building steps make. -/
inductive Elementary (d : Dialect) (p r : List Step → Prop) : Change → Prop where
  | settled {f : Query → Query} (frame : Query.Frame f) : Elementary d p r (.quiet f)
  | traversed {property : String} {value : Option Value} (make : ParameterName → Traversal)
      (named : ∀ name, (make name).name = name)
      (constrained : ∀ name, (make name).isConstrained = Query.isGiven value) :
      Elementary d p r (.traverse property value fun q => make (q.nextName property))
  | asking {change : Change} (asking : Asking d p r change) : Elementary d p r change

variable {d : Dialect} {p r : List Step → Prop}

theorem filter_known_asking (column operator : String) (operand : Operand (List Step))
    (connective : Connective) (inside : ∀ body, operand = .query body → r body) :
    Asking d p r (filterKnown d column operator (Step.changeOperand d operand) connective) := by
  cases operand with
  | query body =>
    exact .spliced (.queryComparison column operator · connective) (inside body rfl)
      fun _ => ⟨rfl, rfl⟩
  | raw expression =>
    exact .asked (fun _ name => .comparison column operator (.raw expression) connective name)
      (fun _ => rfl) fun _ _ => ⟨rfl, rfl⟩
  | value v =>
    simp only [Step.changeOperand, filterKnown]
    split
    · by_cases negated : operator ≠ "="
      · exact .asked (fun _ name => .notNull column connective name)
          (fun q => by simp [Query.filterNull, Query.ask, negated]) fun _ _ => ⟨rfl, rfl⟩
      · exact .asked (fun _ name => .isNull column connective name)
          (fun q => by simp [Query.filterNull, Query.ask, negated]) fun _ _ => ⟨rfl, rfl⟩
    · exact .asked (fun _ name => .comparison column operator (.bound v) connective name)
        (fun _ => rfl) fun _ _ => ⟨rfl, rfl⟩

theorem filter_column_asking (column : String) (operator : Option String)
    {operand : Operand (List Step)} (connective : Connective)
    (inside : ∀ body, operand = .query body → r body) :
    Asking d p r (filterColumn d column operator (Step.changeOperand d operand) connective) := by
  cases operator with
  | none => exact filter_known_asking column "=" operand connective inside
  | some operator =>
    simp only [filterColumn]
    split
    · exact .refused _
    · split
      · exact filter_known_asking column operator operand connective inside
      · exact filter_known_asking column "=" (.value (.string operator)) connective
          fun _ h => by cases h

theorem change_equalities (d : Dialect) (entries : List (String × Value)) :
    Step.changeAll d (Step.equalities entries) = filterEach d entries := by
  induction entries with
  | nil => rfl
  | cons e rest ih =>
    simp only [Step.equalities, List.map_cons, Step.changeAll, filterEach] at ih ⊢
    rw [ih]
    rfl

theorem filter_asking {subject : Subject (List Step)} (operator : Option String)
    {operand : Operand (List Step)} (connective : Connective)
    (groups : ∀ body ∈ (Step.filter subject operator operand connective).groups, p body)
    (subQueries : ∀ body ∈ (Step.filter subject operator operand connective).subQueries, r body) :
    Asking d p r (filter d (Step.changeSubject d subject) operator (Step.changeOperand d operand)
      connective) := by
  cases subject with
  | column name =>
    refine filter_column_asking name operator connective fun body h => subQueries body ?_
    subst h
    exact List.mem_cons_self
  | equalities mapping =>
    rw [Step.changeSubject, filter, ← change_equalities]
    exact .grouped (groups _ List.mem_cons_self)
  | group body =>
    have grouped : Asking d p r (group (Step.changeAll d body) connective) :=
      .grouped (groups _ List.mem_cons_self)
    cases operator with
    | none => exact grouped
    | some operator =>
      simp only [Step.changeSubject, filter]
      split
      · exact .refused _
      · exact grouped

theorem asking_of_filter {step : Step} (filters : step.isFilter)
    (groups : ∀ body ∈ step.groups, p body) (subQueries : ∀ body ∈ step.subQueries, r body) :
    Asking d p r (step.change d) := by
  cases step with
  | filter subject operator operand connective =>
    exact filter_asking operator connective groups subQueries
  | filterGroup body connective => exact .grouped (groups _ List.mem_cons_self)
  | filterQuery column operator body connective =>
    exact .spliced (.queryComparison column operator · connective)
      (subQueries _ List.mem_cons_self) fun _ => ⟨rfl, rfl⟩
  | filterIn column members connective negated =>
    cases members with
    | query body =>
      exact .spliced (.inQuery column · connective negated) (subQueries _ List.mem_cons_self)
        fun _ => ⟨rfl, rfl⟩
    | listed values =>
      cases negated with
      | true =>
        exact .asked (fun _ name => .notIn column values connective name) (fun _ => rfl)
          fun _ _ => ⟨rfl, rfl⟩
      | false =>
        exact .asked (fun _ name => .isIn column values connective name) (fun _ => rfl)
          fun _ _ => ⟨rfl, rfl⟩
  | filterBetween column low high connective negated =>
    exact .asked
      (fun label name => .between
        (if column = d.settings.identityColumn then
          d.settings.accessor (d.settings.nodeAlias label.toList)
        else column) connective negated name)
      (fun _ => rfl) fun _ _ => ⟨rfl, rfl⟩
  | filterNull column connective negated =>
    cases negated with
    | true =>
      exact .asked (fun _ name => .notNull column connective name) (fun _ => rfl)
        fun _ _ => ⟨rfl, rfl⟩
    | false =>
      exact .asked (fun _ name => .isNull column connective name) (fun _ => rfl)
        fun _ _ => ⟨rfl, rfl⟩
  | filterCarried column operator identifier connective => exact .nameless ⟨rfl, rfl⟩
  | _ => cases filters

/-- The inversion lemma of building steps. -/
theorem elementary_of_builds {step : Step} (builds : step.builds)
    (groups : ∀ body ∈ step.groups, p body) (subQueries : ∀ body ∈ step.subQueries, r body) :
    Elementary d p r (step.change d) := by
  by_cases filters : step.isFilter
  · exact .asking (asking_of_filter filters groups subQueries)
  · cases step with
    | target | select | limit | offset | sortBy | carry =>
      exact .settled ⟨fun _ => rfl, fun _ => rfl, fun _ => rfl, fun _ => rfl, fun _ _ => rfl⟩
    | relate parent related relatedAlias relationship property value direction =>
      exact .traversed (fun name => .relation property direction relationship
        ⟨parent.aliasIn d.settings, parent.labels⟩ ⟨relatedAlias, related.labels⟩ name
        (Query.isGiven value)) (fun _ => rfl) fun _ => rfl
    | relateToAny parent relatedAlias property value direction =>
      exact .traversed (fun name => .polymorphic property direction relatedAlias
        ⟨parent.aliasIn d.settings, parent.labels⟩ name (Query.isGiven value)) (fun _ => rfl)
        fun _ => rfl
    | filter | filterGroup | filterQuery | filterIn | filterBetween | filterNull
    | filterCarried => exact absurd rfl filters
    | _ => cases builds

end Change
end GraphQuery
