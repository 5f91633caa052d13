import GraphQuery.Proofs.Parameter.Kept

/-! The uses that a script makes of bases can be read off its steps. -/
namespace GraphQuery

/-- One use of a base, by a condition or by a traversal. -/
structure Use where
  base : String
  traverses : Bool
deriving DecidableEq

def Entry.use? : Entry → Option Use
  | condition name _ => some ⟨name.base, false⟩
  | traversal name _ => some ⟨name.base, true⟩
  | spliced _ => none

namespace Ledger

def uses (l : Ledger) : List Use := l.filterMap Entry.use?

theorem uses_append (l m : Ledger) : uses (l ++ m) = uses l ++ uses m := List.filterMap_append

theorem bases_uses (l : Ledger) : l.uses.map Use.base = l.names.map ParameterName.base := by
  induction l with
  | nil => rfl
  | cons e rest ih =>
    cases e with
    | condition name value => exact congrArg (name.base :: ·) ih
    | traversal name value => exact congrArg (name.base :: ·) ih
    | spliced query => exact ih

theorem uses_grouped (l : Ledger) : (grouped l).uses = l.uses.filter (!·.traverses) := by
  induction l with
  | nil => rfl
  | cons e rest ih =>
    cases e with
    | condition name value => exact congrArg (Use.mk name.base false :: ·) ih
    | traversal name value => exact ih
    | spliced query => exact ih

theorem uses_conditions (l : Ledger) : l.uses.filter (!·.traverses) =
    (l.filterMap Entry.conditionName?).map fun n => ⟨n.base, false⟩ := by
  induction l with
  | nil => rfl
  | cons e rest ih =>
    cases e with
    | condition name value => exact congrArg (Use.mk name.base false :: ·) ih
    | traversal name value => exact ih
    | spliced query => exact ih

/-- Uses and names go side by side. -/
theorem zip_conditions (l : Ledger) :
    ((l.uses.zip l.names).filter (!·.1.traverses)).map Prod.snd =
      l.filterMap Entry.conditionName? := by
  induction l with
  | nil => rfl
  | cons e rest ih =>
    cases e with
    | condition name value => exact congrArg (name :: ·) ih
    | traversal name value => exact ih
    | spliced query => exact ih

theorem zip_traversals (l : Ledger) :
    ((l.uses.zip l.names).filter (·.1.traverses)).map Prod.snd =
      l.filterMap Entry.traversalName? := by
  induction l with
  | nil => rfl
  | cons e rest ih =>
    cases e with
    | condition name value => exact ih
    | traversal name value => exact congrArg (name :: ·) ih
    | spliced query => exact ih

end Ledger

def Untraversed (_ _ : Query) (l : Ledger) : Prop := l.traversals = []

theorem Untraversed.composes : Change.Composes Untraversed where
  refl := fun _ => rfl
  trans := by
    intro q r t l m first second
    rw [Untraversed, Ledger.traversals_append]
    exact List.append_eq_nil_iff.mpr ⟨first, second⟩

namespace Change

variable {d : Dialect}

theorem Asking.untraversed {p r : List Step → Prop} {change : Change}
    (asking : Asking d p r change) : change.Adds Untraversed := by
  intro q o made
  cases asking with
  | refused e => cases made
  | nameless | asked =>
    cases made
    rfl
  | grouped inside =>
    obtain ⟨g, -, rfl⟩ := group_ok made
    dsimp only
    split
    · rfl
    · exact Ledger.traversals_grouped _
  | spliced make inside nameless =>
    obtain ⟨sub, t, -, -, rfl⟩ := splice_ok made
    exact Ledger.traversals_splices _

/-- Every success of the change enters just these uses. -/
def Asks (change : Change) (uses : List Use) : Prop :=
  change.Adds fun _ _ l => l.uses = uses

theorem asks_refused (e : QueryError) (uses : List Use) : Asks (fun _ => .error e) uses := by
  intro q o made
  cases made

theorem asks_quiet (f : Query → Query) : Asks (quiet f) [] := by
  intro q o made
  cases made
  rfl

theorem asks_named (column : String) (value : Option Value) (f : Query → Query) :
    Asks (named column value f) [⟨Identifier.parameterBase column, false⟩] := by
  intro q o made
  cases made
  simp [Ledger.uses, Entry.use?, Query.nextName, ParameterName.base_next]

theorem asks_traverse (property : String) (value : Option Value) (make : Query → Traversal) :
    Asks (traverse property value make) [⟨Identifier.parameterBase property, true⟩] := by
  intro q o made
  cases made
  simp [Ledger.uses, Entry.use?, Query.nextName, ParameterName.base_next]

theorem Asks.and_then {first second : Change} {uses more : List Use} (hf : Asks first uses)
    (hs : Asks second more) : Asks (first.andThen second) (uses ++ more) := by
  intro q o made
  simp only [andThen] at made
  split at made
  · cases made
  · rename_i a ha
    split at made
    · cases made
    · rename_i b hb
      cases made
      rw [Ledger.uses_append, hf q a ha, hs a.query b hb]

/-- Without traversals, a group uses what its conditions use. -/
theorem Asks.group {body : Change} {uses : List Use} (asks : Asks body uses)
    (extends' : body.Adds Extends) (untraversed : ∀ u ∈ uses, !u.traverses)
    (connective : Connective) : Asks (group body connective) uses := by
  intro q o made
  obtain ⟨g, hg, rfl⟩ := group_ok made
  have inner := asks _ g hg
  have all : g.ledger.uses.filter (!·.traverses) = uses := by
    rw [inner, List.filter_eq_self]
    exact untraversed
  dsimp only
  split
  · rename_i empty
    have names := (extends' _ g hg).conditionNames
    rw [List.isEmpty_iff.mp empty, q.fresh_group_child.conditions] at names
    have none : g.ledger.filterMap Entry.conditionName? = [] := names.symm
    rw [← all, Ledger.uses_conditions, none]
    rfl
  · rw [Ledger.uses_grouped, all]

theorem asks_filter_known (d : Dialect) (column operator : String) (operand : Operand Change)
    (connective : Connective) (plain : ∀ body, operand ≠ .query body) :
    Asks (filterKnown d column operator operand connective)
      [⟨Identifier.parameterBase column, false⟩] := by
  cases operand with
  | query body => exact absurd rfl (plain body)
  | raw expression => exact asks_named column _ _
  | value v =>
    rw [filterKnown]
    split
    · exact asks_named column _ _
    · exact asks_named column _ _

theorem asks_filter_column (d : Dialect) (column : String) (operator : Option String)
    (operand : Operand Change) (connective : Connective) (plain : ∀ body, operand ≠ .query body) :
    Asks (filterColumn d column operator operand connective)
      [⟨Identifier.parameterBase column, false⟩] := by
  cases operator with
  | none => exact asks_filter_known d column "=" operand connective plain
  | some operator =>
    rw [filterColumn]
    split
    · exact asks_refused _ _
    · split
      · exact asks_filter_known d column operator operand connective plain
      · exact asks_filter_known d column "=" _ connective fun body same => by cases same

end Change

namespace Step

variable {d : Dialect}

def traverses : Step → Bool
  | .relate .. | .relateToAny .. => true
  | _ => false

theorem filter_untraversed {step : Step} (filters : step.isFilter) :
    (step.change d).Adds Untraversed := by
  have asking : Change.Asking d (fun _ => True) (fun _ => True) (step.change d) :=
    Change.asking_of_filter filters (fun _ _ => trivial) fun _ _ => trivial
  exact asking.untraversed

theorem change_untraversed {step : Step} (builds : step.builds) (still : ¬ step.traverses) :
    (step.change d).Adds Untraversed := by
  by_cases filters : step.isFilter
  · exact filter_untraversed filters
  · intro q o made
    cases step with
    | target | select | limit | offset | sortBy | carry =>
      cases made
      rfl
    | relate | relateToAny => exact absurd rfl still
    | filter | filterGroup | filterQuery | filterIn | filterBetween | filterNull
    | filterCarried => exact absurd rfl filters
    | _ => cases builds

mutual

/-- What a step without sub-queries uses, in the order in which it is run. -/
def uses : Step → List Use
  | .filter subject _ _ _ => usesSubject subject
  | .filterGroup body _ => usesAll body
  | .filterIn column _ _ _ | .filterBetween column _ _ _ _ | .filterNull column _ _ =>
    [⟨Identifier.parameterBase column, false⟩]
  | .relate _ _ _ _ property _ _ | .relateToAny _ _ property _ _ =>
    [⟨Identifier.parameterBase property, true⟩]
  | _ => []

def usesAll : List Step → List Use
  | [] => []
  | step :: rest => uses step ++ usesAll rest

def usesSubject : Subject (List Step) → List Use
  | .column name => [⟨Identifier.parameterBase name, false⟩]
  | .equalities mapping => mapping.keys.map fun key => ⟨Identifier.parameterBase key, false⟩
  | .group body => usesAll body

end

/-- Builds without sub-queries, and makes no traversals in groups. -/
structure Simple (step : Step) : Prop where
  builds : step.builds
  plain : step.subQueries = []
  apart : ∀ body ∈ step.groups, ∀ inner ∈ body, ¬ inner.traverses

theorem change_all_extends {steps : List Step} (simple : Throughout Simple steps) :
    (changeAll d steps).Adds Extends :=
  Extends.composes.all fun step member =>
    change_extends ((simple step member).imp fun _ simple => simple.builds)

theorem asks_all {steps : List Step} (asks : ∀ step ∈ steps, (step.change d).Asks step.uses) :
    (changeAll d steps).Asks (usesAll steps) := by
  induction steps with
  | nil => exact Change.asks_quiet id
  | cons step rest ih =>
    have head := asks step List.mem_cons_self
    exact head.and_then (ih fun next hn => asks next (List.mem_cons_of_mem _ hn))

theorem uses_equalities (mapping : Row) :
    usesAll (equalities mapping.entries) =
      mapping.keys.map fun key => ⟨Identifier.parameterBase key, false⟩ := by
  rw [Record.keys]
  induction mapping.entries with
  | nil => rfl
  | cons e rest ih => exact congrArg (Use.mk (Identifier.parameterBase e.1) false :: ·) ih

theorem forall_uses_all {p : Use → Prop} {steps : List Step}
    (each : ∀ step ∈ steps, ∀ u ∈ step.uses, p u) : ∀ u ∈ usesAll steps, p u := by
  induction steps with
  | nil => exact List.forall_mem_nil p
  | cons step rest ih =>
    intro u member
    rcases List.mem_append.mp member with here | there
    · exact each step List.mem_cons_self u here
    · exact ih (fun next hn => each next (List.mem_cons_of_mem _ hn)) u there

/-- As groups make no traversals, only the step itself may. -/
theorem uses_untraversed {step : Step} (simple : step.Everywhere Simple)
    (still : ¬ step.traverses) : ∀ u ∈ step.uses, !u.traverses := by
  induction simple with
  | @intro step here inside ih =>
    have grouped : ∀ body ∈ step.groups, ∀ u ∈ usesAll body, !u.traverses := by
      intro body member
      apply forall_uses_all
      intro inner hi
      exact ih body (group_called member) inner hi (here.apart body member inner hi)
    cases step with
    | filter subject operator operand connective =>
      cases subject with
      | column name => simp [uses, usesSubject]
      | equalities mapping => simp [uses, usesSubject]
      | group body => exact grouped body List.mem_cons_self
    | filterGroup body connective => exact grouped body List.mem_cons_self
    | relate | relateToAny => exact absurd rfl still
    | _ => simp [uses]

/-- The ledger of a simple step holds the uses that can be read off the step. -/
theorem change_asks {step : Step} (simple : step.Everywhere Simple) :
    (step.change d).Asks step.uses := by
  induction simple with
  | @intro step here inside ih =>
    have grouped : ∀ body ∈ step.groups, ∀ connective,
        (Change.group (changeAll d body) connective).Asks (usesAll body) := by
      intro body member connective
      have called := group_called member
      refine (asks_all (ih body called)).group (change_all_extends (inside body called)) ?_ _
      apply forall_uses_all
      intro inner hi
      exact uses_untraversed (inside body called inner hi) (here.apart body member inner hi)
    cases step with
    | filter subject operator operand connective =>
      cases subject with
      | column name =>
        refine Change.asks_filter_column d name operator (changeOperand d operand) connective ?_
        cases operand with
        | query body => cases here.plain
        | value | raw => exact fun _ same => by cases same
      | equalities mapping =>
        have group := grouped _ List.mem_cons_self connective
        rw [Change.change_equalities, uses_equalities] at group
        exact group
      | group body =>
        have group := grouped body List.mem_cons_self connective
        cases operator with
        | none => exact group
        | some operator =>
          simp only [change, changeSubject, Change.filter]
          split
          · exact Change.asks_refused _ _
          · exact group
    | filterGroup body connective => exact grouped body List.mem_cons_self connective
    | filterIn column members connective negated =>
      cases members with
      | query body => cases here.plain
      | listed values => exact Change.asks_named column _ _
    | filterBetween column => exact Change.asks_named column _ _
    | filterNull column => exact Change.asks_named column _ _
    | relate parent related relatedAlias relationship property =>
      exact Change.asks_traverse property _ _
    | relateToAny parent relatedAlias property => exact Change.asks_traverse property _ _
    | filterQuery => cases here.plain
    | target | select | limit | offset | sortBy | carry | filterCarried =>
      exact Change.asks_quiet _
    | _ => cases here.builds

end Step
end GraphQuery
