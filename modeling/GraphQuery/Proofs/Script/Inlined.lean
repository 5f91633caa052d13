import GraphQuery.Proofs.Parameter.Splices
import GraphQuery.Proofs.Query.Legible
import GraphQuery.Proofs.Session.Sending

/-! Steps that are given no dollar signs write a statement in which every parameter can be found,
and only parameters are replaced when its values are written out. -/
namespace GraphQuery

namespace Step

/-- The texts that the step writes as it was given them. -/
def texts : Step → List String
  | .target label => [label]
  | .select columns => columns
  | .sortBy column _ => [column]
  | .carry parts => parts.flatMap fun part => [part.1, part.2]
  | .filter (.column name) _ (.raw expression) _ => [name, expression]
  | .filter (.column name) _ _ _ => [name]
  | .filterQuery column operator _ _ => [column, operator]
  | .filterIn column _ _ _ | .filterBetween column _ _ _ _ | .filterNull column _ _ => [column]
  | .filterCarried column operator identifier _ => [column, operator, identifier]
  | .relate parent related relatedAlias relationship property _ _ =>
    [relatedAlias, relationship, property] ++ parent.ownAlias.toList ++ parent.labels ++
      related.labels
  | .relateToAny parent relatedAlias property _ _ =>
    [relatedAlias, property] ++ parent.ownAlias.toList ++ parent.labels
  | _ => []

/-- The columns and properties that the step may bind a value under. -/
def bases : Step → List String
  | .filter (.column name) _ _ _ => [name]
  | .filterIn column _ _ _ | .filterBetween column _ _ _ _ => [column]
  | .relate _ _ _ _ property _ _ | .relateToAny _ _ property _ _ => [property]
  | _ => []

/-- The step was given no dollar sign, and it makes no parameter without a name. The values that it
binds may be anything, and so may an operator that is taken for a value. -/
structure Clean (step : Step) : Prop where
  texts : ∀ text ∈ step.texts, Dollarless text
  bases : ∀ column ∈ step.bases, Identifier.parameterBase column ≠ ""

end Step

/-- The parameter stands in the text of a sub-query. -/
def Query.Quotes (q : Query) (x : String) : Prop :=
  ∃ text ∈ Condition.textsOf q.conditions, x ∈ (Template.ofText text).parameters

/-- The query stays clean, and the texts that come into it ask for the parameters that the ledger
tells of. -/
structure Spells (q r : Query) (l : Ledger) : Prop where
  clean : q.Clean → r.Clean
  quotes : ∀ x, r.Quotes x ↔ q.Quotes x ∨ x ∈ l.spliced.flatMap Spliced.own

theorem Condition.texts_of_append (conditions more : List Condition) :
    textsOf (conditions ++ more) = textsOf conditions ++ textsOf more := by
  induction conditions with
  | nil => rfl
  | cons c rest ih => simp [textsOf, ih]

theorem Query.quotes_push (q : Query) (c : Condition) (x : String) :
    (q.push c).Quotes x ↔
      q.Quotes x ∨ ∃ text ∈ c.texts, x ∈ (Template.ofText text).parameters := by
  simp only [Quotes, push, Condition.texts_of_append, Condition.textsOf, List.append_nil,
    List.mem_append, or_and_right, exists_or]

theorem Dialect.selected {d : Dialect} {q : Query} {t : Template} (selects : d.select q = .ok t) :
    t = q.select d.settings := by
  unfold select at selects
  split at selects
  · cases selects
  · exact (Except.ok.inj selects).symm

namespace Spells

variable {d : Dialect} {q r t : Query} {l m : Ledger}

theorem refl (q : Query) : Spells q q [] where
  clean := id
  quotes := by simp [Ledger.spliced]

theorem trans (first : Spells q r l) (second : Spells r t m) : Spells q t (l ++ m) where
  clean := second.clean ∘ first.clean
  quotes := by
    intro x
    rw [second.quotes, first.quotes]
    simp only [Ledger.spliced, List.filterMap_append, List.flatMap_append, List.mem_append,
      or_assoc]

theorem composes : Change.Composes Spells := ⟨refl, trans⟩

theorem of_settled (conditions : r.conditions = q.conditions) (clean : q.Clean → r.Clean) :
    Spells q r [] where
  clean := clean
  quotes := by simp [Query.Quotes, conditions, Ledger.spliced]

/-- A condition without a text of its own. -/
theorem of_push {c : Condition} (texts : c.texts = []) (clean : q.Clean → c.Clean)
    (silent : l.spliced = []) : Spells q (q.push c) l where
  clean := fun before => before.push (clean before)
  quotes := by simp [Query.quotes_push, texts, silent]

/-- A condition that binds its value. -/
theorem of_asked {name : ParameterName} {value : Value} {c : Condition} (texts : c.texts = [])
    (clean : c.Clean) (silent : l.spliced = []) :
    Spells q ((q.bind name value .filter).push c) l := by
  have bound : Spells q (q.bind name value .filter) [] :=
    of_settled rfl fun before => before.bind name value .filter
  exact bound.trans (.of_push texts (fun _ => clean) silent)

theorem of_filter_null {column : String} (named : Dollarless column) (connective : Connective)
    (negated : Bool) (silent : l.spliced = []) :
    Spells q (q.filterNull column connective negated) l := by
  cases negated with
  | true => exact .of_push rfl (fun _ => named) silent
  | false => exact .of_push rfl (fun _ => named) silent

theorem of_traverse {step : Traversal} (clean : q.Clean → step.Clean) (value : Option Value)
    (silent : l.spliced = []) : Spells q (q.traverse step value) l where
  clean := fun before => before.traverse (clean before) value
  quotes := by simp [Query.Quotes, Query.traverse, Query.bind, silent]

theorem of_group {g : Outcome} (inner : Spells q.groupChild g.query g.ledger)
    (connective : Connective) :
    Spells q (q.filterGroup g.query connective)
      (if g.query.conditions.isEmpty then [] else g.ledger.grouped) := by
  by_cases empty : g.query.conditions.isEmpty
  · simpa [Query.filterGroup, empty] using refl q
  · rw [if_neg empty, Query.filterGroup, if_neg empty]
    have spliced : g.ledger.grouped.spliced = g.ledger.spliced :=
      Ledger.filter_map_grouped (fun _ _ => rfl) _
    constructor
    · intro clean
      have inside := inner.clean clean.group_child
      have merged : Query.Clean
          { q with buckets := q.buckets.merge (g.query.buckets.slot .filter).entries .filter } :=
        { clean with }
      exact merged.push inside.conditions
    · intro x
      have inside := inner.quotes x
      have start : ¬ q.groupChild.Quotes x := by
        simp [Query.Quotes, Query.groupChild, Query.child, Condition.textsOf]
      rw [Query.quotes_push, spliced]
      simp only [start, false_or] at inside
      exact or_congr_right inside

theorem of_splice {sub : Outcome} (inner : Spells q.child sub.query sub.ledger)
    (plain : d.settings.Dollarless) {template : Template}
    (selected : d.select sub.query = .ok template) {c : Condition}
    (texts : c.texts = [template.render])
    (clean : Template.Legible (Template.ofText template.render) [] → c.Clean) :
    Spells q ((q.adopt sub.query).push c)
      ((sub.ledger.spliced ++ [sub.written template.render]).map .spliced) := by
  have legible : Template.Legible template [] :=
    Dialect.selected selected ▸ (inner.clean (.child q)).legible_select plain
  -- The text of the sub-query is read back as it was written.
  have read := Template.of_text_render legible
  constructor
  · intro before
    have adopted : (q.adopt sub.query).Clean := { before with }
    exact adopted.push (clean (read ▸ Template.legible_spelled legible))
  · intro x
    have own := Outcome.own_written selected x
    have start : ¬ q.child.Quotes x := by
      simp [Query.Quotes, Query.child, Condition.textsOf]
    have nested := inner.quotes x
    simp only [start, false_or] at nested
    have asked : x ∈ (Template.ofText template.render).parameters ↔ x ∈
        (sub.ledger.spliced ++ [sub.written template.render]).flatMap Spliced.own := by
      rw [read, Template.parameters_spelled, own, List.flatMap_append, List.mem_append,
        ← nested, or_comm]
      simp [Query.Quotes]
    rw [Query.quotes_push, Ledger.spliced_splices, texts, ← asked]
    simp [Query.Quotes, Query.adopt]

/-- A query that started with nothing asks for its own parameters and those of its sub-queries. -/
theorem parameters_select (spelt : Spells q r l) (fresh : q.Fresh) (s : Settings) (x : String) :
    x ∈ (r.select s).parameters ↔ x ∈ Outcome.parameters ⟨r, l⟩ := by
  have start : ¬ q.Quotes x := by
    simp [Query.Quotes, fresh.conditions, Condition.textsOf]
  have quoted := spelt.quotes x
  simp only [start, false_or] at quoted
  rw [r.written_select, Outcome.parameters, List.mem_append, ← quoted]
  rfl

end Spells

theorem Query.inlined_select {d : Dialect} {q : Query} (legible : (q.select d.settings).Legible [])
    (bound : ∀ x ∈ (q.select d.settings).parameters, (q.parameters.get? x).isSome) :
    ((d.select q).bind fun template => inlineParameters template.render q.parameters) =
      (d.select q).map fun template =>
        String.ofList (template.flatMap (Template.inlined q.parameters)) := by
  have written := Template.inline_render legible bound
  unfold Dialect.select
  split
  · rfl
  · simpa only [Except.bind, Except.map] using written

namespace Change

variable {d : Dialect} {body : List Step}

theorem spells_group (inside : (Step.changeAll d body).Adds Spells) (connective : Connective) :
    (group (Step.changeAll d body) connective).Adds Spells := by
  intro q o made
  obtain ⟨g, hg, rfl⟩ := group_ok made
  exact .of_group (inside _ g hg) connective

theorem spells_splice (make : String → Condition) (inside : (Step.changeAll d body).Adds Spells)
    (plain : d.settings.Dollarless)
    (texts : ∀ text, (make text).texts = [text])
    (clean : ∀ text, Template.Legible (Template.ofText text) [] → (make text).Clean) :
    (splice d (Step.changeAll d body) make).Adds Spells := by
  intro q o made
  obtain ⟨sub, template, hs, selected, rfl⟩ := splice_ok made
  exact .of_splice (inside _ sub hs) plain selected (texts _) (clean _)

theorem spells_filter_known {column operator : String} (operand : Operand (List Step))
    (connective : Connective) (plain : d.settings.Dollarless) (named : Dollarless column)
    (based : Identifier.parameterBase column ≠ "") (symbol : Dollarless operator)
    (raw : ∀ expression, operand = .raw expression → Dollarless expression)
    (inside : ∀ body, operand = .query body → (Step.changeAll d body).Adds Spells) :
    (filterKnown d column operator (Step.changeOperand d operand) connective).Adds Spells := by
  cases operand with
  | query body =>
    exact spells_splice (.queryComparison column operator · connective)
      (inside body rfl) plain (fun _ => rfl) fun _ legible => ⟨named, symbol, legible⟩
  | raw expression =>
    intro q o made
    cases made
    exact .of_push rfl (fun _ => ⟨named, symbol, raw expression rfl⟩) rfl
  | value v =>
    intro q o made
    simp only [Step.changeOperand, filterKnown] at made
    split at made
    · cases made
      exact .of_filter_null named connective _ rfl
    · cases made
      have readable := ParameterName.readable_next q based
      exact .of_asked rfl ⟨named, symbol, readable⟩ rfl

theorem spells_filter_column {column : String} (operator : Option String)
    (operand : Operand (List Step)) (connective : Connective) (plain : d.settings.Dollarless)
    (named : Dollarless column) (based : Identifier.parameterBase column ≠ "")
    (raw : ∀ expression, operand = .raw expression → Dollarless expression)
    (inside : ∀ body, operand = .query body → (Step.changeAll d body).Adds Spells) :
    (filterColumn d column operator (Step.changeOperand d operand) connective).Adds Spells := by
  cases operator with
  | none => exact spells_filter_known operand connective plain named based (by decide) raw inside
  | some operator =>
    simp only [filterColumn]
    split
    · intro q o made
      cases made
    · split
      · rename_i known
        exact spells_filter_known operand connective plain named based (.of_known known) raw inside
      · exact spells_filter_known (.value (.string operator)) connective plain named based
          (by decide) (fun _ same => by cases same) fun _ same => by cases same

theorem spells_filter {subject : Subject (List Step)} (operator : Option String)
    {operand : Operand (List Step)} (connective : Connective) (plain : d.settings.Dollarless)
    (clean : (Step.filter subject operator operand connective).Clean)
    (bodies : ∀ body ∈ (Step.filter subject operator operand connective).callbacks,
      (Step.changeAll d body).Adds Spells) :
    (filter d (Step.changeSubject d subject) operator (Step.changeOperand d operand)
      connective).Adds Spells := by
  cases subject with
  | column name =>
    have named : Dollarless name := by
      cases operand <;> exact clean.texts name List.mem_cons_self
    have based := clean.bases name List.mem_cons_self
    refine spells_filter_column operator operand connective plain named based ?_ ?_
    · rintro expression rfl
      exact clean.texts expression (List.mem_cons_of_mem _ List.mem_cons_self)
    · rintro body rfl
      exact bodies body List.mem_cons_self
  | equalities mapping =>
    rw [Step.changeSubject, filter, ← change_equalities]
    exact spells_group (bodies _ List.mem_cons_self) connective
  | group body =>
    have grouped := spells_group (bodies body List.mem_cons_self) connective
    cases operator with
    | none => exact grouped
    | some operator =>
      simp only [Step.changeSubject, filter]
      split
      · intro q o made
        cases made
      · exact grouped

end Change

namespace Step

variable {d : Dialect}

theorem spells_filter_in {column : String} {members : Members (List Step)}
    {connective : Connective} {negated : Bool} (plain : d.settings.Dollarless)
    (clean : (filterIn column members connective negated).Clean)
    (bodies : ∀ body ∈ (filterIn column members connective negated).callbacks,
      (changeAll d body).Adds Spells) :
    ((filterIn column members connective negated).change d).Adds Spells := by
  have named := clean.texts column (by simp [texts])
  have based := clean.bases column (by simp [bases])
  cases members with
  | query body =>
    exact Change.spells_splice (.inQuery column · connective negated)
      (bodies body List.mem_cons_self) plain (fun _ => rfl) fun _ legible => ⟨named, legible⟩
  | listed values =>
    intro q o made
    cases made
    have readable := ParameterName.readable_next q based
    cases negated with
    | true => exact .of_asked rfl ⟨named, readable⟩ rfl
    | false => exact .of_asked rfl ⟨named, readable⟩ rfl

/-- The identity column is replaced by its accessor, which has no dollar sign either. -/
theorem spells_filter_between {column : String} {low high : Value} {connective : Connective}
    {negated : Bool} (plain : d.settings.Dollarless)
    (clean : (filterBetween column low high connective negated).Clean) :
    ((filterBetween column low high connective negated).change d).Adds Spells := by
  intro q o made
  cases made
  have named := clean.texts column (by simp [texts])
  have readable := ParameterName.readable_next q (clean.bases column (by simp [bases]))
  refine .of_asked rfl ⟨?_, readable⟩ rfl
  split
  · exact plain.accessor (plain.target_alias q)
  · exact named

theorem spells_relate {parent related : Node} {relatedAlias relationship property : String}
    {value : Option Value} {direction : Direction} (plain : d.settings.Dollarless)
    (clean :
      (relate parent related relatedAlias relationship property value direction).Clean) :
    ((relate parent related relatedAlias relationship property value direction).change d).Adds
      Spells := by
  intro q o made
  cases made
  have each := clean.texts
  simp only [texts, List.forall_mem_append, List.forall_mem_cons] at each
  obtain ⟨⟨⟨⟨called, typed, named, -⟩, own⟩, first⟩, last⟩ := each
  have readable := ParameterName.readable_next q (clean.bases property (by simp [bases]))
  refine .of_traverse (fun _ => ?_) value rfl
  exact ⟨named, typed, ⟨plain.alias_in own, first⟩, ⟨called, last⟩, readable⟩

theorem spells_relate_to_any {parent : Node} {relatedAlias property : String}
    {value : Option Value} {direction : Direction} (plain : d.settings.Dollarless)
    (clean : (relateToAny parent relatedAlias property value direction).Clean) :
    ((relateToAny parent relatedAlias property value direction).change d).Adds Spells := by
  intro q o made
  cases made
  have each := clean.texts
  simp only [texts, List.forall_mem_append, List.forall_mem_cons] at each
  obtain ⟨⟨⟨called, named, -⟩, own⟩, first⟩ := each
  have readable := ParameterName.readable_next q (clean.bases property (by simp [bases]))
  refine .of_traverse (fun _ => ?_) value rfl
  exact ⟨named, called, ⟨plain.alias_in own, first⟩, readable⟩

theorem spells_step {step : Step} (builds : step.builds) (clean : step.Clean)
    (plain : d.settings.Dollarless)
    (bodies : ∀ body ∈ step.callbacks, (changeAll d body).Adds Spells) :
    (step.change d).Adds Spells := by
  cases step with
  | filter subject operator operand connective =>
    exact Change.spells_filter operator connective plain clean bodies
  | filterGroup body connective =>
    exact Change.spells_group (bodies body List.mem_cons_self) connective
  | filterQuery column operator body connective =>
    have named := clean.texts column (by simp [texts])
    have symbol := clean.texts operator (by simp [texts])
    exact Change.spells_splice (.queryComparison column operator · connective)
      (bodies body List.mem_cons_self) plain (fun _ => rfl)
      fun _ legible => ⟨named, symbol, legible⟩
  | filterIn => exact spells_filter_in plain clean bodies
  | filterBetween => exact spells_filter_between plain clean
  | filterNull column connective negated =>
    intro q o made
    cases made
    have named := clean.texts column (by simp [texts])
    exact .of_filter_null named connective negated rfl
  | filterCarried column operator identifier connective =>
    intro q o made
    cases made
    have each := clean.texts
    simp only [texts, List.forall_mem_cons] at each
    obtain ⟨named, symbol, carries, -⟩ := each
    exact .of_push rfl (fun _ => ⟨named, symbol, carries⟩) rfl
  | relate => exact spells_relate plain clean
  | relateToAny => exact spells_relate_to_any plain clean
  | target label =>
    intro q o made
    cases made
    have named := clean.texts label List.mem_cons_self
    refine .of_settled rfl fun before => { before with label := ?_ }
    rintro l ⟨⟩
    exact named
  | select columns =>
    intro q o made
    cases made
    refine .of_settled rfl fun before => { before with columns := ?_ }
    rintro list ⟨⟩
    exact clean.texts
  | limit rows | offset rows =>
    intro q o made
    cases made
    exact .of_settled rfl fun before => { before with }
  | sortBy column direction =>
    intro q o made
    cases made
    have named := clean.texts column List.mem_cons_self
    refine .of_settled rfl fun before => { before with sorting := ?_ }
    exact List.forall_mem_append.mpr ⟨before.sorting, List.forall_mem_singleton.mpr named⟩
  | carry parts =>
    intro q o made
    cases made
    refine .of_settled rfl fun before => before.carry fun part member => ⟨?_, ?_⟩
    · exact clean.texts _ (List.mem_flatMap.mpr ⟨part, member, by simp⟩)
    · exact clean.texts _ (List.mem_flatMap.mpr ⟨part, member, by simp⟩)
  | _ => cases builds

theorem change_spells {step : Step} (building : step.Everywhere fun s => s.builds)
    (clean : step.Everywhere Clean) (plain : d.settings.Dollarless) :
    (step.change d).Adds Spells := by
  -- The induction is on the depth of callbacks.
  induction building with
  | @intro step here _ ih =>
    refine spells_step here clean.here plain fun body called => ?_
    exact Spells.composes.all fun inner hi =>
      ih body called inner hi (clean.inside body called inner hi)

theorem change_each_spells {steps : List Step} (building : Building steps)
    (clean : Throughout Clean steps) (plain : d.settings.Dollarless) (q : Query) :
    Spells q (changeEach d steps q).query (ledger d steps q) :=
  Spells.composes.each
    (fun step member => change_spells (building step member) (clean step member) plain) q

instance (step : Step) : Decidable step.Clean :=
  decidable_of_iff ((∀ text ∈ step.texts, Dollarless text) ∧
      ∀ column ∈ step.bases, Identifier.parameterBase column ≠ "")
    ⟨fun ⟨texts, bases⟩ => ⟨texts, bases⟩, fun clean => ⟨clean.texts, clean.bases⟩⟩

/-- Of a statement made of clean steps, the parameters are just those that its conditions,
traversals and sub-queries were written with; all of them are bound, and writing their values out
replaces them and leaves every other character. -/
theorem parameters_inlined {steps : List Step} (building : Building steps)
    (clean : Throughout Clean steps) (plain : d.settings.Dollarless) {s : Session}
    (fresh : s.query.Fresh) (start : s.query.Clean) :
    let t := runEach d steps s
    let q := t.query
    (∀ template, d.select q = .ok template →
      Template.Legible template [] ∧
        (∀ x, x ∈ template.parameters ↔
          x ∈ Outcome.parameters ⟨q, ledger d steps s.query⟩) ∧
        ∀ x ∈ template.parameters, (q.parameters.get? x).isSome) ∧
      (Action.selectText d t).1 = ((d.select q).map Template.render).mapError .compile ∧
      (Action.inlinedText d t).1 =
        ((d.select q).map fun template =>
          String.ofList (template.flatMap (Template.inlined q.parameters))).mapError .compile ∧
      ∀ x, (Action.inlinedText d t).1 ≠ .error (.compile (.unboundParameter x)) := by
  intro t q
  have made : q = (changeEach d steps s.query).query := run_each_query building s
  have extended : Extends s.query q (ledger d steps s.query) :=
    made ▸ change_each_extends building s.query
  have spelt : Spells s.query q (ledger d steps s.query) :=
    made ▸ change_each_spells building clean plain s.query
  have asked := spelt.parameters_select fresh d.settings
  -- What the statement asks for is what the ledger tells of, and all of that is bound.
  have bound : ∀ x ∈ (q.select d.settings).parameters, (q.parameters.get? x).isSome := by
    intro x member
    exact extended.parameters_bound (o := ⟨q, ledger d steps s.query⟩) fresh ((asked x).mp member)
  have legible := (spelt.clean start).legible_select plain
  have inlined := Query.inlined_select legible bound
  obtain ⟨_, selects, -⟩ := Action.writes_select d t
  have inlines : (Action.inlinedText d t).1 =
      ((d.select q).map fun template =>
        String.ofList (template.flatMap (Template.inlined q.parameters))).mapError .compile := by
    obtain ⟨_, written, -⟩ := Action.writes_inlined d t
    rw [written]
    exact congrArg (Except.mapError QueryError.compile) inlined
  refine ⟨?_, congrArg Prod.fst selects, inlines, fun x => ?_⟩
  · intro template selected
    rw [Dialect.selected selected]
    exact ⟨legible, asked, bound⟩
  · rw [inlines]
    unfold Dialect.select
    split <;> simp [Except.map, Except.mapError]

def dollarValues : List Step :=
  [.target "Person",
    .filter (.column "name") (some "=") (.value (.string "$age")) .and,
    .filterGroup
      [.filterBetween "age" (.nat 1) (.nat 9) .and false,
        .filterIn "id"
          (.query [.target "Post", .filter (.column "tag") none (.value (.string "$$")) .and])
          .or false] .and,
    .sortBy "name" "desc"]

theorem dollar_values_inlined :
    Building dollarValues ∧ Throughout Clean dollarValues ∧
      (Action.selectText {} (runEach {} dollarValues {})).1.toOption = some
        ("MATCH (person:Person) WHERE person.name = $name AND ((person.age >= $age[0] AND " ++
          "person.age <= $age[1]) OR id(person) IN COLLECT \x7b MATCH (post:Post) WHERE " ++
          "post.tag = $tag RETURN post \x7d) RETURN person ORDER BY person.name DESC") ∧
      (Action.inlinedText {} (runEach {} dollarValues {})).1.toOption = some
        ("MATCH (person:Person) WHERE person.name = '$age' AND ((person.age >= [1, 9][0] AND " ++
          "person.age <= [1, 9][1]) OR id(person) IN COLLECT \x7b MATCH (post:Post) WHERE " ++
          "post.tag = '$$' RETURN post \x7d) RETURN person ORDER BY person.name DESC") := by
  have building : Building dollarValues :=
    .cons (.leaf rfl rfl) <| .cons (.leaf rfl rfl) <| .cons
      (.call rfl rfl <| .cons (.leaf rfl rfl) <| .cons
        (.call rfl rfl <| .cons (.leaf rfl rfl) <| .cons (.leaf rfl rfl) .nil) .nil) <|
      .cons (.leaf rfl rfl) .nil
  have clean : Throughout Clean dollarValues :=
    .cons (.leaf (by decide) rfl) <| .cons (.leaf (by decide +kernel) rfl) <| .cons
      (.call (by decide) rfl <| .cons (.leaf (by decide +kernel) rfl) <| .cons
        (.call (by decide +kernel) rfl <| .cons (.leaf (by decide) rfl) <|
          .cons (.leaf (by decide +kernel) rfl) .nil) .nil) <|
      .cons (.leaf (by decide) rfl) .nil
  have plain : Settings.Dollarless {} := ⟨by decide, by decide⟩
  obtain ⟨-, written, inlined, -⟩ := parameters_inlined (d := {}) building clean plain (s := {})
    ⟨rfl, rfl, rfl⟩ (.child {})
  refine ⟨building, clean, ?_, ?_⟩
  · rw [written]
    decide +kernel
  · rw [inlined]
    decide +kernel

end Step
end GraphQuery
