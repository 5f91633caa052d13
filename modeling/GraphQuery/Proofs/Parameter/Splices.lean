import GraphQuery.Proofs.Parameter.Kept
import GraphQuery.Proofs.Parameter.Written

/-! The values of spliced texts. A query keeps the names of its own sub-queries from being used
again, but not those of the sub-queries inside a group or inside another sub-query. -/
namespace GraphQuery

namespace Condition

mutual

theorem bound_names_sublist : (c : Condition) → c.boundNames.Sublist c.names
  | .group conditions _ => bound_names_of_sublist conditions
  | .comparison _ _ (.bound _) _ _ | .isIn .. | .notIn .. | .between .. => .refl _
  | .comparison _ _ (.raw _) _ _ | .isNull .. | .notNull .. => List.nil_sublist _
  | .inQuery .. | .carried .. | .queryComparison .. => .refl _

theorem bound_names_of_sublist :
    (conditions : List Condition) → (boundNamesOf conditions).Sublist (namesOf conditions)
  | [] => .refl _
  | c :: rest => (bound_names_sublist c).append (bound_names_of_sublist rest)

end

end Condition

theorem Query.written_names_sublist (q : Query) : q.writtenNames.Sublist q.names :=
  (Condition.bound_names_of_sublist q.conditions).append (List.filter_sublist.map _)

/-- What a sub-query takes for itself are the parameters of its text, those of the texts inside it
aside. -/
theorem Outcome.own_written {d : Dialect} {o : Outcome} {t : Template}
    (selected : d.select o.query = .ok t) (x : String) :
    x ∈ t.parameters ↔ x ∈ (o.written t.render).own ∨
      ∃ text ∈ Condition.textsOf o.query.conditions, x ∈ (Template.ofText text).parameters := by
  unfold Dialect.select at selected
  split at selected
  · cases selected
  · cases selected
    exact o.query.written_select d.settings x

/-- The parameters that an entry takes for itself: its name, or those of the sub-query. -/
def Entry.takes : Entry → List String
  | condition name _ | traversal name _ => [name.render]
  | spliced query => query.own

namespace Ledger

/-- No later entry leaves another value under a parameter of an earlier text. -/
def Undisturbed (l : Ledger) : Prop :=
  ∀ before sub after, l = before ++ .spliced sub :: after →
    ∀ x ∈ sub.parameters, ∀ v, lastWrite x after = some v → sub.values.get? x = some v

theorem takes_perm (l : Ledger) : (l.flatMap Entry.takes).Perm
    (l.names.map ParameterName.render ++ l.spliced.flatMap Spliced.own) := by
  induction l with
  | nil => exact .nil
  | cons e rest ih =>
    cases e with
    | condition name value => exact ih.cons name.render
    | traversal name value => exact ih.cons name.render
    | spliced query =>
      exact (ih.append_left query.own).trans (List.perm_append_comm_assoc _ _ _)

theorem takes_plain {l : Ledger} (plain : l.spliced = []) :
    l.flatMap Entry.takes = l.names.map ParameterName.render := by
  induction l with
  | nil => rfl
  | cons e rest ih =>
    cases e with
    | condition name value => exact congrArg (name.render :: ·) (ih plain)
    | traversal name value => exact congrArg (name.render :: ·) (ih plain)
    | spliced query => cases plain

end Ledger

namespace Extends

variable {q r : Query} {l : Ledger}

/-- All values that texts were spliced in with are there in the end just when nothing disturbs
them. -/
theorem spliced_kept_iff (extended : Extends q r l) (fresh : q.Fresh) :
    (∀ sub ∈ l.spliced, ∀ x ∈ sub.parameters, r.parameters.get? x = sub.values.get? x) ↔
      l.Undisturbed := by
  have parts : ∀ before sub after, l = before ++ .spliced sub :: after →
      ∀ x ∈ sub.parameters, r.parameters.get? x =
        (Ledger.lastWrite x after).or (sub.values.get? x) := by
    intro before sub after split x asked
    have member : sub ∈ l.spliced := by
      rw [Ledger.mem_spliced, split]
      exact List.mem_append_right _ List.mem_cons_self
    have bound := extended.spliced sub member x asked
    rw [extended.get_parameters fresh, split, Ledger.last_write_append, Ledger.lastWrite,
      Entry.write?, Option.or_assoc, Option.or_of_isSome bound]
  constructor
  · intro kept before sub after split x asked v written
    have member : sub ∈ l.spliced := by
      rw [Ledger.mem_spliced, split]
      exact List.mem_append_right _ List.mem_cons_self
    rw [← kept sub member x asked, parts before sub after split x asked, written]
    rfl
  · intro undisturbed sub member x asked
    obtain ⟨before, after, split⟩ := List.append_of_mem (Ledger.mem_spliced.mp member)
    rw [parts before sub after split x asked]
    cases written : Ledger.lastWrite x after with
    | none => rfl
    | some v => exact (undisturbed before sub after split x asked v written).symm

end Extends

/-- Beside its own names the query steps past the parameters of every text that was spliced in. -/
structure Guards (q r : Query) (l : Ledger) : Prop extends Extends q r l where
  flat : ∀ sub ∈ l.spliced, sub.nested = []
  apart : (l.flatMap Entry.takes).Nodup
  unseen : ∀ x ∈ l.flatMap Entry.takes, x ∉ q.taken
  guarded : ∀ x ∈ l.flatMap Entry.takes, x ∈ r.taken
  spared : l.Pairwise fun earlier later => ∀ x ∈ earlier.takes, later.write? x = none

namespace Guards

variable {q r t : Query} {l m : Ledger}

/-- Without spliced texts there are only the query's own names. -/
theorem of_plain (extended : Extends q r l) (plain : l.spliced = []) : Guards q r l where
  toExtends := extended
  flat := by simp [plain]
  apart := Ledger.takes_plain plain ▸ extended.distinct
  unseen := by
    rw [Ledger.takes_plain plain]
    intro x hx
    obtain ⟨n, hn, rfl⟩ := List.mem_map.mp hx
    exact extended.new n hn
  guarded := by
    rw [Ledger.takes_plain plain]
    intro x hx
    obtain ⟨n, hn, rfl⟩ := List.mem_map.mp hx
    exact extended.names_taken hn
  spared := by
    refine extended.settled.imp_of_mem ?_
    intro earlier later he _ spares x hx
    cases earlier with
    | condition name value => exact List.mem_singleton.mp hx ▸ spares name rfl
    | traversal name value => exact List.mem_singleton.mp hx ▸ spares name rfl
    | spliced query =>
      rw [← Ledger.mem_spliced, plain] at he
      cases he

theorem trans (first : Guards q r l) (second : Guards r t m) : Guards q t (l ++ m) where
  toExtends := first.toExtends.trans second.toExtends
  flat := by
    intro sub hs
    rw [Ledger.spliced, List.filterMap_append] at hs
    rcases List.mem_append.mp hs with h | h
    · exact first.flat sub h
    · exact second.flat sub h
  apart := by
    rw [List.flatMap_append]
    refine List.nodup_append.mpr ⟨first.apart, second.apart, ?_⟩
    intro x hx y hy same
    exact second.unseen y hy (same ▸ first.guarded x hx)
  unseen := by
    intro x hx
    rw [List.flatMap_append] at hx
    rcases List.mem_append.mp hx with h | h
    · exact first.unseen x h
    · exact fun inside => second.unseen x h (first.taken_subset inside)
  guarded := by
    intro x hx
    rw [List.flatMap_append] at hx
    rcases List.mem_append.mp hx with h | h
    · exact second.taken_subset (first.guarded x h)
    · exact second.guarded x h
  spared := by
    refine List.pairwise_append.mpr ⟨first.spared, second.spared, ?_⟩
    intro earlier he later hl x hx
    have inside := first.guarded x (List.mem_flatMap.mpr ⟨earlier, he, hx⟩)
    by_contra written
    exact (second.writes later hl x (Option.isSome_iff_ne_none.mpr written)).1 inside

/-- A sub-query without sub-queries asks only for its own names, and those are reserved. -/
theorem of_splice {sub : Outcome} (inner : Extends q.child sub.query sub.ledger)
    (plain : sub.ledger.spliced = []) {c : Condition} (nameless : c.Nameless) (text : String) :
    Guards q ((q.adopt sub.query).push c)
      ((sub.ledger.spliced ++ [sub.written text]).map .spliced) := by
  have own : ((sub.ledger.spliced ++ [sub.written text]).map Entry.spliced).flatMap Entry.takes =
      sub.query.writtenNames.map ParameterName.render := by
    simp [plain, Entry.takes, Outcome.written]
  have names := sub.query.written_names_sublist.map ParameterName.render
  refine
    { toExtends := .of_splice inner nameless text, flat := ?_, apart := ?_, unseen := ?_
      guarded := ?_, spared := ?_ }
  · rw [Ledger.spliced_splices, plain]
    intro query hq
    rw [List.mem_singleton.mp hq, Outcome.written, plain]
    rfl
  · rw [own]
    exact (inner.distinct_names q.fresh_child).sublist names
  · intro x hx
    rw [own] at hx
    obtain ⟨n, hn, rfl⟩ := List.mem_map.mp (names.subset hx)
    have mine := inner.names_perm.mem_iff.mp hn
    rw [Query.names_fresh q.fresh_child, List.nil_append] at mine
    rw [← Query.taken_child]
    exact inner.new n mine
  · intro x hx
    rw [own] at hx
    obtain ⟨n, hn, rfl⟩ := List.mem_map.mp (names.subset hx)
    exact List.mem_map_of_mem (List.mem_append_left _ (List.mem_append_right _ hn))
  · rw [plain]
    exact List.pairwise_singleton _ _

theorem undisturbed (guards : Guards q r l) : l.Undisturbed := by
  intro before sub after split x asked v written
  have member : sub ∈ l.spliced := by
    rw [Ledger.mem_spliced, split]
    exact List.mem_append_right _ List.mem_cons_self
  rw [Spliced.parameters, guards.flat sub member, List.append_nil] at asked
  have spared := guards.spared
  rw [split, List.pairwise_append, List.pairwise_cons] at spared
  have none : Ledger.lastWrite x after = none :=
    Ledger.last_write_eq_none fun later hl => spared.2.1.1 later hl x asked
  rw [none] at written
  cases written

theorem distinct_parameters {o : Outcome} (guards : Guards q o.query o.ledger) (fresh : q.Fresh) :
    o.parameters.Nodup := by
  have own := guards.names_perm.map ParameterName.render
  rw [Query.names_fresh fresh, List.nil_append] at own
  have all := (own.append_right _).trans o.ledger.takes_perm.symm
  have part := (o.query.written_names_sublist.map ParameterName.render).append
    (List.Sublist.refl (o.ledger.spliced.flatMap Spliced.own))
  exact (all.nodup_iff.mpr guards.apart).sublist part

end Guards

theorem Guards.composes : Change.Composes Guards := ⟨fun q => .of_plain (.refl q) rfl, .trans⟩

def Plain (_ _ : Query) (l : Ledger) : Prop := l.spliced = []

theorem Plain.composes : Change.Composes Plain where
  refl := fun _ => rfl
  trans := by
    intro q r t l m first second
    rw [Plain, Ledger.spliced, List.filterMap_append]
    exact List.append_eq_nil_iff.mpr ⟨first, second⟩

theorem Change.Elementary.plain {d : Dialect} {change : Change}
    (elementary : Elementary d (fun body => (Step.changeAll d body).Adds Plain) (fun _ => False)
      change) : change.Adds Plain := by
  intro q o made
  cases elementary with
  | settled | traversed => cases made; rfl
  | asking asking =>
    cases asking with
    | refused e => cases made
    | nameless | asked => cases made; rfl
    | grouped inside =>
      obtain ⟨g, hg, rfl⟩ := group_ok made
      have plain := inside _ g hg
      dsimp only
      split
      · rfl
      · rwa [Plain, Ledger.spliced, Ledger.filter_map_grouped fun _ _ => rfl]
    | spliced make inside nameless => cases inside

theorem Change.Elementary.guards {d : Dialect} {change : Change}
    (elementary : Elementary d
      (fun body => (Step.changeAll d body).Adds Extends ∧ (Step.changeAll d body).Adds Plain)
      (fun body => (Step.changeAll d body).Adds Extends ∧ (Step.changeAll d body).Adds Plain)
      change) : change.Adds Guards := by
  intro q o made
  cases elementary with
  | settled frame =>
    cases made
    exact .of_plain (.of_frame frame q) rfl
  | traversed make named constrained =>
    cases made
    exact .of_plain (.of_traverse named q) rfl
  | asking asking =>
    cases asking with
    | refused e => cases made
    | nameless nameless =>
      cases made
      exact .of_plain (.of_nameless nameless q) rfl
    | asked make asks takes =>
      cases made
      rw [asks]
      exact .of_plain (.of_ask takes q) rfl
    | @grouped body connective inside =>
      have plain : (group (Step.changeAll d body) connective).Adds Plain :=
        Elementary.plain (.asking (.grouped inside.2))
      have none := plain q o made
      obtain ⟨g, hg, rfl⟩ := group_ok made
      exact .of_plain (.of_group (inside.1 _ g hg) _) none
    | spliced make inside nameless =>
      obtain ⟨sub, t, hs, -, rfl⟩ := splice_ok made
      exact .of_splice (inside.1 _ sub hs) (inside.2 _ sub hs) (nameless _) _

namespace Step

variable {d : Dialect}

theorem change_plain {step : Step} (building : step.Everywhere fun s => s.builds)
    (without : step.Everywhere fun s => s.subQueries = []) : (step.change d).Adds Plain := by
  induction building with
  | @intro step here inside ih =>
    have none : ∀ body ∈ step.subQueries, False := by simp [without.here]
    have bodies : ∀ body ∈ step.groups, (changeAll d body).Adds Plain := fun body member =>
      Plain.composes.all fun inner hi => ih body (group_called member) inner hi
        (without.inside body (group_called member) inner hi)
    exact (Change.elementary_of_builds here bodies none).plain

/-- No sub-query stands inside a group or inside another sub-query. -/
def Shallow (steps : List Step) : Prop :=
  ∀ step ∈ steps, ∀ body ∈ step.callbacks, Throughout (fun s => s.subQueries = []) body

theorem change_guards {step : Step} (building : step.Everywhere fun s => s.builds)
    (shallow : ∀ body ∈ step.callbacks, Throughout (fun s => s.subQueries = []) body) :
    (step.change d).Adds Guards := by
  have bodies : ∀ body ∈ step.callbacks,
      (changeAll d body).Adds Extends ∧ (changeAll d body).Adds Plain := by
    intro body called
    constructor
    · exact Extends.composes.all fun inner hi =>
        change_extends (building.inside body called inner hi)
    · exact Plain.composes.all fun inner hi =>
        change_plain (building.inside body called inner hi) (shallow body called inner hi)
  exact (Change.elementary_of_builds building.here
    (fun body member => bodies body (group_called member))
    fun body member => bodies body (sub_query_called member)).guards

theorem change_each_guards {steps : List Step} (building : Building steps)
    (shallow : Shallow steps) (q : Query) :
    Guards q (changeEach d steps q).query (ledger d steps q) :=
  Guards.composes.each
    (fun step member => change_guards (building step member) (shallow step member)) q

/-- A text is always spliced in with the values that it asks for. They are all still there in the
end just when no later entry disturbs them, which a shallow script never does: in it no two
conditions or traversals share a parameter. -/
theorem spliced_values_kept {steps : List Step} (building : Building steps) {s : Session}
    (fresh : s.query.Fresh) :
    let q := (runEach d steps s).query
    let l := ledger d steps s.query
    (∀ sub ∈ l.spliced, ∀ x ∈ sub.parameters, (sub.values.get? x).isSome) ∧
      ((∀ sub ∈ l.spliced, ∀ x ∈ sub.parameters, q.parameters.get? x = sub.values.get? x) ↔
        l.Undisturbed) ∧
      (Shallow steps → l.Undisturbed ∧ (Outcome.parameters ⟨q, l⟩).Nodup) := by
  have extended := change_each_extends (d := d) building s.query
  rw [run_each_query building]
  refine ⟨extended.spliced, extended.spliced_kept_iff fresh, fun shallow => ?_⟩
  have guards := change_each_guards (d := d) building shallow s.query
  exact ⟨guards.undisturbed, guards.distinct_parameters fresh⟩

def memberOfPosts : Step :=
  .filterIn "id"
    (.query [.target "Post", .filter (.column "age") (some ">") (.value (.nat 5)) .and]) .and false

def ageIsTen : Step := .filter (.column "age") (some "=") (.value (.nat 10)) .and

def adopted : List Step := [memberOfPosts, ageIsTen]

theorem adopted_values_kept :
    let l := ledger {} adopted {}
    Building adopted ∧ Shallow adopted ∧ l.spliced.map Spliced.own = [["age"]] ∧
      (∀ sub ∈ l.spliced, ∀ x ∈ sub.parameters,
        (runEach {} adopted {}).query.parameters.get? x = sub.values.get? x) := by
  have building : Building adopted :=
    .cons (.call rfl rfl <| .cons (.leaf rfl rfl) <| .cons (.leaf rfl rfl) .nil) <|
      .cons (.leaf rfl rfl) .nil
  have shallow : Shallow adopted := by
    intro step member
    rcases List.mem_cons.mp member with rfl | member
    · exact List.forall_mem_cons.mpr
        ⟨.cons (.leaf rfl rfl) <| .cons (.leaf rfl rfl) .nil, by simp⟩
    · rw [List.mem_singleton.mp member]
      exact List.forall_mem_nil _
  obtain ⟨-, kept, guarded⟩ := spliced_values_kept (d := {}) building (s := {}) ⟨rfl, rfl, rfl⟩
  exact ⟨building, shallow, by decide +kernel, kept.mpr (guarded shallow).1⟩

/-- A group does not hand on the names of its sub-queries. -/
def hidden : List Step := [.filterGroup [memberOfPosts] .and, ageIsTen]

/-- The second condition takes the name of the one in the sub-query, and its value replaces the
other's. -/
theorem hidden_value_lost :
    (∃ sub ∈ (ledger {} hidden {}).spliced, "age" ∈ sub.parameters ∧
        sub.values.get? "age" = some (.nat 5) ∧
        (runEach {} hidden {}).query.parameters.get? "age" = some (.nat 10)) ∧
      ¬ (Outcome.parameters ⟨(runEach {} hidden {}).query, ledger {} hidden {}⟩).Nodup := by
  decide +kernel

end Step
end GraphQuery
