import GraphQuery.Proofs.Parameter.Splices
import GraphQuery.Proofs.Script.Uses

/-! Conditions that were written on another query keep their names and come with their values. What
the query itself has bound under such a name is overwritten. -/
namespace GraphQuery

namespace Ledger

/-- All conditions and traversals find the value that they were given, and all spliced texts the
values that they were written with. -/
structure Held (l : Ledger) (q : Query) : Prop where
  given : ∀ n v, (n, v) ∈ l.given → q.parameters.get? n.render = some v
  spliced : ∀ sub ∈ l.spliced, ∀ x ∈ sub.parameters, q.parameters.get? x = sub.values.get? x

/-- The parameters that are asked for. -/
def asked (l : Ledger) : List String :=
  l.given.map (·.1.render) ++ l.spliced.flatMap Spliced.parameters

theorem asked_given {l : Ledger} {n : ParameterName} {v : Value} (member : (n, v) ∈ l.given) :
    n.render ∈ l.asked := List.mem_append_left _ (List.mem_map_of_mem member)

theorem asked_spliced {l : Ledger} {sub : Spliced} (member : sub ∈ l.spliced) {x : String}
    (asks : x ∈ sub.parameters) : x ∈ l.asked :=
  List.mem_append_right _ (List.mem_flatMap.mpr ⟨sub, member, asks⟩)

/-- Whether the values are found depends on the parameters that are asked for, and on no others. -/
theorem Held.congr {l : Ledger} {q r : Query} (held : l.Held q)
    (same : ∀ x ∈ l.asked, r.parameters.get? x = q.parameters.get? x) : l.Held r where
  given := fun n v member => (same _ (asked_given member)).trans (held.given n v member)
  spliced := fun sub member x asks =>
    (same x (asked_spliced member asks)).trans (held.spliced sub member x asks)

theorem Held.same {l : Ledger} {q r : Query} (held : l.Held q) (other : l.Held r) {x : String}
    (asks : x ∈ l.asked) : r.parameters.get? x = q.parameters.get? x := by
  rcases List.mem_append.mp asks with own | inside
  · obtain ⟨⟨n, v⟩, member, rfl⟩ := List.mem_map.mp own
    exact (other.given n v member).trans (held.given n v member).symm
  · obtain ⟨sub, member, hx⟩ := List.mem_flatMap.mp inside
    exact (other.spliced sub member x hx).trans (held.spliced sub member x hx).symm

end Ledger

namespace Extends

variable {q r : Query} {l : Ledger}

theorem segments (extended : Extends q r l) (fresh : q.Fresh) : r.parameters.Segments :=
  extended.segments_of_write (List.Sublist.refl l) (extended.get_parameters fresh)

/-- Every parameter that is asked for is bound. -/
theorem asked_bound (extended : Extends q r l) (fresh : q.Fresh) (held : l.Held r) {x : String}
    (asks : x ∈ l.asked) : (r.parameters.get? x).isSome := by
  rcases List.mem_append.mp asks with own | inside
  · obtain ⟨⟨n, v⟩, member, rfl⟩ := List.mem_map.mp own
    rw [extended.given_kept fresh member]
    rfl
  · obtain ⟨sub, member, hx⟩ := List.mem_flatMap.mp inside
    rw [held.spliced sub member x hx]
    exact extended.spliced sub member x hx

/-- Where there are no traversals, the values that are appended come first. -/
theorem get_append (extended : Extends q r l) (fresh : q.Fresh) (untraversed : l.traversals = [])
    (conditions : List Condition) {values : Parameters} (segments : values.Segments) (x : String) :
    (r.append conditions values).parameters.get? x =
      (values.get? x).or (r.parameters.get? x) := by
  have traversal : r.buckets.traversal.entries.get? x = none := by
    rw [extended.traversal, untraversed, fresh.buckets]
    rfl
  have having' : r.buckets.having = .empty := by rw [extended.others, fresh.buckets]
  have order : r.buckets.order = .empty := by rw [extended.others, fresh.buckets]
  have join : r.buckets.join = .empty := by rw [extended.others, fresh.buckets]
  have empty : (Record.empty : Parameters).get? x = none := rfl
  rw [Query.parameters, Query.parameters, Buckets.get_flatten, Buckets.get_flatten]
  simp only [Query.append, Buckets.merge, Buckets.modify,
    Slot.insert_all_segments _ segments.of_entries, Record.get_merge, traversal, having', order,
    join, Slot.empty, empty, Option.none_or, Option.or_assoc]

theorem bound_names_untraversed (extended : Extends q r l) (fresh : q.Fresh)
    (untraversed : l.traversals = []) :
    r.traversals.map Traversal.name = [] ∧ Condition.boundNamesOf r.conditions =
      l.given.map Prod.fst := by
  have none : r.traversals.map Traversal.name = [] := by
    rw [extended.traversalNames, fresh.traversals, ← Ledger.grouped_eq untraversed,
      Ledger.traversal_names_grouped]
    rfl
  rw [extended.given_names fresh, Query.boundNames, none, List.append_nil]
  exact ⟨rfl, rfl⟩

theorem held_of_undisturbed (extended : Extends q r l) (fresh : q.Fresh)
    (undisturbed : l.Undisturbed) : l.Held r where
  given := fun _ _ member => extended.given_kept fresh member
  spliced := (extended.spliced_kept_iff fresh).mpr undisturbed

variable {p u : Query} {m : Ledger} (ours : Extends q r l) (theirs : Extends p u m)
  (fresh : q.Fresh) (other : p.Fresh) (untraversed : l.traversals = [])

include ours theirs fresh other untraversed

/-- The conditions that are appended find their values. -/
theorem appended_held (held : m.Held u) : m.Held (r.append u.conditions u.parameters) := by
  refine held.congr fun x asks => ?_
  rw [ours.get_append fresh untraversed u.conditions (theirs.segments other) x]
  exact Option.or_of_isSome (theirs.asked_bound other held asks)

/-- The conditions that were there find theirs just when none of them is bound anew to another
value. -/
theorem append_held_iff (held : l.Held r) : l.Held (r.append u.conditions u.parameters) ↔
    ∀ x ∈ l.asked, ∀ v, u.parameters.get? x = some v → r.parameters.get? x = some v := by
  have get := ours.get_append fresh untraversed u.conditions (theirs.segments other)
  constructor
  · intro kept x asks v bound
    rw [← held.same kept asks, get, bound]
    rfl
  · intro agree
    refine held.congr fun x asks => ?_
    rw [get]
    cases bound : u.parameters.get? x with
    | none => rfl
    | some v => exact (agree x asks v bound).symm

end Extends

namespace Step

variable {d : Dialect}

theorem each_untraversed {steps : List Step} (filters : ∀ step ∈ steps, step.isFilter)
    (q : Query) : (ledger d steps q).traversals = [] :=
  Untraversed.composes.each (fun step member => filter_untraversed (filters step member)) q

/-- Conditions that another script has written are appended with the names and values that they
have there. They always find these values. The conditions that were there before find theirs just
when the other script has bound nothing else under their names; it does not know of them, and
nothing is renamed. -/
theorem appended_values_kept {first second : List Step} (building : Building first)
    (others : Building second) (filters : ∀ step ∈ first, step.isFilter)
    (conditions : ∀ step ∈ second, step.isFilter) {s r : Session} (fresh : s.query.Fresh)
    (apart : r.query.Fresh) :
    let own := (runEach d first s).query
    let other := (runEach d second r).query
    let before := ledger d first s.query
    let added := ledger d second r.query
    let q := (Action.append other.conditions other.parameters (runEach d first s)).2.query
    q.boundNames = before.given.map Prod.fst ++ added.given.map Prod.fst ∧
      (added.Held other → added.Held q) ∧
      (before.Held own → (before.Held q ↔ ∀ x ∈ before.asked, ∀ v,
        other.parameters.get? x = some v → own.parameters.get? x = some v)) ∧
      (Shallow first → before.Held own) ∧ (Shallow second → added.Held other) := by
  intro own other before added q
  have ours := change_each_extends (d := d) building s.query
  have theirs := change_each_extends (d := d) others r.query
  have untraversed := each_untraversed (d := d) filters s.query
  rw [← run_each_query building] at ours
  rw [← run_each_query others] at theirs
  obtain ⟨none, names⟩ := ours.bound_names_untraversed fresh untraversed
  obtain ⟨-, more⟩ := theirs.bound_names_untraversed apart (each_untraversed conditions r.query)
  refine ⟨?_, ours.appended_held theirs fresh apart untraversed,
    ours.append_held_iff theirs fresh apart untraversed, fun shallow => ?_, fun shallow => ?_⟩
  · have appended : q.boundNames = Condition.boundNamesOf (own.conditions ++ other.conditions) ++
        own.traversals.map Traversal.name := rfl
    rw [appended, none, Condition.bound_names_of_append, names, more, List.append_nil]
  · exact ours.held_of_undisturbed fresh (change_each_guards building shallow s.query).undisturbed
  · exact theirs.held_of_undisturbed apart (change_each_guards others shallow r.query).undisturbed

theorem shallow_of_leaves {steps : List Step} (leaves : ∀ step ∈ steps, step.callbacks = []) :
    Shallow steps := by
  intro step member body called
  rw [leaves step member] at called
  cases called

def olderThanFive : List Step := [.filter (.column "age") (some ">") (.value (.nat 5)) .and]

/-- One parameter is bound to the same value in both, the other one is new. -/
def fiveOrAnn : List Step :=
  [.filter (.column "age") (some "=") (.value (.nat 5)) .and,
    .filter (.column "name") (some "=") (.value (.string "Ann")) .or]

theorem agreeing_values_kept :
    let q := (Action.append (runEach {} fiveOrAnn {}).query.conditions
      (runEach {} fiveOrAnn {}).query.parameters (runEach {} olderThanFive {})).2.query
    q.boundNames = [⟨"age", 1⟩, ⟨"age", 1⟩, ⟨"name", 1⟩] ∧
      (ledger {} olderThanFive {}).Held q ∧ (ledger {} fiveOrAnn {}).Held q := by
  have first : Building olderThanFive := .cons (.leaf rfl rfl) .nil
  have second : Building fiveOrAnn := .cons (.leaf rfl rfl) (.cons (.leaf rfl rfl) .nil)
  obtain ⟨names, theirs, ours, held, kept⟩ :=
    appended_values_kept (d := {}) first second (by decide) (by decide)
      (s := {}) (r := {}) ⟨rfl, rfl, rfl⟩ ⟨rfl, rfl, rfl⟩
  have leaves : Shallow olderThanFive := shallow_of_leaves
    (by simp [olderThanFive, callbacks, groups, subQueries])
  have more : Shallow fiveOrAnn := shallow_of_leaves
    (by simp [fiveOrAnn, callbacks, groups, subQueries])
  refine ⟨names.trans (by decide +kernel), (ours (held leaves)).mpr ?_, theirs (kept more)⟩
  have asked : (ledger {} olderThanFive {}).asked = ["age"] := by decide +kernel
  have bound : (runEach {} fiveOrAnn {}).query.parameters.get? "age" = some (.nat 5) := by
    decide +kernel
  intro x asks v other
  rw [asked, List.mem_singleton] at asks
  rw [asks, bound] at other
  rw [asks, ← other]
  decide +kernel

def isTen : List Step := [.filter (.column "age") (some "=") (.value (.nat 10)) .and]

/-- Both conditions ask for one parameter, and it has the value of the appended one. -/
theorem older_value_lost :
    let t := runEach {} olderThanFive {}
    let u := (runEach {} isTen {}).query
    let q := (Action.append u.conditions u.parameters t).2.query
    (ledger {} olderThanFive {}).given = [(⟨"age", 1⟩, .nat 5)] ∧
      t.query.parameters.get? "age" = some (.nat 5) ∧
      q.boundNames.map ParameterName.render = ["age", "age"] ∧
      q.parameters.get? "age" = some (.nat 10) ∧
      (({} : Dialect).select q).toOption.map Template.render =
        some "MATCH (n) WHERE n.age > $age AND n.age = $age RETURN n" := by
  decide +kernel

end Step
end GraphQuery
