import GraphQuery.Proofs.Parameter.Allocator
import GraphQuery.Proofs.Parameter.Numbered
import GraphQuery.Proofs.Script.Uses

/-! The name of every use is found anew from the names that the query holds. One allocator that is
kept for the whole script hands out the same names. -/
namespace GraphQuery

/-- The names of the ledger are those that follow in turn on the names before it. -/
structure Recalls (q r : Query) (l : Ledger) : Prop extends Extends q r l where
  unreserved : r.reserved = q.reserved
  handed : l.names = ParameterName.nextAll (q.reserved ++ q.names) (l.names.map ParameterName.base)

namespace Recalls

variable {q r t : Query} {l m : Ledger}

theorem refl (q : Query) : Recalls q q [] := ⟨.refl q, rfl, rfl⟩

theorem trans (first : Recalls q r l) (second : Recalls r t m) : Recalls q t (l ++ m) := by
  refine ⟨first.toExtends.trans second.toExtends, second.unreserved.trans first.unreserved, ?_⟩
  have before : (r.reserved ++ r.names).Perm (q.reserved ++ q.names ++ l.names) := by
    rw [first.unreserved, List.append_assoc]
    exact first.names_perm.append_left q.reserved
  have names : Ledger.names (l ++ m) = l.names ++ m.names := List.filterMap_append
  have later := second.handed
  rw [ParameterName.next_all_perm before] at later
  rw [names, List.map_append, ParameterName.next_all_append, ← first.handed, ← later]

theorem composes : Change.Composes Recalls := ⟨refl, trans⟩

/-- A single name is the next one. -/
theorem of_next {e : Entry} {column : String} (extended : Extends q r [e])
    (unreserved : r.reserved = q.reserved) (named : e.name? = some (q.nextName column)) :
    Recalls q r [e] := by
  have names : Ledger.names [e] = [q.nextName column] := by simp [Ledger.names, named]
  refine ⟨extended, unreserved, ?_⟩
  rw [names, List.map_singleton, Query.nextName, ParameterName.base_next]
  rfl

theorem of_group {g : Outcome} (inner : Recalls q.groupChild g.query g.ledger)
    (untraversed : g.ledger.traversals = []) (connective : Connective) :
    Recalls q (q.filterGroup g.query connective)
      (if g.query.conditions.isEmpty then [] else g.ledger.grouped) := by
  have extended := Extends.of_group inner.toExtends connective
  by_cases empty : g.query.conditions.isEmpty
  · simpa [Query.filterGroup, empty] using refl q
  · rw [if_neg empty] at extended ⊢
    have child : q.groupChild.reserved ++ q.groupChild.names = q.reserved ++ q.names := by
      rw [Query.names_fresh q.fresh_group_child, List.append_nil]
      rfl
    refine ⟨extended, by simp [Query.filterGroup, empty, Query.push], ?_⟩
    rw [Ledger.grouped_eq untraversed, ← child]
    exact inner.handed

end Recalls

namespace Change

variable {d : Dialect}

theorem Elementary.recalls {change : Change}
    (elementary : Elementary d
      (fun body => (Step.changeAll d body).Adds Recalls ∧ (Step.changeAll d body).Adds Untraversed)
      (fun _ => False) change) : change.Adds Recalls := by
  intro q o made
  cases elementary with
  | settled frame =>
    cases made
    exact ⟨.of_frame frame q, frame.reserved q, rfl⟩
  | traversed make named constrained =>
    cases made
    exact .of_next (.of_traverse named q) rfl rfl
  | asking asking =>
    cases asking with
    | refused e => cases made
    | nameless nameless =>
      cases made
      exact ⟨.of_nameless nameless q, rfl, rfl⟩
    | @asked column value f make asks takes =>
      cases made
      rw [asks]
      refine .of_next (.of_ask takes q) ?_ rfl
      cases value <;> rfl
    | grouped inside =>
      obtain ⟨g, hg, rfl⟩ := group_ok made
      exact .of_group (inside.1 _ g hg) (inside.2 _ g hg) _
    | spliced make inside nameless => cases inside

end Change

/-- A query finds the next name with an allocator made of the names there are. -/
theorem Query.next_name_rederived (q : Query) (column : String) :
    q.nextName column =
      ((Allocator.ofNames (q.reserved ++ q.names)).allocate (Identifier.parameterBase column)).1 :=
  ((Allocator.keeps_of_names _).allocate _).1.symm

namespace Step

variable {d : Dialect}

theorem change_recalls {step : Step} (simple : step.Everywhere Simple) :
    (step.change d).Adds Recalls := by
  induction simple with
  | @intro step here inside ih =>
    refine (Change.elementary_of_builds here.builds ?_ ?_).recalls
    · intro body member
      constructor
      · exact Recalls.composes.all (ih body (group_called member))
      · refine Untraversed.composes.all fun inner hi => ?_
        have builds := (inside body (group_called member) inner hi).here.builds
        exact change_untraversed builds (here.apart body member inner hi)
    · intro body member
      rw [here.plain] at member
      cases member

theorem recalls_all {steps : List Step} (simple : Throughout Simple steps) :
    (changeAll d steps).Adds Recalls :=
  Recalls.composes.all fun step member => change_recalls (simple step member)

/-- What a script makes of a query when it succeeds. -/
theorem changed_of_ran {steps : List Step} (building : Building steps) {s t : Session}
    (ran : runAll d steps s = (.ok (), t)) :
    ∃ o, changeAll d steps s.query = .ok o ∧ t.query = o.query := by
  have follows := run_all_follows (d := d) building s
  cases made : changeAll d steps s.query with
  | error e =>
    simp only [made] at follows
    obtain ⟨u, failed⟩ := follows
    rw [ran] at failed
    cases failed
  | ok o =>
    simp only [made] at follows
    obtain ⟨_, u, finished, same⟩ := follows
    rw [ran] at finished
    cases finished
    exact ⟨o, rfl, same⟩

/-- One allocator that is asked once for each use, in the order of the script, hands out all the
names that the query takes, although every one of them is found by an allocator made afresh. Where
no base is a numbered form of another one, a name shows which use of its base it is. -/
theorem names_as_remembered {steps : List Step} (simple : Throughout Simple steps) {s t : Session}
    (fresh : s.query.Fresh) (unreserved : s.query.reserved = [])
    (ran : runAll d steps s = (.ok (), t)) :
    let bases := (usesAll steps).map Use.base
    let names := ({} : Allocator).allocateAll bases
    let handed := (usesAll steps).zip names
    Condition.namesOf t.query.conditions = (handed.filter (!·.1.traverses)).map Prod.snd ∧
      t.query.traversals.map Traversal.name = (handed.filter (·.1.traverses)).map Prod.snd ∧
      (∀ column, t.query.nextName column =
        ((Allocator.ofNames (t.query.reserved ++ t.query.names)).allocate
          (Identifier.parameterBase column)).1) ∧
      (ParameterName.Unnumbered bases → ∀ before base after, bases = before ++ base :: after →
        names[before.length]?.map ParameterName.render =
          some (if before.count base = 0 then base
            else base ++ "_" ++ (before.count base + 1).repr)) := by
  intro bases names handed
  have building : Building steps :=
    fun step member => (simple step member).imp fun _ simple => simple.builds
  obtain ⟨o, made, same⟩ := changed_of_ran building ran
  have recalls := recalls_all simple _ o made
  have uses : o.ledger.uses = usesAll steps :=
    asks_all (fun step member => change_asks (simple step member)) _ o made
  have remembered : names = ParameterName.nextAll [] bases :=
    Allocator.keeps_nothing.allocate_all bases
  have taken : o.ledger.names = names := by
    rw [recalls.handed, unreserved, Query.names_fresh fresh, ← Ledger.bases_uses, uses, remembered]
    rfl
  refine ⟨?_, ?_, t.query.next_name_rederived, ?_⟩
  · have conditions := recalls.conditionNames
    rw [fresh.conditions, ← same] at conditions
    rw [conditions, ← Ledger.zip_conditions, uses, taken]
    rfl
  · have traversals := recalls.traversalNames
    rw [fresh.traversals, ← same] at traversals
    rw [traversals, ← Ledger.zip_traversals, uses, taken]
    rfl
  · intro unnumbered before base after split
    have counted : ParameterName.Counted bases [] := List.forall_mem_nil _
    have inside : before ++ base :: after ⊆ bases := split ▸ List.Subset.refl _
    have name := counted.next_all unnumbered inside
    rw [← split, ← remembered] at name
    rw [name, Option.map_some, ParameterName.render_of base (by omega)]
    simp [ParameterName.uses]

theorem simple_equalities (entries : List (String × Value)) :
    Throughout Simple (equalities entries) := by
  intro step member
  obtain ⟨e, -, rfl⟩ := List.mem_map.mp member
  exact .leaf ⟨rfl, rfl, List.forall_mem_nil _⟩ rfl

/-- Every kind of condition on one base, in groups and beside a traversal. -/
def everyKind : List Step :=
  [.filter (.column "age") (some ">") (.value (.nat 5)) .and,
    .filter (.group
      [.filterNull "n.age" .and false,
        .filterGroup [.filterIn "age" (.listed [.nat 1]) .or true] .and])
      none (.value .null) .or,
    .relateToAny ⟨["Person"], none, none⟩ "friend" "name" none .outgoing,
    .filter (.equalities ⟨[("age", .nat 1), ("name", .null)], by decide⟩) none (.value .null) .and,
    .filterBetween "age" (.nat 7) (.nat 8) .and false,
    .filter (.column "name") none (.raw "x.name") .or]

theorem every_kind_remembered :
    let t := (runAll {} everyKind {}).2
    Throughout Simple everyKind ∧ runAll {} everyKind {} = (.ok (), t) ∧
      Condition.namesOf t.query.conditions = [⟨"age", 1⟩, ⟨"age", 2⟩, ⟨"age", 3⟩, ⟨"age", 4⟩,
        ⟨"name", 2⟩, ⟨"age", 5⟩, ⟨"name", 3⟩] ∧
      t.query.traversals.map Traversal.name = [⟨"name", 1⟩] ∧
      (({} : Allocator).allocateAll ((usesAll everyKind).map Use.base))[6]?.map
        ParameterName.render = some "age_5" := by
  have simple : Throughout Simple everyKind :=
    .cons (.leaf ⟨rfl, rfl, by decide⟩ rfl) <| .cons
      (.call ⟨rfl, rfl, by decide⟩ rfl <| .cons (.leaf ⟨rfl, rfl, by decide⟩ rfl) <| .cons
        (.call ⟨rfl, rfl, by decide⟩ rfl <| .cons (.leaf ⟨rfl, rfl, by decide⟩ rfl) .nil) .nil) <|
      .cons (.leaf ⟨rfl, rfl, by decide⟩ rfl) <| .cons
        (.call ⟨rfl, rfl, by decide⟩ rfl (simple_equalities _)) <|
      .cons (.leaf ⟨rfl, rfl, by decide⟩ rfl) <| .cons (.leaf ⟨rfl, rfl, by decide⟩ rfl) .nil
  have finished : ∀ answer : Except QueryError Unit × Session,
      answer.1.toBool → answer = (.ok (), answer.2) := by
    rintro ⟨e | _, t⟩ succeeds
    · cases succeeds
    · rfl
  have ran := finished (runAll {} everyKind {}) (by decide +kernel)
  obtain ⟨conditions, traversals, -, numbered⟩ :=
    names_as_remembered (s := {}) simple ⟨rfl, rfl, rfl⟩ rfl ran
  have plain : ParameterName.Unnumbered ((usesAll everyKind).map Use.base) :=
    ParameterName.unnumbered_of_plain (by decide +kernel)
  have fifth := numbered plain ["age", "age", "age", "name", "age", "name"] "age" ["name"]
    (by decide +kernel)
  refine ⟨simple, ran, conditions.trans ?_, traversals.trans ?_, fifth.trans ?_⟩
  · decide +kernel
  · decide +kernel
  · decide +kernel

end Step
end GraphQuery
