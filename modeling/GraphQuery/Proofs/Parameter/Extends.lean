import GraphQuery.Proofs.Parameter.Stored
import GraphQuery.Proofs.Script.Elementary

/-! What a change adds to a query, in the words of its ledger. Additions compose, and each kind of
change makes one. -/
namespace GraphQuery

namespace Query

/-- The texts that the next name steps past. -/
def taken (q : Query) : List String := (q.reserved ++ q.names).map ParameterName.render

/-- Nothing is written yet; names may be reserved. -/
structure Fresh (q : Query) : Prop where
  conditions : q.conditions = []
  traversals : q.traversals = []
  buckets : q.buckets = {}

theorem fresh_child (q : Query) : q.child.Fresh := ⟨rfl, rfl, rfl⟩

theorem fresh_group_child (q : Query) : q.groupChild.Fresh := ⟨rfl, rfl, rfl⟩

theorem names_fresh {q : Query} (fresh : q.Fresh) : q.names = [] := by
  simp [names, fresh.conditions, fresh.traversals, Condition.namesOf]

theorem taken_child (q : Query) : q.child.taken = q.taken := by
  rw [taken, names_fresh (fresh_child q), List.append_nil]
  rfl

theorem taken_group_child (q : Query) : q.groupChild.taken = q.taken := taken_child q

end Query

namespace Ledger

/-- The names that are taken, in the order in which it happened. -/
def names (l : Ledger) : List ParameterName := l.filterMap Entry.name?

theorem names_perm (l : Ledger) :
    (names l).Perm (l.filterMap Entry.conditionName? ++ l.filterMap Entry.traversalName?) := by
  induction l with
  | nil => exact .nil
  | cons e rest ih =>
    cases e with
    | condition name value => exact ih.cons name
    | traversal name value => exact (ih.cons name).trans List.perm_middle.symm
    | spliced query => exact ih

end Ledger

/-- What has been added from `q` to `r`: the names and values of the ledger, nothing else. -/
structure Extends (q r : Query) (l : Ledger) : Prop where
  conditionNames : Condition.namesOf r.conditions =
    Condition.namesOf q.conditions ++ l.filterMap Entry.conditionName?
  boundNames : Condition.boundNamesOf r.conditions =
    Condition.boundNamesOf q.conditions ++ (l.filterMap Entry.conditionValue?).map Prod.fst
  traversalNames : r.traversals.map Traversal.name =
    q.traversals.map Traversal.name ++ l.filterMap Entry.traversalName?
  reserved : ∃ more, r.reserved = q.reserved ++ more
  distinct : (l.names.map ParameterName.render).Nodup
  new : ∀ n ∈ l.names, n.render ∉ q.taken
  writes : ∀ e ∈ l, ∀ x, (e.write? x).isSome → x ∉ q.taken ∧ Identifier.IsSegment x
  settled : Ledger.Settled l
  filter : ∀ x, r.buckets.filter.entries.get? x =
    (Ledger.lastWrite x l.grouped).or (q.buckets.filter.entries.get? x)
  traversal : ∀ x, r.buckets.traversal.entries.get? x =
    (Ledger.lastWrite x l.traversals).or (q.buckets.traversal.entries.get? x)
  others : r.buckets =
    { q.buckets with filter := r.buckets.filter, traversal := r.buckets.traversal }
  /-- A text is spliced in together with all the values it asks for. -/
  spliced : ∀ sub ∈ l.spliced, ∀ x ∈ sub.parameters, (sub.values.get? x).isSome

namespace Extends

variable {q r t : Query} {l m : Ledger}

theorem names_perm (extended : Extends q r l) : r.names.Perm (q.names ++ l.names) := by
  unfold Query.names
  rw [extended.conditionNames, extended.traversalNames]
  have own := l.names_perm
  simp only [List.append_assoc]
  refine List.Perm.append_left _ ?_
  refine List.perm_append_comm_assoc _ _ _ |>.trans ?_
  exact List.Perm.append_left _ own.symm

theorem taken_subset (extended : Extends q r l) : q.taken ⊆ r.taken := by
  obtain ⟨more, reserved⟩ := extended.reserved
  refine List.map_subset _ ?_
  intro n hn
  rw [reserved, List.append_assoc]
  rcases List.mem_append.mp hn with h | h
  · exact List.mem_append_left _ h
  · have : n ∈ r.names := extended.names_perm.mem_iff.mpr (List.mem_append_left _ h)
    exact List.mem_append_right _ (List.mem_append_right _ this)

theorem names_taken (extended : Extends q r l) {n : ParameterName} (member : n ∈ l.names) :
    n.render ∈ r.taken := by
  refine List.mem_map_of_mem (List.mem_append_right _ ?_)
  exact extended.names_perm.mem_iff.mpr (List.mem_append_right _ member)

theorem refl (q : Query) : Extends q q [] where
  conditionNames := by simp
  boundNames := by simp
  traversalNames := by simp
  reserved := ⟨[], by simp⟩
  distinct := List.nodup_nil
  new := by simp [Ledger.names]
  writes := by simp
  settled := .nil
  filter := fun _ => rfl
  traversal := fun _ => rfl
  others := rfl
  spliced := by simp [Ledger.spliced]

theorem trans (first : Extends q r l) (second : Extends r t m) : Extends q t (l ++ m) where
  conditionNames := by
    rw [second.conditionNames, first.conditionNames, List.filterMap_append, List.append_assoc]
  boundNames := by
    rw [second.boundNames, first.boundNames, List.filterMap_append, List.map_append,
      List.append_assoc]
  traversalNames := by
    rw [second.traversalNames, first.traversalNames, List.filterMap_append, List.append_assoc]
  reserved := by
    obtain ⟨more, hr⟩ := first.reserved
    obtain ⟨further, ht⟩ := second.reserved
    exact ⟨more ++ further, by rw [ht, hr, List.append_assoc]⟩
  distinct := by
    rw [Ledger.names, List.filterMap_append, List.map_append]
    refine List.nodup_append.mpr ⟨first.distinct, second.distinct, ?_⟩
    intro x hx y hy same
    obtain ⟨n, hn, rfl⟩ := List.mem_map.mp hx
    obtain ⟨k, hk, rfl⟩ := List.mem_map.mp hy
    exact second.new k hk (same ▸ first.names_taken hn)
  new := by
    intro n hn
    rw [Ledger.names, List.filterMap_append] at hn
    rcases List.mem_append.mp hn with h | h
    · exact first.new n h
    · exact fun inside => second.new n h (first.taken_subset inside)
  writes := by
    intro e he x written
    rcases List.mem_append.mp he with h | h
    · exact first.writes e h x written
    · obtain ⟨outside, segment⟩ := second.writes e h x written
      exact ⟨fun inside => outside (first.taken_subset inside), segment⟩
  settled := by
    refine List.pairwise_append.mpr ⟨first.settled, second.settled, ?_⟩
    intro earlier he later hl name own
    have inside : name.render ∈ r.taken := first.names_taken (List.mem_filterMap.mpr ⟨_, he, own⟩)
    by_contra written
    exact (second.writes later hl _ (Option.isSome_iff_ne_none.mpr written)).1 inside
  filter := by
    intro x
    rw [second.filter, first.filter, Ledger.grouped_append, Ledger.last_write_append,
      Option.or_assoc]
  traversal := by
    intro x
    rw [second.traversal, first.traversal, Ledger.traversals_append, Ledger.last_write_append,
      Option.or_assoc]
  others := by
    rw [second.others, first.others]
  spliced := by
    intro sub hs
    rw [Ledger.spliced, List.filterMap_append] at hs
    rcases List.mem_append.mp hs with h | h
    · exact first.spliced sub h
    · exact second.spliced sub h

/-! What a fresh query has come to hold. -/

theorem get_parameters (extended : Extends q r l) (fresh : q.Fresh) (x : String) :
    r.parameters.get? x = l.lastWrite x := by
  have empty : (Record.empty : Parameters).get? x = none := rfl
  rw [Query.parameters, Buckets.get_flatten, extended.settled.last_write_split, extended.others,
    extended.filter, extended.traversal, fresh.buckets]
  simp [Slot.empty, empty]

theorem given_names (extended : Extends q r l) (fresh : q.Fresh) :
    l.given.map Prod.fst = r.boundNames := by
  have traversals : (l.filterMap Entry.traversalValue?).map Prod.fst =
      l.filterMap Entry.traversalName? := by
    rw [List.map_filterMap]
    congr 1
    funext e
    cases e <;> rfl
  rw [Query.boundNames, extended.boundNames, extended.traversalNames, fresh.conditions,
    fresh.traversals, Ledger.given, List.map_append, traversals]
  rfl

theorem given_kept (extended : Extends q r l) (fresh : q.Fresh) {n : ParameterName} {v : Value}
    (member : (n, v) ∈ l.given) : r.parameters.get? n.render = some v := by
  rw [extended.get_parameters fresh]
  rcases List.mem_append.mp member with h | h
  · obtain ⟨e, he, given⟩ := List.mem_filterMap.mp h
    cases e with
    | condition name value =>
      obtain ⟨w, rfl, same⟩ := Option.map_eq_some_iff.mp given
      cases same
      exact extended.settled.last_write he rfl (by simp [Entry.write?])
    | traversal | spliced => cases given
  · obtain ⟨e, he, given⟩ := List.mem_filterMap.mp h
    cases e with
    | traversal name value =>
      cases given
      exact extended.settled.last_write he rfl (by simp [Entry.write?])
    | condition | spliced => cases given

theorem distinct_names (extended : Extends q r l) (fresh : q.Fresh) :
    (r.names.map ParameterName.render).Nodup := by
  have same := extended.names_perm
  rw [Query.names_fresh fresh, List.nil_append] at same
  exact (same.map ParameterName.render).nodup_iff.mpr extended.distinct

end Extends
end GraphQuery
