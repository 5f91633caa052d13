import GraphQuery.Proofs.Parameter.Extends
import GraphQuery.Proofs.Script.Run

/-! Own names stay distinct and own values stay bound, whatever is written into the query later. -/
namespace GraphQuery

namespace Extends

variable {q : Query}

theorem composes : Change.Composes Extends := ⟨refl, trans⟩

theorem of_frame {f : Query → Query} (frame : Query.Frame f) (q : Query) : Extends q (f q) [] where
  conditionNames := by simp [frame.conditions]
  boundNames := by simp [frame.conditions]
  traversalNames := by simp [frame.traversals]
  reserved := ⟨[], by simp [frame.reserved]⟩
  distinct := List.nodup_nil
  new := by simp [Ledger.names]
  writes := by simp
  settled := .nil
  filter := by simp [frame.buckets, Ledger.lastWrite]
  traversal := by simp [frame.buckets, Ledger.lastWrite]
  others := by rw [frame.buckets]
  spliced := by simp [Ledger.spliced]

theorem of_nameless {c : Condition} (nameless : c.Nameless) (q : Query) :
    Extends q (q.push c) [] where
  conditionNames := by
    simp [Query.push, Condition.names_of_append, Condition.names_of_single, nameless.names]
  boundNames := by
    simp [Query.push, Condition.bound_names_of_append, Condition.bound_names_of_single,
      nameless.boundNames]
  traversalNames := by simp [Query.push]
  reserved := ⟨[], by simp [Query.push]⟩
  distinct := List.nodup_nil
  new := by simp [Ledger.names]
  writes := by simp
  settled := .nil
  filter := by simp [Query.push, Ledger.lastWrite]
  traversal := by simp [Query.push, Ledger.lastWrite]
  others := rfl
  spliced := by simp [Ledger.spliced]

theorem writes_next {column : String} {e : Entry} {value : Option Value}
    (writes : ∀ x, e.write? x = if x = (q.nextName column).render then value else none) :
    ∀ f ∈ [e], ∀ x, (f.write? x).isSome → x ∉ q.taken ∧ Identifier.IsSegment x := by
  intro f hf x written
  rw [List.mem_singleton.mp hf, writes] at written
  split at written
  · rename_i same
    rw [same]
    exact ⟨q.next_name_not_mem column, q.is_segment_next_name column⟩
  · cases written

theorem of_ask {column : String} {value : Option Value}
    {make : Option String → ParameterName → Condition}
    (takes : ∀ label name, (make label name).Takes name value.isSome) (q : Query) :
    Extends q (q.ask column value make) [.condition (q.nextName column) value] where
  conditionNames := by
    cases value <;> simp [Query.ask, Query.push, Query.bind, Condition.names_of_append,
      Condition.names_of_single, (takes _ _).names, Entry.conditionName?]
  boundNames := by
    cases value <;> simp [Query.ask, Query.push, Query.bind, Condition.bound_names_of_append,
      Condition.bound_names_of_single, (takes _ _).boundNames, Entry.conditionValue?]
  traversalNames := by
    cases value <;> simp [Query.ask, Query.push, Query.bind, Entry.traversalName?]
  reserved := ⟨[], by cases value <;> simp [Query.ask, Query.push, Query.bind]⟩
  distinct := List.nodup_singleton _
  new := by
    intro n hn
    rw [List.mem_singleton.mp hn]
    exact q.next_name_not_mem column
  writes := writes_next fun _ => rfl
  settled := List.pairwise_singleton _ _
  filter := by
    intro x
    cases value with
    | none => simp [Query.ask, Query.push, Ledger.lastWrite, Entry.write?]
    | some v =>
      have segment := q.is_segment_next_name column
      simp only [Query.ask, Query.push, Query.bind, Buckets.insert, Buckets.modify,
        Slot.insert_segment _ segment, Record.get_insert, Ledger.grouped_condition,
        Ledger.grouped_nil, Ledger.lastWrite, Entry.write?, Option.none_or]
      split <;> rfl
  traversal := by
    cases value <;> simp [Query.ask, Query.push, Query.bind, Buckets.insert, Buckets.modify,
      Ledger.lastWrite]
  others := by cases value <;> rfl
  spliced := by simp [Ledger.spliced, Entry.spliced?]

theorem of_traverse {property : String} {value : Option Value} {make : ParameterName → Traversal}
    (named : ∀ name, (make name).name = name) (q : Query) :
    Extends q (q.traverse (make (q.nextName property)) value)
      [.traversal (q.nextName property) (value.getD .null)] where
  conditionNames := by simp [Query.traverse, Query.bind, Entry.conditionName?]
  boundNames := by simp [Query.traverse, Query.bind, Entry.conditionValue?]
  traversalNames := by simp [Query.traverse, Query.bind, named, Entry.traversalName?]
  reserved := ⟨[], by simp [Query.traverse, Query.bind]⟩
  distinct := List.nodup_singleton _
  new := by
    intro n hn
    rw [List.mem_singleton.mp hn]
    exact q.next_name_not_mem property
  writes := writes_next fun _ => rfl
  settled := List.pairwise_singleton _ _
  filter := by
    simp [Query.traverse, Query.bind, Buckets.insert, Buckets.modify, Ledger.lastWrite]
  traversal := by
    intro x
    have segment := q.is_segment_next_name property
    simp only [Query.traverse, Query.bind, named, Buckets.insert, Buckets.modify,
      Slot.insert_segment _ segment, Record.get_insert, Ledger.traversals_traversal,
      Ledger.traversals_nil, Ledger.lastWrite, Entry.write?, Option.none_or]
    split <;> rfl
  others := rfl
  spliced := by simp [Ledger.spliced, Entry.spliced?]

/-- Every key that an extension wrote is stored under itself. -/
theorem segments_of_write {q r : Query} {l m : Ledger} (extended : Extends q r l)
    (sub : m.Sublist l) {values : Parameters} (held : ∀ x, values.get? x = m.lastWrite x) :
    values.Segments := by
  intro key hk
  rw [Record.mem_keys_iff, held, Ledger.last_write_is_some] at hk
  obtain ⟨e, he, written⟩ := hk
  exact (extended.writes e (sub.subset he) key written).2

/-- Of a group, the conditions come in and the traversals are dropped. -/
theorem of_group {g : Outcome} (inner : Extends q.groupChild g.query g.ledger)
    (connective : Connective) :
    Extends q (q.filterGroup g.query connective)
      (if g.query.conditions.isEmpty then [] else g.ledger.grouped) := by
  by_cases empty : g.query.conditions.isEmpty
  · simpa [Query.filterGroup, empty] using refl q
  · rw [if_neg empty, Query.filterGroup, if_neg empty]
    have sub : g.ledger.grouped.Sublist g.ledger := List.filter_sublist
    have held : ∀ x, g.query.buckets.filter.entries.get? x = g.ledger.grouped.lastWrite x := by
      intro x
      rw [inner.filter, (Query.fresh_group_child q).buckets]
      exact Option.or_none
    have segments := inner.segments_of_write sub held
    refine
      { conditionNames := ?_, boundNames := ?_, traversalNames := ?_, reserved := ⟨[], ?_⟩
        distinct := ?_, new := ?_, writes := ?_, settled := ?_, filter := ?_, traversal := ?_
        others := rfl, spliced := ?_ }
    · rw [Ledger.filter_map_grouped fun _ _ => rfl]
      have names := inner.conditionNames
      simp only [Query.push, Condition.names_of_append, Condition.names_of_single]
      rw [Condition.names, names]
      rfl
    · rw [Ledger.filter_map_grouped fun _ _ => rfl]
      have names := inner.boundNames
      simp only [Query.push, Condition.bound_names_of_append, Condition.bound_names_of_single]
      rw [Condition.boundNames, names]
      rfl
    · simp [Query.push, Ledger.traversal_names_grouped]
    · simp [Query.push]
    · exact inner.distinct.sublist ((sub.filterMap _).map _)
    · intro n hn
      rw [← Query.taken_group_child]
      exact inner.new n ((sub.filterMap _).subset hn)
    · intro e he x written
      rw [← Query.taken_group_child]
      exact inner.writes e (sub.subset he) x written
    · exact inner.settled.sublist sub
    · intro x
      simp only [Query.push, Buckets.merge, Buckets.modify, Buckets.slot,
        Slot.insert_all_segments _ segments.of_entries, Record.get_merge, held,
        Ledger.grouped_grouped]
    · simp [Query.push, Buckets.merge, Buckets.modify, Ledger.traversals_grouped,
        Ledger.lastWrite]
    · intro query hq
      rw [Ledger.spliced, Ledger.filter_map_grouped fun _ _ => rfl] at hq
      exact inner.spliced query hq

/-- Every parameter that the text of a finished query asks for is bound by then. -/
theorem parameters_bound {r : Query} {o : Outcome} (extended : Extends r o.query o.ledger)
    (fresh : r.Fresh) {x : String} (asked : x ∈ o.parameters) :
    (o.query.parameters.get? x).isSome := by
  rcases List.mem_append.mp asked with h | h
  · obtain ⟨n, hn, rfl⟩ := List.mem_map.mp h
    have bound : n ∈ o.query.boundNames := by
      rcases List.mem_append.mp hn with hc | ht
      · exact List.mem_append_left _ hc
      · exact List.mem_append_right _ (List.map_subset _ List.filter_sublist.subset ht)
    rw [← extended.given_names fresh] at bound
    obtain ⟨⟨_, v⟩, given, rfl⟩ := List.mem_map.mp bound
    simp [extended.given_kept fresh given]
  · obtain ⟨sub, hs, hx⟩ := List.mem_flatMap.mp h
    rw [extended.get_parameters fresh, Ledger.last_write_is_some]
    exact ⟨.spliced sub, Ledger.mem_spliced.mp hs,
      extended.spliced sub hs x (List.mem_append_left _ hx)⟩

/-- Of a sub-query, the text comes in with all its values, and its names are reserved. -/
theorem of_splice {sub : Outcome} (inner : Extends q.child sub.query sub.ledger) {c : Condition}
    (nameless : c.Nameless) (text : String) :
    Extends q ((q.adopt sub.query).push c)
      ((sub.ledger.spliced ++ [sub.written text]).map .spliced) := by
  have fresh := q.fresh_child
  have held := inner.get_parameters fresh
  have segments := inner.segments_of_write (List.Sublist.refl _) held
  have earlier : ∀ e ∈ sub.ledger.spliced.map Entry.spliced, e ∈ sub.ledger := by
    intro e he
    obtain ⟨query, hq, rfl⟩ := List.mem_map.mp he
    exact Ledger.mem_spliced.mp hq
  refine
    { conditionNames := ?_, boundNames := ?_, traversalNames := ?_
      reserved := ⟨sub.query.names, rfl⟩, distinct := ?_, new := ?_, writes := ?_
      settled := Ledger.settled_splices _, filter := ?_, traversal := ?_, others := rfl
      spliced := ?_ }
  · rw [Ledger.filter_map_splices fun _ => rfl]
    simp [Query.push, Query.adopt, Condition.names_of_append, Condition.names_of_single,
      nameless.names]
  · rw [Ledger.filter_map_splices fun _ => rfl]
    simp [Query.push, Query.adopt, Condition.bound_names_of_append,
      Condition.bound_names_of_single, nameless.boundNames]
  · rw [Ledger.filter_map_splices fun _ => rfl]
    simp [Query.push, Query.adopt]
  · rw [Ledger.names, Ledger.filter_map_splices fun _ => rfl]
    exact List.nodup_nil
  · rw [Ledger.names, Ledger.filter_map_splices fun _ => rfl]
    simp
  · intro e he x written
    rw [← Query.taken_child]
    rw [List.map_append] at he
    rcases List.mem_append.mp he with h | h
    · exact inner.writes e (earlier e h) x written
    · rw [List.map_singleton, List.mem_singleton] at h
      rw [h, Entry.write?, Outcome.written, held, Ledger.last_write_is_some] at written
      obtain ⟨f, hf, written⟩ := written
      exact inner.writes f hf x written
  · intro x
    -- The sub-query's own values are the last to be written, and hold those of its sub-queries.
    have covered : Ledger.lastWrite x (sub.ledger.spliced.map .spliced) = none ∨
        (sub.query.parameters.get? x).isSome := by
      by_cases written : (Ledger.lastWrite x (sub.ledger.spliced.map .spliced)).isSome
      · obtain ⟨e, he, some⟩ := Ledger.last_write_is_some.mp written
        rw [held]
        exact .inr (Ledger.last_write_is_some.mpr ⟨e, earlier e he, some⟩)
      · exact .inl (Option.not_isSome_iff_eq_none.mp written)
    rw [Ledger.grouped_splices, List.map_append, Ledger.last_write_append]
    simp only [Query.push, Query.adopt, Buckets.merge, Buckets.modify,
      Slot.insert_all_segments _ segments.of_entries, Record.get_merge, List.map_singleton,
      Ledger.lastWrite, Entry.write?, Option.none_or, Outcome.written]
    rcases covered with none | bound
    · rw [none, Option.or_none]
    · rw [Option.or_of_isSome bound, Option.or_of_isSome bound, Option.or_of_isSome bound]
  · simp [Query.push, Query.adopt, Buckets.merge, Buckets.modify, Ledger.traversals_splices,
      Ledger.lastWrite]
  · intro query hq x asked
    rw [Ledger.spliced_splices] at hq
    rcases List.mem_append.mp hq with h | h
    · exact inner.spliced query h x asked
    · rw [List.mem_singleton.mp h] at asked ⊢
      exact inner.parameters_bound fresh asked

end Extends

namespace Change

variable {d : Dialect}

/-- Each kind of change extends its query, provided that its callbacks do. -/
theorem Elementary.extends {change : Change}
    (elementary : Elementary d (fun body => (Step.changeAll d body).Adds Extends)
      (fun body => (Step.changeAll d body).Adds Extends) change) : change.Adds Extends := by
  intro q o made
  cases elementary with
  | settled frame =>
    cases made
    exact .of_frame frame q
  | traversed make named constrained =>
    cases made
    exact .of_traverse named q
  | asking asking =>
    cases asking with
    | refused e => cases made
    | nameless nameless =>
      cases made
      exact .of_nameless nameless q
    | asked make asks takes =>
      cases made
      rw [asks]
      exact .of_ask takes q
    | grouped inside =>
      obtain ⟨g, hg, rfl⟩ := group_ok made
      exact .of_group (inside _ g hg) _
    | spliced make inside nameless =>
      obtain ⟨sub, t, hs, -, rfl⟩ := splice_ok made
      exact .of_splice (inside _ sub hs) (nameless _) _

end Change

namespace Step

variable {d : Dialect}

/-- Every building step extends its query; the induction is on the depth of its callbacks. -/
theorem change_extends {step : Step} (building : step.Everywhere fun s => s.builds) :
    (step.change d).Adds Extends := by
  induction building with
  | intro here _ ih =>
    refine (Change.elementary_of_builds here ?_ ?_).extends
    · exact fun body member => Extends.composes.all (ih body (group_called member))
    · exact fun body member => Extends.composes.all (ih body (sub_query_called member))

theorem change_each_extends {steps : List Step} (building : Building steps) (q : Query) :
    Extends q (changeEach d steps q).query (ledger d steps q) :=
  Extends.composes.each (fun step member => change_extends (building step member)) q

/-- However a script of conditions and traversals goes on, no two of its own names are written
alike, and what was given to be bound under a name is bound under it. -/
theorem own_values_kept {steps : List Step} (building : Building steps) {s : Session}
    (fresh : s.query.Fresh) :
    let q := (runEach d steps s).query
    let given := (ledger d steps s.query).given
    (q.names.map ParameterName.render).Nodup ∧ given.map Prod.fst = q.boundNames ∧
      ∀ n v, (n, v) ∈ given → q.parameters.get? n.render = some v := by
  have extended := change_each_extends (d := d) building s.query
  rw [run_each_query building]
  exact ⟨extended.distinct_names fresh, extended.given_names fresh,
    fun _ _ member => extended.given_kept fresh member⟩

/-- One base under several spellings, in a group, a sub-query and a traversal. -/
def reuse : List Step :=
  [.filter (.column "age") (some ">") (.value (.nat 5)) .and,
    .filterGroup
      [.filter (.column "x.age_2") (some "=") (.value (.nat 1)) .and,
        .filterIn "id"
          (.query [.target "Post", .filter (.column "age") none (.value (.nat 3)) .and])
          .and false] .or,
    .relateToAny ⟨["Person"], none, none⟩ "friend" "age" none .outgoing,
    .filterBetween "age" (.nat 7) (.nat 8) .and false]

theorem reuse_values_kept :
    let q := (runEach {} reuse {}).query
    Building reuse ∧ (q.names.map ParameterName.render).Nodup ∧
      (ledger {} reuse {}).given.map Prod.fst =
        [⟨"age", 1⟩, ⟨"age_2", 1⟩, ⟨"age", 4⟩, ⟨"age", 3⟩] ∧
      q.parameters.get? (ParameterName.render ⟨"age_2", 1⟩) = some (.nat 1) ∧
      q.parameters.get? (ParameterName.render ⟨"age", 3⟩) = some .null ∧
      q.parameters.get? (ParameterName.render ⟨"age", 4⟩) = some (.array [.nat 7, .nat 8]) := by
  have building : Building reuse :=
    .cons (.leaf rfl rfl) <| .cons
      (.call rfl rfl <| .cons (.leaf rfl rfl) <| .cons
        (.call rfl rfl <| .cons (.leaf rfl rfl) <| .cons (.leaf rfl rfl) .nil) .nil) <|
      .cons (.leaf rfl rfl) <| .cons (.leaf rfl rfl) .nil
  obtain ⟨distinct, -, kept⟩ := own_values_kept (d := {}) building (s := {}) ⟨rfl, rfl, rfl⟩
  exact ⟨building, distinct, by decide +kernel, kept _ _ (by decide +kernel),
    kept _ _ (by decide +kernel), kept _ _ (by decide +kernel)⟩

end Step
end GraphQuery
