import GraphQuery.Proofs.Parameter.Fresh
import GraphQuery.Proofs.Record.Merge
import GraphQuery.Query
import Mathlib.Data.List.TakeWhile

/-! Names are stored as they are rendered, and what the joined buckets hold. -/
namespace GraphQuery

namespace Identifier

/-- A text without a point is stored under itself. -/
def IsSegment (s : String) : Prop := '.' ∉ s.toList

instance (s : String) : Decidable (IsSegment s) := inferInstanceAs (Decidable ('.' ∉ s.toList))

theorem last_segment_eq {s : String} (segment : IsSegment s) : lastSegment s = s := by
  have : lastSegmentChars s.toList = s.toList := by
    unfold lastSegmentChars
    rw [List.takeWhile_eq_self_iff.mpr, List.reverse_reverse]
    intro c hc
    have : c ≠ '.' := fun h => segment (h ▸ List.mem_reverse.mp hc)
    simpa using this
  rw [lastSegment, this, String.ofList_toList]

theorem is_segment_last (s : String) : IsSegment (lastSegment s) := by
  intro h
  simp only [lastSegment, lastSegmentChars, String.toList_ofList, List.mem_reverse] at h
  simpa using List.mem_takeWhile_imp h

theorem IsSegment.append {s t : String} (hs : IsSegment s) (ht : IsSegment t) :
    IsSegment (s ++ t) := by
  intro h
  rw [String.toList_append] at h
  rcases List.mem_append.mp h with h | h
  · exact hs h
  · exact ht h

theorem is_segment_repr (n : Nat) : IsSegment n.repr := by
  intro h
  rw [Nat.toList_repr] at h
  have := Nat.isDigit_of_mem_toDigits (by decide) (by decide) h
  exact absurd this (by decide)

end Identifier

theorem ParameterName.is_segment_render {n : ParameterName} (base : Identifier.IsSegment n.base) :
    Identifier.IsSegment n.render := by
  unfold ParameterName.render
  split
  · exact (base.append (by decide)).append (Identifier.is_segment_repr _)
  · exact base

/-- The names that a query hands out are stored as they are rendered. -/
theorem Query.is_segment_next_name (q : Query) (column : String) :
    Identifier.IsSegment (q.nextName column).render := by
  apply ParameterName.is_segment_render
  rw [Query.nextName, ParameterName.base_next]
  exact Identifier.is_segment_last _

/-- The next name is neither reserved nor the query's own. -/
theorem Query.next_name_not_mem (q : Query) (column : String) :
    (q.nextName column).render ∉ (q.reserved ++ q.names).map ParameterName.render :=
  ParameterName.next_not_mem _ _

namespace Slot

theorem insert_segment (s : Slot) {key : String} (segment : Identifier.IsSegment key)
    (value : Value) : s.insert key value = { s with entries := s.entries.insert key value } := by
  rw [insert, Identifier.last_segment_eq segment]

theorem insert_all_segments (s : Slot) {entries : List (String × Value)}
    (segments : ∀ e ∈ entries, Identifier.IsSegment e.1) :
    s.insertAll entries = { s with entries := s.entries.insertAll entries } := by
  induction entries generalizing s with
  | nil => rfl
  | cons e rest ih =>
    have head := insert_segment s (segments e List.mem_cons_self) e.2
    have tail := ih (s.insert e.1 e.2) fun f hf => segments f (List.mem_cons_of_mem _ hf)
    rw [insertAll, List.foldl_cons, ← insertAll, tail, head]
    rfl

end Slot

/-- Every key of the record is stored under itself. -/
def Record.Segments {α : Type} (r : Record α) : Prop :=
  ∀ key ∈ r.keys, Identifier.IsSegment key

theorem Record.Segments.of_entries {α : Type} {r : Record α} (segments : r.Segments) :
    ∀ e ∈ r.entries, Identifier.IsSegment e.1 :=
  fun _ he => segments _ (List.mem_map_of_mem he)

namespace Buckets

theorem insert_segment (bs : Buckets) {key : String} (segment : Identifier.IsSegment key)
    (value : Value) (b : Bucket) :
    bs.insert key value b =
      bs.modify (fun slot => { slot with entries := slot.entries.insert key value }) b := by
  have stored : (fun slot : Slot => slot.insert key value) =
      fun slot => { slot with entries := slot.entries.insert key value } :=
    funext fun slot => slot.insert_segment segment value
  rw [insert, stored]

/-- The last bucket that holds a key gives its value. -/
theorem get_flatten (bs : Buckets) (key : String) :
    bs.flatten.get? key =
      (bs.having.entries.get? key).or ((bs.order.entries.get? key).or
        ((bs.join.entries.get? key).or ((bs.traversal.entries.get? key).or
          ((bs.filter.entries.get? key).or (bs.projection.entries.get? key))))) := by
  have empty : (Record.empty : Parameters).get? key = none := rfl
  simp only [flatten, Bucket.all, List.foldl_cons, List.foldl_nil, Record.get_merge, slot, empty,
    Option.or_none]

end Buckets
end GraphQuery
