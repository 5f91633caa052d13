import GraphQuery.Proofs.Record.Merge

/-! Sorting puts the keys of a record in ascending order, whatever order they came in, and leaves a
record alone that is in that order already. -/
namespace GraphQuery.Record

variable {α : Type}

theorem place_ascending {e : String × α} {entries : List (String × α)}
    (ascending : entries.Pairwise fun f g => f.1 ≤ g.1) :
    (place e entries).Pairwise fun f g => f.1 ≤ g.1 := by
  induction entries with
  | nil => exact List.pairwise_singleton _ e
  | cons f rest ih =>
    rw [List.pairwise_cons] at ascending
    obtain ⟨least, later⟩ := ascending
    rw [place]
    split
    · rename_i before
      rw [List.pairwise_cons]
      constructor
      · intro g member
        rcases List.mem_cons.mp ((place_perm e rest).mem_iff.mp member) with rfl | old
        · exact String.not_lt.mp (String.lt_asymm before)
        · exact least g old
      · exact ih later
    · rename_i stands
      have first : e.1 ≤ f.1 := String.not_lt.mp stands
      apply List.Pairwise.cons
      · intro g member
        rcases List.mem_cons.mp member with rfl | old
        · exact first
        · exact String.le_trans first (least g old)
      · exact List.pairwise_cons.mpr ⟨least, later⟩

theorem sort_entries_ascending (entries : List (String × α)) :
    (sortEntries entries).Pairwise fun f g => f.1 ≤ g.1 := by
  induction entries with
  | nil => exact .nil
  | cons e rest ih => exact place_ascending ih

/-- No key comes twice, so the order is strict. -/
theorem keys_sorted (r : Record α) : r.sorted.keys.Pairwise (· < ·) := by
  have ascending : r.sorted.keys.Pairwise (· ≤ ·) :=
    List.pairwise_map.mpr (sort_entries_ascending r.entries)
  apply (ascending.and r.sorted.distinct).imp
  rintro a b ⟨order, apart⟩
  apply String.not_le.mp
  intro back
  exact apart (String.le_antisymm order back)

/-- The order in which entries were put in is gone after sorting. -/
theorem sorted_of_perm {r t : Record α} (same : r.entries.Perm t.entries) :
    r.sorted = t.sorted := by
  have ascending (u : Record α) : u.sorted.entries.Pairwise fun e f => e.1 < f.1 :=
    List.pairwise_map.mp u.keys_sorted
  have shared : r.sorted.entries.Perm t.sorted.entries :=
    (sort_entries_perm r.entries).trans (same.trans (sort_entries_perm t.entries).symm)
  apply eq_of_entries
  apply List.Perm.eq_of_pairwise _ (ascending r) (ascending t) shared
  intro e f _ _ forth back
  exact absurd back (String.lt_asymm forth)

theorem place_first {e : String × α} {entries : List (String × α)}
    (least : ∀ f ∈ entries, e.1 ≤ f.1) : place e entries = e :: entries := by
  cases entries with
  | nil => rfl
  | cons f rest => exact if_neg (String.not_lt.mpr (least f List.mem_cons_self))

theorem sort_entries_of_ascending {entries : List (String × α)}
    (ascending : entries.Pairwise fun f g => f.1 ≤ g.1) : sortEntries entries = entries := by
  induction ascending with
  | nil => rfl
  | @cons e rest least _ ih =>
    have step : sortEntries (e :: rest) = place e (sortEntries rest) := rfl
    rw [step, ih, place_first least]

theorem sorted_of_ascending {r : Record α} (ascending : r.keys.Pairwise (· ≤ ·)) :
    r.sorted = r :=
  eq_of_entries (sort_entries_of_ascending (List.pairwise_map.mp ascending))

end GraphQuery.Record
