import GraphQuery.Parameter.Name
import Mathlib.Data.List.Dedup
import Mathlib.Data.List.Perm.Subperm

/-! The next name of a base is new, and does not depend on the order of the names before it. -/
namespace GraphQuery.ParameterName

theorem repr_injective {i j : Nat} (same : i.repr = j.repr) : i = j := by
  have digits : Nat.toDigits 10 i = Nat.toDigits 10 j := by
    simpa only [Nat.toList_repr] using congrArg String.toList same
  simpa using congrArg (fun ds => Nat.ofDigitChars 10 ds 0) digits

theorem render_of (base : String) {o : Nat} (positive : 1 ≤ o) :
    (of base o).render = if o = 1 then base else base ++ "_" ++ o.repr := by
  rcases Nat.lt_or_eq_of_le positive with h | h
  · have : max o 1 = o := Nat.max_eq_left positive
    simp [render, of, this, h, Nat.ne_of_gt h]
  · simp [render, of, ← h]

/-- A numbered form of a base is longer than the base. -/
theorem numbered_ne (base : String) (o : Nat) : base ++ "_" ++ o.repr ≠ base := by
  intro same
  have := congrArg String.length same
  simp only [String.length_append, show "_".length = 1 from rfl] at this
  omega

theorem render_injective (base : String) {i j : Nat} (hi : 1 ≤ i) (hj : 1 ≤ j)
    (same : (of base i).render = (of base j).render) : i = j := by
  rw [render_of base hi, render_of base hj] at same
  split at same <;> split at same
  · omega
  · exact absurd same.symm (numbered_ne base j)
  · exact absurd same (numbered_ne base i)
  · exact repr_injective (String.append_right_inj (base ++ "_") |>.mp same)

theorem base_free_from (taken : List String) (base : String) (fuel o : Nat) :
    (freeFrom taken base fuel o).base = base := by
  induction fuel generalizing o with
  | zero => rfl
  | succ fuel ih =>
    rw [freeFrom]
    split
    · exact ih (o + 1)
    · rfl

theorem base_next (used : List ParameterName) (base : String) : (next used base).base = base :=
  base_free_from _ base _ _

/-- Where the name given in the end is taken, so is every one probed before it. -/
theorem probed_taken {taken : List String} {base : String} {fuel o : Nat}
    (h : (freeFrom taken base fuel o).render ∈ taken) (i : Nat) (within : i ≤ fuel) :
    (of base (o + i)).render ∈ taken := by
  induction fuel generalizing o i with
  | zero =>
    cases Nat.le_zero.mp within
    exact h
  | succ fuel ih =>
    rw [freeFrom] at h
    split at h
    · rename_i head
      cases i with
      | zero => exact head
      | succ i =>
        have := ih h i (Nat.le_of_succ_le_succ within)
        rwa [Nat.add_right_comm] at this
    · rename_i head
      exact absurd h head

/-- Forms that follow each other are distinct, so no more of them are taken than there are texts. -/
theorem run_le_taken {taken : List String} {base : String} {o n : Nat} (positive : 1 ≤ o)
    (run : ∀ i < n, (of base (o + i)).render ∈ taken) : n ≤ taken.dedup.length := by
  let probes := (List.range n).map fun i => (of base (o + i)).render
  have distinct : probes.Nodup := by
    refine List.Nodup.map ?_ List.nodup_range
    intro i j same
    have := render_injective base (by omega) (by omega) same
    omega
  have inside : probes ⊆ taken.dedup := by
    intro x hx
    obtain ⟨i, hi, rfl⟩ := List.mem_map.mp hx
    exact List.mem_dedup.mpr (run i (List.mem_range.mp hi))
  have count : probes.length ≤ taken.dedup.length := (distinct.subperm inside).length_le
  rwa [List.length_map, List.length_range] at count

/-- As many probes as there are taken names find one that is free. -/
theorem free_from_not_mem (taken : List String) (base : String) {o : Nat} (positive : 1 ≤ o) :
    (freeFrom taken base taken.length o).render ∉ taken := by
  intro h
  have probed : taken.length + 1 ≤ taken.dedup.length := by
    apply run_le_taken positive
    exact fun i hi => probed_taken h i (Nat.le_of_lt_succ hi)
  have texts : taken.dedup.length ≤ taken.length := (List.dedup_sublist taken).length_le
  omega

theorem next_not_mem (used : List ParameterName) (base : String) :
    (next used base).render ∉ used.map render := by
  have := free_from_not_mem (used.map render) base (o := uses used base + 1) (by omega)
  rwa [List.length_map] at this

theorem free_from_congr {taken other : List String} (same : ∀ x, x ∈ taken ↔ x ∈ other)
    (base : String) (fuel o : Nat) : freeFrom taken base fuel o = freeFrom other base fuel o := by
  induction fuel generalizing o with
  | zero => rfl
  | succ fuel ih => simp only [freeFrom, same, ih]

theorem next_perm {used other : List ParameterName} (same : used.Perm other) (base : String) :
    next used base = next other base := by
  unfold next uses
  rw [same.length_eq, same.countP_eq, free_from_congr fun x => (same.map render).mem_iff]

/-! Several names in turn. -/

theorem bases_next_all (used : List ParameterName) (bases : List String) :
    (nextAll used bases).map ParameterName.base = bases := by
  induction bases generalizing used with
  | nil => rfl
  | cons b rest ih => rw [nextAll, List.map_cons, base_next, ih]

theorem next_all_perm {used other : List ParameterName} (same : used.Perm other)
    (bases : List String) : nextAll used bases = nextAll other bases := by
  induction bases generalizing used other with
  | nil => rfl
  | cons b rest ih => rw [nextAll, nextAll, next_perm same b, ih (same.cons _)]

/-- What comes later steps past what came before. -/
theorem next_all_append (used : List ParameterName) (bases more : List String) :
    nextAll used (bases ++ more) =
      nextAll used bases ++ nextAll (used ++ nextAll used bases) more := by
  induction bases generalizing used with
  | nil => rw [nextAll, List.append_nil, List.nil_append, List.nil_append]
  | cons b rest ih =>
    have moved : (used ++ nextAll used (b :: rest)).Perm
        (next used b :: used ++ nextAll (next used b :: used) rest) := List.perm_middle
    rw [next_all_perm moved, List.cons_append, nextAll, nextAll, ih]
    rfl

theorem next_all_new (used : List ParameterName) (bases : List String) :
    ∀ n ∈ nextAll used bases, n.render ∉ used.map render := by
  induction bases generalizing used with
  | nil => exact List.forall_mem_nil _
  | cons b rest ih =>
    intro n member
    rcases List.mem_cons.mp member with rfl | later
    · exact next_not_mem used b
    · have outside := ih (next used b :: used) n later
      exact fun inside => outside (List.mem_cons_of_mem _ inside)

theorem next_all_distinct (used : List ParameterName) (bases : List String) :
    ((nextAll used bases).map render).Nodup := by
  induction bases generalizing used with
  | nil => exact List.nodup_nil
  | cons b rest ih =>
    rw [nextAll, List.map_cons, List.nodup_cons]
    constructor
    · intro inside
      obtain ⟨n, member, same⟩ := List.mem_map.mp inside
      have outside := next_all_new (next used b :: used) rest n member
      exact outside (same ▸ List.mem_cons_self)
    · exact ih _

end GraphQuery.ParameterName
