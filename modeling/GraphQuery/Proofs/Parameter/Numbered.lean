import GraphQuery.Proofs.Parameter.Fresh

/-! Where no base looks like a numbered form of another one, nothing is ever stepped past: the
number of a name is the number of its use. -/
namespace GraphQuery.ParameterName

/-- No base is another one with a number after it. -/
def Unnumbered (bases : List String) : Prop :=
  ∀ base ∈ bases, ∀ other ∈ bases, ∀ o, 2 ≤ o → other ≠ base ++ "_" ++ o.repr

theorem underscore_not_mem_repr (o : Nat) : '_' ∉ o.repr.toList.reverse := by
  intro member
  rw [List.mem_reverse, Nat.toList_repr] at member
  have digit := Nat.isDigit_of_mem_toDigits (by decide) (by decide) member
  exact absurd digit (by decide)

/-- The number is what follows the last underscore. -/
theorem numbered_injective {base other : String} {i j : Nat}
    (same : base ++ "_" ++ i.repr = other ++ "_" ++ j.repr) : base = other ∧ i = j := by
  have reversed := congrArg (fun s => s.toList.reverse) same
  simp only [String.toList_append, List.reverse_append, show "_".toList = ['_'] from rfl,
    List.reverse_singleton, List.singleton_append] at reversed
  have places := congrArg (List.idxOf '_') reversed
  rw [List.idxOf_append_of_notMem (underscore_not_mem_repr i),
    List.idxOf_append_of_notMem (underscore_not_mem_repr j), List.idxOf_cons_self,
    List.idxOf_cons_self] at places
  obtain ⟨digits, letters⟩ := List.append_inj reversed (by omega)
  have bases : base = other :=
    String.toList_inj.mp (List.reverse_inj.mp (List.cons.inj letters).2)
  have numbers : i.repr = j.repr := String.toList_inj.mp (List.reverse_inj.mp digits)
  exact ⟨bases, repr_injective numbers⟩

variable {bases : List String} {used : List ParameterName} {base : String}

theorem unnumbered_of_plain (plain : ∀ base ∈ bases, '_' ∉ base.toList) : Unnumbered bases := by
  intro base _ other member o _ same
  apply plain other member
  rw [same, String.toList_append, String.toList_append]
  exact List.mem_append_left _ (List.mem_append_right _ (List.mem_singleton.mpr rfl))

theorem render_unnumbered (unnumbered : Unnumbered bases) {other : String} (hb : base ∈ bases)
    (ho : other ∈ bases) {i j : Nat} (hi : 1 ≤ i) (hj : 1 ≤ j)
    (same : (of base i).render = (of other j).render) : base = other ∧ i = j := by
  rw [render_of base hi, render_of other hj] at same
  split at same <;> split at same
  · exact ⟨same, by omega⟩
  · exact absurd same (unnumbered other ho base hb j (by omega))
  · exact absurd same.symm (unnumbered base hb other ho i (by omega))
  · exact numbered_injective same

/-- Every name is of one of the bases, and its number is at most the number of uses. -/
def Counted (bases : List String) (used : List ParameterName) : Prop :=
  ∀ n ∈ used, n.base ∈ bases ∧ ∃ o, 1 ≤ o ∧ o ≤ uses used n.base ∧ n = of n.base o

theorem uses_cons (name : ParameterName) (used : List ParameterName) (base : String) :
    uses (name :: used) base = uses used base + if name.base = base then 1 else 0 := by
  simp [uses, List.countP_cons]

theorem Counted.next (counted : Counted bases used) (unnumbered : Unnumbered bases)
    (member : base ∈ bases) : next used base = of base (uses used base + 1) := by
  have free : (of base (uses used base + 1)).render ∉ used.map render := by
    intro taken
    obtain ⟨n, hn, same⟩ := List.mem_map.mp taken
    obtain ⟨inside, o, positive, within, shape⟩ := counted n hn
    rw [shape] at same
    have parts := render_unnumbered unnumbered inside member positive (by omega) same
    rw [parts.1] at within
    omega
  rw [ParameterName.next]
  cases used.length with
  | zero => rfl
  | succ fuel => rw [freeFrom, if_neg free]

theorem Counted.cons (counted : Counted bases used) (unnumbered : Unnumbered bases)
    (member : base ∈ bases) : Counted bases (ParameterName.next used base :: used) := by
  have name := counted.next unnumbered member
  intro n hn
  rcases List.mem_cons.mp hn with rfl | earlier
  · rw [base_next, uses_cons, base_next, if_pos rfl]
    exact ⟨member, uses used base + 1, by omega, by omega, name⟩
  · obtain ⟨known, o, positive, within, shape⟩ := counted n earlier
    rw [uses_cons]
    exact ⟨known, o, positive, by omega, shape⟩

/-- The name of a use after some other uses. -/
theorem Counted.next_all (counted : Counted bases used) (unnumbered : Unnumbered bases)
    {before after : List String} (inside : before ++ base :: after ⊆ bases) :
    (nextAll used (before ++ base :: after))[before.length]? =
      some (of base (uses used base + before.count base + 1)) := by
  induction before generalizing used with
  | nil =>
    have name := counted.next unnumbered (inside List.mem_cons_self)
    simp [nextAll, name]
  | cons b rest ih =>
    have head : b ∈ bases := inside List.mem_cons_self
    have tail := ih (counted.cons unnumbered head) fun x hx => inside (List.mem_cons_of_mem _ hx)
    rw [List.cons_append, nextAll, List.length_cons, List.getElem?_cons_succ, tail, uses_cons,
      base_next, List.count_cons]
    simp only [beq_iff_eq]
    congr 2
    omega

end GraphQuery.ParameterName
