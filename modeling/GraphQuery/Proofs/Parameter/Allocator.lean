import GraphQuery.Proofs.Parameter.Fresh
import GraphQuery.Record

/-! An allocator remembers what it has handed out. Going on with it and making a new one from the
names there are come to the same. -/
namespace GraphQuery

/-- The texts that are taken, and how often each base has been used. -/
structure Allocator where
  taken : List String := []
  counts : Record Nat := .empty

namespace Allocator

def count (a : Allocator) (base : String) : Nat := (a.counts.get? base).getD 0

def reserve (a : Allocator) (name : ParameterName) : Allocator :=
  ⟨name.render :: a.taken, a.counts.insert name.base (a.count name.base + 1)⟩

/-- Counts the use, and takes the first form from there on that is free. -/
def allocate (a : Allocator) (base : String) : ParameterName × Allocator :=
  let name := ParameterName.freeFrom a.taken base a.taken.length (a.count base + 1)
  (name, ⟨name.render :: a.taken, a.counts.insert base (a.count base + 1)⟩)

def allocateAll (a : Allocator) : List String → List ParameterName
  | [] => []
  | base :: rest => (a.allocate base).1 :: (a.allocate base).2.allocateAll rest

def ofNames (names : List ParameterName) : Allocator := names.foldl reserve {}

/-- What is kept is what those names give, in whatever order. -/
structure Keeps (a : Allocator) (used : List ParameterName) : Prop where
  taken : a.taken.Perm (used.map ParameterName.render)
  counted : ∀ base, a.count base = ParameterName.uses used base

variable {a : Allocator} {used : List ParameterName}

theorem keeps_nothing : Keeps {} [] := ⟨.nil, fun _ => rfl⟩

theorem Keeps.reserve (keeps : a.Keeps used) (name : ParameterName) :
    (a.reserve name).Keeps (name :: used) := by
  constructor
  · exact keeps.taken.cons name.render
  · intro base
    have old := keeps.counted base
    by_cases same : name.base = base
    · subst same
      simp [Allocator.reserve, count, Record.get_insert, ParameterName.uses] at old ⊢
      exact old
    · have other : base ≠ name.base := Ne.symm same
      simp [Allocator.reserve, count, Record.get_insert, ParameterName.uses, same, other] at old ⊢
      exact old

theorem Keeps.perm (keeps : a.Keeps used) {other : List ParameterName} (same : used.Perm other) :
    a.Keeps other := by
  constructor
  · exact keeps.taken.trans (same.map ParameterName.render)
  · intro base
    rw [keeps.counted, ParameterName.uses, ParameterName.uses, same.countP_eq]

theorem Keeps.reserve_all (keeps : a.Keeps used) (names : List ParameterName) :
    (names.foldl Allocator.reserve a).Keeps (names ++ used) := by
  induction names generalizing a used with
  | nil => exact keeps
  | cons name rest ih => exact (ih (keeps.reserve name)).perm List.perm_middle

theorem keeps_of_names (names : List ParameterName) : (ofNames names).Keeps names := by
  have all := keeps_nothing.reserve_all names
  rwa [List.append_nil] at all

/-- What is handed out is the next name after those that were. -/
theorem Keeps.allocate (keeps : a.Keeps used) (base : String) :
    (a.allocate base).1 = ParameterName.next used base ∧
      (a.allocate base).2.Keeps (ParameterName.next used base :: used) := by
  have same : (a.allocate base).1 = ParameterName.next used base := by
    have length : a.taken.length = used.length := by simpa using keeps.taken.length_eq
    have free := ParameterName.free_from_congr (fun x => keeps.taken.mem_iff (a := x)) base
    simp only [Allocator.allocate, ParameterName.next, length, keeps.counted, free]
  have named : (a.allocate base).1.base = base := by rw [same, ParameterName.base_next]
  have reserved : (a.allocate base).2 = a.reserve (a.allocate base).1 := by
    rw [Allocator.reserve, named]
    rfl
  exact ⟨same, reserved ▸ same ▸ keeps.reserve _⟩

theorem Keeps.allocate_all (keeps : a.Keeps used) (bases : List String) :
    a.allocateAll bases = ParameterName.nextAll used bases := by
  induction bases generalizing a used with
  | nil => rfl
  | cons base rest ih =>
    obtain ⟨same, after⟩ := keeps.allocate base
    rw [allocateAll, ParameterName.nextAll, same, ih after]

end Allocator
end GraphQuery
