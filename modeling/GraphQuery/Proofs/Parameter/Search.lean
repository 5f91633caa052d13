import GraphQuery.Proofs.Parameter.Allocator
import Mathlib.Order.Bounds.Defs

/-! The search for a free form ends, and finds the first one there is.

Which form that is depends on the names that are taken by then and on how often the base was used,
but not on the order in which that came about. The order of reserving shows only through the names
that are given in between. -/
namespace GraphQuery

namespace ParameterName

/-- Numbers are probed one after the other, from the first one on, until a form is free: with so
many probes, this number is found. -/
inductive Search (taken : List String) (base : String) : (first probes found : Nat) → Prop where
  | free {o : Nat} : (of base o).render ∉ taken → Search taken base o 1 o
  | next {o probes found : Nat} : (of base o).render ∈ taken →
      Search taken base (o + 1) probes found → Search taken base o (probes + 1) found

variable {taken : List String} {base : String}

theorem search_free_from {fuel o : Nat} (free : (freeFrom taken base fuel o).render ∉ taken) :
    ∃ probes found, Search taken base o probes found ∧
      freeFrom taken base fuel o = of base found := by
  induction fuel generalizing o with
  | zero => exact ⟨1, o, .free free, rfl⟩
  | succ fuel ih =>
    rw [freeFrom] at free ⊢
    split
    · rename_i here
      rw [if_pos here] at free
      obtain ⟨probes, found, search, same⟩ := ih free
      exact ⟨probes + 1, found, .next here search, same⟩
    · rename_i here
      exact ⟨1, o, .free here, rfl⟩

namespace Search

variable {first probes found : Nat}

theorem probes_eq (search : Search taken base first probes found) :
    found + 1 = first + probes := by
  induction search with
  | free _ => rfl
  | next _ _ ih => omega

theorem passed (search : Search taken base first probes found) (o : Nat) (later : first ≤ o)
    (before : o < found) : (of base o).render ∈ taken := by
  induction search with
  | free _ => omega
  | @next head _ _ here _ ih =>
    rcases Nat.lt_or_eq_of_le later with above | same
    · exact ih above before
    · exact same ▸ here

theorem least (search : Search taken base first probes found) :
    IsLeast {o | first ≤ o ∧ (of base o).render ∉ taken} found := by
  constructor
  · constructor
    · induction search with
      | free _ => exact Nat.le_refl _
      | next _ _ ih => omega
    · induction search with
      | free free => exact free
      | next _ _ ih => exact ih
  · rintro o ⟨later, free⟩
    by_contra before
    exact free (search.passed o later (by omega))

/-- Every probe but the last one hits another text. -/
theorem probes_le (search : Search taken base first probes found) (positive : 1 ≤ first) :
    probes ≤ taken.dedup.length + 1 := by
  have total := search.probes_eq
  have run : found - first ≤ taken.dedup.length := by
    apply run_le_taken positive
    intro i within
    exact search.passed (first + i) (by omega) (by omega)
  omega

end Search
end ParameterName

namespace Allocator

/-- A name that is marked as taken, or a base that a name is wanted for. -/
inductive Request where
  | reserve (name : ParameterName)
  | allocate (base : String)
deriving DecidableEq

namespace Request

/-- The base that it is a use of. -/
def base : Request → String
  | reserve name => name.base
  | allocate base => base

def reserved? : Request → Option ParameterName
  | reserve name => some name
  | allocate _ => none

def wanted? : Request → Option String
  | reserve _ => none
  | allocate base => some base

end Request

/-- The name that a request takes. -/
def serve (a : Allocator) : Request → ParameterName × Allocator
  | .reserve name => (name, a.reserve name)
  | .allocate base => a.allocate base

def after (a : Allocator) (requests : List Request) : Allocator :=
  requests.foldl (fun b request => (b.serve request).2) a

/-- The names that requests take in turn. -/
def names (a : Allocator) : List Request → List ParameterName
  | [] => []
  | request :: rest => (a.serve request).1 :: (a.serve request).2.names rest

/-- The names that are given for the wanted bases in turn. -/
def given (a : Allocator) : List Request → List ParameterName
  | [] => []
  | .reserve name :: rest => (a.reserve name).given rest
  | .allocate base :: rest => (a.allocate base).1 :: (a.allocate base).2.given rest

/-- The reserved names have changed places with each other, and nothing else is different. -/
def Rearranged (requests other : List Request) : Prop :=
  requests.map Request.wanted? = other.map Request.wanted? ∧
    (requests.filterMap Request.reserved?).Perm (other.filterMap Request.reserved?)

instance (requests other : List Request) : Decidable (Rearranged requests other) :=
  inferInstanceAs (Decidable (_ ∧ _))

variable {a b : Allocator} {used : List ParameterName}

theorem allocate_new (a : Allocator) (base : String) : (a.allocate base).1.render ∉ a.taken :=
  ParameterName.free_from_not_mem a.taken base (Nat.succ_pos _)

theorem base_serve (a : Allocator) (request : Request) :
    (a.serve request).1.base = request.base := by
  cases request with
  | reserve name => rfl
  | allocate base => exact ParameterName.base_free_from a.taken base _ _

theorem taken_serve (a : Allocator) (request : Request) :
    (a.serve request).2.taken = (a.serve request).1.render :: a.taken := by
  cases request <;> rfl

theorem Keeps.serve (keeps : a.Keeps used) (request : Request) :
    (a.serve request).2.Keeps ((a.serve request).1 :: used) := by
  cases request with
  | reserve name => exact keeps.reserve name
  | allocate base =>
    obtain ⟨same, after⟩ := keeps.allocate base
    rw [Allocator.serve, same]
    exact after

theorem Keeps.after (keeps : a.Keeps used) (requests : List Request) :
    (a.after requests).Keeps (a.names requests ++ used) := by
  induction requests generalizing a used with
  | nil => exact keeps
  | cons request rest ih => exact (ih (keeps.serve request)).perm List.perm_middle

theorem keeps_requests (requests : List Request) :
    (({} : Allocator).after requests).Keeps (({} : Allocator).names requests) := by
  have all := keeps_nothing.after requests
  rwa [List.append_nil] at all

theorem bases_names (a : Allocator) (requests : List Request) :
    (a.names requests).map ParameterName.base = requests.map Request.base := by
  induction requests generalizing a with
  | nil => rfl
  | cons request rest ih => rw [names, List.map_cons, base_serve, ih, List.map_cons]

/-- Every request is a use of its base. -/
theorem uses_names (a : Allocator) (requests : List Request) (base : String) :
    ParameterName.uses (a.names requests) base = requests.countP (·.base = base) := by
  have counted := congrArg (List.countP fun other => other = base) (bases_names a requests)
  rw [List.countP_map, List.countP_map] at counted
  exact counted

theorem names_perm (a : Allocator) (requests : List Request) :
    (a.names requests).Perm (requests.filterMap Request.reserved? ++ a.given requests) := by
  induction requests generalizing a with
  | nil => exact .nil
  | cons request rest ih =>
    cases request with
    | reserve name => exact (ih _).cons name
    | allocate base => exact ((ih _).cons _).trans List.perm_middle.symm

theorem given_new (a : Allocator) (requests : List Request) :
    ∀ name ∈ a.given requests, name.render ∉ a.taken := by
  induction requests generalizing a with
  | nil => exact List.forall_mem_nil _
  | cons request rest ih =>
    have later (name : ParameterName) (member : name ∈ (a.serve request).2.given rest) :
        name.render ∉ a.taken := by
      have outside := ih (a.serve request).2 name member
      rw [taken_serve] at outside
      exact fun inside => outside (List.mem_cons_of_mem _ inside)
    cases request with
    | reserve name => exact later
    | allocate base => exact List.forall_mem_cons.mpr ⟨allocate_new a base, later⟩

theorem given_distinct (a : Allocator) (requests : List Request) :
    ((a.given requests).map ParameterName.render).Nodup := by
  induction requests generalizing a with
  | nil => exact List.nodup_nil
  | cons request rest ih =>
    cases request with
    | reserve name => exact ih _
    | allocate base =>
      rw [given, List.map_cons, List.nodup_cons]
      constructor
      · intro inside
        obtain ⟨name, member, same⟩ := List.mem_map.mp inside
        have outside := given_new (a.allocate base).2 rest name member
        exact outside (same ▸ List.mem_cons_self)
      · exact ih _

theorem given_append (a : Allocator) (requests more : List Request) :
    a.given (requests ++ more) = a.given requests ++ (a.after requests).given more := by
  induction requests generalizing a with
  | nil => rfl
  | cons request rest ih =>
    cases request with
    | reserve name => exact ih _
    | allocate base => exact congrArg ((a.allocate base).1 :: ·) (ih _)

theorem given_reserved (a : Allocator) (reserved : List ParameterName) :
    a.given (reserved.map .reserve) = [] := by
  induction reserved generalizing a with
  | nil => rfl
  | cons name rest ih => exact ih (a.reserve name)

/-- Allocators that keep the same names give the same ones. -/
theorem Keeps.given_eq (keeps : a.Keeps used) (same : b.Keeps used) (requests : List Request) :
    a.given requests = b.given requests := by
  induction requests generalizing a b used with
  | nil => rfl
  | cons request rest ih =>
    cases request with
    | reserve name => exact ih (keeps.reserve name) (same.reserve name)
    | allocate base =>
      obtain ⟨first, after⟩ := keeps.allocate base
      obtain ⟨second, beside⟩ := same.allocate base
      rw [given, given, first, second, ih after beside]

theorem Keeps.reserve_each (keeps : a.Keeps used) (reserved : List ParameterName) :
    (a.after (reserved.map .reserve)).Keeps (reserved ++ used) := by
  rw [Allocator.after, List.foldl_map]
  exact keeps.reserve_all reserved

/-- Names that are reserved one after the other can change places. -/
theorem Keeps.given_reordered (keeps : a.Keeps used) {reserved other : List ParameterName}
    (order : reserved.Perm other) (rest : List Request) :
    a.given (reserved.map .reserve ++ rest) = a.given (other.map .reserve ++ rest) := by
  have first := keeps.reserve_each reserved
  have second := (keeps.reserve_each other).perm (order.symm.append_right used)
  rw [given_append, given_append, given_reserved, given_reserved]
  exact first.given_eq second rest

/-- Where the same names are given, it does not matter between which of them a name is reserved. -/
theorem names_rearranged {requests other : List Request} (rearranged : Rearranged requests other)
    (same : (a.given requests).Perm (a.given other)) :
    (a.names requests).Perm (a.names other) := by
  have taken := rearranged.2.append same
  exact (names_perm a requests).trans (taken.trans (names_perm a other).symm)

theorem Keeps.search (keeps : a.Keeps used) (base : String) :
    ∃ probes found,
      ParameterName.Search a.taken base (ParameterName.uses used base + 1) probes found ∧
      (a.allocate base).1 = .of base found := by
  rw [← keeps.counted]
  exact ParameterName.search_free_from (allocate_new a base)

/-- After any requests, the search for the next name of a base ends with at most one probe more than
there are texts taken, and finds the first form of the base that is free, counting from its uses so
far. So no name is given twice, and none that was reserved before. Names that are reserved one after
the other can change places without any effect on what is given; names with requests between them
can as long as these are given the same names. -/
theorem first_free_given (requests : List Request) :
    let new : Allocator := {}
    let a := new.after requests
    let start (base : String) := requests.countP (·.base = base) + 1
    (∀ base, ∃ probes found,
      ParameterName.Search a.taken base (start base) probes found ∧
      probes ≤ a.taken.dedup.length + 1 ∧
      IsLeast {o | start base ≤ o ∧ (ParameterName.of base o).render ∉ a.taken} found ∧
      (a.allocate base).1 = .of base found) ∧
    a.taken.Perm
      ((requests.filterMap Request.reserved? ++ new.given requests).map ParameterName.render) ∧
    (∀ base, (a.allocate base).1 = .next (new.names requests) base) ∧
    (∀ name, .reserve name ∈ requests → ∀ base, (a.allocate base).1.render ≠ name.render) ∧
    ((new.given requests).map ParameterName.render).Nodup ∧
    (∀ other, Rearranged requests other → (new.given requests).Perm (new.given other) →
      ∀ base, (a.allocate base).1 = ((new.after other).allocate base).1) ∧
    (∀ reserved other : List ParameterName, reserved.Perm other → ∀ rest,
      new.given (requests ++ (reserved.map .reserve ++ rest)) =
        new.given (requests ++ (other.map .reserve ++ rest))) := by
  intro new a start
  have keeps : a.Keeps (new.names requests) := keeps_requests requests
  have perm := names_perm new requests
  refine ⟨?_, ?_, ?_, ?_, given_distinct _ _, ?_, ?_⟩
  · intro base
    obtain ⟨probes, found, search, same⟩ := keeps.search base
    rw [uses_names] at search
    exact ⟨probes, found, search, search.probes_le (Nat.succ_pos _), search.least, same⟩
  · exact keeps.taken.trans (perm.map _)
  · exact fun base => (keeps.allocate base).1
  · intro name member base same
    apply allocate_new a base
    rw [keeps.taken.mem_iff, same]
    have taken : name ∈ new.names requests := by
      rw [perm.mem_iff]
      exact List.mem_append_left _ (List.mem_filterMap.mpr ⟨_, member, rfl⟩)
    exact List.mem_map_of_mem taken
  · intro other rearranged same base
    have names := names_rearranged rearranged same
    have beside := (keeps_requests other).perm names.symm
    rw [(keeps.allocate base).1, (beside.allocate base).1]
  · intro reserved other order rest
    have later := keeps.given_reordered order rest
    rw [given_append new requests, later, ← given_append new requests]

/-- The second form of `age` is reserved twice, word for word. -/
def crowded : List Request :=
  [.reserve ⟨"age_2", 1⟩, .allocate "age", .reserve ⟨"age_2", 1⟩, .reserve ⟨"name", 7⟩]

theorem crowded_third_given :
    let new : Allocator := {}
    let a := new.after crowded
    let other : List Request :=
      [.reserve ⟨"name", 7⟩, .allocate "age", .reserve ⟨"age_2", 1⟩, .reserve ⟨"age_2", 1⟩]
    let more : List ParameterName := [⟨"age", 3⟩, ⟨"name", 2⟩]
    let turned : List ParameterName := [⟨"name", 2⟩, ⟨"age", 3⟩]
    (∃ probes found, ParameterName.Search a.taken "age" 2 probes found ∧ probes ≤ 4 ∧
      (a.allocate "age").1 = .of "age" found) ∧
    .reserve ⟨"age_2", 1⟩ ∈ crowded ∧ (a.allocate "age").1.render ≠ "age_2" ∧
    Rearranged crowded other ∧
    (new.given crowded).Perm (new.given other) ∧
    (a.allocate "age").1 = ((new.after other).allocate "age").1 ∧
    more.Perm turned ∧
    new.given (crowded ++ (more.map .reserve ++ [.allocate "age"])) =
      new.given (crowded ++ (turned.map .reserve ++ [.allocate "age"])) := by
  intro new a other more turned
  obtain ⟨search, -, -, reserved, -, moved, swapped⟩ := first_free_given crowded
  have member : .reserve ⟨"age_2", 1⟩ ∈ crowded := by decide
  have rearranged : Rearranged crowded other := by decide +kernel
  have given : (new.given crowded).Perm (new.given other) := by decide +kernel
  have order : more.Perm turned := by decide
  obtain ⟨probes, found, ended, few, -, third⟩ := search "age"
  exact ⟨⟨probes, found, ended, few, third⟩, member, reserved ⟨"age_2", 1⟩ member "age",
    rearranged, given, moved other rearranged given "age", order,
    swapped more turned order [.allocate "age"]⟩

/-- A request goes by what is reserved before it. So a name that is moved past one can change what
is given then, and with that what is given later. -/
theorem moved_past_request :
    let new : Allocator := {}
    let early : List Request := [.reserve ⟨"age", 1⟩, .allocate "age", .reserve ⟨"name", 1⟩]
    let late : List Request := [.reserve ⟨"name", 1⟩, .allocate "age", .reserve ⟨"age", 1⟩]
    Rearranged early late ∧
      ((new.after early).allocate "age_2").1 = ⟨"age_2", 2⟩ ∧
      ((new.after late).allocate "age_2").1 = ⟨"age_2", 1⟩ := by
  decide +kernel

end Allocator
end GraphQuery
