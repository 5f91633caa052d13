import GraphQuery.Proofs.Parameter.Stored

/-! Values that are added without a name. They are numbered as they come, so none of them takes the
place of an earlier one; a name that is written like a number can. -/
namespace GraphQuery

/-- One write to the buckets. -/
inductive Write where
  | add (value : Value) (b : Bucket)
  | addNamed (value : Value) (bucket : String)
  | insert (key : String) (value : Value) (b : Bucket)
  | merge (values : Parameters) (b : Bucket)

namespace Write

/-- Nothing is written to a bucket that does not exist. -/
def apply (bs : Buckets) : Write → Buckets
  | add value b => bs.add value b
  | addNamed value bucket =>
    match bs.addNamed value bucket with
    | .ok after => after
    | .error _ => bs
  | insert key value b => bs.insert key value b
  | merge values b => bs.merge values b

def run (writes : List Write) (bs : Buckets) : Buckets := writes.foldl apply bs

/-- The value that the write adds, and where: a named value is an object of one entry. -/
def request : Write → Option (Value × Bucket)
  | add value b => some (value, b)
  | addNamed value bucket => (Bucket.named? bucket).map (value, ·)
  | insert key value b => some (.object [(key, value)], b)
  | merge values b => some (.object values.entries, b)

/-- What the writes add to one bucket, in order. -/
def given (b : Bucket) (writes : List Write) : List Value :=
  ((writes.filterMap request).filter fun r => r.2 = b).map Prod.fst

end Write

/-- The names that adding a value writes. -/
def Value.names : Value → List String
  | .object fields => fields.map fun e => Identifier.lastSegment e.1
  | _ => []

/-- How many of the values have no name. -/
def Value.unnamed (values : List Value) : Nat := values.countP (·.object?.isNone)

namespace Slot

theorem entries_insert_all (s : Slot) (fields : List (String × Value)) :
    s.insertAll fields =
      { s with entries :=
          s.entries.insertAll (fields.map fun e => (Identifier.lastSegment e.1, e.2)) } := by
  induction fields generalizing s with
  | nil => rfl
  | cons e rest ih => exact ih (s.insert e.1 e.2)

/-- Adding writes the names of an object, or the next number. -/
theorem add_cases (s : Slot) (v : Value) :
    (∃ fields, v = .object fields ∧ s.add v =
      { s with entries :=
          s.entries.insertAll (fields.map fun e => (Identifier.lastSegment e.1, e.2)) }) ∨
    (v.object? = none ∧ v.names = [] ∧
      s.add v = ⟨s.entries.insert s.positional.repr v, s.positional + 1⟩) := by
  cases v with
  | object fields => exact .inl ⟨fields, rfl, s.entries_insert_all fields⟩
  | _ => exact .inr ⟨rfl, rfl, rfl⟩

theorem add_plain (s : Slot) {v : Value} (plain : v.object? = none) :
    s.add v = ⟨s.entries.insert s.positional.repr v, s.positional + 1⟩ := by
  obtain ⟨fields, rfl, -⟩ | ⟨-, -, added⟩ := s.add_cases v
  · cases plain
  · exact added

/-- A slot that these values were added to, and nothing else. -/
structure Holds (s : Slot) (values : List Value) : Prop where
  counted : s.positional = Value.unnamed values
  keys : ∀ key, key ∈ s.entries.keys ↔
    key ∈ values.flatMap Value.names ∨ ∃ i < s.positional, key = i.repr

theorem holds_empty : Slot.empty.Holds [] := by
  constructor
  · rfl
  · simp [empty, Record.empty, Record.keys]

theorem Holds.add {s : Slot} {values : List Value} (holds : s.Holds values) (v : Value) :
    (s.add v).Holds (values ++ [v]) := by
  obtain ⟨fields, rfl, added⟩ | ⟨plain, unnamed, added⟩ := s.add_cases v
  · rw [added]
    constructor
    · simpa [Value.unnamed, Value.object?] using holds.counted
    · intro key
      have names : (fields.map fun e => (Identifier.lastSegment e.1, e.2)).map Prod.fst =
          (Value.object fields).names := List.map_map
      simp only [Record.mem_keys_insert_all, names, holds.keys, List.flatMap_append,
        List.mem_append, List.flatMap_singleton, or_assoc, or_left_comm]
  · rw [added]
    constructor
    · simp [Value.unnamed, plain, holds.counted]
    · intro key
      have before := (mem_keys_upsert s.positional.repr v s.entries.entries key).trans
        (or_congr_right (holds.keys key))
      simp only [Record.keys, Record.insert, before, List.flatMap_append, List.flatMap_singleton,
        unnamed, List.append_nil, Nat.lt_succ_iff_lt_or_eq, or_and_right, exists_or,
        exists_eq_left]
      exact or_comm.trans or_assoc

theorem Holds.add_all {s : Slot} {values : List Value} (holds : s.Holds values)
    (more : List Value) : (more.foldl Slot.add s).Holds (values ++ more) := by
  induction more generalizing s values with
  | nil => simpa using holds
  | cons v rest ih => simpa using ih (holds.add v)

theorem passed_add {s : Slot} {i : Nat} (earlier : i < s.positional) (v : Value) :
    i < (s.add v).positional := by
  obtain ⟨fields, rfl, added⟩ | ⟨-, -, added⟩ := s.add_cases v
  · rw [added]
    exact earlier
  · rw [added]
    exact Nat.lt_succ_of_lt earlier

theorem passed_add_all {s : Slot} {i : Nat} (earlier : i < s.positional) (values : List Value) :
    i < (values.foldl Slot.add s).positional := by
  induction values generalizing s with
  | nil => exact earlier
  | cons v rest ih => exact ih (passed_add earlier v)

/-- What stands under a number stays there, unless the number is written as a name. -/
theorem get_add {s : Slot} {i : Nat} (earlier : i < s.positional) {v : Value}
    (unnamed : i.repr ∉ v.names) : (s.add v).entries.get? i.repr = s.entries.get? i.repr := by
  obtain ⟨fields, rfl, added⟩ | ⟨-, -, added⟩ := s.add_cases v
  · have names : (fields.map fun e => (Identifier.lastSegment e.1, e.2)).map Prod.fst =
        (Value.object fields).names := List.map_map
    rw [added]
    exact Record.get_insert_all_other (names ▸ unnamed) s.entries
  · have apart : i.repr ≠ s.positional.repr := by
      intro same
      have := ParameterName.repr_injective same
      omega
    rw [added, Record.get_insert, if_neg apart]

theorem get_add_all {s : Slot} {i : Nat} (earlier : i < s.positional) {values : List Value}
    (unnamed : i.repr ∉ values.flatMap Value.names) :
    (values.foldl Slot.add s).entries.get? i.repr = s.entries.get? i.repr := by
  induction values generalizing s with
  | nil => rfl
  | cons v rest ih =>
    rw [List.flatMap_cons, List.mem_append, not_or] at unnamed
    rw [List.foldl_cons, ← get_add earlier unnamed.1]
    exact ih (passed_add earlier v) unnamed.2

theorem names_plain {v : Value} (plain : v.object? = none) : v.names = [] := by
  cases v with
  | object fields => cases plain
  | _ => rfl

theorem Holds.taken {s : Slot} {values : List Value} (holds : s.Holds values) :
    s.positional.repr ∈ s.entries.keys ↔ s.positional.repr ∈ values.flatMap Value.names := by
  rw [holds.keys]
  apply or_iff_left
  rintro ⟨i, smaller, same⟩
  have := ParameterName.repr_injective same
  omega

theorem appended_iff (s : Slot) {v : Value} (plain : v.object? = none) :
    (s.add v).entries.entries = s.entries.entries ++ [(s.positional.repr, v)] ↔
      s.positional.repr ∉ s.entries.keys := by
  rw [s.add_plain plain]
  constructor
  · intro appended inside
    have keys := congrArg List.length (keys_upsert_placed inside v)
    have longer := congrArg List.length appended
    simp [Record.insert] at keys longer
    omega
  · exact fun absent => Record.upsert_new absent v

theorem replaced (s : Slot) {v : Value} (plain : v.object? = none)
    (inside : s.positional.repr ∈ s.entries.keys) :
    (s.add v).entries.keys = s.entries.keys ∧ ∀ key, (s.add v).entries.get? key =
      if key = s.positional.repr then some v else s.entries.get? key := by
  rw [s.add_plain plain]
  exact ⟨keys_upsert_placed inside v, Record.get_insert s.entries s.positional.repr v⟩

/-- After a value without a name, the count has passed its number. -/
theorem numbered (s : Slot) {v : Value} (plain : v.object? = none) :
    s.positional < (s.add v).positional ∧
      (s.add v).entries.get? s.positional.repr = some v := by
  rw [s.add_plain plain]
  constructor
  · exact Nat.lt_succ_self _
  · rw [Record.get_insert, if_pos rfl]

end Slot

namespace Write

theorem apply_eq (bs : Buckets) (w : Write) :
    w.apply bs = (w.request.map fun r => bs.add r.1 r.2).getD bs := by
  cases w with
  | addNamed value bucket =>
    simp only [apply, Buckets.addNamed, Bucket.ofName, request]
    cases Bucket.named? bucket <;> rfl
  | _ => rfl

theorem slot_add (bs : Buckets) (value : Value) (a b : Bucket) :
    (bs.add value a).slot b = if a = b then (bs.slot b).add value else bs.slot b :=
  bs.slot_modify (·.add value) a b

theorem given_append (b : Bucket) (writes more : List Write) :
    given b (writes ++ more) = given b writes ++ given b more := by
  simp only [given, List.filterMap_append, List.filter_append, List.map_append]

theorem slot_apply (bs : Buckets) (w : Write) (b : Bucket) :
    (w.apply bs).slot b = (given b [w]).foldl Slot.add (bs.slot b) := by
  rw [apply_eq]
  cases requested : w.request with
  | none => simp [given, requested]
  | some r =>
    have added := slot_add bs r.1 r.2 b
    by_cases here : r.2 = b
    · simpa [given, requested, here] using added
    · simpa [given, requested, here] using added

/-- A bucket is written to by what is added to it, and by nothing else. -/
theorem slot_run (writes : List Write) (bs : Buckets) (b : Bucket) :
    (run writes bs).slot b = (given b writes).foldl Slot.add (bs.slot b) := by
  induction writes generalizing bs with
  | nil => rfl
  | cons w rest ih =>
    have parted := given_append b [w] rest
    rw [List.singleton_append] at parted
    rw [parted, List.foldl_append, ← slot_apply]
    exact ih (w.apply bs)

theorem holds_run (writes : List Write) (b : Bucket) :
    ((run writes {}).slot b).Holds (given b writes) := by
  have empty : ({} : Buckets).slot b = .empty := by cases b <;> rfl
  rw [slot_run, empty]
  exact Slot.holds_empty.add_all (given b writes)

end Write

/-- A value without a name is appended under the number of those before it, and the other buckets
stay as they are. If that number was written as a name, the value takes the place of the one that
stood there. Later values without a name never change it. -/
theorem unnamed_values_kept (writes : List Write) (b : Bucket) {v : Value}
    (plain : v.object? = none) :
    let bs := Write.run writes {}
    let before := (bs.slot b).entries
    let after := ((bs.add v b).slot b).entries
    let number := (Value.unnamed (Write.given b writes)).repr
    let named := (Write.given b writes).flatMap Value.names
    (after.entries = before.entries ++ [(number, v)] ↔ number ∉ named) ∧
    (number ∈ named → after.keys = before.keys ∧
      ∀ key, after.get? key = if key = number then some v else before.get? key) ∧
    (∀ c, b ≠ c → (bs.add v b).slot c = bs.slot c) ∧
    ∀ later : List Write,
      let grown := Write.run later (bs.add v b)
      (number ∉ (Write.given b later).flatMap Value.names →
        (grown.slot b).entries.get? number = some v) ∧
      ∀ w c, w.object? = none →
        ((grown.add w c).slot b).entries.get? number = (grown.slot b).entries.get? number := by
  intro bs before after number named
  have holds := Write.holds_run writes b
  have count : (bs.slot b).positional.repr = number := congrArg Nat.repr holds.counted
  have added : (bs.add v b).slot b = (bs.slot b).add v := by rw [Write.slot_add, if_pos rfl]
  have inserted : after = ((bs.slot b).add v).entries := congrArg Slot.entries added
  have taken : number ∈ before.keys ↔ number ∈ named := count ▸ holds.taken
  obtain ⟨passed, found⟩ := (bs.slot b).numbered plain
  refine ⟨?_, ?_, ?_, ?_⟩
  · rw [inserted, ← taken, ← count]
    exact (bs.slot b).appended_iff plain
  · intro inside
    rw [inserted, ← count]
    exact (bs.slot b).replaced plain (count ▸ taken.mpr inside)
  · intro c other
    rw [Write.slot_add, if_neg other]
  · intro later grown
    -- The number stays behind the count.
    have kept : grown.slot b = (Write.given b later).foldl Slot.add ((bs.slot b).add v) :=
      added ▸ Write.slot_run later _ b
    rw [← count]
    constructor
    · intro unnamed
      rw [kept, Slot.get_add_all passed unnamed, found]
    · intro w c single
      rw [Write.slot_add]
      split
      · have silent : (bs.slot b).positional.repr ∉ w.names := by
          rw [Slot.names_plain single]
          exact List.not_mem_nil
        exact Slot.get_add (kept ▸ Slot.passed_add_all passed _) silent
      · rfl

/-- Two values without a name, beside one that has a name and one for a bucket that does not
exist. -/
def ordered : List Write :=
  [.add (.nat 10) .order, .insert "post.title" (.string "Hello") .order,
    .addNamed (.nat 3) "groupBy", .addNamed (.array [.nat 1, .nat 2]) "order"]

theorem ordered_values_kept :
    let after := ((Write.run ordered {}).add (.nat 7) .order).slot .order
    after.entries.entries =
        [("0", .nat 10), ("title", .string "Hello"), ("1", .array [.nat 1, .nat 2]),
          ("2", .nat 7)] ∧
      (((((Write.run ordered {}).add (.nat 7) .order).add .null .order).slot
        .order).entries.get? "2") = some (.nat 7) := by
  obtain ⟨appended, -, -, later⟩ :=
    unnamed_values_kept ordered .order (v := .nat 7) rfl
  have fresh : (Value.unnamed (Write.given .order ordered)).repr ∉
      (Write.given .order ordered).flatMap Value.names := by decide +kernel
  obtain ⟨found, kept⟩ := later []
  refine ⟨(appended.mpr fresh).trans (by decide +kernel), ?_⟩
  have number : (Value.unnamed (Write.given .order ordered)).repr = "2" := by decide +kernel
  rw [number] at found kept
  exact (kept .null .order rfl).trans (found (by decide +kernel))

/-- The name is the number that the next value without a name gets. -/
theorem numbered_name_lost :
    let bs := Write.run [.add (.object [("0", .nat 5)]) .order] {}
    (bs.slot .order).entries.entries = [("0", .nat 5)] ∧
      ((bs.add (.nat 7) .order).slot .order).entries.entries = [("0", .nat 7)] ∧
      ¬ ∀ (writes : List Write) (b : Bucket) (v : Value), v.object? = none →
        let before := (Write.run writes {}).slot b
        let after := ((Write.run writes {}).add v b).slot b
        (∀ e ∈ before.entries.entries, e ∈ after.entries.entries) ∧
          ∃ key, (key, v) ∈ after.entries.entries ∧ key ∉ before.entries.keys := by
  intro bs
  have first : (bs.slot .order).entries.entries = [("0", .nat 5)] := by decide +kernel
  have second : ((bs.add (.nat 7) .order).slot .order).entries.entries = [("0", .nat 7)] := by
    decide +kernel
  refine ⟨first, second, ?_⟩
  intro kept
  have stays := (kept [.add (.object [("0", .nat 5)]) .order] .order (.nat 7) rfl).1
  have lost := stays ("0", .nat 5) (first ▸ List.mem_cons_self)
  rw [second] at lost
  exact absurd lost (by decide +kernel)

end GraphQuery
