import GraphQuery.Record
import Mathlib.Data.List.Nodup

/-! Merging ordered records: what is found afterwards, and that merging a record built step by step
is the same as taking its steps. -/
namespace GraphQuery

variable {α : Type}

theorem upsert_upsert (key : String) (value old : α) (entries : List (String × α)) :
    upsert key value (upsert key old entries) = upsert key value entries := by
  induction entries with
  | nil => simp [upsert]
  | cons e rest ih =>
    by_cases h : e.1 = key
    · simp [upsert, h]
    · simp [upsert, h, ih]

/-- A key that has its place already may be written before or after another. -/
theorem upsert_comm {key other : String} (apart : key ≠ other) (value new : α)
    {entries : List (String × α)} (placed : key ∈ entries.map Prod.fst) :
    upsert key value (upsert other new entries) = upsert other new (upsert key value entries) := by
  induction entries with
  | nil => simp at placed
  | cons e rest ih =>
    by_cases hk : e.1 = key
    · have ho : e.1 ≠ other := fun h => apart (hk.symm.trans h)
      simp [upsert, hk, apart]
    · have tail : key ∈ rest.map Prod.fst := by
        rcases List.mem_cons.mp placed with h | h
        · exact absurd h.symm hk
        · exact h
      by_cases ho : e.1 = other
      · simp [upsert, ho, Ne.symm apart]
      · simp [upsert, hk, ho, ih tail]

theorem keys_upsert_placed {key : String} {entries : List (String × α)}
    (placed : key ∈ entries.map Prod.fst) (value : α) :
    (upsert key value entries).map Prod.fst = entries.map Prod.fst := by
  induction entries with
  | nil => cases placed
  | cons e rest ih =>
    by_cases here : e.1 = key
    · simp [upsert, here]
    · have later : key ∈ rest.map Prod.fst := (List.mem_cons.mp placed).resolve_left (Ne.symm here)
      simp [upsert, here, ih later]

theorem mem_upsert {key : String} {value : α} {entries : List (String × α)} {e : String × α}
    (member : e ∈ upsert key value entries) : e ∈ entries ∨ e = (key, value) := by
  induction entries with
  | nil => exact .inr (List.mem_singleton.mp member)
  | cons f rest ih =>
    rw [upsert] at member
    split at member
    · rename_i same
      rcases List.mem_cons.mp member with here | later
      · exact .inr (same ▸ here)
      · exact .inl (List.mem_cons_of_mem _ later)
    · rcases List.mem_cons.mp member with here | later
      · exact .inl (here ▸ List.mem_cons_self)
      · exact (ih later).imp_left (List.mem_cons_of_mem _)

theorem upsert_map {β : Type} (f : α → β) (key : String) (value : α)
    (entries : List (String × α)) :
    (upsert key value entries).map (Prod.map id f) =
      upsert key (f value) (entries.map (Prod.map id f)) := by
  induction entries with
  | nil => rfl
  | cons e rest ih =>
    by_cases h : e.1 = key
    · simp [upsert, h, Prod.map]
    · simp [upsert, h, ih, Prod.map]

theorem lookup_of_unique {key : String} {v : α} {entries : List (String × α)}
    (member : (key, v) ∈ entries) (unique : ∀ w, (key, w) ∈ entries → w = v) :
    entries.lookup key = some v := by
  induction entries with
  | nil => cases member
  | cons e rest ih =>
    obtain ⟨k, w⟩ := e
    rw [lookup_entry]
    by_cases here : key = k
    · subst here
      rw [if_pos rfl, unique w List.mem_cons_self]
    · rw [if_neg here]
      rcases List.mem_cons.mp member with same | later
      · cases same
        exact absurd rfl here
      · exact ih later fun x hx => unique x (List.mem_cons_of_mem _ hx)

namespace Record

theorem eq_of_entries {r x : Record α} (same : r.entries = x.entries) : r = x := by
  cases r; cases x; cases same; rfl

theorem mem_keys_iff (r : Record α) (key : String) : key ∈ r.keys ↔ (r.get? key).isSome := by
  unfold keys get?
  induction r.entries with
  | nil => simp
  | cons e rest ih =>
    by_cases h : key = e.1
    · simp [h]
    · simp [h, ih]

theorem get_of_mem {r : Record α} {key : String} {value : α} (member : (key, value) ∈ r.entries) :
    r.get? key = some value := by
  apply lookup_of_unique member
  intro other found
  exact congrArg Prod.snd (List.inj_on_of_nodup_map r.distinct found member rfl)

theorem insert_insert (r : Record α) (key : String) (value old : α) :
    (r.insert key old).insert key value = r.insert key value :=
  eq_of_entries (upsert_upsert key value old r.entries)

theorem insert_comm {r : Record α} {key other : String} (apart : key ≠ other) (value new : α)
    (placed : key ∈ r.keys) :
    (r.insert other new).insert key value = (r.insert key value).insert other new :=
  eq_of_entries (upsert_comm apart value new placed)

theorem insert_all_cons (r : Record α) (e : String × α) (entries : List (String × α)) :
    r.insertAll (e :: entries) = (r.insert e.1 e.2).insertAll entries := rfl

theorem mem_keys_insert_all (r : Record α) (entries : List (String × α)) (key : String) :
    key ∈ (r.insertAll entries).keys ↔ key ∈ entries.map Prod.fst ∨ key ∈ r.keys := by
  induction entries generalizing r with
  | nil => simp [insertAll]
  | cons e rest ih =>
    have first : key ∈ (r.insert e.1 e.2).keys ↔ key = e.1 ∨ key ∈ r.keys :=
      mem_keys_upsert e.1 e.2 r.entries key
    rw [insert_all_cons, ih, first, List.map_cons, List.mem_cons, or_assoc, or_left_comm]

/-- What is put in under other keys changes nothing that is found. -/
theorem get_insert_all_other {entries : List (String × α)} {key : String}
    (other : key ∉ entries.map Prod.fst) (r : Record α) :
    (r.insertAll entries).get? key = r.get? key := by
  induction entries generalizing r with
  | nil => rfl
  | cons e rest ih =>
    rw [List.map_cons, List.mem_cons, not_or] at other
    rw [insert_all_cons, ih other.2, get_insert, if_neg other.1]

/-- Entries that are put in add no others. -/
theorem mem_insert_all {entries : List (String × α)} {r : Record α} {e : String × α}
    (member : e ∈ (r.insertAll entries).entries) : e ∈ r.entries ∨ e ∈ entries := by
  induction entries generalizing r with
  | nil => exact .inl member
  | cons f rest ih =>
    rw [insert_all_cons] at member
    rcases ih member with before | later
    · rcases mem_upsert before with old | new
      · exact .inl old
      · exact .inr (new ▸ List.mem_cons_self)
    · exact .inr (List.mem_cons_of_mem _ later)

theorem upsert_new {key : String} {entries : List (String × α)}
    (absent : key ∉ entries.map Prod.fst) (value : α) :
    upsert key value entries = entries ++ [(key, value)] := by
  induction entries with
  | nil => rfl
  | cons e rest ih =>
    rw [List.map_cons, List.mem_cons, not_or] at absent
    rw [upsert, if_neg (Ne.symm absent.1), ih absent.2, List.cons_append]

/-- Entries under new keys come after those that are there. -/
theorem insert_all_new {entries : List (String × α)} (distinct : (entries.map Prod.fst).Nodup)
    {r : Record α} (new : ∀ key ∈ entries.map Prod.fst, key ∉ r.keys) :
    (r.insertAll entries).entries = r.entries ++ entries := by
  induction entries generalizing r with
  | nil => exact (List.append_nil _).symm
  | cons e rest ih =>
    rw [List.map_cons, List.nodup_cons] at distinct
    have first : (r.insert e.1 e.2).entries = r.entries ++ [e] :=
      upsert_new (new e.1 List.mem_cons_self) e.2
    have later : ∀ key ∈ rest.map Prod.fst, key ∉ (r.insert e.1 e.2).keys := by
      intro key member inside
      rcases (mem_keys_upsert e.1 e.2 r.entries key).mp inside with same | old
      · exact distinct.1 (same ▸ member)
      · exact new key (List.mem_cons_of_mem _ member) old
    rw [insert_all_cons, ih distinct.2 later, first, List.append_assoc, List.singleton_append]

/-- The entries are found first, then what was there before. -/
theorem get_insert_all {entries : List (String × α)} (distinct : (entries.map Prod.fst).Nodup)
    (r : Record α) (key : String) :
    (r.insertAll entries).get? key = (entries.lookup key).or (r.get? key) := by
  induction entries generalizing r with
  | nil => simp [insertAll]
  | cons e rest ih =>
    rw [List.map_cons, List.nodup_cons] at distinct
    rw [insert_all_cons, ih distinct.2, get_insert, lookup_entry]
    by_cases h : key = e.1
    · have absent : rest.lookup key = none := by
        rw [List.lookup_eq_none_iff]
        intro f hf
        have : f.1 ≠ e.1 := fun same => distinct.1 (same ▸ List.mem_map_of_mem hf)
        simpa [h] using Ne.symm this
      simp [h, h ▸ absent]
    · simp [h]

theorem get_merge (r x : Record α) (key : String) :
    (r.insertAll x.entries).get? key = (x.get? key).or (r.get? key) :=
  get_insert_all x.distinct r key

/-- Where the entries do not hold the key, its value can be set before them. -/
theorem insert_insert_all {r : Record α} {key : String} (value : α) (placed : key ∈ r.keys)
    {entries : List (String × α)} (absent : key ∉ entries.map Prod.fst) :
    (r.insertAll entries).insert key value = (r.insert key value).insertAll entries := by
  induction entries generalizing r with
  | nil => rfl
  | cons e rest ih =>
    rw [List.map_cons, List.mem_cons, not_or] at absent
    have stays : key ∈ (r.insert e.1 e.2).keys :=
      (mem_keys_upsert e.1 e.2 r.entries key).mpr (.inr placed)
    rw [insert_all_cons, ih stays absent.2, insert_comm absent.1 value e.2 placed, insert_all_cons]

theorem insert_all_upsert (key : String) (value : α) {entries : List (String × α)}
    (distinct : (entries.map Prod.fst).Nodup) (r : Record α) :
    r.insertAll (upsert key value entries) = (r.insertAll entries).insert key value := by
  induction entries generalizing r with
  | nil => rfl
  | cons e rest ih =>
    rw [List.map_cons, List.nodup_cons] at distinct
    by_cases h : e.1 = key
    · have placed : key ∈ (r.insert key e.2).keys :=
        (mem_keys_upsert key e.2 r.entries key).mpr (.inl rfl)
      rw [insert_all_cons, h, insert_insert_all value placed (h ▸ distinct.1), insert_insert]
      simp [upsert, h, insert_all_cons]
    · simp [upsert, h, insert_all_cons, ih distinct.2]

/-- Merging a record into which a value was put is merging it and then putting the value. -/
theorem merge_insert (r x : Record α) (key : String) (value : α) :
    r.insertAll (x.insert key value).entries = (r.insertAll x.entries).insert key value :=
  insert_all_upsert key value x.distinct r

end Record
end GraphQuery
