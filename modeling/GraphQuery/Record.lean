import GraphQuery.Value.Json

/-! Ordered records: result rows, parameters, equality mappings, carried expressions. -/
namespace GraphQuery

variable {α : Type}

/-- Replaces the entry of `key` in its place, or adds one at the end. -/
def upsert (key : String) (value : α) : List (String × α) → List (String × α)
  | [] => [(key, value)]
  | (k, v) :: rest => if k = key then (k, value) :: rest else (k, v) :: upsert key value rest

theorem mem_keys_upsert (key : String) (value : α) (entries : List (String × α)) (k : String) :
    k ∈ (upsert key value entries).map Prod.fst ↔ k = key ∨ k ∈ entries.map Prod.fst := by
  induction entries with
  | nil => simp [upsert]
  | cons e rest ih =>
    by_cases h : e.1 = key
    · simp [upsert, h]
    · simp only [upsert, h, if_false, List.map_cons, List.mem_cons, ih]
      exact or_left_comm

theorem nodup_keys_upsert (key : String) (value : α) {entries : List (String × α)}
    (distinct : (entries.map Prod.fst).Nodup) :
    ((upsert key value entries).map Prod.fst).Nodup := by
  induction entries with
  | nil => simp [upsert]
  | cons e rest ih =>
    rw [List.map_cons, List.nodup_cons] at distinct
    by_cases h : e.1 = key
    · simp only [upsert, h, if_true, List.map_cons, List.nodup_cons]
      exact h ▸ distinct
    · simp only [upsert, h, if_false, List.map_cons, List.nodup_cons]
      refine ⟨fun hm => ?_, ih distinct.2⟩
      rcases (mem_keys_upsert key value rest e.1).mp hm with hk | hk
      · exact h hk
      · exact distinct.1 hk

theorem lookup_entry (key : String) (value : α) (rest : List (String × α)) (k : String) :
    ((key, value) :: rest).lookup k = if k = key then some value else rest.lookup k := by
  by_cases h : k = key
  · simp [h]
  · simp [List.lookup_cons, beq_eq_false_iff_ne.mpr h, h]

theorem lookup_upsert (key : String) (value : α) (entries : List (String × α)) (k : String) :
    (upsert key value entries).lookup k = if k = key then some value else entries.lookup k := by
  induction entries with
  | nil => simp [upsert, lookup_entry]
  | cons e rest ih =>
    obtain ⟨l, v⟩ := e
    by_cases hl : l = key
    · by_cases hk : k = key
      · simp [upsert, hl, hk]
      · simp [upsert, lookup_entry, hl, hk]
    · by_cases hk : k = l
      · simp [upsert, hl, hk]
      · simp [upsert, lookup_entry, hl, hk, ih]

/-- Entries in order, each key once. -/
structure Record (α : Type) where
  entries : List (String × α)
  distinct : (entries.map Prod.fst).Nodup
deriving DecidableEq

abbrev Row := Record Value
abbrev Parameters := Record Value

namespace Record

def empty : Record α := ⟨[], List.nodup_nil⟩

/-- A key that is already there keeps its place. -/
def insert (r : Record α) (key : String) (value : α) : Record α :=
  ⟨upsert key value r.entries, nodup_keys_upsert key value r.distinct⟩

def insertAll (r : Record α) (entries : List (String × α)) : Record α :=
  entries.foldl (fun acc e => acc.insert e.1 e.2) r

def ofList (entries : List (String × α)) : Record α := empty.insertAll entries

def get? (r : Record α) (key : String) : Option α := r.entries.lookup key

theorem get_insert (r : Record α) (key : String) (value : α) (k : String) :
    (r.insert key value).get? k = if k = key then some value else r.get? k :=
  lookup_upsert key value r.entries k

def keys (r : Record α) : List String := r.entries.map Prod.fst

def values (r : Record α) : List α := r.entries.map Prod.snd

def isEmpty (r : Record α) : Bool := r.entries.isEmpty

/-- Places an entry before the first one with a larger key. -/
def place (e : String × α) : List (String × α) → List (String × α)
  | [] => [e]
  | f :: rest => if f.1 < e.1 then f :: place e rest else e :: f :: rest

theorem place_perm (e : String × α) (entries : List (String × α)) :
    (place e entries).Perm (e :: entries) := by
  induction entries with
  | nil => exact List.Perm.refl _
  | cons f rest ih =>
    by_cases h : f.1 < e.1
    · simpa [place, h] using (ih.cons f).trans (List.Perm.swap e f rest)
    · simp [place, h]

def sortEntries (entries : List (String × α)) : List (String × α) := entries.foldr place []

theorem sort_entries_perm (entries : List (String × α)) : (sortEntries entries).Perm entries := by
  induction entries with
  | nil => exact List.Perm.refl _
  | cons e rest ih => exact (place_perm e _).trans (ih.cons e)

/-- The same entries by ascending key. -/
def sorted (r : Record α) : Record α :=
  ⟨sortEntries r.entries,
    ((sort_entries_perm r.entries).map Prod.fst).nodup_iff.mpr r.distinct⟩

end Record

def Row.toValue (r : Row) : Value := .object r.entries

end GraphQuery
