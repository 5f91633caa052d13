import GraphQuery.Proofs.Record.Merge
import GraphQuery.Proofs.Script.Elementary

/-! A query without the values it binds. Names, their order and the text parts stay. -/
namespace GraphQuery

namespace Record

def mapValues {α β : Type} (f : α → β) (r : Record α) : Record β :=
  ⟨r.entries.map (Prod.map id f), by
    rw [List.map_map]
    exact r.distinct⟩

def erase (r : Row) : Row := r.mapValues fun _ => .null

theorem keys_erase (r : Row) : r.erase.keys = r.keys := by
  simp only [keys, erase, mapValues, List.map_map]
  rfl

theorem get_erase (r : Row) (key : String) :
    r.erase.get? key = (r.get? key).map fun _ => .null := by
  simp only [get?, erase, mapValues]
  induction r.entries with
  | nil => rfl
  | cons e rest ih =>
    rw [List.map_cons, Prod.map, lookup_entry, lookup_entry, ih]
    simp only [id]
    split <;> rfl

theorem is_empty_erase (r : Row) : r.erase.isEmpty = r.isEmpty := List.isEmpty_map

theorem erase_erase (r : Row) : r.erase.erase = r.erase := by
  refine eq_of_entries ?_
  simp only [erase, mapValues, List.map_map]
  rfl

theorem erase_insert (r : Row) (key : String) (value : Value) :
    (r.insert key value).erase = r.erase.insert key .null :=
  eq_of_entries (upsert_map (fun _ => Value.null) key value r.entries)

theorem erase_insert_all (r : Row) (entries : List (String × Value)) :
    (r.insertAll entries).erase = r.erase.insertAll (entries.map (Prod.map id fun _ => .null)) := by
  induction entries generalizing r with
  | nil => rfl
  | cons e rest ih => rw [insert_all_cons, ih, erase_insert, List.map_cons, insert_all_cons]; rfl

theorem erase_merge (r x : Row) :
    (r.insertAll x.entries).erase = r.erase.insertAll x.erase.entries :=
  erase_insert_all r x.entries

theorem place_map {α β : Type} (f : α → β) (e : String × α) (entries : List (String × α)) :
    (place e entries).map (Prod.map id f) =
      place (Prod.map id f e) (entries.map (Prod.map id f)) := by
  induction entries with
  | nil => rfl
  | cons g rest ih =>
    by_cases h : g.1 < e.1
    · simp [place, h, ih]
    · simp [place, h]

theorem erase_sorted (r : Row) : r.sorted.erase = r.erase.sorted := by
  refine eq_of_entries ?_
  simp only [erase, mapValues, sorted]
  induction r.entries with
  | nil => rfl
  | cons e rest ih =>
    simp only [sortEntries, List.foldr_cons, List.map_cons] at ih ⊢
    rw [place_map, ih]

end Record

namespace Slot

def erase (s : Slot) : Slot := { s with entries := s.entries.erase }

theorem erase_insert (s : Slot) (key : String) (value : Value) :
    (s.insert key value).erase = s.erase.insert key .null := by
  simp only [insert, erase, Record.erase_insert]

theorem erase_insert_all (s : Slot) (entries : List (String × Value)) :
    (s.insertAll entries).erase = s.erase.insertAll (entries.map (Prod.map id fun _ => .null)) := by
  induction entries generalizing s with
  | nil => rfl
  | cons e rest ih =>
    have step := ih (s.insert e.1 e.2)
    rw [erase_insert] at step
    exact step

theorem erase_erase (s : Slot) : s.erase.erase = s.erase := by
  simp only [erase, Record.erase_erase]

/-- Of a value that is added, its keys matter and whether it has keys. -/
theorem erase_add (s : Slot) (value : Value) : (s.add value).erase = (s.erase.add value).erase := by
  cases value with
  | object fields => simp only [add, erase_insert_all, erase_erase]
  | _ => simp only [add, erase, Record.erase_insert, Record.erase_erase]

end Slot

namespace Buckets

def erase (bs : Buckets) : Buckets where
  projection := bs.projection.erase
  filter := bs.filter.erase
  traversal := bs.traversal.erase
  join := bs.join.erase
  order := bs.order.erase
  having := bs.having.erase

theorem slot_erase (bs : Buckets) (b : Bucket) : bs.erase.slot b = (bs.slot b).erase := by
  cases b <;> rfl

theorem erase_modify {f g : Slot → Slot} (step : ∀ s, (f s).erase = g s.erase) (bs : Buckets)
    (b : Bucket) : (bs.modify f b).erase = bs.erase.modify g b := by
  cases b <;> simp [modify, erase, step]

theorem erase_insert (bs : Buckets) (key : String) (value : Value) (b : Bucket) :
    (bs.insert key value b).erase = bs.erase.insert key .null b :=
  erase_modify (fun s => s.erase_insert key value) bs b

theorem erase_merge (bs : Buckets) (values : Parameters) (b : Bucket) :
    (bs.merge values b).erase = bs.erase.merge values.erase b :=
  erase_modify (fun s => s.erase_insert_all values.entries) bs b

theorem erase_add (bs : Buckets) (value : Value) (b : Bucket) :
    (bs.add value b).erase = (bs.erase.add value b).erase := by
  cases b <;> simp [add, modify, erase, Slot.erase_add _ value, Slot.erase_erase]

theorem flatten_erase (bs : Buckets) : bs.erase.flatten = bs.flatten.erase := by
  simp only [flatten, Bucket.all, List.foldl_cons, List.foldl_nil, slot_erase, Record.erase_merge]
  rfl

end Buckets

namespace Condition

mutual

def erase : Condition → Condition
  | comparison column operator (.bound _) connective name =>
    comparison column operator (.bound .null) connective name
  | isIn column _ connective name => isIn column [] connective name
  | notIn column _ connective name => notIn column [] connective name
  | group conditions connective => group (eraseAll conditions) connective
  | c => c

def eraseAll : List Condition → List Condition
  | [] => []
  | c :: rest => c.erase :: eraseAll rest

end

theorem erase_all_append (conditions more : List Condition) :
    eraseAll (conditions ++ more) = eraseAll conditions ++ eraseAll more := by
  induction conditions with
  | nil => rfl
  | cons c rest ih => simp [eraseAll, ih]

theorem length_erase_all (conditions : List Condition) :
    (eraseAll conditions).length = conditions.length := by
  induction conditions with
  | nil => rfl
  | cons c rest ih => simp [eraseAll, ih]

theorem is_empty_erase_all (conditions : List Condition) :
    (eraseAll conditions).isEmpty = conditions.isEmpty := by
  cases conditions <;> rfl

theorem connective_erase (c : Condition) : c.erase.connective = c.connective := by
  match c with
  | .comparison _ _ (.bound _) _ _ | .comparison _ _ (.raw _) _ _ | .isIn .. | .notIn ..
  | .inQuery .. | .between .. | .isNull .. | .notNull .. | .carried .. | .group ..
  | .queryComparison .. => rfl

mutual

theorem erase_erase : (c : Condition) → c.erase.erase = c.erase
  | .group conditions _ => by simp only [erase, erase_all_erase_all conditions]
  | .comparison _ _ (.bound _) _ _ | .comparison _ _ (.raw _) _ _ | .isIn .. | .notIn ..
  | .inQuery .. | .between .. | .isNull .. | .notNull .. | .carried .. | .queryComparison .. => rfl

theorem erase_all_erase_all :
    (conditions : List Condition) → eraseAll (eraseAll conditions) = eraseAll conditions
  | [] => rfl
  | c :: rest => by simp only [eraseAll, erase_erase c, erase_all_erase_all rest]

end

mutual

theorem names_erase : (c : Condition) → c.erase.names = c.names
  | .group conditions _ => names_of_erase_all conditions
  | .comparison _ _ (.bound _) _ _ | .comparison _ _ (.raw _) _ _ | .isIn .. | .notIn ..
  | .inQuery .. | .between .. | .isNull .. | .notNull .. | .carried .. | .queryComparison .. => rfl

theorem names_of_erase_all :
    (conditions : List Condition) → namesOf (eraseAll conditions) = namesOf conditions
  | [] => rfl
  | c :: rest => by rw [eraseAll, namesOf, names_erase c, names_of_erase_all rest, namesOf]

end

end Condition

namespace Query

def erase (q : Query) : Query :=
  { q with conditions := Condition.eraseAll q.conditions, buckets := q.buckets.erase }

theorem names_erase (q : Query) : q.erase.names = q.names := by
  simp only [names, erase, Condition.names_of_erase_all]

theorem next_name_erase (q : Query) (column : String) :
    q.erase.nextName column = q.nextName column := by
  simp only [nextName, names_erase]
  rfl

theorem parameters_erase (q : Query) : q.erase.parameters = q.parameters.erase :=
  q.buckets.flatten_erase

theorem child_erase (q : Query) : q.erase.child = q.child := by
  simp only [child, names_erase]
  rfl

theorem group_child_erase (q : Query) : q.erase.groupChild = q.groupChild := by
  simp only [groupChild, child_erase]
  rfl

theorem erase_push (q : Query) (c : Condition) : (q.push c).erase = q.erase.push c.erase := by
  simp only [push, erase, Condition.erase_all_append, Condition.eraseAll]

theorem erase_bind (q : Query) (name : ParameterName) (value : Value) (b : Bucket) :
    (q.bind name value b).erase = q.erase.bind name .null b := by
  simp only [bind, erase, Buckets.erase_insert]

/-- A condition is put on an erased query as the erased condition. -/
theorem erase_ask (q : Query) (column : String) (value : Option Value)
    (make : Option String → ParameterName → Condition) :
    (q.ask column value make).erase =
      q.erase.ask column (value.map fun _ => .null) fun label name => (make label name).erase := by
  cases value <;>
    simp only [ask, erase_push, erase_bind, next_name_erase, Option.map_none, Option.map_some] <;>
    rfl

theorem erase_filter_group (q g : Query) (connective : Connective) :
    (q.filterGroup g connective).erase = q.erase.filterGroup g.erase connective := by
  have empty : g.erase.conditions.isEmpty = g.conditions.isEmpty :=
    Condition.is_empty_erase_all g.conditions
  unfold filterGroup
  rw [empty]
  split
  · rfl
  · rw [erase_push]
    simp only [push, erase, Buckets.erase_merge, Condition.erase, Buckets.slot_erase]
    rfl

theorem erase_adopt (q sub : Query) : (q.adopt sub).erase = q.erase.adopt sub.erase := by
  simp only [adopt, names_erase, parameters_erase]
  simp only [erase, Buckets.erase_merge]

theorem erase_append (q : Query) (conditions : List Condition) (values : Parameters) :
    (q.append conditions values).erase =
      q.erase.append (Condition.eraseAll conditions) values.erase := by
  simp only [append, erase, Condition.erase_all_append, Buckets.erase_merge]

theorem erase_add_value (q : Query) (value : Value) (b : Bucket) :
    Query.erase { q with buckets := q.buckets.add value b } =
      Query.erase { q.erase with buckets := q.erase.buckets.add value b } := by
  have conditions := Condition.erase_all_erase_all q.conditions
  simp only [erase, conditions, q.buckets.erase_add value b]

theorem erase_traverse (q : Query) (t : Traversal) (value : Option Value) :
    (q.traverse t value).erase = q.erase.traverse t none := by
  simp only [traverse, erase, bind, Buckets.erase_insert]
  rfl

end Query
end GraphQuery
