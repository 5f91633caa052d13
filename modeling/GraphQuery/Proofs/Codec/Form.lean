import GraphQuery.Codec.Parts
import GraphQuery.Proofs.Record.Merge

/-! What an encoded value may be rewritten to without changing what is read from it: the keys of a
structure may stand in any order and among others. What is data of its own stays as it is. -/
namespace GraphQuery

/-- An encoded value, with its structures told apart from the data in them. -/
inductive Form where
  | data (value : Value)
  | keyed (fields : List (String × Form))
  | list (items : List Form)

namespace Form

mutual

/-- The value as it is encoded. -/
def value : Form → Value
  | .data v => v
  | .keyed fields => .object (valueFields fields)
  | .list items => .array (valueItems items)

def valueFields : List (String × Form) → List (String × Value)
  | [] => []
  | (key, f) :: rest => (key, f.value) :: valueFields rest

def valueItems : List Form → List Value
  | [] => []
  | f :: rest => f.value :: valueItems rest

end

mutual

/-- The value shows the form: each structure has its keys in some order, with unknown ones among
them. -/
def Shows : Form → Value → Prop
  | .data v, w => w = v
  | .keyed fields, w => ∃ shown unknown entries, ShowsFields fields shown ∧
      (∀ e ∈ unknown, e.1 ∉ fields.map Prod.fst) ∧ entries.Perm (shown ++ unknown) ∧
      w = .object entries
  | .list items, w => ∃ shown, ShowsItems items shown ∧ w = .array shown

def ShowsFields : List (String × Form) → List (String × Value) → Prop
  | [], shown => shown = []
  | (key, f) :: rest, shown => ∃ v more, f.Shows v ∧ ShowsFields rest more ∧
      shown = (key, v) :: more

def ShowsItems : List Form → List Value → Prop
  | [], shown => shown = []
  | f :: rest, shown => ∃ v more, f.Shows v ∧ ShowsItems rest more ∧ shown = v :: more

end

mutual

/-- The value shows its own form. -/
theorem shows_value : (f : Form) → f.Shows f.value
  | .data _ => rfl
  | .keyed fields =>
    ⟨valueFields fields, [], valueFields fields, shows_fields fields, List.forall_mem_nil _,
      by rw [List.append_nil], rfl⟩
  | .list items => ⟨valueItems items, shows_items items, rfl⟩

theorem shows_fields : (fields : List (String × Form)) → ShowsFields fields (valueFields fields)
  | [] => rfl
  | (_, f) :: rest => ⟨f.value, valueFields rest, shows_value f, shows_fields rest, rfl⟩

theorem shows_items : (items : List Form) → ShowsItems items (valueItems items)
  | [] => rfl
  | f :: rest => ⟨f.value, valueItems rest, shows_value f, shows_items rest, rfl⟩

end

theorem keys_shown {fields : List (String × Form)} {shown : List (String × Value)}
    (shows : ShowsFields fields shown) : shown.map Prod.fst = fields.map Prod.fst := by
  induction fields generalizing shown with
  | nil =>
    cases shows
    rfl
  | cons field rest ih =>
    obtain ⟨v, more, -, after, rfl⟩ := shows
    exact congrArg (field.1 :: ·) (ih after)

theorem mem_shown {fields : List (String × Form)} {shown : List (String × Value)}
    (shows : ShowsFields fields shown) {field : String × Form} (member : field ∈ fields) :
    ∃ v, (field.1, v) ∈ shown ∧ field.2.Shows v := by
  induction fields generalizing shown with
  | nil => cases member
  | cons first rest ih =>
    obtain ⟨v, more, head, after, rfl⟩ := shows
    rcases List.mem_cons.mp member with rfl | later
    · exact ⟨v, List.mem_cons_self, head⟩
    · obtain ⟨w, inside, shown⟩ := ih after later
      exact ⟨w, List.mem_cons_of_mem _ inside, shown⟩

/-- An object that shows the fields holds under each key what the form gives for it. -/
theorem shown_fields {fields : List (String × Form)} {w : Value}
    (distinct : (fields.map Prod.fst).Nodup) (shows : (keyed fields).Shows w) :
    ∃ entries, w = .object entries ∧
      ∀ field ∈ fields, ∃ v, entries.lookup field.1 = some v ∧ field.2.Shows v := by
  obtain ⟨shown, unknown, entries, inside, apart, order, rfl⟩ := shows
  refine ⟨entries, rfl, fun field member => ?_⟩
  obtain ⟨v, held, shows⟩ := mem_shown inside member
  refine ⟨v, lookup_of_unique ?_ ?_, shows⟩
  · exact order.mem_iff.mpr (List.mem_append_left _ held)
  · intro w other
    rcases List.mem_append.mp (order.mem_iff.mp other) with known | new
    · rw [← keys_shown inside] at distinct
      exact congrArg Prod.snd (List.inj_on_of_nodup_map distinct known held rfl)
    · exact absurd (List.mem_map_of_mem member) (apart _ new)

/-- Under each key the parts hold what is made of a value that shows its form. -/
def Held {α : Type} (p : Parts α) (make : Value → α) : List (String × Form) → Prop
  | [] => True
  | (key, f) :: rest =>
    (∃ v, (∀ index, p.find? key index = some (make v)) ∧ f.Shows v) ∧ Held p make rest

theorem held_of_forall {α : Type} {p : Parts α} {make : Value → α} {fields : List (String × Form)}
    (each : ∀ field ∈ fields, ∃ v, (∀ index, p.find? field.1 index = some (make v)) ∧
      field.2.Shows v) : Held p make fields := by
  induction fields with
  | nil => trivial
  | cons field rest ih =>
    have tail := ih fun other member => each other (List.mem_cons_of_mem _ member)
    exact ⟨each field List.mem_cons_self, tail⟩

/-- The parts of an object that shows the fields. -/
theorem shown_parts {fields : List (String × Form)} {w : Value}
    (distinct : (fields.map Prod.fst).Nodup) (shows : (keyed fields).Shows w) :
    ∃ p, w.parts? = some p ∧ (∀ count, p.fits count = some ()) ∧ Held p id fields := by
  obtain ⟨entries, rfl, held⟩ := shown_fields distinct shows
  refine ⟨.named entries, rfl, fun _ => rfl, held_of_forall fun field member => ?_⟩
  obtain ⟨v, found, shows⟩ := held field member
  exact ⟨v, fun _ => found, shows⟩

/-- A variant is told by one more key. -/
def tagged (type : String) (fields : List (String × Form)) : Form :=
  .keyed (("type", .data (.string type)) :: fields)

/-- The parts of an object that shows a variant. -/
theorem shown_variant {type : String} {fields : List (String × Form)} {w : Value}
    (distinct : ("type" :: fields.map Prod.fst).Nodup) (shows : (tagged type fields).Shows w) :
    ∃ p, w.parts? = some p ∧ p.tagged? "type" Value.string? = some (type, p) ∧
      (∀ count, p.fits count = some ()) ∧ Held p id fields := by
  obtain ⟨entries, rfl, held⟩ := shown_fields (by simpa using distinct) shows
  refine ⟨.named entries, rfl, ?_, fun _ => rfl, held_of_forall fun field member => ?_⟩
  · obtain ⟨_, found, rfl⟩ := held _ List.mem_cons_self
    simp only [Parts.tagged?, found]
    rfl
  · obtain ⟨v, found, shows⟩ := held field (List.mem_cons_of_mem _ member)
    exact ⟨v, fun _ => found, shows⟩

/-- Where every item is read from all that shows its form, so is the list. -/
theorem items_read {α : Type} {form : α → Form} {read : Value → Option α} {xs : List α}
    (each : ∀ x ∈ xs, ∀ v, (form x).Shows v → read v = some x) {shown : List Value}
    (shows : ShowsItems (xs.map form) shown) : shown.mapM read = some xs := by
  induction xs generalizing shown with
  | nil =>
    cases shows
    rfl
  | cons x rest ih =>
    obtain ⟨v, more, head, after, rfl⟩ := shows
    have first := each x List.mem_cons_self v head
    have later := ih (fun y hy => each y (List.mem_cons_of_mem _ hy)) after
    simp [first, later]

end Form

/-- The encoded form of `x` is read as `y`, and so is every value that shows the same form. -/
structure ReadBack {α : Type} (encode : α → Value) (decode : Value → Option α) (form : Form)
    (x y : α) : Prop where
  formed : form.value = encode x
  shown : ∀ v, form.Shows v → decode v = some y
  encoded : decode (encode x) = some y := formed ▸ shown _ form.shows_value

end GraphQuery
