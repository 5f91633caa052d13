import GraphQuery.Codec.Condition
import GraphQuery.Proofs.Codec.Form

/-! Conditions are read back from what they are encoded as. -/
namespace GraphQuery

theorem Value.natural_nat (n : Nat) : (Value.nat n).natural? = some n := rfl

namespace ParameterName

def form (n : ParameterName) : Form :=
  .keyed [("base", .data (.string n.base)), ("occurrence", .data (.nat n.occurrence))]

theorem read_back (n : ParameterName) : ReadBack encode decode? n.form n n where
  formed := rfl
  shown := by
    intro v shows
    obtain ⟨p, parts, fits, fields⟩ := Form.shown_parts (by simp) shows
    obtain ⟨⟨_, base, rfl⟩, ⟨_, occurrence, rfl⟩, -⟩ := fields
    simp [decode?, parts, fits, Parts.required, base, occurrence, Value.string?,
      Value.natural_nat]

end ParameterName

theorem Connective.read_encoded (c : Connective) {word? : Value → Option String}
    (reads : ∀ s, word? (.string s) = some s) : read? word? c.encode = some c := by
  cases c <;> simp [read?, encode, reads, ofWord?]

namespace Comparand

def form : Comparand → Form
  | .bound v => .keyed [("kind", .data (.string "bound")), ("value", .data v)]
  | .raw s => .keyed [("kind", .data (.string "raw")), ("value", .data (.string s))]

theorem read_shown (c : Comparand) {word? : Value → Option String}
    (reads : ∀ s, word? (.string s) = some s) {v : Value} (shows : c.form.Shows v) :
    read? word? v = some c := by
  cases c with
  | bound value =>
    obtain ⟨p, parts, fits, fields⟩ := Form.shown_parts (by simp) shows
    obtain ⟨⟨_, kind, rfl⟩, ⟨_, content, rfl⟩, -⟩ := fields
    simp [read?, parts, fits, Parts.required, kind, content, reads]
  | raw s =>
    obtain ⟨p, parts, fits, fields⟩ := Form.shown_parts (by simp) shows
    obtain ⟨⟨_, kind, rfl⟩, ⟨_, content, rfl⟩, -⟩ := fields
    simp [read?, parts, fits, Parts.required, kind, content, reads, Value.string?]

theorem read_back (c : Comparand) : ReadBack encode decode? c.form c c where
  formed := by cases c <;> rfl
  shown := fun _ shows => c.read_shown (fun _ => rfl) shows

end Comparand

namespace Condition

mutual

def form : Condition → Form
  | .comparison column operator comparand connective name =>
    .tagged "Basic" [("column", .data (.string column)), ("operator", .data (.string operator)),
      ("value", comparand.form), ("boolean", .data connective.encode), ("binding", name.form)]
  | .isIn column values connective name =>
    .tagged "In" [("column", .data (.string column)), ("values", .data (.array values)),
      ("boolean", .data connective.encode), ("binding", name.form)]
  | .notIn column values connective name =>
    .tagged "NotIn" [("column", .data (.string column)), ("values", .data (.array values)),
      ("boolean", .data connective.encode), ("binding", name.form)]
  | .inQuery column query connective negated =>
    .tagged "InSub" [("column", .data (.string column)), ("query", .data (.string query)),
      ("boolean", .data connective.encode), ("negated", .data (.bool negated))]
  | .between column connective negated name =>
    .tagged "Between" [("column", .data (.string column)), ("boolean", .data connective.encode),
      ("negated", .data (.bool negated)), ("binding", name.form)]
  | .isNull column connective name =>
    .tagged "Null" [("column", .data (.string column)), ("boolean", .data connective.encode),
      ("binding", name.form)]
  | .notNull column connective name =>
    .tagged "NotNull" [("column", .data (.string column)), ("boolean", .data connective.encode),
      ("binding", name.form)]
  | .carried column operator identifier connective =>
    .tagged "Carried" [("column", .data (.string column)), ("operator", .data (.string operator)),
      ("value", .data (.string identifier)), ("boolean", .data connective.encode)]
  | .group conditions connective =>
    .tagged "Nested" [("clauses", .list (forms conditions)), ("boolean", .data connective.encode)]
  | .queryComparison column operator query connective =>
    .tagged "Sub" [("column", .data (.string column)), ("operator", .data (.string operator)),
      ("query", .data (.string query)), ("boolean", .data connective.encode)]

def forms : List Condition → List Form
  | [] => []
  | c :: rest => c.form :: forms rest

end

theorem lookup_read_fields (entries : List (String × Value)) (key : String) :
    (readFields entries).lookup key =
      (entries.lookup key).map fun v => (v, readGroup? v) := by
  induction entries with
  | nil => rfl
  | cons e rest ih =>
    obtain ⟨k, v⟩ := e
    rw [readFields, lookup_entry, lookup_entry, ih]
    split <;> rfl

mutual

theorem form_value : (c : Condition) → c.form.value = c.encode
  | .group conditions connective => by
    simp only [form, Form.tagged, Form.value, Form.valueFields, encode, Value.tagged,
      forms_value conditions]
  | .comparison _ _ comparand _ _ => by cases comparand <;> rfl
  | .isIn .. | .notIn .. | .inQuery .. | .between .. | .isNull .. | .notNull .. | .carried ..
  | .queryComparison .. => rfl

theorem forms_value : (conditions : List Condition) →
    Form.valueItems (forms conditions) = encodeAll conditions
  | [] => rfl
  | c :: rest => by rw [forms, Form.valueItems, encodeAll, form_value c, forms_value rest]

end

theorem inner_word_string (s : String) : Value.innerWord? (.string s) = some s := rfl

/-- The parts of an object that shows a variant. -/
theorem read_fields (inner : Bool) {type : String} {fields : List (String × Form)} {v : Value}
    (distinct : ("type" :: fields.map Prod.fst).Nodup)
    (shows : (Form.tagged type fields).Shows v) :
    ∃ p : Parts ReadPart, read? inner v = ofParts? inner p ∧
      p.tagged? "type" (type? inner ·.1) = some (type, p) ∧ (∀ count, p.fits count = some ()) ∧
      Form.Held p (fun w => (w, readGroup? w)) fields := by
  obtain ⟨entries, rfl, held⟩ := Form.shown_fields (by simpa using distinct) shows
  refine ⟨.named (readFields entries), rfl, ?_, fun _ => rfl, Form.held_of_forall ?_⟩
  · obtain ⟨_, found, rfl⟩ := held _ List.mem_cons_self
    simp only [Parts.tagged?, lookup_read_fields, found]
    rfl
  · intro field member
    obtain ⟨w, found, shows⟩ := held field (List.mem_cons_of_mem _ member)
    refine ⟨w, fun index => ?_, shows⟩
    rw [Parts.find?, lookup_read_fields, found]
    rfl

mutual

theorem read_shown (inner : Bool) : (c : Condition) → ∀ v, c.form.Shows v →
    read? inner v = some c
  | .comparison column operator comparand connective name => by
    intro v shows
    obtain ⟨p, read, tag, fits, fields⟩ := read_fields inner (by simp) shows
    obtain ⟨⟨_, named, rfl⟩, ⟨_, symbol, rfl⟩, ⟨u, other, compared⟩,
      ⟨_, joined, rfl⟩, ⟨w, taken, shown⟩, -⟩ := fields
    rw [read]
    simp [ofParts?, tag, fits, Parts.required, named, symbol, other, joined, taken, Value.string?,
      comparand.read_shown inner_word_string compared, name.read_back.shown w shown,
      connective.read_encoded inner_word_string]
  | .isIn column values connective name => by
    intro v shows
    obtain ⟨p, read, tag, fits, fields⟩ := read_fields inner (by simp) shows
    obtain ⟨⟨_, named, rfl⟩, ⟨_, listed, rfl⟩, ⟨_, joined, rfl⟩, ⟨w, taken, shown⟩, -⟩ := fields
    rw [read]
    simp [ofParts?, tag, fits, Parts.required, named, listed, joined, taken, Value.string?,
      Value.array?, name.read_back.shown w shown, connective.read_encoded inner_word_string]
  | .notIn column values connective name => by
    intro v shows
    obtain ⟨p, read, tag, fits, fields⟩ := read_fields inner (by simp) shows
    obtain ⟨⟨_, named, rfl⟩, ⟨_, listed, rfl⟩, ⟨_, joined, rfl⟩, ⟨w, taken, shown⟩, -⟩ := fields
    rw [read]
    simp [ofParts?, tag, fits, Parts.required, named, listed, joined, taken, Value.string?,
      Value.array?, name.read_back.shown w shown, connective.read_encoded inner_word_string]
  | .inQuery column query connective negated => by
    intro v shows
    obtain ⟨p, read, tag, fits, fields⟩ := read_fields inner (by simp) shows
    obtain ⟨⟨_, named, rfl⟩, ⟨_, inside, rfl⟩, ⟨_, joined, rfl⟩, ⟨_, flag, rfl⟩, -⟩ := fields
    rw [read]
    simp [ofParts?, tag, fits, Parts.required, named, inside, joined, flag, Value.string?,
      Value.bool?, connective.read_encoded inner_word_string]
  | .between column connective negated name => by
    intro v shows
    obtain ⟨p, read, tag, fits, fields⟩ := read_fields inner (by simp) shows
    obtain ⟨⟨_, named, rfl⟩, ⟨_, joined, rfl⟩, ⟨_, flag, rfl⟩, ⟨w, taken, shown⟩, -⟩ := fields
    rw [read]
    simp [ofParts?, tag, fits, Parts.required, named, joined, flag, taken, Value.string?,
      Value.bool?, name.read_back.shown w shown, connective.read_encoded inner_word_string]
  | .isNull column connective name => by
    intro v shows
    obtain ⟨p, read, tag, fits, fields⟩ := read_fields inner (by simp) shows
    obtain ⟨⟨_, named, rfl⟩, ⟨_, joined, rfl⟩, ⟨w, taken, shown⟩, -⟩ := fields
    rw [read]
    simp [ofParts?, tag, fits, Parts.required, named, joined, taken, Value.string?,
      name.read_back.shown w shown, connective.read_encoded inner_word_string]
  | .notNull column connective name => by
    intro v shows
    obtain ⟨p, read, tag, fits, fields⟩ := read_fields inner (by simp) shows
    obtain ⟨⟨_, named, rfl⟩, ⟨_, joined, rfl⟩, ⟨w, taken, shown⟩, -⟩ := fields
    rw [read]
    simp [ofParts?, tag, fits, Parts.required, named, joined, taken, Value.string?,
      name.read_back.shown w shown, connective.read_encoded inner_word_string]
  | .carried column operator identifier connective => by
    intro v shows
    obtain ⟨p, read, tag, fits, fields⟩ := read_fields inner (by simp) shows
    obtain ⟨⟨_, named, rfl⟩, ⟨_, symbol, rfl⟩, ⟨_, other, rfl⟩, ⟨_, joined, rfl⟩, -⟩ := fields
    rw [read]
    simp [ofParts?, tag, fits, Parts.required, named, symbol, other, joined, Value.string?,
      connective.read_encoded inner_word_string]
  | .queryComparison column operator query connective => by
    intro v shows
    obtain ⟨p, read, tag, fits, fields⟩ := read_fields inner (by simp) shows
    obtain ⟨⟨_, named, rfl⟩, ⟨_, symbol, rfl⟩, ⟨_, inside, rfl⟩, ⟨_, joined, rfl⟩, -⟩ := fields
    rw [read]
    simp [ofParts?, tag, fits, Parts.required, named, symbol, inside, joined, Value.string?,
      connective.read_encoded inner_word_string]
  | .group conditions connective => by
    intro v shows
    obtain ⟨p, read, tag, fits, fields⟩ := read_fields inner (by simp) shows
    obtain ⟨⟨_, listed, items, inside, rfl⟩, ⟨_, joined, rfl⟩, -⟩ := fields
    have group : readGroup? (.array items) = some conditions :=
      read_all_shown conditions items inside
    rw [read]
    simp [ofParts?, tag, fits, Parts.required, listed, joined, group,
      connective.read_encoded inner_word_string]

/-- The conditions of a group. -/
theorem read_all_shown : (conditions : List Condition) → ∀ items,
    Form.ShowsItems (forms conditions) items → readAll? true items = some conditions
  | [] => by
    rintro _ rfl
    rfl
  | c :: rest => by
    rintro _ ⟨v, more, head, after, rfl⟩
    rw [readAll?, read_shown true c v head, read_all_shown rest more after]

end

/-- A condition of any depth is read back. -/
theorem read_back (c : Condition) : ReadBack encode decode? c.form c c where
  formed := form_value c
  shown := read_shown false c

end Condition
end GraphQuery
