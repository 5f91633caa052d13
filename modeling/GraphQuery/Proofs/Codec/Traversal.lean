import GraphQuery.Codec.Traversal
import GraphQuery.Proofs.Codec.Condition

/-! Traversals are read back from what they are encoded as. -/
namespace GraphQuery

/-- A list whose members are read one by one. -/
theorem map_read {α : Type} (encode : α → Value) {read : Value → Option α}
    (each : ∀ x, read (encode x) = some x) (xs : List α) : (xs.map encode).mapM read = some xs := by
  induction xs with
  | nil => rfl
  | cons x rest ih => simp [each, ih]

theorem Value.strings_of_strings (ss : List String) : (Value.ofStrings ss).strings? = some ss :=
  map_read .string (fun _ => rfl) ss

theorem Direction.read_encoded (d : Direction) {word? : Value → Option String}
    (reads : ∀ s, word? (.string s) = some s) : read? word? d.encode = some d := by
  cases d <;> simp [read?, encode, name, reads, ofWord?]

namespace PathNode

def form (n : PathNode) : Form :=
  .keyed [("node", .data (.string n.nodeAlias)), ("labels", .data (.ofStrings n.labels))]

theorem read_back (n : PathNode) : ReadBack encode decode? n.form n n where
  formed := rfl
  shown := by
    intro v shows
    obtain ⟨p, parts, fits, ⟨_, node, rfl⟩, ⟨_, labels, rfl⟩, -⟩ := Form.shown_parts (by simp) shows
    simp [decode?, parts, fits, Parts.required, node, labels, Value.string?,
      Value.strings_of_strings]

end PathNode

namespace Traversal

def form : Traversal → Form
  | .relation property direction relationship parent related name constrained =>
    .tagged "Relation" [("property", .data (.string property)),
      ("direction", .data direction.encode), ("relationship", .data (.string relationship)),
      ("parent", parent.form), ("related", related.form), ("binding", name.form),
      ("constrained", .data (.bool constrained))]
  | .polymorphic property direction related parent name constrained =>
    .tagged "MorphTo" [("property", .data (.string property)),
      ("direction", .data direction.encode), ("related", .data (.string related)),
      ("parent", parent.form), ("binding", name.form), ("constrained", .data (.bool constrained))]

theorem read_back (t : Traversal) : ReadBack encode decode? t.form t t where
  formed := by cases t <;> rfl
  shown := by
    intro v shows
    cases t with
    | relation property direction relationship parent related name constrained =>
      obtain ⟨p, parts, tag, fits, ⟨_, asked, rfl⟩, ⟨_, towards, rfl⟩, ⟨_, typed, rfl⟩,
        ⟨from', start, first⟩, ⟨to', finish, last⟩, ⟨w, taken, shown⟩, ⟨_, flag, rfl⟩, -⟩ :=
        Form.shown_variant (by simp) shows
      simp [decode?, parts, tag, fits, Parts.required, asked, towards, typed, start, finish, taken,
        flag, Value.string?, Value.bool?, parent.read_back.shown _ first,
        related.read_back.shown _ last, name.read_back.shown w shown,
        direction.read_encoded Condition.inner_word_string]
    | polymorphic property direction related parent name constrained =>
      obtain ⟨p, parts, tag, fits, ⟨_, asked, rfl⟩, ⟨_, towards, rfl⟩, ⟨_, finish, rfl⟩,
        ⟨from', start, first⟩, ⟨w, taken, shown⟩, ⟨_, flag, rfl⟩, -⟩ :=
        Form.shown_variant (by simp) shows
      simp [decode?, parts, tag, fits, Parts.required, asked, towards, finish, start, taken, flag,
        Value.string?, Value.bool?, parent.read_back.shown _ first, name.read_back.shown w shown,
        direction.read_encoded Condition.inner_word_string]

end Traversal
end GraphQuery
