import GraphQuery.Codec.Node
import GraphQuery.Codec.Projection
import GraphQuery.Proofs.Codec.Traversal
import GraphQuery.Proofs.Record.Merge

/-! Everything that a query is made of is read back from what it is encoded as. -/
namespace GraphQuery

namespace Row

theorem read_value (r : Row) : decode? r.toValue = some r := by
  have entries : (Record.ofList r.entries).entries = r.entries :=
    Record.insert_all_new r.distinct fun key _ => List.not_mem_nil
  exact congrArg some (Record.eq_of_entries entries)

theorem read_encoded (rows : List Row) : decodeAll? (encodeAll rows) = some rows :=
  map_read toValue read_value rows

end Row

namespace SortKey

def form (k : SortKey) : Form :=
  .keyed [("column", .data (.string k.column)), ("direction", .data k.direction.encode)]

theorem read_back (k : SortKey) : ReadBack encode decode? k.form k k where
  formed := rfl
  shown := by
    intro v shows
    obtain ⟨p, parts, fits, ⟨_, column, rfl⟩, ⟨_, direction, rfl⟩, -⟩ :=
      Form.shown_parts (by simp) shows
    have read : SortDirection.decode? k.direction.encode = some k.direction := by
      cases k.direction <;> rfl
    simp [decode?, parts, fits, Parts.required, column, direction, Value.string?, read]

end SortKey

/-- An optional field holds null, or something else that is read. -/
theorem optional_read {α : Type} {p : Parts Value} {key : String} {x : Option α}
    {encode : α → Value} {read : Value → Option α} {index : Nat}
    (found : ∀ index, p.find? key index = some (.ofOption (x.map encode)))
    (reads : ∀ y, x = some y → encode y ≠ .null ∧ read (encode y) = some y) :
    p.optional key index read = some x := by
  have here := found index
  cases x with
  | none => simp [Parts.optional, here, Value.ofOption]
  | some y =>
    obtain ⟨given, same⟩ := reads y rfl
    have value : p.find? key index = some (encode y) := here
    unfold Parts.optional
    rw [value]
    cases shape : encode y with
    | null => exact absurd shape given
    | _ =>
      rw [shape] at same
      simp [same]

namespace AggregateRequest

def form (r : AggregateRequest) : Form :=
  .keyed [("label", .data (.ofOption (r.label.map .string))),
    ("function", .data (.string r.function)), ("columns", .data (.ofStrings r.columns)),
    ("percentile", .data (.ofOption (r.percentile.map .ofBinary64)))]

theorem read_back (r : AggregateRequest)
    (finite : ∀ p, r.percentile = some p → ∃ x, p = .finite x) :
    ReadBack encode decode? r.form r r where
  formed := rfl
  shown := by
    intro v shows
    obtain ⟨p, parts, fits, ⟨_, label, rfl⟩, ⟨_, function, rfl⟩, ⟨_, columns, rfl⟩,
      ⟨_, percentile, rfl⟩, -⟩ := Form.shown_parts (by simp) shows
    have named : p.optional "label" 0 Value.string? = some r.label :=
      optional_read label fun _ _ => ⟨by simp, rfl⟩
    have rank : p.optional "percentile" 3 Value.binary64? = some r.percentile := by
      refine optional_read percentile fun y same => ?_
      obtain ⟨x, rfl⟩ := finite y same
      exact ⟨by simp [Value.ofBinary64], rfl⟩
    simp [decode?, parts, fits, Parts.required, named, function, columns, rank, Value.string?,
      Value.strings_of_strings]

end AggregateRequest

namespace Node

def form (n : Node) : Form :=
  .keyed [("labels", .data (.ofStrings n.labels)),
    ("alias", .data (.ofOption (n.ownAlias.map .string))), ("key", .data (.ofOption n.key))]

theorem read_back (n : Node) (identified : n.key ≠ some .null) :
    ReadBack encode decode? n.form n n where
  formed := rfl
  shown := by
    intro v shows
    obtain ⟨p, parts, fits, ⟨_, labels, rfl⟩, ⟨_, own, rfl⟩, ⟨_, key, rfl⟩, -⟩ :=
      Form.shown_parts (by simp) shows
    have named : p.optional "alias" 1 Value.string? = some n.ownAlias :=
      optional_read own fun _ _ => ⟨by simp, rfl⟩
    have stored : p.optional "key" 2 some = some n.key := by
      have same : ∀ index, p.find? "key" index = some (.ofOption (n.key.map id)) := by
        simpa using key
      refine optional_read same fun y given => ⟨?_, rfl⟩
      exact fun null => identified (given.trans (congrArg some null))
    simp [decode?, parts, fits, Parts.required, labels, named, stored, Value.strings_of_strings]

end Node

namespace RelatedNodes

def form (r : RelatedNodes) : Form :=
  .keyed [("relationship", .data (.string r.relationship)), ("labels", .data (.ofStrings r.labels)),
    ("direction", .data r.direction.encode), ("records", .data (Row.encodeAll r.records))]

theorem read_back (r : RelatedNodes) : ReadBack encode decode? r.form r r where
  formed := rfl
  shown := by
    intro v shows
    obtain ⟨p, parts, fits, ⟨_, relationship, rfl⟩, ⟨_, labels, rfl⟩, ⟨_, direction, rfl⟩,
      ⟨_, records, rfl⟩, -⟩ := Form.shown_parts (by simp) shows
    have towards : Direction.decode? r.direction.encode = some r.direction :=
      r.direction.read_encoded fun _ => rfl
    simp [decode?, parts, fits, Parts.required, Parts.withDefault, relationship, labels, direction,
      records, towards, Value.string?, Value.strings_of_strings, Row.read_encoded]

end RelatedNodes

namespace NewNode

def form (n : NewNode) : Form :=
  .keyed [("model", .data n.model.toValue), ("related", .list (n.related.map RelatedNodes.form))]

theorem read_back (n : NewNode) : ReadBack encode decode? n.form n n where
  formed := by
    have items : Form.valueItems (n.related.map RelatedNodes.form) =
        n.related.map RelatedNodes.encode := by
      induction n.related with
      | nil => rfl
      | cons r rest ih => exact congrArg (r.encode :: ·) ih
    simp only [form, Form.value, Form.valueFields, items, encode]
  shown := by
    intro v shows
    obtain ⟨p, parts, fits, ⟨_, model, rfl⟩, ⟨_, related, items, inside, rfl⟩, -⟩ :=
      Form.shown_parts (by simp) shows
    have read := Form.items_read (fun r _ => (RelatedNodes.read_back r).shown) inside
    simp [decode?, parts, fits, Parts.required, model, related, Row.read_value, Value.array?, read]

end NewNode

namespace Settings

def form (s : Settings) : Form :=
  .keyed [("identity_column", .data (.string s.identityColumn)),
    ("identity_function", .data (.string s.identityFunction)),
    ("aggregate_alias", .data (.string s.aggregateAlias)),
    ("fallback_node_alias", .data (.string s.fallbackAlias)),
    ("update_suffix", .data (.string s.updateSuffix))]

theorem read_back (s : Settings) : ReadBack encode decode? s.form s s where
  formed := rfl
  shown := by
    intro v shows
    obtain ⟨p, parts, fits, ⟨_, column, rfl⟩, ⟨_, function, rfl⟩, ⟨_, aggregate, rfl⟩,
      ⟨_, fallback, rfl⟩, ⟨_, suffix, rfl⟩, -⟩ := Form.shown_parts (by simp) shows
    simp [decode?, parts, fits, Parts.withDefault, column, function, aggregate, fallback, suffix,
      Value.string?]

end Settings

namespace ResultSet

def form (rs : ResultSet) : Form := .keyed [("rows", .data (Row.encodeAll rs.rows))]

/-- The rows are read back, and the cursor stands on the first of them. -/
theorem read_back (rs : ResultSet) : ReadBack encode decode? rs.form rs ⟨rs.rows, 0⟩ where
  formed := rfl
  shown := by
    intro v shows
    obtain ⟨p, parts, fits, ⟨_, rows, rfl⟩, -⟩ := Form.shown_parts (by simp) shows
    simp [decode?, parts, fits, Parts.required, rows, Row.read_encoded, ofRows]

end ResultSet

/-- Every part of a query is read back from what it is encoded as, and from every value that differs
from it only in the order of the keys of its structures and in keys that are unknown there. Of a
result set the rows come back, and the cursor stands on the first of them. -/
theorem encoded_read_back :
    (∀ c : Condition, ReadBack Condition.encode Condition.decode? c.form c c) ∧
    (∀ t : Traversal, ReadBack Traversal.encode Traversal.decode? t.form t t) ∧
    (∀ c : Comparand, ReadBack Comparand.encode Comparand.decode? c.form c c) ∧
    (∀ n : ParameterName, ReadBack ParameterName.encode ParameterName.decode? n.form n n) ∧
    (∀ k : SortKey, ReadBack SortKey.encode SortKey.decode? k.form k k) ∧
    (∀ r : AggregateRequest, (∀ p, r.percentile = some p → ∃ x, p = .finite x) →
      ReadBack AggregateRequest.encode AggregateRequest.decode? r.form r r) ∧
    (∀ r : RelatedNodes, ReadBack RelatedNodes.encode RelatedNodes.decode? r.form r r) ∧
    (∀ n : NewNode, ReadBack NewNode.encode NewNode.decode? n.form n n) ∧
    (∀ s : Settings, ReadBack Settings.encode Settings.decode? s.form s s) ∧
    (∀ n : Node, n.key ≠ some .null → ReadBack Node.encode Node.decode? n.form n n) ∧
    (∀ rs : ResultSet,
      ReadBack ResultSet.encode ResultSet.decode? rs.form rs ⟨rs.rows, 0⟩) := by
  refine ⟨Condition.read_back, Traversal.read_back, Comparand.read_back, ParameterName.read_back,
    SortKey.read_back, AggregateRequest.read_back, RelatedNodes.read_back, NewNode.read_back,
    Settings.read_back, Node.read_back, ResultSet.read_back⟩

/-- A group around one comparison. -/
def adults : Condition :=
  .group [.comparison "age" ">" (.bound (.nat 17)) .and ⟨"age", 2⟩] .or

/-- Keys the other way round, and others between them. -/
def turnedName : Value := .object [("occurrence", .nat 2), ("base", .string "age")]

def turnedValue : Value :=
  .object [("value", .nat 17), ("by", .nat 1), ("kind", .string "bound")]

def turnedAge : Value :=
  .object [("binding", turnedName), ("boolean", .string "and"), ("note", .null),
    ("value", turnedValue), ("operator", .string ">"), ("column", .string "age"),
    ("type", .string "Basic")]

def turnedAdults : Value :=
  .object [("boolean", .string "or"), ("clauses", .array [turnedAge]), ("query", .string ""),
    ("type", .string "Nested")]

theorem shows_turned_adults : adults.form.Shows turnedAdults := by
  have name : (ParameterName.form ⟨"age", 2⟩).Shows turnedName :=
    ⟨[("base", .string "age"), ("occurrence", .nat 2)], [], _,
      ⟨_, _, rfl, ⟨_, _, rfl, rfl, rfl⟩, rfl⟩, by decide, by decide +kernel, rfl⟩
  have value : (Comparand.form (.bound (.nat 17))).Shows turnedValue :=
    ⟨[("kind", .string "bound"), ("value", .nat 17)], [("by", .nat 1)], _,
      ⟨_, _, rfl, ⟨_, _, rfl, rfl, rfl⟩, rfl⟩, by decide, by decide +kernel, rfl⟩
  have age : (Condition.comparison "age" ">" (.bound (.nat 17)) .and ⟨"age", 2⟩).form.Shows
      turnedAge :=
    ⟨[("type", .string "Basic"), ("column", .string "age"), ("operator", .string ">"),
        ("value", turnedValue), ("boolean", .string "and"), ("binding", turnedName)],
      [("note", .null)], _,
      ⟨_, _, rfl, ⟨_, _, rfl, ⟨_, _, rfl, ⟨_, _, value, ⟨_, _, rfl, ⟨_, _, name, rfl, rfl⟩, rfl⟩,
        rfl⟩, rfl⟩, rfl⟩, rfl⟩,
      by decide, by decide +kernel, rfl⟩
  exact ⟨[("type", .string "Nested"), ("clauses", .array [turnedAge]), ("boolean", .string "or")],
    [("query", .string "")], _,
    ⟨_, _, rfl, ⟨_, _, ⟨_, ⟨_, _, age, rfl, rfl⟩, rfl⟩, ⟨_, _, rfl, rfl, rfl⟩, rfl⟩, rfl⟩,
    by decide, by decide +kernel, rfl⟩

/-- One half, the percentile of the median. -/
def half : Decimal.Finite := ⟨false, Nat.pow 2 52, 1021, by decide, by decide, .inr (by decide)⟩

def median : AggregateRequest := ⟨none, "percentileCont", ["person.age"], some (.finite half)⟩

def turnedMedian : Value :=
  .object [("percentile", .ofBinary64 (.finite half)), ("exact", .bool true),
    ("columns", .array [.string "person.age"]), ("label", .null),
    ("function", .string "percentileCont")]

theorem shows_turned_median : median.form.Shows turnedMedian :=
  ⟨[("label", .null), ("function", .string "percentileCont"),
      ("columns", .array [.string "person.age"]), ("percentile", .ofBinary64 (.finite half))],
    [("exact", .bool true)], _,
    ⟨_, _, rfl, ⟨_, _, rfl, ⟨_, _, rfl, ⟨_, _, rfl, rfl, rfl⟩, rfl⟩, rfl⟩, rfl⟩,
    by decide, by decide +kernel, rfl⟩

/-- Two rows, of which the second has been reached. -/
def reached : ResultSet :=
  ⟨[⟨[("name", .string "Ann"), ("age", .nat 30)], by decide⟩,
    ⟨[("name", .string "Bea")], by decide⟩], 1⟩

def turnedReached : Value :=
  .object [("position", .nat 1),
    ("rows", .array [.object [("name", .string "Ann"), ("age", .nat 30)],
      .object [("name", .string "Bea")]])]

theorem shows_turned_reached : reached.form.Shows turnedReached :=
  ⟨[("rows", Row.encodeAll reached.rows)], [("position", .nat 1)], _, ⟨_, _, rfl, rfl, rfl⟩,
    by decide, by decide +kernel, rfl⟩

theorem turned_adults_read :
    (Condition.decode? adults.encode = some adults ∧
      Condition.decode? turnedAdults = some adults ∧ turnedAdults ≠ adults.encode) ∧
    (AggregateRequest.decode? median.encode = some median ∧
      AggregateRequest.decode? turnedMedian = some median ∧ turnedMedian ≠ median.encode) ∧
    (ResultSet.decode? reached.encode = some ⟨reached.rows, 0⟩ ∧
      ResultSet.decode? turnedReached = some ⟨reached.rows, 0⟩ ∧
      turnedReached ≠ reached.encode) := by
  obtain ⟨conditions, -, -, -, -, requests, -, -, -, -, sets⟩ := encoded_read_back
  have finite : ∀ p, median.percentile = some p → ∃ x, p = .finite x := by
    rintro p ⟨⟩
    exact ⟨half, rfl⟩
  have condition := conditions adults
  have request := requests median finite
  have set := sets reached
  refine ⟨⟨condition.encoded, condition.shown _ shows_turned_adults, by decide +kernel⟩,
    ⟨request.encoded, request.shown _ shows_turned_median, by decide +kernel⟩,
    ⟨set.encoded, set.shown _ shows_turned_reached, by decide +kernel⟩⟩

end GraphQuery
