import GraphQuery.Codec.Traversal
import GraphQuery.Node
import GraphQuery.Parameter.Buckets
import GraphQuery.ResultSet

/-! The encoded forms of nodes, rows, settings and bucket names. -/
namespace GraphQuery

def Row.decode? (v : Value) : Option Row := v.object?.map .ofList

def Row.decodeAll? (v : Value) : Option (List Row) := v.array?.bind (·.mapM Row.decode?)

def Row.encodeAll (rows : List Row) : Value := .array (rows.map Row.toValue)

def Bucket.encode (b : Bucket) : Value := .string b.name

def Bucket.decode? (v : Value) : Option Bucket := v.word?.bind named?

namespace ResultSet

/-- The cursor is not encoded. -/
def encode (rs : ResultSet) : Value := .object [("rows", Row.encodeAll rs.rows)]

def decode? (v : Value) : Option ResultSet := do
  let p ← v.parts?
  p.fits 1
  return .ofRows (← p.required "rows" 0 Row.decodeAll?)

end ResultSet

namespace Node

def encode (n : Node) : Value :=
  .object [("labels", .ofStrings n.labels), ("alias", .ofOption (n.ownAlias.map .string)),
    ("key", .ofOption n.key)]

/-- A null key is no key. -/
def decode? (v : Value) : Option Node := do
  let p ← v.parts?
  p.fits 3
  return ⟨← p.required "labels" 0 Value.strings?, ← p.optional "alias" 1 Value.string?,
    ← p.optional "key" 2 some⟩

end Node

namespace RelatedNodes

def encode (r : RelatedNodes) : Value :=
  .object [("relationship", .string r.relationship), ("labels", .ofStrings r.labels),
    ("direction", r.direction.encode), ("records", Row.encodeAll r.records)]

/-- Only the direction may be missing. -/
def decode? (v : Value) : Option RelatedNodes := do
  let p ← v.parts?
  p.fits 4
  return ⟨← p.required "relationship" 0 Value.string?, ← p.required "labels" 1 Value.strings?,
    ← p.withDefault "direction" 2 Direction.decode? .outgoing,
    ← p.required "records" 3 Row.decodeAll?⟩

end RelatedNodes

namespace NewNode

def encode (n : NewNode) : Value :=
  .object [("model", n.model.toValue), ("related", .array (n.related.map RelatedNodes.encode))]

def decode? (v : Value) : Option NewNode := do
  let p ← v.parts?
  p.fits 2
  return ⟨← p.required "model" 0 Row.decode?,
    ← p.required "related" 1 fun v => v.array?.bind (·.mapM RelatedNodes.decode?)⟩

end NewNode

namespace Settings

def encode (s : Settings) : Value :=
  .object [("identity_column", .string s.identityColumn),
    ("identity_function", .string s.identityFunction),
    ("aggregate_alias", .string s.aggregateAlias),
    ("fallback_node_alias", .string s.fallbackAlias), ("update_suffix", .string s.updateSuffix)]

/-- Every field has a default. -/
def decode? (v : Value) : Option Settings := do
  let p ← v.parts?
  p.fits 5
  let text (field : String) (index : Nat) (default : String) :=
    p.withDefault field index Value.string? default
  let d : Settings := {}
  return ⟨← text "identity_column" 0 d.identityColumn,
    ← text "identity_function" 1 d.identityFunction, ← text "aggregate_alias" 2 d.aggregateAlias,
    ← text "fallback_node_alias" 3 d.fallbackAlias, ← text "update_suffix" 4 d.updateSuffix⟩

end Settings
end GraphQuery
