import GraphQuery.Codec.Parts
import GraphQuery.Projection

/-! The encoded forms of aggregate requests and sort keys. -/
namespace GraphQuery

namespace AggregateRequest

def encode (r : AggregateRequest) : Value :=
  .object [("label", .ofOption (r.label.map .string)), ("function", .string r.function),
    ("columns", .ofStrings r.columns), ("percentile", .ofOption (r.percentile.map .ofBinary64))]

def decode? (v : Value) : Option AggregateRequest := do
  let p ← v.parts?
  p.fits 4
  return ⟨← p.optional "label" 0 Value.string?, ← p.required "function" 1 Value.string?,
    ← p.required "columns" 2 Value.strings?, ← p.optional "percentile" 3 Value.binary64?⟩

end AggregateRequest

def SortDirection.encode : SortDirection → Value
  | .ascending => .string "Asc"
  | .descending => .string "Desc"

def SortDirection.decode? (v : Value) : Option SortDirection :=
  match v.word? with
  | some "Asc" => some .ascending
  | some "Desc" => some .descending
  | _ => none

namespace SortKey

def encode (k : SortKey) : Value :=
  .object [("column", .string k.column), ("direction", k.direction.encode)]

def decode? (v : Value) : Option SortKey := do
  let p ← v.parts?
  p.fits 2
  return ⟨← p.required "column" 0 Value.string?, ← p.required "direction" 1 SortDirection.decode?⟩

end SortKey
end GraphQuery
