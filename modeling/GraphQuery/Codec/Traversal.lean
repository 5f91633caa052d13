import GraphQuery.Codec.Condition
import GraphQuery.Traversal

/-! The encoded forms of traversals. -/
namespace GraphQuery

def Direction.encode (d : Direction) : Value := .string d.name

def Direction.ofWord? : String → Option Direction
  | "out" => some .outgoing
  | "in" => some .incoming
  | "in-out" => some .either
  | _ => none

def Direction.read? (word? : Value → Option String) (v : Value) : Option Direction :=
  (word? v).bind ofWord?

def Direction.decode? (v : Value) : Option Direction := read? Value.word? v

namespace PathNode

def encode (n : PathNode) : Value :=
  .object [("node", .string n.nodeAlias), ("labels", .ofStrings n.labels)]

def decode? (v : Value) : Option PathNode := do
  let p ← v.parts?
  p.fits 2
  return ⟨← p.required "node" 0 Value.string?, ← p.required "labels" 1 Value.strings?⟩

end PathNode

namespace Traversal

def encode : Traversal → Value
  | .relation property direction relationship parent related name constrained =>
    Value.tagged "Relation" [("property", .string property), ("direction", direction.encode),
      ("relationship", .string relationship), ("parent", parent.encode),
      ("related", related.encode), ("binding", name.encode), ("constrained", .bool constrained)]
  | .polymorphic property direction related parent name constrained =>
    Value.tagged "MorphTo" [("property", .string property), ("direction", direction.encode),
      ("related", .string related), ("parent", parent.encode), ("binding", name.encode),
      ("constrained", .bool constrained)]

def decode? (v : Value) : Option Traversal := do
  let (type, p) ← (← v.parts?).tagged? "type" Value.string?
  let text (field : String) (index : Nat) := p.required field index Value.string?
  let direction ← p.required "direction" 1 (Direction.read? Value.innerWord?)
  match type with
  | "Relation" =>
    p.fits 7
    return .relation (← text "property" 0) direction (← text "relationship" 2)
      (← p.required "parent" 3 PathNode.decode?) (← p.required "related" 4 PathNode.decode?)
      (← p.required "binding" 5 ParameterName.decode?) (← p.required "constrained" 6 Value.bool?)
  | "MorphTo" =>
    p.fits 6
    return .polymorphic (← text "property" 0) direction (← text "related" 2)
      (← p.required "parent" 3 PathNode.decode?) (← p.required "binding" 4 ParameterName.decode?)
      (← p.required "constrained" 5 Value.bool?)
  | _ => none

end Traversal
end GraphQuery
