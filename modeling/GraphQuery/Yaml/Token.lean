/-! The tokens of a YAML text. -/
namespace GraphQuery.Yaml

/-- A tag says nothing about the text of a scalar, so only its handle is kept. -/
inductive Token where
  | version (major minor : Nat)
  | handle (name : String)
  | documentStart
  | documentEnd
  | blockSequence
  | blockMapping
  | blockEnd
  | flowSequence
  | flowSequenceEnd
  | flowMapping
  | flowMappingEnd
  | item
  | separator
  | key
  | value
  | reference (name : String)
  | anchor (name : String)
  | tag (handle : String)
  | scalar (isPlain : Bool) (text : String)
deriving DecidableEq

end GraphQuery.Yaml
