import GraphQuery.Parameter.Buckets
import GraphQuery.Recorder
import GraphQuery.Traversal

/-! What a step reports while it runs. -/
namespace GraphQuery

inductive Level where
  | error
  | warn
  | debug
  | trace
deriving DecidableEq

namespace Level

/-- A higher rank is more verbose. -/
def rank : Level → Nat
  | .error => 0
  | .warn => 1
  | .debug => 2
  | .trace => 3

def name : Level → String
  | .error => "ERROR"
  | .warn => "WARN"
  | .debug => "DEBUG"
  | .trace => "TRACE"

end Level

/-- What can be reported, with the data of its message. -/
inductive Notice where
  | unknownOperator (column operator : String)
  | comparedRaw (column operator expression : String)
  | comparedBound (column operator : String) (name : ParameterName)
  | stored (bucket : Bucket) (key : String)
  | traversed (traversal : Traversal)
  | unlistedAggregate (function : String)
  | sent (statement : Statement)
  | inlined (kind : CallKind) (text : String)
  | notInlined (kind : CallKind) (cause : CompileError)
  | recorded (statement : Statement)

namespace Notice

def level : Notice → Level
  | .unknownOperator .. => .warn
  | .unlistedAggregate .. | .sent .. => .debug
  | .comparedRaw .. | .comparedBound .. | .stored .. | .traversed .. | .inlined ..
  | .notInlined .. | .recorded .. => .trace

def message : Notice → String
  | .unknownOperator column operator =>
    "where(" ++ column ++ "): '" ++ operator ++
      "' is not an operator, comparing with '=' against it"
  | .comparedRaw column operator expression =>
    "where " ++ column ++ " " ++ operator ++ " " ++ expression ++ " (raw)"
  | .comparedBound column operator name =>
    "where " ++ column ++ " " ++ operator ++ " $" ++ name.render
  | .stored bucket key => "binding " ++ bucket.name ++ "." ++ key
  | .traversed (.relation _ direction relationship parent related _ _) =>
    "match (" ++ parent.nodeAlias ++ ")-[" ++ direction.name ++ ":" ++ relationship ++ "]-(" ++
      related.nodeAlias ++ ")"
  | .traversed (.polymorphic _ direction related parent _ _) =>
    "match (" ++ parent.nodeAlias ++ ")-[" ++ direction.name ++ "]-(" ++ related ++ ") polymorphic"
  | .unlistedAggregate function =>
    "aggregate '" ++ function ++ "' has no mapping, passing it through"
  | .sent s =>
    s.kind.word ++ ": " ++ s.text ++ " -- bindings: " ++ (Row.toValue s.parameters).json
  | .inlined kind text => kind.word ++ " (inlined): " ++ text
  | .notInlined kind cause => kind.word ++ ": could not inline bindings: " ++ cause.message
  | .recorded s => "RecordingConnection: " ++ s.kind.name ++ " " ++ s.text

/-- As many as are wanted at a level. -/
def upTo (level : Level) (notices : List Notice) : List Notice :=
  notices.filter fun n => n.level.rank ≤ level.rank

/-- The level, then the message. -/
def line (n : Notice) : String := n.level.name ++ " " ++ n.message

/-- Binding a value reports the key it is stored under. -/
def bound (bucket : Bucket) (name : ParameterName) : Notice :=
  .stored bucket (Identifier.lastSegment name.render)

/-- Adding a value reports each key of its own; a value without one reports nothing. -/
def ofAdded (bucket : Bucket) : Value → List Notice
  | .object fields => fields.map fun e => .stored bucket (Identifier.lastSegment e.1)
  | _ => []

end Notice
end GraphQuery
