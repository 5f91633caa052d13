import GraphQuery.Text.Visible

/-! Why a query is refused, with one text for each cause. -/
namespace GraphQuery

/-- What keeps a statement from being written. -/
inductive CompileError where
  | nothingToInsert
  | nothingToUpdate
  | unsavedNode (labels : List String)
  | unsupported (reason : String)
  | unboundParameter (name : String)
deriving DecidableEq

/-- What the connection answers instead of rows. -/
inductive TransportError where
  | unreachable (reason : String)
  | rejected (reason : String)
  | constraintViolated (reason : String)
  | other (reason : String)
deriving DecidableEq

/-- Why a step of a query fails. -/
inductive QueryError where
  | operatorBesideNull (operator : String)
  | unknownBucket (name : String)
  | inSubQuery (cause : QueryError)
  | compile (cause : CompileError)
  | transport (cause : TransportError)
deriving DecidableEq

/-- A character that cannot be seen is shown by its code. -/
def inspectChar (c : Char) : List Char :=
  if c = '"' then ['\\', '"']
  else if c = '\\' then ['\\', '\\']
  else if c = '\n' then ['\\', 'n']
  else if c = '\r' then ['\\', 'r']
  else if c = '\t' then ['\\', 't']
  else if c.toNat = 0 then ['\\', '0']
  else if Text.isVisible c then [c]
  else '\\' :: 'u' :: '\x7b' :: Nat.toDigits 16 c.toNat ++ ['\x7d']

def inspect (s : String) : String :=
  "\"" ++ String.ofList (s.toList.flatMap inspectChar) ++ "\""

def inspectList (ls : List String) : String :=
  "[" ++ ", ".intercalate (ls.map inspect) ++ "]"

def CompileError.message : CompileError → String
  | .nothingToInsert => "Insert requires at least one record"
  | .nothingToUpdate => "Update requires at least one value"
  | .unsavedNode labels =>
    "Entity labelled " ++ inspectList labels ++ " has no identity value; save it before relating it"
  | .unsupported reason => "Cannot render value as a Cypher literal: " ++ reason
  | .unboundParameter name => "Missing required parameter: " ++ name

def TransportError.message : TransportError → String
  | .unreachable reason => "Connection failed: " ++ reason
  | .rejected reason => "Query rejected by server: " ++ reason
  | .constraintViolated reason => "Constraint violation: " ++ reason
  | .other reason => reason

def QueryError.message : QueryError → String
  | .operatorBesideNull operator =>
    "Illegal operator and value combination: '" ++ operator ++ "' cannot be compared against null"
  | .unknownBucket name =>
    "Invalid binding type: " ++ name ++ " (expected select, where, matches, join, order or having)"
  | .inSubQuery cause => "Sub-query could not be resolved: " ++ cause.message
  | .compile cause => "Failed to compile query: " ++ cause.message
  | .transport cause => cause.message

/-- Marks an error as raised inside a sub-query; one mark is enough. -/
def QueryError.insideSubQuery : QueryError → QueryError
  | .inSubQuery cause => .inSubQuery cause
  | e => .inSubQuery e

end GraphQuery
