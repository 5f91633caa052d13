import GraphQuery.Identifier
import GraphQuery.Value.Json

/-! Values written as Cypher literals. -/
namespace GraphQuery.Literal

def escapeChar (c : Char) : List Char :=
  if c = '\\' then ['\\', '\\']
  else if c = '\x27' then ['\\', '\x27']
  else if c = '\n' then ['\\', 'n']
  else if c = '\r' then ['\\', 'r']
  else if c = '\t' then ['\\', 't']
  else [c]

def quoted (s : String) : List Char :=
  '\x27' :: s.toList.flatMap escapeChar ++ ['\x27']

mutual

def chars : Value → List Char
  | .null => "null".toList
  | .bool b => (if b then "true" else "false").toList
  | .number n => n.chars
  | .string s => quoted s
  | .array items => '[' :: itemChars items ++ [']']
  | .object fields => '{' :: fieldChars fields ++ ['}']

def itemChars : List Value → List Char
  | [] => []
  | [v] => chars v
  | v :: rest => chars v ++ ',' :: ' ' :: itemChars rest

def fieldChars : List (String × Value) → List Char
  | [] => []
  | [(k, v)] => Identifier.quoteChars k.toList ++ ':' :: ' ' :: chars v
  | (k, v) :: rest =>
    Identifier.quoteChars k.toList ++ ':' :: ' ' :: chars v ++ ',' :: ' ' :: fieldChars rest

end

end GraphQuery.Literal

namespace GraphQuery

def Value.literal (v : Value) : String := String.ofList (Literal.chars v)

end GraphQuery
