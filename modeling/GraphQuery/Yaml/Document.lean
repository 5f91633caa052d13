import GraphQuery.Yaml.Node
import GraphQuery.Yaml.Token.Lexer

/-! A YAML text as one document, and as the fields of its mapping. -/
namespace GraphQuery.Yaml

/-- The directives before a document: one version at most, and each handle once. -/
def directives? (version : Bool) (handles : List String) :
    List Token → Option (List String × List Token)
  | .version major minor :: ts =>
    if version || major ≠ 1 || (minor ≠ 1 && minor ≠ 2) then none else directives? true handles ts
  | .handle name :: ts =>
    if handles.contains name then none else directives? version (name :: handles) ts
  | ts => some (handles, ts)

/-- What stands between the marks of a document. A document with directives needs the first mark,
and only its end may follow it. -/
def Node.ofTokens? (ts : List Token) : Option Node := do
  let (handles, rest) ← directives? false [] ts
  let isMarked := rest.head? = some .documentStart
  if !isMarked && rest.length ≠ ts.length then none
  let body := if isMarked then rest.drop 1 else rest
  let isEmpty := isMarked && (body.isEmpty || body.head? = some .documentEnd)
  let (root, left) ←
    if isEmpty then pure (.empty, ⟨body, [], []⟩)
    else Builder.node true false (4 * body.length + 4) ⟨body, [], "" :: "!" :: "!!" :: handles⟩
  if left.rest.all (· = .documentEnd) then some root else none

/-- The one document of a text, which may be missing. -/
def document? (text : String) : Option (Option Node) := do
  let ts ← Token.ofText? text
  if ts.isEmpty then some none else (Node.ofTokens? ts).map some

/-- The entries of a document that is a mapping: the text of each key, and that of its value if the
value has one. An empty document has no entries. -/
def fields? (text : String) : Option (List (String × Option String)) := do
  match ← document? text with
  | none => some []
  | some root =>
    match root with
    | .mapping _ entries =>
      entries.mapM fun (k, v) => do
        return (← (← root.resolve k).text?, (root.resolve v).bind Node.text?)
    | .scalar _ isPlain text => if isPlain && text.isEmpty then some [] else none
    | _ => none

end GraphQuery.Yaml
