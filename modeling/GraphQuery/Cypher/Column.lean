import GraphQuery.Settings.Basic
import GraphQuery.Text.Blank

/-! Columns in query text. -/
namespace GraphQuery

/-- Splits at the first point; without one the property belongs to `target`. -/
def splitNode (target : String) (column : List Char) : String × String :=
  match column.dropWhile (· ≠ '.') with
  | [] => (target, String.ofList column)
  | _ :: property => (String.ofList (column.takeWhile (· ≠ '.')), String.ofList property)

/-- A column read against a node: an expression with a parenthesis stands as it is, `*` is the node,
the identity column is read through its accessor, `node.property` names another node. -/
def Settings.column (s : Settings) (target column : String) : String :=
  let cs := Text.trimChars column.toList
  if cs.contains '(' then String.ofList cs
  else if cs = ['*'] then target
  else
    let (node, property) := splitNode target cs
    if property = s.identityColumn then s.accessor node
    else node ++ "." ++ Identifier.quote property

/-- The unquoted name under which a projected column comes back. -/
def resultName (column : String) : String :=
  if column.toList.contains '(' then Identifier.parameterForm column
  else Identifier.lastSegment column

def Settings.projectedColumn (s : Settings) (target column : String) : String :=
  if column = "*" then target
  else s.column target column ++ " AS " ++ Identifier.quote (resultName column)

/-- No columns, or nothing but `*`, is the node itself. -/
def Settings.projection (s : Settings) (target : String) (columns : Option (List String)) :
    String :=
  let columns := columns.getD []
  if columns.all (· = "*") then target
  else ", ".intercalate (columns.map (s.projectedColumn target))

end GraphQuery
