import GraphQuery.Cypher.Reading

/-! Statements that create, change and connect nodes. -/
namespace GraphQuery

/-- A created relationship has one direction: either way is written outgoing. -/
def Direction.created : Direction → Direction
  | incoming => incoming
  | outgoing | either => outgoing

/-- The records of all related nodes in order, each with the entry it belongs to. -/
def NewNode.records (new : NewNode) : List (RelatedNodes × Row) :=
  new.related.flatMap fun r => r.records.map (r, ·)

/-- Each record takes the first form of its base that is still free. -/
def relatedAliases (taken : List String) : List String → List String
  | [] => []
  | base :: rest =>
    let free := ParameterName.unused taken base
    free :: relatedAliases (free :: taken) rest

namespace Query

/-- The node of the row at `index`; its alias counts from one. -/
def insertedNode (q : Query) (s : Settings) (index : Nat) (row : Row) (names : List ParameterName) :
    NodePattern where
  nodeAlias := (ParameterName.of (q.targetAlias s) (index + 1)).render
  labels := q.label.toList
  properties := parameterProperties row names

def insertedNodes (q : Query) (s : Settings) (rows : List Row) : List NodePattern :=
  (rows.zip (rowNames rows)).mapIdx fun index p => q.insertedNode s index p.1 p.2

def insert (q : Query) (s : Settings) (rows : List Row) : Except CompileError Template :=
  if rows.isEmpty then .error .nothingToInsert
  else
    let nodes := q.insertedNodes s rows
    .ok (.text "CREATE " :: Template.joined ", " (nodes.map NodePattern.template) ++
      [.text (" RETURN " ++ ", ".intercalate (nodes.map NodePattern.nodeAlias))])

/-- Returns the node's identity, or the property called `sequence` where one is named. -/
def insertReturning (q : Query) (s : Settings) (row : Row) (sequence : Option String) : Template :=
  let target := q.targetAlias s
  let node : NodePattern :=
    { nodeAlias := target, labels := q.label.toList
      properties := parameterProperties row (rowNames [row]).flatten }
  let returned := match sequence with
    | some name => target ++ "." ++ Identifier.quote name ++ " AS " ++ Identifier.quote name
    | none => s.accessor target ++ " AS " ++ Identifier.quote s.identityColumn
  .text "CREATE " :: node.template ++ [.text (" RETURN " ++ returned)]

def update (q : Query) (s : Settings) (values : Row) : Except CompileError Template :=
  if values.isEmpty then .error .nothingToUpdate
  else
    let target := q.targetAlias s
    let assignments := List.zipWith
      (fun key (name : ParameterName) =>
        [Part.text (s.column target key ++ " = "), .parameter name.render])
      values.keys (q.updateNames s values)
    .ok (q.reading s ++ .text " SET " :: Template.joined ", " assignments ++
      [.text (" RETURN count(" ++ target ++ ") AS updated")])

/-- The aliases of the related records of a new node. -/
def createdAliases (q : Query) (s : Settings) (new : NewNode) : List String :=
  relatedAliases [q.targetAlias s] (new.records.map fun p => s.nodeAlias p.1.labels)

def createdPatterns (q : Query) (s : Settings) (new : NewNode) : List Pattern :=
  let target := q.targetAlias s
  let model : NodePattern :=
    { nodeAlias := target, labels := q.label.toList, properties := literalProperties new.model }
  .node model ::
    List.zipWith
      (fun (p : RelatedNodes × Row) node =>
        .path (.bound target) (.typed "" p.1.relationship []) p.1.direction.created
          { nodeAlias := node, labels := p.1.labels, properties := literalProperties p.2 })
      new.records (q.createdAliases s new)

/-- Creates the node and every node related to it, with the values written out. -/
def create (q : Query) (s : Settings) (new : NewNode) : Template :=
  .text "CREATE " :: Template.joined ", " ((q.createdPatterns s new).map Pattern.template) ++
    [.text (" RETURN " ++ ", ".intercalate (q.targetAlias s :: q.createdAliases s new))]

end Query

namespace Node

/-- The literal of a node's identity; null identifies nothing. -/
def identity (n : Node) : Except CompileError String :=
  match n.key with
  | none | some .null => .error (.unsavedNode n.labels)
  | some key => .ok key.literal

/-- Connects two stored nodes. The aliases of both and of the relationship are kept apart. -/
def connect (s : Settings) (parent related : Node) (relationship : String) (properties : Row) :
    Except CompileError Template := do
  let parentKey ← identity parent
  let relatedKey ← identity related
  let parentAlias := ParameterName.unused [] (parent.aliasIn s)
  let relatedAlias := ParameterName.unused [parentAlias] (related.aliasIn s)
  let edgeAlias := ParameterName.unused [relatedAlias, parentAlias] "rel"
  let ends := [Pattern.node { nodeAlias := parentAlias, labels := parent.labels },
    .node { nodeAlias := relatedAlias, labels := related.labels }]
  let edge := Pattern.path (.bound parentAlias)
    (.typed edgeAlias relationship
      (parameterProperties properties (Query.rowNames [properties]).flatten))
    .outgoing (.bound relatedAlias)
  return .text "MATCH " :: Template.joined ", " (ends.map Pattern.template) ++
    .text (" WHERE " ++ s.accessor parentAlias ++ " = " ++ parentKey ++
      " AND " ++ s.accessor relatedAlias ++ " = " ++ relatedKey ++ " CREATE ") ::
    edge.template ++ [.text (" RETURN " ++ edgeAlias)]

end Node
end GraphQuery
