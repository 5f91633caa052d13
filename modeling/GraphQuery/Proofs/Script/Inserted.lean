import GraphQuery.Proofs.Parameter.Rows
import GraphQuery.Proofs.Record.Sorted
import GraphQuery.Proofs.Script.Update

/-! The text of an insert asks for each cell by the name that the cell is sent under. -/
namespace GraphQuery

/-- Keys without their paths, each with the parameter in its place; nothing for an empty row. -/
def Record.cellText (row : Row) (names : List String) : String :=
  if row.isEmpty then ""
  else " \x7b" ++ ", ".intercalate (List.zipWith
    (fun key name => Identifier.quote (Identifier.lastSegment key) ++ ": $" ++ name)
    row.keys names) ++ "\x7d"

/-- A node with the cells of a row. -/
def Record.nodeText (row : Row) (nodeAlias : String) (labels names : List String) : String :=
  "(" ++ nodeAlias ++ Identifier.labels labels ++ row.cellText names ++ ")"

open Template (render render_append render_text_cons render_parameter render_joined render_single)

theorem render_properties {row : Row} {names : List ParameterName}
    (fits : names.length = row.entries.length) :
    render (Properties.suffix (parameterProperties row names)) =
      row.cellText (names.map ParameterName.render) := by
  have count : (parameterProperties row names).length = row.entries.length := by
    simp [parameterProperties, Record.keys, fits]
  have bare : (parameterProperties row names).isEmpty = row.isEmpty := by
    rw [Bool.eq_iff_iff, List.isEmpty_iff_length_eq_zero, Record.isEmpty,
      List.isEmpty_iff_length_eq_zero, count]
  have cell (key : String) (name : ParameterName) :
      render (.text (Identifier.quote (Identifier.lastSegment key) ++ ": ") ::
          [.parameter name.render]) =
        Identifier.quote (Identifier.lastSegment key) ++ ": $" ++ name.render := by
    rw [render_text_cons, render_parameter, String.append_assoc, String.append_assoc]
    rfl
  rw [Properties.suffix, Record.cellText, bare]
  split
  · rfl
  · rw [render_text_cons, Properties.template, List.cons_append, render_text_cons, render_append,
      render_joined, render_single, List.map_map, parameterProperties, List.map_zipWith,
      List.zipWith_map_right]
    simp only [Function.comp_apply, cell, String.append_assoc]
    rfl

theorem render_node {row : Row} {names : List ParameterName}
    (fits : names.length = row.entries.length) (nodeAlias : String) (labels : List String) :
    render (NodePattern.template ⟨nodeAlias, labels, parameterProperties row names⟩) =
      row.nodeText nodeAlias labels (names.map ParameterName.render) := by
  rw [NodePattern.template, List.cons_append, render_text_cons, render_append,
    render_properties fits, render_single, ← String.append_assoc]
  rfl

namespace Query

variable (q : Query) (s : Settings)

/-- The alias of the node at an index. -/
def insertedAlias (index : Nat) : String :=
  (ParameterName.of (q.targetAlias s) (index + 1)).render

theorem inserted_texts (rows : List Row) :
    (q.insertedNodes s rows).map (render ∘ NodePattern.template) =
      (rows.zip (cellNames rows)).mapIdx fun index p =>
        p.1.nodeText (q.insertedAlias s index) q.label.toList p.2 := by
  apply List.ext_getElem?
  intro index
  simp only [insertedNodes, cellNames, List.zip_map_right, List.getElem?_map, List.getElem?_mapIdx]
  cases here : (rows.zip (rowNames rows))[index]? with
  | none => rfl
  | some p =>
    have fit := List.forall₂_zip (row_names_from_fit [] rows) (List.mem_of_getElem? here)
    exact congrArg some (render_node fit _ _)

theorem inserted_aliases (rows : List Row) :
    (q.insertedNodes s rows).map NodePattern.nodeAlias =
      rows.mapIdx fun index _ => q.insertedAlias s index := by
  have count : rows.length = (rowNames rows).length := (row_names_from_fit [] rows).length_eq
  apply List.ext_getElem
  · simp [insertedNodes, count]
  · intro index _ _
    rw [List.getElem_map, List.getElem_mapIdx]
    simp only [insertedNodes, List.getElem_mapIdx]
    rfl

theorem insert_written {rows : List Row} (given : rows ≠ []) :
    (q.insert s rows).map render = .ok ("CREATE " ++
      ", ".intercalate ((rows.zip (cellNames rows)).mapIdx fun index p =>
        p.1.nodeText (q.insertedAlias s index) q.label.toList p.2) ++
      (" RETURN " ++ ", ".intercalate (rows.mapIdx fun index _ => q.insertedAlias s index))) := by
  have full : ¬ rows.isEmpty := by rwa [List.isEmpty_iff]
  rw [insert, if_neg full, Except.map, ← inserted_texts, ← inserted_aliases, List.cons_append,
    render_text_cons, render_append, render_joined, render_single, List.map_map,
    String.append_assoc]

theorem names_of_row (row : Row) : (rowNames [row]).flatten =
    ParameterName.nextAll [] (row.keys.map Identifier.parameterBase) := List.append_nil _

theorem cells_of_row (row : Row) :
    (cellNames [row]).flatten = (rowNames [row]).flatten.map ParameterName.render := by
  rw [cellNames, List.map_flatten]

theorem row_fits (row : Row) : (rowNames [row]).flatten.length = row.entries.length :=
  (length_of_fitting (row_names_from_fit [] [row])).trans
    (congrArg List.length (List.append_nil _))

theorem insert_returning_written (row : Row) (sequence : Option String) :
    (q.insertReturning s row sequence).render = "CREATE " ++
      row.nodeText (q.targetAlias s) q.label.toList (cellNames [row]).flatten ++
      (" RETURN " ++ match sequence with
        | some name =>
          q.targetAlias s ++ "." ++ Identifier.quote name ++ " AS " ++ Identifier.quote name
        | none => s.accessor (q.targetAlias s) ++ " AS " ++ Identifier.quote s.identityColumn) := by
  unfold insertReturning
  rw [List.cons_append, render_text_cons, render_append, render_single, cells_of_row,
    render_node (row_fits row)]
  exact (String.append_assoc ..).symm

end Query

theorem render_plain (nodeAlias : String) (labels : List String) :
    render (NodePattern.template ⟨nodeAlias, labels, []⟩) =
      "(" ++ nodeAlias ++ Identifier.labels labels ++ ")" := by
  have bare : Properties.suffix [] = [] := rfl
  rw [NodePattern.template, bare, List.singleton_append, render_text_cons, render_single]

theorem render_typed (type : String) :
    render (Relationship.template (.typed "" type [])) = "[:" ++ Identifier.quote type ++ "]" := by
  have bare : Properties.suffix [] = [] := rfl
  rw [Relationship.template, bare, List.singleton_append, render_text_cons, render_single]
  rfl

theorem Node.connect_written {parent related : Node} {parentKey relatedKey : String}
    (stored : parent.identity = .ok parentKey) (other : related.identity = .ok relatedKey)
    (s : Settings) (relationship : String) (properties : Row) :
    let left := ParameterName.unused [] (parent.aliasIn s)
    let right := ParameterName.unused [left] (related.aliasIn s)
    let edge := ParameterName.unused [right, left] "rel"
    (connect s parent related relationship properties).map render = .ok (
      "MATCH (" ++ left ++ Identifier.labels parent.labels ++ "), (" ++
        right ++ Identifier.labels related.labels ++ ") WHERE " ++
        s.accessor left ++ " = " ++ parentKey ++ " AND " ++
        s.accessor right ++ " = " ++ relatedKey ++ " CREATE (" ++ left ++ ")-[" ++
        edge ++ ":" ++ Identifier.quote relationship ++
        properties.cellText (Query.cellNames [properties]).flatten ++
        "]->(" ++ right ++ ") RETURN " ++ edge) := by
  intro left right edge
  have unlabelled : Identifier.labels [] = "" := rfl
  have nothing : render [] = "" := rfl
  unfold connect
  rw [stored, other, Query.cells_of_row, ← render_properties (Query.row_fits properties)]
  dsimp only [bind, Except.bind, pure, Except.pure, Except.map]
  apply congrArg Except.ok
  simp only [Template.joined, Pattern.template, Relationship.template,
    NodePattern.bound, List.map_cons, List.map_nil, List.cons_append, render_text_cons,
    render_append, render_plain, unlabelled, nothing, String.append_assoc, String.append_empty]
  rfl

theorem Action.Sends.statements {α : Type} {statement : Query → Except CompileError Statement}
    {change : Query → Query} {read : ResultSet → α} {action : Action α}
    (sends : Action.Sends statement change read action) {s : Session} {x : Statement}
    (made : statement s.query = .ok x) :
    (action s).2.recorder.statements = s.recorder.statements ++ [x] := by
  obtain ⟨answer, t, ran, -, sent⟩ := sends s
  simp only [made] at sent
  rw [ran, sent.2, Step.execute_statements]

namespace Step

open Query

/-- Under each key of the sorted rows the text has a parameter, and what is sent under its name is
the cell. No name stands for two cells, and nothing else is sent. Without rows nothing is sent. -/
theorem every_cell_bound (d : Dialect) (s : Session) :
    let q := s.query
    let target := q.targetAlias d.settings
    let sentBy := fun step => (run d step s).2.recorder.statements
    (∀ row : Row, row.sorted.entries.Perm row.entries ∧ row.sorted.keys.Pairwise (· < ·)) ∧
    (∀ rows, Bound rows (cellNames rows) (rowParameters rows)) ∧
    ((run d (.insert []) s).1 = .error (.compile .nothingToInsert) ∧
      (run d (.insert []) s).2.recorder = s.recorder) ∧
    (∀ rows, rows ≠ [] →
      let sorted := rows.map Record.sorted
      sentBy (.insert rows) = s.recorder.statements ++ [⟨.insert,
        "CREATE " ++ ", ".intercalate ((sorted.zip (cellNames sorted)).mapIdx fun index p =>
            p.1.nodeText (q.insertedAlias d.settings index) q.label.toList p.2) ++
          (" RETURN " ++ ", ".intercalate
            (sorted.mapIdx fun index _ => q.insertedAlias d.settings index)),
        rowParameters sorted, false⟩]) ∧
    (∀ row sequence,
      let sorted := row.sorted
      sentBy (.insertReturning row sequence) = s.recorder.statements ++ [⟨.insert,
        "CREATE " ++ sorted.nodeText target q.label.toList (cellNames [sorted]).flatten ++
          (" RETURN " ++ match sequence with
            | some name => target ++ "." ++ Identifier.quote name ++ " AS " ++ Identifier.quote name
            | none => d.settings.accessor target ++ " AS " ++
              Identifier.quote d.settings.identityColumn),
        rowParameters [sorted], false⟩]) ∧
    (∀ parent related relationship properties parentKey relatedKey,
      parent.identity = .ok parentKey → related.identity = .ok relatedKey →
      let sorted := properties.sorted
      let left := ParameterName.unused [] (parent.aliasIn d.settings)
      let right := ParameterName.unused [left] (related.aliasIn d.settings)
      let edge := ParameterName.unused [right, left] "rel"
      sentBy (.connect parent related relationship properties) = s.recorder.statements ++ [⟨.insert,
        "MATCH (" ++ left ++ Identifier.labels parent.labels ++ "), (" ++
          right ++ Identifier.labels related.labels ++ ") WHERE " ++
          d.settings.accessor left ++ " = " ++ parentKey ++ " AND " ++
          d.settings.accessor right ++ " = " ++ relatedKey ++ " CREATE (" ++ left ++ ")-[" ++
          edge ++ ":" ++ Identifier.quote relationship ++
          sorted.cellText (cellNames [sorted]).flatten ++ "]->(" ++ right ++ ") RETURN " ++ edge,
        rowParameters [sorted], false⟩]) := by
  intro q target sentBy
  refine ⟨fun row => ⟨Record.sort_entries_perm _, row.keys_sorted⟩, bound_row_parameters,
    ?_, ?_, ?_, ?_⟩
  · obtain ⟨answer, t, ran, -, refused⟩ := (Action.sends_insert d []).map Answer.rows s
    have result : run d (.insert []) s = (answer, t) := ran
    rw [result]
    exact refused
  · intro rows given sorted
    apply ((Action.sends_insert d rows).map Answer.rows).statements
    have full : sorted ≠ [] := mt List.map_eq_nil_iff.mp given
    rw [insert_written q d.settings full]
    rfl
  · intro row sequence sorted
    apply ((Action.sends_insert_returning d row sequence).map Answer.value).statements
    rw [insert_returning_written]
  · intro parent related relationship properties parentKey relatedKey stored other sorted
    apply ((Action.sends_connect d parent related relationship properties).map
      Answer.rows).statements
    rw [Node.connect_written stored other]
    rfl

/-- Four cells whose names would all be `age` or `age_2`. -/
def people : List Row :=
  [⟨[("age_2", .nat 5), ("age", .nat 4)], by decide⟩,
    ⟨[("person.age", .nat 7), ("age", .nat 6)], by decide⟩]

/-- Keys with paths and keys that are written in quotes. -/
def guest : Row :=
  ⟨[("zip-code", .nat 8), ("person.first name", .string "Ann"), ("home.town", .string "Ulm")],
    by decide⟩

/-- Two stored nodes of one alias. -/
def ann : Node := ⟨["Person"], none, some (.nat 1)⟩
def bea : Node := ⟨["Person"], none, some (.nat 2)⟩

/-- What is known of an edge. -/
def acquaintance : Row := ⟨[("since", .nat 9), ("edge.how well", .nat 3)], by decide⟩

theorem people_inserted :
    let s : Session := { query := { label := some "Person" } }
    let sentBy := fun step => (run {} step s).2.recorder.statements.map fun x =>
      (x.text, x.parameters.entries)
    sentBy (.insert (people ++ [guest])) =
        [("CREATE (person:Person \x7bage: $age, age_2: $age_2\x7d), " ++
            "(person_2:Person \x7bage: $age_3, age: $age_4\x7d), " ++
            "(person_3:Person \x7btown: $town, `first name`: $first_name, " ++
            "`zip-code`: $zip_code\x7d) RETURN person, person_2, person_3",
          [("age", .nat 4), ("age_2", .nat 5), ("age_3", .nat 6), ("age_4", .nat 7),
            ("town", .string "Ulm"), ("first_name", .string "Ann"), ("zip_code", .nat 8)])] ∧
      sentBy (.connect ann bea "KNOWS" acquaintance) =
        [("MATCH (person:Person), (person_2:Person) WHERE id(person) = 1 AND id(person_2) = 2 " ++
            "CREATE (person)-[rel:KNOWS \x7b`how well`: $how_well, since: $since\x7d]->" ++
            "(person_2) RETURN rel",
          [("how_well", .nat 3), ("since", .nat 9)])] := by
  intro s sentBy
  obtain ⟨-, -, -, inserts, -, connects⟩ := every_cell_bound {} s
  have inserted := inserts (people ++ [guest]) (by decide)
  have connected := connects ann bea "KNOWS" acquaintance "1" "2" (by decide +kernel)
    (by decide +kernel)
  dsimp only [sentBy] at inserted connected ⊢
  rw [inserted, connected]
  decide +kernel

end Step
end GraphQuery
