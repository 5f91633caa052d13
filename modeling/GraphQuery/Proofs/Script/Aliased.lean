import GraphQuery.Proofs.Script.Copied

/-! The aliases of nodes that are created or connected. No two nodes of a statement share one, so
every arrow and every identity belongs to the node it is meant for. -/
namespace GraphQuery

open Template (render render_append render_text_cons render_single render_joined)

namespace ParameterName

theorem unused_not_mem (taken : List String) (base : String) : unused taken base ∉ taken :=
  free_from_not_mem taken base (Nat.le_refl 1)

/-- A base that is free is not numbered. -/
theorem unused_of_free {taken : List String} {base : String} (free : base ∉ taken) :
    unused taken base = base := by
  have first : (of base 1).render = base := by
    rw [render_of base (Nat.le_refl 1), if_pos rfl]
  rw [unused]
  cases taken with
  | nil => exact first
  | cons name rest => rw [List.length_cons, freeFrom, first, if_neg free, first]

/-- Two of one base are told apart by a number. -/
theorem unused_again (base : String) : unused [base] base = (of base 2).render := by
  have first : (of base 1).render = base := by
    rw [render_of base (Nat.le_refl 1), if_pos rfl]
  have next : (of base 2).render ∉ [base] := by
    rw [List.mem_singleton]
    intro same
    cases render_injective base (Nat.le_succ 1) (Nat.le_refl 1) (same.trans first.symm)
  rw [unused, List.length_singleton, freeFrom, first, if_pos (List.mem_singleton_self base)]
  rfl

end ParameterName

theorem related_aliases_new (taken bases : List String) :
    (relatedAliases taken bases).Nodup ∧ ∀ a ∈ relatedAliases taken bases, a ∉ taken := by
  induction bases generalizing taken with
  | nil => exact ⟨List.nodup_nil, List.forall_mem_nil _⟩
  | cons base rest ih =>
    obtain ⟨distinct, new⟩ := ih (ParameterName.unused taken base :: taken)
    rw [relatedAliases]
    constructor
    · rw [List.nodup_cons]
      exact ⟨fun again => new _ again List.mem_cons_self, distinct⟩
    · intro a member
      rcases List.mem_cons.mp member with rfl | later
      · exact ParameterName.unused_not_mem taken base
      · exact fun earlier => new a later (List.mem_cons_of_mem _ earlier)

/-- Where no two members agree under `f`, a member is found by what `f` gives for it. -/
theorem filter_of_distinct {β : Type} (f : β → String) {members : List β}
    (distinct : (members.map f).Nodup) {b : β} (member : b ∈ members) :
    members.filter (f · = f b) = [b] := by
  induction members with
  | nil => cases member
  | cons c rest ih =>
    rw [List.map_cons, List.nodup_cons] at distinct
    rcases List.mem_cons.mp member with rfl | later
    · have none : rest.filter (f · = f b) = [] := by
        rw [List.filter_eq_nil_iff]
        intro d hd same
        exact distinct.1 (of_decide_eq_true same ▸ List.mem_map_of_mem hd)
      rw [List.filter_cons, if_pos (decide_eq_true rfl), none]
    · have other : f c ≠ f b := fun same => distinct.1 (same ▸ List.mem_map_of_mem later)
      rw [List.filter_cons_of_neg (by simpa using other), ih distinct.2 later]

/-- Keys with their values written out; nothing for an empty row. -/
def Record.literalText (row : Row) : String :=
  if row.isEmpty then ""
  else " \x7b" ++ ", ".intercalate
    (row.entries.map fun e => Identifier.quote e.1 ++ ": " ++ e.2.literal) ++ "\x7d"

/-- A node of a row whose values are written out. -/
def Record.writtenText (row : Row) (nodeAlias : String) (labels : List String) : String :=
  "(" ++ nodeAlias ++ Identifier.labels labels ++ row.literalText ++ ")"

/-- The arrow between a new node and one that it is related to. -/
def RelatedNodes.arrow (r : RelatedNodes) : String :=
  let edge := "[:" ++ Identifier.quote r.relationship ++ "]"
  match r.direction with
  | .incoming => "<-" ++ edge ++ "-"
  | .outgoing | .either => "-" ++ edge ++ "->"

theorem render_literals (row : Row) :
    render (Properties.suffix (literalProperties row)) = row.literalText := by
  have bare : (literalProperties row).isEmpty = row.isEmpty := List.isEmpty_map
  have cell (e : String × Value) :
      render (.text (Identifier.quote e.1 ++ ": ") :: [.text e.2.literal]) =
        Identifier.quote e.1 ++ ": " ++ e.2.literal := by
    rw [render_text_cons, render_single]
  rw [Properties.suffix, Record.literalText, bare]
  split
  · rfl
  · rw [render_text_cons, Properties.template, List.cons_append, render_text_cons, render_append,
      render_joined, render_single, literalProperties, List.map_map, List.map_map]
    simp only [Function.comp_def, cell, String.append_assoc]
    rfl

theorem render_written (row : Row) (nodeAlias : String) (labels : List String) :
    render (NodePattern.template ⟨nodeAlias, labels, literalProperties row⟩) =
      row.writtenText nodeAlias labels := by
  rw [NodePattern.template, List.cons_append, render_text_cons, render_append, render_literals,
    render_single, ← String.append_assoc]
  rfl

/-- A record of related nodes under its alias. -/
def RelatedNodes.node (p : (RelatedNodes × Row) × String) : NodePattern :=
  ⟨p.2, p.1.1.labels, literalProperties p.1.2⟩

/-- The path from a new node to a record that it is related to. -/
def RelatedNodes.path (target : String) (p : (RelatedNodes × Row) × String) : Pattern :=
  .path (.bound target) (.typed "" p.1.1.relationship []) p.1.1.direction.created
    (RelatedNodes.node p)

theorem RelatedNodes.render_path (target : String) (p : (RelatedNodes × Row) × String) :
    render (path target p).template =
      "(" ++ target ++ ")" ++ p.1.1.arrow ++ p.1.2.writtenText p.2 p.1.1.labels := by
  have start : render (NodePattern.bound target).template = "(" ++ target ++ ")" := by
    rw [NodePattern.bound, render_plain]
    exact congrArg (· ++ ")") String.append_empty
  rw [path, node, Pattern.template]
  simp only [render_append, render_text_cons, start, render_typed, render_written, arrow]
  cases p.1.1.direction <;> simp only [Direction.created, Direction.leftMark, Direction.rightMark,
    String.append_assoc]

namespace Query

variable (q : Query) (s : Settings)

theorem inserted_alias_injective {i j : Nat}
    (same : q.insertedAlias s i = q.insertedAlias s j) : i = j := by
  have next := ParameterName.render_injective _ (Nat.succ_pos i) (Nat.succ_pos j) same
  exact Nat.succ.inj next

theorem inserted_aliases_distinct (rows : List Row) :
    (rows.mapIdx fun index _ => q.insertedAlias s index).Nodup := by
  rw [List.nodup_iff_injective_get]
  intro i j same
  simp only [List.get_eq_getElem, List.getElem_mapIdx] at same
  exact Fin.ext (q.inserted_alias_injective s same)

variable (new : NewNode)

theorem created_aliases_fit : (q.createdAliases s new).length = new.records.length := by
  rw [createdAliases, length_related_aliases, List.length_map]

theorem created_patterns_eq : q.createdPatterns s new =
    .node ⟨q.targetAlias s, q.label.toList, literalProperties new.model⟩ ::
      (new.records.zip (q.createdAliases s new)).map (RelatedNodes.path (q.targetAlias s)) := by
  rw [createdPatterns, ← List.map_uncurry_zip_eq_zipWith]
  rfl

theorem create_written : (q.create s new).render = "CREATE " ++
    ", ".intercalate (new.model.writtenText (q.targetAlias s) q.label.toList ::
      (new.records.zip (q.createdAliases s new)).map fun p =>
        "(" ++ q.targetAlias s ++ ")" ++ p.1.1.arrow ++ p.1.2.writtenText p.2 p.1.1.labels) ++
    (" RETURN " ++ ", ".intercalate (q.targetAlias s :: q.createdAliases s new)) := by
  rw [create, List.cons_append, render_text_cons, render_append, render_single, render_joined,
    created_patterns_eq, List.map_map, List.map_cons, List.map_map, ← String.append_assoc]
  have model : render (Pattern.template (.node
      ⟨q.targetAlias s, q.label.toList, literalProperties new.model⟩)) =
        new.model.writtenText (q.targetAlias s) q.label.toList := render_written _ _ _
  simp only [Function.comp_def, model, RelatedNodes.render_path]

/-- Only the record's own node has its alias. -/
theorem defined_once {p : (RelatedNodes × Row) × String}
    (member : p ∈ new.records.zip (q.createdAliases s new)) :
    ((q.createdPatterns s new).flatMap Pattern.nodes).filter (·.nodeAlias = p.2) =
      [RelatedNodes.node p] := by
  obtain ⟨distinct, new_names⟩ := related_aliases_new [q.targetAlias s]
    (new.records.map fun r => s.nodeAlias r.1.labels)
  -- Every path starts at the new node, so its alias is told apart before those of the records.
  have other : q.targetAlias s ≠ p.2 := by
    intro same
    have inside : p.2 ∈ q.createdAliases s new := (List.of_mem_zip member).2
    exact new_names p.2 inside (same ▸ List.mem_cons_self)
  have names : (new.records.zip (q.createdAliases s new)).map Prod.snd = q.createdAliases s new :=
    List.map_snd_zip (q.created_aliases_fit s new).le
  have own : ((new.records.zip (q.createdAliases s new)).map Prod.snd).Nodup := by
    rwa [names]
  have ends (r : (RelatedNodes × Row) × String) :
      (RelatedNodes.path (q.targetAlias s) r).nodes.filter (·.nodeAlias = p.2) =
        ([r].filter (·.2 = p.2)).map RelatedNodes.node := by
    have start : (NodePattern.bound (q.targetAlias s)).nodeAlias ≠ p.2 := other
    rw [RelatedNodes.path, Pattern.nodes, List.filter_cons_of_neg (by simpa using start)]
    exact List.filter_map (l := [r])
  have model : (Pattern.nodes (.node ⟨q.targetAlias s, q.label.toList,
      literalProperties new.model⟩)).filter (·.nodeAlias = p.2) = [] :=
    List.filter_cons_of_neg (by simpa using other)
  rw [created_patterns_eq, List.flatMap_cons, List.flatMap_map, List.filter_append,
    List.filter_flatMap, model, List.nil_append]
  simp only [ends]
  rw [← List.map_flatMap, ← List.filter_flatMap, List.flatMap_singleton',
    filter_of_distinct Prod.snd own member, List.map_singleton]

end Query

/-- The nodes of an insert are numbered in the order of the rows. Each record related to a new node
has a node of its own, at one end of a relationship that the new node is the other end of. Where
nodes are connected, the key of each is compared with the identity of that node, whatever aliases
and labels they have. -/
theorem aliases_kept_apart (s : Settings) :
    (∀ (q : Query) (rows : List Row), rows ≠ [] →
      let aliases := rows.mapIdx fun index _ => q.insertedAlias s index
      aliases.length = rows.length ∧ aliases.Nodup ∧
      (q.insert s rows).map render = .ok ("CREATE " ++
        ", ".intercalate ((rows.zip (Query.cellNames rows)).mapIdx fun index p =>
          p.1.nodeText (q.insertedAlias s index) q.label.toList p.2) ++
        (" RETURN " ++ ", ".intercalate aliases))) ∧
    (∀ (q : Query) (new : NewNode),
      let target := q.targetAlias s
      let aliases := q.createdAliases s new
      let patterns := q.createdPatterns s new
      aliases.length = new.records.length ∧ (target :: aliases).Nodup ∧
      (∀ p ∈ new.records.zip aliases,
        RelatedNodes.path target p ∈ patterns ∧
        (patterns.flatMap Pattern.nodes).filter (·.nodeAlias = p.2) = [RelatedNodes.node p]) ∧
      (q.create s new).render = "CREATE " ++
        ", ".intercalate (new.model.writtenText target q.label.toList ::
          (new.records.zip aliases).map fun p =>
            "(" ++ target ++ ")" ++ p.1.1.arrow ++ p.1.2.writtenText p.2 p.1.1.labels) ++
        (" RETURN " ++ ", ".intercalate (target :: aliases))) ∧
    (∀ (parent related : Node) (relationship : String) (properties : Row)
        (parentKey relatedKey : String),
      parent.identity = .ok parentKey → related.identity = .ok relatedKey →
      let left := parent.aliasIn s
      let right := if related.aliasIn s = left then (ParameterName.of left 2).render
        else related.aliasIn s
      let edge := ParameterName.unused [right, left] "rel"
      [left, right, edge].Nodup ∧
      (Node.connect s parent related relationship properties).map render = .ok (
        "MATCH (" ++ left ++ Identifier.labels parent.labels ++ "), (" ++
          right ++ Identifier.labels related.labels ++ ") WHERE " ++
          s.accessor left ++ " = " ++ parentKey ++ " AND " ++
          s.accessor right ++ " = " ++ relatedKey ++ " CREATE (" ++ left ++ ")-[" ++
          edge ++ ":" ++ Identifier.quote relationship ++
          properties.cellText (Query.cellNames [properties]).flatten ++
          "]->(" ++ right ++ ") RETURN " ++ edge)) := by
  refine ⟨?inserted, ?created, ?connected⟩
  case inserted =>
    intro q rows given aliases
    exact ⟨List.length_mapIdx, q.inserted_aliases_distinct s rows, q.insert_written s given⟩
  case created =>
    intro q new target aliases patterns
    obtain ⟨distinct, other⟩ := related_aliases_new [target]
      (new.records.map fun r => s.nodeAlias r.1.labels)
    have apart : target ∉ aliases := fun inside => other target inside List.mem_cons_self
    refine ⟨q.created_aliases_fit s new, List.nodup_cons.mpr ⟨apart, distinct⟩, ?_,
      q.create_written s new⟩
    intro p member
    refine ⟨?_, q.defined_once s new member⟩
    dsimp only [patterns]
    rw [Query.created_patterns_eq]
    exact List.mem_cons_of_mem _ (List.mem_map_of_mem member)
  case connected =>
    intro parent related relationship properties parentKey relatedKey stored other left right edge
    have first : ParameterName.unused [] left = left :=
      ParameterName.unused_of_free List.not_mem_nil
    have second : ParameterName.unused [left] (related.aliasIn s) = right := by
      dsimp only [right]
      split
      case isTrue same => rw [same, ParameterName.unused_again]
      case isFalse free =>
        exact ParameterName.unused_of_free (mt List.mem_singleton.mp free)
    have apart : right ∉ [left] := second ▸ ParameterName.unused_not_mem [left] _
    have beside : edge ∉ [right, left] := ParameterName.unused_not_mem [right, left] "rel"
    rw [List.mem_cons, List.mem_singleton, not_or] at beside
    rw [List.mem_singleton] at apart
    constructor
    · simp only [List.nodup_cons, List.mem_cons, List.not_mem_nil, or_false, not_or,
        not_false_eq_true, List.nodup_nil, and_true]
      exact ⟨⟨Ne.symm apart, Ne.symm beside.2⟩, Ne.symm beside.1⟩
    · have written := Node.connect_written stored other s relationship properties
      dsimp only at written
      rw [first, second] at written
      exact written

/-- A new node whose relatives would all be named like itself or like one another. -/
def founder : NewNode :=
  ⟨⟨[], by decide⟩,
    [⟨"KNOWS", ["person_2"], .either, [⟨[("name", .string "Ann")], by decide⟩]⟩,
      ⟨"LEADS", ["Person"], .incoming, [⟨[], by decide⟩, ⟨[], by decide⟩]⟩]⟩

/-- A stored node that goes by the name of relationships. -/
def namesake : Node := ⟨["Person"], some "rel", some (.nat 1)⟩

theorem namesakes_apart :
    let q : Query := { label := some "Person" }
    (q.insert {} Step.people).map render = .ok (
      "CREATE (person:Person \x7bage_2: $age_2, age: $age\x7d), " ++
        "(person_2:Person \x7bage: $age_3, age: $age_4\x7d) RETURN person, person_2") ∧
    (q.create {} founder).render =
      "CREATE (person:Person), (person)-[:KNOWS]->(person_2:person_2 \x7bname: 'Ann'\x7d), " ++
        "(person)<-[:LEADS]-(person_3:Person), (person)<-[:LEADS]-(person_4:Person) " ++
        "RETURN person, person_2, person_3, person_4" ∧
    (Node.connect {} namesake namesake "KNOWS" ⟨[], by decide⟩).map render = .ok (
      "MATCH (rel:Person), (rel_2:Person) WHERE id(rel) = 1 AND id(rel_2) = 1 " ++
        "CREATE (rel)-[rel_3:KNOWS]->(rel_2) RETURN rel_3") := by
  intro q
  obtain ⟨inserts, creates, connects⟩ := aliases_kept_apart {}
  have inserted := (inserts q Step.people (by decide)).2.2
  have created := (creates q founder).2.2.2
  have connected := (connects namesake namesake "KNOWS" ⟨[], by decide⟩ "1" "1"
    (by decide +kernel) (by decide +kernel)).2
  rw [inserted, created, connected]
  decide +kernel

end GraphQuery
