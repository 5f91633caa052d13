import GraphQuery.Proofs.Script.Inserted

/-! Which nodes a query matches. Its target is always among them, but not always with its label. -/
namespace GraphQuery

open Template (render render_append render_text_cons render_single render_joined)

/-- The two ends; the related node of a polymorphic step has no labels. -/
def Traversal.ends : Traversal → List PathNode
  | relation _ _ _ parent related _ _ => [parent, related]
  | polymorphic _ _ related parent _ _ => [parent, ⟨related, []⟩]

def PathNode.text (n : PathNode) : String :=
  "(" ++ n.nodeAlias ++ Identifier.labels n.labels ++ ")"

/-- A path is written from end to end. -/
def Traversal.text : Traversal → String
  | relation _ direction relationship parent related _ _ =>
    parent.text ++ direction.leftMark ++ "[:" ++ Identifier.quote relationship ++ "]" ++
      direction.rightMark ++ related.text
  | polymorphic _ direction related parent _ _ =>
    parent.text ++ direction.leftMark ++ direction.rightMark ++ PathNode.text ⟨related, []⟩

namespace Query

/-- The target, where it is matched by itself. -/
def targetNode (q : Query) (s : Settings) : List PathNode :=
  if q.targetAlias s ∈ q.traversals.flatMap Traversal.aliases then []
  else [⟨q.targetAlias s, q.label.toList⟩]

/-- Every node of the patterns behind MATCH, in order. -/
def matched (q : Query) (s : Settings) : List PathNode :=
  q.targetNode s ++ q.traversals.flatMap Traversal.ends

/-- The text of the patterns that these nodes are written in. -/
def matchText (q : Query) (s : Settings) : String :=
  "MATCH " ++ ", ".intercalate
    ((q.targetNode s).map PathNode.text ++ q.traversals.map Traversal.text)

end Query

theorem PathNode.render_pattern (n : PathNode) : render n.pattern.template = n.text :=
  render_plain n.nodeAlias n.labels

theorem Traversal.aliases_eq (t : Traversal) : t.aliases = t.ends.map PathNode.nodeAlias := by
  cases t <;> rfl

theorem Traversal.nodes_pattern (t : Traversal) :
    t.pattern.nodes = t.ends.map PathNode.pattern := by
  cases t <;> rfl

theorem Traversal.render_pattern (t : Traversal) : render t.pattern.template = t.text := by
  cases t with
  | relation property direction relationship parent related name constrained =>
    simp only [pattern, Pattern.template, render_append, render_text_cons, List.append_assoc,
      List.cons_append, PathNode.render_pattern, render_typed, text, String.append_assoc]
  | polymorphic property direction related parent name constrained =>
    have last : render (NodePattern.bound related).template = PathNode.text ⟨related, []⟩ :=
      render_plain related []
    simp only [pattern, Pattern.template, Relationship.template, render_append, render_text_cons,
      List.append_assoc, List.cons_append, List.nil_append, PathNode.render_pattern, last, text,
      String.append_assoc]

namespace Query

variable (q : Query) (s : Settings)

theorem nodes_patterns :
    (q.patterns s).flatMap Pattern.nodes = (q.matched s).map PathNode.pattern := by
  have paths : (q.traversals.map Traversal.pattern).flatMap Pattern.nodes =
      (q.traversals.flatMap Traversal.ends).map PathNode.pattern := by
    simp only [List.flatMap_map, Traversal.nodes_pattern, List.map_flatMap]
  simp only [patterns, matched, targetNode]
  split
  · exact paths
  · exact congrArg (_ :: ·) paths

theorem render_patterns :
    (q.patterns s).map (render ∘ Pattern.template) =
      (q.targetNode s).map PathNode.text ++ q.traversals.map Traversal.text := by
  have paths : (q.traversals.map Traversal.pattern).map (render ∘ Pattern.template) =
      q.traversals.map Traversal.text := by
    simp [Traversal.render_pattern]
  simp only [patterns, targetNode]
  split
  · exact paths
  · exact congrArg₂ List.cons (render_plain _ _) paths

theorem reading_matches : ∃ tail, (q.reading s).render = q.matchText s ++ tail := by
  rw [reading, List.append_assoc, List.cons_append, render_text_cons, render_append, render_joined,
    List.map_map, render_patterns]
  exact ⟨_, (String.append_assoc ..).symm⟩

theorem select_matches : ∃ tail, (q.select s).render = q.matchText s ++ tail := by
  obtain ⟨tail, written⟩ := q.reading_matches s
  rw [select, render_append, written, String.append_assoc]
  exact ⟨_, rfl⟩

theorem update_matches {values : Row} {t : Template} (written : q.update s values = .ok t) :
    ∃ tail, t.render = q.matchText s ++ tail := by
  obtain ⟨tail, head⟩ := q.reading_matches s
  unfold update at written
  split at written
  · cases written
  · cases written
    rw [List.append_assoc, render_append, head, String.append_assoc]
    exact ⟨_, rfl⟩

/-- Selects and updates match the target, and they ask for its label where no traversal takes its
alias, or where one that does gives the label to that end. Otherwise they do not. -/
theorem target_label_kept (q : Query) (s : Settings) {label : String}
    (labelled : q.label = some label) :
    let target := q.targetAlias s
    (q.patterns s).flatMap Pattern.nodes = (q.matched s).map PathNode.pattern ∧
    (∃ tail, (q.select s).render = q.matchText s ++ tail) ∧
    (∀ values t, q.update s values = .ok t → ∃ tail, t.render = q.matchText s ++ tail) ∧
    (∃ n ∈ q.matched s, n.nodeAlias = target) ∧
    ((∃ n ∈ q.matched s, n.nodeAlias = target ∧ label ∈ n.labels) ↔
      (∀ step ∈ q.traversals, target ∉ step.aliases) ∨
        ∃ step ∈ q.traversals, ∃ n ∈ step.ends, n.nodeAlias = target ∧ label ∈ n.labels) := by
  intro target
  have taken : target ∈ q.traversals.flatMap Traversal.aliases ↔
      ∃ step ∈ q.traversals, target ∈ step.aliases := List.mem_flatMap
  refine ⟨q.nodes_patterns s, q.select_matches s, fun _ _ => q.update_matches s, ?_, ?_⟩
  · by_cases bound : target ∈ q.traversals.flatMap Traversal.aliases
    · obtain ⟨step, here, member⟩ := taken.mp bound
      rw [step.aliases_eq] at member
      obtain ⟨n, hn, same⟩ := List.mem_map.mp member
      exact ⟨n, List.mem_append_right _ (List.mem_flatMap_of_mem here hn), same⟩
    · have own : q.targetNode s = [⟨target, q.label.toList⟩] := if_neg bound
      exact ⟨_, List.mem_append_left _ (own ▸ List.mem_cons_self), rfl⟩
  · by_cases bound : target ∈ q.traversals.flatMap Traversal.aliases
    · have own : q.targetNode s = [] := if_pos bound
      have some_step : ¬ ∀ step ∈ q.traversals, target ∉ step.aliases := by
        obtain ⟨step, here, member⟩ := taken.mp bound
        exact fun none => none step here member
      simp only [matched, own, List.nil_append, some_step, false_or, List.mem_flatMap]
      constructor
      · rintro ⟨n, ⟨step, here, hn⟩, carries⟩
        exact ⟨step, here, n, hn, carries⟩
      · rintro ⟨step, here, n, hn, carries⟩
        exact ⟨n, ⟨step, here, hn⟩, carries⟩
    · have own : q.targetNode s = [⟨target, q.label.toList⟩] := if_neg bound
      have first : (⟨target, q.label.toList⟩ : PathNode) ∈ q.matched s :=
        List.mem_append_left _ (own ▸ List.mem_cons_self)
      have none : ∀ step ∈ q.traversals, target ∉ step.aliases :=
        fun step here member => bound (taken.mpr ⟨step, here, member⟩)
      exact ⟨fun _ => .inl none, fun _ => ⟨_, first, rfl, by simp [labelled]⟩⟩

end Query

namespace Step

/-- The posts that a person wrote, by way of the person. The second traversal comes back to the
target without its label. -/
def written : List Step :=
  [.target "Post",
    .relate ⟨["Person"], none, none⟩ ⟨["Post", "Draft"], none, none⟩ "post" "AUTHORED" "id"
      (some (.nat 1)) .outgoing,
    .relateToAny ⟨["Comment"], none, none⟩ "post" "id" none .either]

theorem written_posts_matched :
    let q := (runEach {} written {}).query
    q.matched {} = [⟨"person", ["Person"]⟩, ⟨"post", ["Post", "Draft"]⟩, ⟨"comment", ["Comment"]⟩,
        ⟨"post", []⟩] ∧
      (∃ n ∈ q.matched {}, n.nodeAlias = q.targetAlias {} ∧ "Post" ∈ n.labels) ∧
      ∃ tail, (q.select {}).render =
        "MATCH (person:Person)-[:AUTHORED]->(post:Post:Draft), (comment:Comment)--(post)" ++
          tail := by
  intro q
  have labelled : q.label = some "Post" := rfl
  obtain ⟨-, selected, -, -, kept⟩ := q.target_label_kept {} labelled
  have text : q.matchText {} =
      "MATCH (person:Person)-[:AUTHORED]->(post:Post:Draft), (comment:Comment)--(post)" := by
    decide +kernel
  exact ⟨by decide +kernel, kept.mpr (.inr (by decide +kernel)), text ▸ selected⟩

/-- The only node with the target's alias is the related one of a polymorphic step. -/
theorem polymorphic_target_unlabelled :
    let q := (runEach {} [.target "Person",
      .relateToAny ⟨["Comment"], none, none⟩ "person" "id" (some (.nat 3)) .outgoing] {}).query
    q.label = some "Person" ∧ q.targetAlias {} = "person" ∧
      (q.select {}).render =
        "MATCH (comment:Comment)-->(person) WHERE id(person) = $id RETURN person" ∧
      ¬ ∃ n ∈ (q.patterns {}).flatMap Pattern.nodes,
        n.nodeAlias = "person" ∧ "Person" ∈ n.labels := by
  decide +kernel

end Step
end GraphQuery
