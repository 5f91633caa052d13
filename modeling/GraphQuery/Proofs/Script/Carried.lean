import GraphQuery.Proofs.Predicate.Meaning
import GraphQuery.Proofs.Script.Matched

/-! What WITH carries on: every node that MATCH binds, and no other. So the predicates behind it,
which may ask for any of these nodes, find them all. -/
namespace GraphQuery

open Template (render render_append render_text_cons render_single render_joined)

/-- The node of which the property is asked. -/
def Traversal.owner : Traversal → String
  | relation _ _ _ parent _ _ _ => parent.nodeAlias
  | polymorphic _ _ related _ _ _ => related

def Traversal.property : Traversal → String
  | relation property _ _ _ _ _ _ | polymorphic property _ _ _ _ _ => property

/-- The node that a column is read from. An expression is not looked into. -/
def columnNode (target column : String) : Option String :=
  let cs := Text.trimChars column.toList
  if cs.contains '(' then none
  else if cs = ['*'] then some target
  else some (splitNode target cs).1

theorem Settings.column_reads (s : Settings) {target column node : String}
    (read : columnNode target column = some node) :
    s.column target column = node ∨ s.column target column = s.accessor node ∨
      ∃ key, s.column target column = node ++ "." ++ Identifier.quote key := by
  unfold columnNode at read
  unfold Settings.column
  dsimp only at read ⊢
  split at read
  · cases read
  · rename_i plain
    rw [if_neg plain]
    split at read
    · rename_i star
      cases read
      exact .inl (if_pos star)
    · rename_i other
      cases read
      rw [if_neg other]
      split
      · exact .inr (.inl rfl)
      · exact .inr (.inr ⟨_, rfl⟩)

theorem Text.trim_chars_subset (cs : List Char) : Text.trimChars cs ⊆ cs := by
  intro c member
  have kept := (List.dropWhile_suffix _).subset (List.mem_reverse.mp member)
  exact (List.dropWhile_suffix _).subset (List.mem_reverse.mp kept)

/-- Only a point names another node. -/
theorem column_node_other {target column node : String}
    (read : columnNode target column = some node) (other : node ≠ target) :
    '.' ∈ column.toList := by
  unfold columnNode at read
  dsimp only at read
  split at read
  · cases read
  · split at read
    · cases read
      exact absurd rfl other
    · cases read
      by_contra plain
      have single : ∀ c ∈ Text.trimChars column.toList, c ≠ '.' := by
        rintro c member rfl
        exact plain (Text.trim_chars_subset _ member)
      have whole : (Text.trimChars column.toList).dropWhile (· ≠ '.') = [] :=
        List.dropWhile_eq_nil_iff.mpr fun c member => decide_eq_true (single c member)
      rw [splitNode, whole] at other
      exact other rfl

theorem Traversal.owner_mem (t : Traversal) : t.owner ∈ t.aliases := by
  cases t with
  | relation => exact List.mem_cons_self
  | polymorphic => exact List.mem_cons_of_mem _ List.mem_cons_self

theorem Traversal.constraint_owner (t : Traversal) (s : Settings) (asked : t.isConstrained) :
    t.constraint? s =
      some [.text (s.column t.owner t.property ++ " = "), .parameter t.name.render] := by
  cases t with
  | relation => exact if_pos asked
  | polymorphic => exact if_pos asked

/-- Adding what is not there yet. -/
theorem first_seen (nodes : List String) {seen : List String} (distinct : seen.Nodup) :
    let all := nodes.foldl
      (fun seen node => if seen.contains node then seen else seen ++ [node]) seen
    all.Nodup ∧ seen <+: all ∧ ∀ a, a ∈ all ↔ a ∈ seen ∨ a ∈ nodes := by
  induction nodes generalizing seen with
  | nil => exact ⟨distinct, List.prefix_rfl, by simp⟩
  | cons node rest ih =>
    rw [List.foldl_cons]
    by_cases there : node ∈ seen
    · obtain ⟨nodup, front, members⟩ := ih distinct
      rw [if_pos (List.contains_iff_mem.mpr there)]
      refine ⟨nodup, front, fun a => ?_⟩
      rw [members, List.mem_cons]
      constructor
      · exact Or.imp_right .inr
      · rintro (old | rfl | new)
        · exact .inl old
        · exact .inl there
        · exact .inr new
    · have longer : (seen ++ [node]).Nodup := by
        simpa [List.nodup_append] using ⟨distinct, fun a here same => there (same ▸ here)⟩
      obtain ⟨nodup, front, members⟩ := ih longer
      rw [if_neg (mt List.contains_iff_mem.mp there)]
      refine ⟨nodup, (List.prefix_append _ _).trans front, fun a => ?_⟩
      rw [members, List.mem_append, List.mem_singleton, List.mem_cons, or_assoc]

namespace Query

variable (q : Query) (s : Settings)

/-- What stands between the patterns and the predicates. -/
def withText : String :=
  if q.carried.isEmpty then ""
  else " WITH " ++ ", ".intercalate (q.scope s ++
    q.carried.entries.map fun e => e.2 ++ " AS " ++ Identifier.quote e.1)

theorem reading_written :
    (q.reading s).render = q.matchText s ++ q.withText s ++
      (if (q.predicate s).isEmpty then "" else " WHERE " ++ q.whereText s) := by
  have carried : render (q.carriedTemplate s) = q.withText s := by
    unfold carriedTemplate withText
    split
    · rfl
    · exact render_single _
  have asked : render (if (q.predicate s).isEmpty then []
        else .text " WHERE " :: (q.predicate s).flatMap Token.template) =
      if (q.predicate s).isEmpty then "" else " WHERE " ++ q.whereText s := by
    split
    · rfl
    · exact render_text_cons _ _
  rw [reading, render_append, asked, render_append, carried, render_text_cons, render_joined,
    List.map_map, render_patterns]
  rfl

theorem matched_aliases (a : String) :
    (∃ n ∈ q.matched s, n.nodeAlias = a) ↔
      a = q.targetAlias s ∨ a ∈ q.traversals.flatMap Traversal.aliases := by
  have ends : (q.traversals.flatMap Traversal.ends).map PathNode.nodeAlias =
      q.traversals.flatMap Traversal.aliases := by
    rw [List.map_flatMap]
    exact List.flatMap_congr fun t _ => t.aliases_eq.symm
  rw [← List.mem_map, matched, List.map_append, ends, List.mem_append, targetNode]
  split
  · rename_i bound
    constructor
    · rintro (none | inside)
      · cases none
      · exact .inr inside
    · rintro (rfl | inside)
      · exact .inr bound
      · exact .inr inside
  · exact or_congr_left List.mem_singleton

theorem mem_scope (a : String) :
    a ∈ q.scope s ↔ ∃ n ∈ q.matched s, n.nodeAlias = a := by
  obtain ⟨-, -, members⟩ :=
    first_seen (q.traversals.flatMap Traversal.aliases) (List.nodup_singleton (q.targetAlias s))
  rw [scope, members, List.mem_singleton, matched_aliases]

theorem constraint_asked {t : Traversal} (member : t ∈ q.traversals) {c : Template}
    (asked : t.constraint? s = some c) : .atom c ∈ q.predicate s := by
  have there : c ∈ q.traversals.filterMap (·.constraint? s) :=
    List.mem_filterMap.mpr ⟨t, member, asked⟩
  unfold predicate
  cases constraints : q.traversals.filterMap (·.constraint? s) with
  | nil =>
    rw [constraints] at there
    cases there
  | cons first rest =>
    rw [constraints] at there
    have listed : Token.atom c ∈ ((first :: rest).map Token.atom).intersperse .and := by
      rw [intersperse_and]
      rcases List.mem_cons.mp there with rfl | later
      · exact List.mem_cons_self
      · exact List.mem_append_right _ (by simpa using later)
    exact List.mem_append_left _ listed

/-- WITH carries the target first and every other node that MATCH binds, each once, and nothing
else that MATCH has not bound. So the node of a traversal whose property is asked for is still
there. The constraint is written of the node that the property is read from, which is there if MATCH
binds it; only a property with a point may ask another node than the traversal's. -/
theorem matched_nodes_carried :
    let bound := fun a => ∃ n ∈ q.matched s, n.nodeAlias = a
    (q.patterns s).flatMap Pattern.nodes = (q.matched s).map PathNode.pattern ∧
    (q.reading s).render = q.matchText s ++ q.withText s ++
      (if (q.predicate s).isEmpty then "" else " WHERE " ++ q.whereText s) ∧
    (q.scope s).Nodup ∧ (q.scope s).head? = some (q.targetAlias s) ∧
    (∀ a, a ∈ q.scope s ↔ bound a) ∧
    ∀ t ∈ q.traversals, t.isConstrained →
      .atom [.text (s.column t.owner t.property ++ " = "), .parameter t.name.render] ∈
        q.predicate s ∧
      t.owner ∈ q.scope s ∧
      ∀ node, columnNode t.owner t.property = some node →
        (s.column t.owner t.property = node ∨ s.column t.owner t.property = s.accessor node ∨
          ∃ key, s.column t.owner t.property = node ++ "." ++ Identifier.quote key) ∧
        (node ≠ t.owner → '.' ∈ t.property.toList) ∧ (node ∈ q.scope s ↔ bound node) := by
  intro bound
  obtain ⟨distinct, front, -⟩ :=
    first_seen (q.traversals.flatMap Traversal.aliases) (List.nodup_singleton (q.targetAlias s))
  refine ⟨q.nodes_patterns s, q.reading_written s, distinct, ?_, q.mem_scope s, ?_⟩
  · obtain ⟨rest, whole⟩ := front
    rw [scope, ← whole]
    rfl
  · intro t member asked
    have owner : t.owner ∈ q.scope s := by
      rw [mem_scope, matched_aliases]
      exact .inr (List.mem_flatMap_of_mem member t.owner_mem)
    refine ⟨q.constraint_asked s member (t.constraint_owner s asked), owner, fun node read => ?_⟩
    exact ⟨s.column_reads read, column_node_other read, q.mem_scope s node⟩

end Query

namespace Step

/-- Two traversals that end at the target. The second asks a property of the node that the first
one starts from. -/
def discussed : List Step :=
  [.target "Post",
    .relate ⟨["Person"], none, none⟩ ⟨["Post"], none, none⟩ "post" "AUTHORED" "age"
      (some (.nat 30)) .outgoing,
    .relateToAny ⟨["Comment"], none, none⟩ "post" "person.name" (some (.string "Ann")) .either,
    .carry [("replies", "count(comment)")]]

/-- The second of the two. -/
def commented : Traversal :=
  .polymorphic "person.name" .either "post" ⟨"comment", ["Comment"]⟩ (.first "name") true

theorem discussed_carried :
    let q := (runEach {} discussed {}).query
    q.scope {} = ["post", "person", "comment"] ∧ (q.scope {}).Nodup ∧ "person" ∈ q.scope {} ∧
      (q.reading {}).render =
        "MATCH (person:Person)-[:AUTHORED]->(post:Post), (comment:Comment)--(post) " ++
          "WITH post, person, comment, count(comment) AS replies " ++
          "WHERE person.age = $age AND person.name = $name" ∧
      commented ∈ q.traversals ∧ commented.owner ∈ q.scope {} ∧
      Token.atom [.text "person.name = ", .parameter "name"] ∈ q.predicate {} ∧
      ∃ key, Settings.column {} "post" "person.name" =
        "person" ++ "." ++ Identifier.quote key := by
  intro q
  obtain ⟨-, written, distinct, -, carried, asked⟩ := q.matched_nodes_carried {}
  have person : ∃ n ∈ q.matched {}, n.nodeAlias = "person" := by decide +kernel
  have member : commented ∈ q.traversals := by decide +kernel
  obtain ⟨constraint, owner, reads⟩ := asked commented member rfl
  have text : Settings.column {} commented.owner commented.property ++ " = " =
      "person.name = " := by
    decide +kernel
  rw [text] at constraint
  obtain ⟨form, -, -⟩ := reads "person" (by decide +kernel)
  refine ⟨by decide +kernel, distinct, (carried "person").mpr person,
    written.trans (by decide +kernel), member, owner, constraint, ?_⟩
  rcases form with whole | identity | property
  · exact absurd whole (by decide +kernel)
  · exact absurd identity (by decide +kernel)
  · exact property

end Step
end GraphQuery
