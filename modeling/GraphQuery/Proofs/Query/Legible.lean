import GraphQuery.Proofs.Predicate.Legible
import GraphQuery.Proofs.Record.Merge

/-! A query that was given no dollar signs is written as a text whose parameters can be read
back. -/
namespace GraphQuery

open Template (Legible Readable Stops legible_append legible_text stops_cons)

/-- All of it is text without dollar signs. -/
def Template.Silent (t : Template) : Prop := ∀ part ∈ t, ∃ s, part = .text s ∧ Dollarless s

namespace Template.Silent

theorem legible {t : Template} (silent : t.Silent) (next : List Char) : Legible t next := by
  induction t with
  | nil => trivial
  | cons part rest ih =>
    obtain ⟨s, rfl, plain⟩ := silent part List.mem_cons_self
    exact ⟨plain, ih fun p hp => silent p (List.mem_cons_of_mem _ hp)⟩

theorem text {s : String} (plain : Dollarless s) : Template.Silent [.text s] := by
  intro part member
  exact ⟨s, List.mem_singleton.mp member, plain⟩

theorem cons {s : String} {t : Template} (plain : Dollarless s) (silent : t.Silent) :
    Template.Silent (.text s :: t) :=
  List.forall_mem_cons.mpr ⟨⟨s, rfl, plain⟩, silent⟩

theorem append {t u : Template} (first : t.Silent) (last : u.Silent) : (t ++ u).Silent :=
  List.forall_mem_append.mpr ⟨first, last⟩

theorem joined {separator : String} (plain : Dollarless separator) {ts : List Template}
    (each : ∀ t ∈ ts, t.Silent) : (Template.joined separator ts).Silent := by
  induction ts with
  | nil => exact List.forall_mem_nil _
  | cons t rest ih =>
    have here := each t List.mem_cons_self
    have later := ih fun u hu => each u (List.mem_cons_of_mem _ hu)
    cases rest with
    | nil => exact here
    | cons u more => exact here.append (.cons plain later)

end Template.Silent

/-- The end of a traversal was given no dollar sign. -/
structure PathNode.Clean (n : PathNode) : Prop where
  nodeAlias : Dollarless n.nodeAlias
  labels : ∀ l ∈ n.labels, Dollarless l

/-- The traversal was given no dollar sign. -/
def Traversal.Clean : Traversal → Prop
  | relation property _ relationship parent related name _ =>
    Dollarless property ∧ Dollarless relationship ∧ parent.Clean ∧ related.Clean ∧
      Readable name.render
  | polymorphic property _ related parent name _ =>
    Dollarless property ∧ Dollarless related ∧ parent.Clean ∧ Readable name.render

theorem NodePattern.silent {node : String} {labels : List String} (named : Dollarless node)
    (labelled : ∀ l ∈ labels, Dollarless l) :
    (NodePattern.template { nodeAlias := node, labels := labels }).Silent := by
  have opening : Dollarless ("(" ++ node ++ Identifier.labels labels) := by
    simp only [Dollarless.append]
    exact ⟨⟨by decide, named⟩, .labels labelled⟩
  exact .cons opening (.text (by decide))

namespace Traversal.Clean

variable {t : Traversal}

theorem silent_pattern (clean : t.Clean) : t.pattern.template.Silent := by
  have left (d : Direction) : Dollarless d.leftMark := by cases d <;> decide
  have right (d : Direction) : Dollarless d.rightMark := by cases d <;> decide
  cases t with
  | relation property direction relationship parent related name _ =>
    obtain ⟨-, typed, first, last, -⟩ := clean
    have type : Dollarless ("[" ++ "" ++ ":" ++ Identifier.quote relationship) := by
      simp only [Dollarless.append]
      exact ⟨by decide, .quote typed⟩
    have edge : (Relationship.template (.typed "" relationship [])).Silent :=
      .cons type (.text (by decide))
    exact (NodePattern.silent first.nodeAlias first.labels).append (.cons (left _)
      (edge.append (.cons (right _) (NodePattern.silent last.nodeAlias last.labels))))
  | polymorphic property direction related parent name _ =>
    obtain ⟨-, last, first, -⟩ := clean
    exact (NodePattern.silent first.nodeAlias first.labels).append
      (.cons (left _) (.cons (right _) (NodePattern.silent last (by simp))))

theorem dollarless_aliases (clean : t.Clean) : ∀ node ∈ t.aliases, Dollarless node := by
  cases t with
  | relation property direction relationship parent related name _ =>
    obtain ⟨-, -, first, last, -⟩ := clean
    simpa [aliases] using ⟨first.nodeAlias, last.nodeAlias⟩
  | polymorphic property direction related parent name _ =>
    obtain ⟨-, last, first, -⟩ := clean
    simpa [aliases] using ⟨first.nodeAlias, last⟩

theorem legible_constraint {s : Settings} (plain : s.Dollarless) (clean : t.Clean) {u : Template}
    (asked : t.constraint? s = some u) {next : List Char} (stops : Stops next) :
    Legible u next := by
  cases t with
  | relation property direction relationship parent related name constrained =>
    obtain ⟨named, -, first, -, readable⟩ := clean
    cases constrained with
    | false => cases asked
    | true =>
      cases asked
      have written : Dollarless (s.column parent.nodeAlias property ++ " = ") :=
        (Dollarless.append _ _).mpr ⟨plain.column first.nodeAlias named, by decide⟩
      exact Condition.legible_parameter written readable stops
  | polymorphic property direction related parent name constrained =>
    obtain ⟨named, last, -, readable⟩ := clean
    cases constrained with
    | false => cases asked
    | true =>
      cases asked
      have written : Dollarless (s.column related property ++ " = ") :=
        (Dollarless.append _ _).mpr ⟨plain.column last named, by decide⟩
      exact Condition.legible_parameter written readable stops

end Traversal.Clean

/-- No text of the query has a dollar sign, and its sub-queries can be read back. -/
structure Query.Clean (q : Query) : Prop where
  label : ∀ l, q.label = some l → Dollarless l
  columns : ∀ list, q.columns = some list → ∀ column ∈ list, Dollarless column
  conditions : Condition.CleanAll q.conditions
  traversals : ∀ t ∈ q.traversals, t.Clean
  carried : ∀ e ∈ q.carried.entries, Dollarless e.1 ∧ Dollarless e.2
  sorting : ∀ key ∈ q.sorting, Dollarless key.column
  unasked : q.aggregate = none

theorem mem_of_mem_distinct {nodes seen : List String} {node : String}
    (member : node ∈
      nodes.foldl (fun seen n => if seen.contains n then seen else seen ++ [n]) seen) :
    node ∈ seen ∨ node ∈ nodes := by
  induction nodes generalizing seen with
  | nil => exact .inl member
  | cons n rest ih =>
    rw [List.foldl_cons] at member
    rcases ih member with before | later
    · split at before
      · exact .inl before
      · rcases List.mem_append.mp before with old | new
        · exact .inl old
        · exact .inr (List.mem_singleton.mp new ▸ List.mem_cons_self)
    · exact .inr (List.mem_cons_of_mem _ later)

namespace Query.Clean

variable {q : Query} {s : Settings}

theorem dollarless_labels (clean : q.Clean) : ∀ l ∈ q.label.toList, Dollarless l := by
  intro l member
  exact clean.label l (Option.mem_toList.mp member)

theorem dollarless_aliases (clean : q.Clean) :
    ∀ node ∈ q.traversals.flatMap Traversal.aliases, Dollarless node := by
  intro node member
  obtain ⟨t, ht, here⟩ := List.mem_flatMap.mp member
  exact (clean.traversals t ht).dollarless_aliases node here

theorem silent_patterns (clean : q.Clean) (plain : s.Dollarless) :
    (Template.joined ", " ((q.patterns s).map Pattern.template)).Silent := by
  have paths : ∀ p ∈ q.traversals.map Traversal.pattern, p.template.Silent := by
    intro p hp
    obtain ⟨t, ht, rfl⟩ := List.mem_map.mp hp
    exact (clean.traversals t ht).silent_pattern
  refine .joined (by decide) fun t ht => ?_
  obtain ⟨p, hp, rfl⟩ := List.mem_map.mp ht
  simp only [patterns] at hp
  split at hp
  · exact paths p hp
  · rcases List.mem_cons.mp hp with rfl | hp
    · exact NodePattern.silent (plain.target_alias q) clean.dollarless_labels
    · exact paths p hp

theorem dollarless_scope (clean : q.Clean) (plain : s.Dollarless) :
    ∀ node ∈ q.scope s, Dollarless node := by
  intro node member
  rcases mem_of_mem_distinct member with target | met
  · exact List.mem_singleton.mp target ▸ plain.target_alias q
  · exact clean.dollarless_aliases node met

theorem silent_carried (clean : q.Clean) (plain : s.Dollarless) :
    (q.carriedTemplate s).Silent := by
  unfold carriedTemplate
  split
  · exact List.forall_mem_nil _
  · refine .text ((Dollarless.append _ _).mpr ⟨by decide, .intercalate (by decide) ?_⟩)
    refine List.forall_mem_append.mpr ⟨clean.dollarless_scope plain, fun t ht => ?_⟩
    obtain ⟨e, he, rfl⟩ := List.mem_map.mp ht
    obtain ⟨key, expression⟩ := clean.carried e he
    simp only [Dollarless.append]
    exact ⟨⟨expression, by decide⟩, .quote key⟩

theorem dollarless_tail (clean : q.Clean) (plain : s.Dollarless) :
    Dollarless (" RETURN " ++ q.projection s ++ q.ordering s ++ q.paging) := by
  have target := plain.target_alias q
  have projected : Dollarless (q.projection s) := by
    rw [projection, clean.unasked]
    exact plain.projection target clean.columns
  have ordered : Dollarless (q.ordering s) := by
    unfold ordering
    split
    · decide
    · refine (Dollarless.append _ _).mpr ⟨by decide, .intercalate (by decide) fun t ht => ?_⟩
      obtain ⟨key, hk, rfl⟩ := List.mem_map.mp ht
      have keyword : Dollarless key.direction.keyword := by cases key.direction <;> decide
      simp only [Dollarless.append]
      exact ⟨⟨plain.column target (clean.sorting key hk), by decide⟩, keyword⟩
  have paged : Dollarless q.paging := by
    unfold paging
    rw [Dollarless.append]
    constructor
    · cases q.offset with
      | none => decide
      | some n => exact (Dollarless.append _ _).mpr ⟨by decide, .repr n⟩
    · cases q.limit with
      | none => decide
      | some n => exact (Dollarless.append _ _).mpr ⟨by decide, .repr n⟩
  simp only [Dollarless.append]
  exact ⟨⟨⟨by decide, projected⟩, ordered⟩, paged⟩

theorem legible_predicate (clean : q.Clean) (plain : s.Dollarless) {next : List Char}
    (stops : Stops next) : Legible ((q.predicate s).flatMap Token.template) next := by
  have node := plain.target_alias q
  have constraints : ∀ t ∈ q.traversals.filterMap (·.constraint? s), ∀ next, Stops next →
      Legible t next := by
    intro t ht next stops
    obtain ⟨traversal, member, asked⟩ := List.mem_filterMap.mp ht
    exact (clean.traversals traversal member).legible_constraint plain asked stops
  have conditions {next : List Char} (stops : Stops next) :=
    Condition.legible_tokens_of plain node q.conditions clean.conditions stops
  have grouped : Legible ((if 1 < q.conditions.length then
      Token.opening :: Condition.tokensOf s (q.targetAlias s) q.conditions ++ [Token.closing]
      else Condition.tokensOf s (q.targetAlias s) q.conditions).flatMap Token.template) next := by
    split
    · exact Condition.legible_enclosed (conditions (stops_cons (by decide)))
    · exact conditions stops
  unfold predicate
  dsimp only
  split
  · exact conditions stops
  · rw [List.flatMap_append, legible_append]
    split
    · exact ⟨Condition.legible_and constraints stops, trivial⟩
    · exact ⟨Condition.legible_and constraints (Condition.stops_and _ next), by decide, grouped⟩

/-- The statement of a clean query can be read back. -/
theorem legible_select (clean : q.Clean) (plain : s.Dollarless) : Legible (q.select s) [] := by
  have tail := legible_text (clean.dollarless_tail plain) []
  have starts : (" RETURN " ++ q.projection s ++ q.ordering s ++ q.paging).toList =
      ' ' :: ("RETURN " ++ q.projection s ++ q.ordering s ++ q.paging).toList := by
    simp
  have stops : Stops (Template.chars
      [.text (" RETURN " ++ q.projection s ++ q.ordering s ++ q.paging)] ++ []) :=
    Condition.stops_text starts (by decide) []
  have asked : Legible (if (q.predicate s).isEmpty then [] else
      .text " WHERE " :: (q.predicate s).flatMap Token.template) (Template.chars
        [.text (" RETURN " ++ q.projection s ++ q.ordering s ++ q.paging)] ++ []) := by
    split
    · trivial
    · exact ⟨by decide, clean.legible_predicate plain stops⟩
  have silent : Template.Silent (.text "MATCH " ::
      Template.joined ", " ((q.patterns s).map Pattern.template) ++ q.carriedTemplate s) :=
    .append (.cons (by decide) (clean.silent_patterns plain)) (clean.silent_carried plain)
  exact legible_append.mpr ⟨legible_append.mpr ⟨silent.legible _, asked⟩, tail⟩

/-! Steps keep a query clean. -/

theorem child (q : Query) : q.child.Clean where
  label := by simp [Query.child]
  columns := by simp [Query.child]
  conditions := trivial
  traversals := by simp [Query.child]
  carried := by simp [Query.child, Record.empty]
  sorting := by simp [Query.child]
  unasked := rfl

theorem group_child (clean : q.Clean) : q.groupChild.Clean :=
  { child q with label := clean.label }

theorem push (clean : q.Clean) {c : Condition} (here : c.Clean) : (q.push c).Clean :=
  { clean with conditions := Condition.clean_all_append.mpr ⟨clean.conditions, here, trivial⟩ }

theorem bind (clean : q.Clean) (name : ParameterName) (value : Value) (b : Bucket) :
    (q.bind name value b).Clean :=
  { clean with }

theorem traverse (clean : q.Clean) {t : Traversal} (here : t.Clean) (value : Option Value) :
    (q.traverse t value).Clean :=
  { clean with
    traversals := List.forall_mem_append.mpr
      ⟨clean.traversals, List.forall_mem_singleton.mpr here⟩ }

theorem carry (clean : q.Clean) {parts : List (String × String)}
    (here : ∀ e ∈ parts, Dollarless e.1 ∧ Dollarless e.2) : (q.carry parts).Clean :=
  { clean with
    carried := by
      intro e member
      rcases Record.mem_insert_all member with before | new
      · exact clean.carried e before
      · exact here e new }

end Query.Clean

end GraphQuery
