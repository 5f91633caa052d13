import GraphQuery.Proofs.Literal.Quotation
import GraphQuery.Proofs.Script.Inserted

/-! Writing values out into a text that has quoted texts in it. Quotes keep no dollar sign from
being read. -/
namespace GraphQuery

open Template (Asks Names Stops asked askedIn asked_in_append chars chars_append chars_cons)

/-- The texts that a new node and those it relates to are given with. -/
def NewNode.texts (new : NewNode) : List String :=
  Value.fieldTexts new.model.entries ++ new.records.flatMap fun p =>
    p.1.relationship :: p.1.labels ++ Value.fieldTexts p.2.entries

/-- The texts of a record that `target` is related to, with the aliases of both. -/
def RelatedNodes.texts (target : String) (p : (RelatedNodes × Row) × String) : List String :=
  target :: p.1.1.relationship :: p.2 :: p.1.1.labels ++ Value.fieldTexts p.1.2.entries

/-- The texts in the statement that creates a node, in order. -/
def Query.createdTexts (q : Query) (s : Settings) (new : NewNode) : List String :=
  let target := q.targetAlias s
  let related := q.createdAliases s new
  target :: q.label.toList ++ Value.fieldTexts new.model.entries ++
    (new.records.zip related).flatMap (RelatedNodes.texts target) ++ target :: related

theorem asks_labels (labels : List String) :
    Asks (Identifier.labels labels).toList (askedIn labels) := by
  rw [Identifier.labels, String.toList_join]
  induction labels with
  | nil => exact .plain List.not_mem_nil
  | cons label rest ih =>
    have colon : Asks ":".toList [] := .plain (by decide)
    rw [List.map_cons, List.flatMap_cons, String.toList_append]
    exact (colon.append (Identifier.asks_quote label)).append ih

theorem asked_in_fields (fields : List (String × Value)) :
    askedIn (Value.fieldTexts fields) = fields.flatMap fun e => askedIn (e.1 :: e.2.texts) := by
  induction fields with
  | nil => rfl
  | cons e rest ih =>
    rw [Value.fieldTexts, asked_in_append, ih]
    rfl

theorem asks_properties (fields : List (String × Value)) :
    Asks (chars (Properties.suffix (fields.map fun e => (e.1, [.text e.2.literal]))))
      (askedIn (Value.fieldTexts fields)) := by
  have field (e : String × Value) :
      Asks (chars [.text (Identifier.quote e.1 ++ ": "), .text e.2.literal])
        (askedIn (e.1 :: e.2.texts)) := by
    have written := Literal.asks_field e.1 (Literal.asks_chars e.2)
    simpa [chars, Part.chars, Identifier.quote, Value.literal] using written
  have comma : '$' ∉ ", ".toList := by decide
  have joined := Asks.joined_map comma fields fun e _ => field e
  have opening : Asks " \x7b".toList [] := .plain (by decide)
  have closing : Asks "\x7d".toList [] := .plain (by decide)
  rw [Properties.suffix, asked_in_fields]
  split
  · rename_i none_given
    rw [List.map_eq_nil_iff.mp (List.isEmpty_iff.mp none_given)]
    exact .plain List.not_mem_nil
  · have whole := (opening.append joined).append closing
    rw [List.nil_append, List.append_nil] at whole
    simpa [Properties.template, chars, Part.chars, List.flatMap_append, List.map_map,
      Function.comp_def] using whole

theorem stops_labels (labels : List String) : Stops (Identifier.labels labels).toList := by
  rw [Identifier.labels, String.toList_join]
  cases labels with
  | nil => rintro c ⟨⟩
  | cons label rest =>
    rw [List.map_cons, List.flatMap_cons, String.toList_append, List.append_assoc]
    exact Template.stops_cons (by decide +kernel)

theorem stops_suffix (ps : Properties) : Stops (chars ps.suffix) := by
  rw [Properties.suffix]
  split
  · rintro c ⟨⟩
  · rw [chars_cons]
    exact Template.stops_cons (by decide +kernel)

theorem asks_node (nodeAlias : String) (labels : List String) (row : Row) :
    Asks (chars (NodePattern.template ⟨nodeAlias, labels, literalProperties row⟩))
      (askedIn (nodeAlias :: labels ++ Value.fieldTexts row.entries)) := by
  have opening : Asks ['('] [] := .plain (by decide)
  have closing : Asks [')'] [] := .plain (by decide)
  have inside := (asks_labels labels).append ((asks_properties row.entries).append closing)
  -- The alias ends where its labels, its properties or the parenthesis start.
  have stops : Stops ((Identifier.labels labels).toList ++
      (chars (literalProperties row).suffix ++ [')'])) :=
    (stops_labels labels).append ((stops_suffix _).append
      (Template.stops_cons (by decide +kernel)))
  have whole := opening.append (.behind nodeAlias.toList (by simp) stops inside)
  have written : chars (NodePattern.template ⟨nodeAlias, labels, literalProperties row⟩) =
      ['('] ++ (nodeAlias.toList ++ ((Identifier.labels labels).toList ++
        (chars (literalProperties row).suffix ++ [')']))) := by
    simp [NodePattern.template, chars, Part.chars]
  rw [List.append_nil, ← asked_in_append] at whole
  rw [written]
  exact whole

theorem asks_edge (type : String) :
    Asks (chars (Relationship.template (.typed "" type []))) (askedIn [type]) := by
  have opening : Asks "[:".toList [] := .plain (by decide)
  have closing : Asks "]".toList [] := .plain (by decide)
  have whole := (opening.append (Identifier.asks_quote type)).append closing
  have written : chars (Relationship.template (.typed "" type [])) =
      "[:".toList ++ (Identifier.quote type).toList ++ "]".toList := by
    have bare : Properties.suffix [] = [] := rfl
    simp [Relationship.template, bare, chars, Part.chars]
  rw [written]
  exact whole

theorem asks_record (target : String) (p : (RelatedNodes × Row) × String) :
    Asks (chars (Pattern.template (.path (.bound target) (.typed "" p.1.1.relationship [])
        p.1.1.direction.created ⟨p.2, p.1.1.labels, literalProperties p.1.2⟩)))
      (askedIn (RelatedNodes.texts target p)) := by
  have marks (direction : Direction) : Asks direction.leftMark.toList [] ∧
      Asks direction.rightMark.toList [] := by
    cases direction <;> exact ⟨.plain (by decide), .plain (by decide)⟩
  obtain ⟨leftMark, rightMark⟩ := marks p.1.1.direction.created
  have left := asks_node target [] .empty
  have right := asks_node p.2 p.1.1.labels p.1.2
  have edge := asks_edge p.1.1.relationship
  have whole := (left.append (leftMark.append edge)).append (rightMark.append right)
  rw [List.nil_append, List.nil_append, ← asked_in_append, ← asked_in_append] at whole
  rw [Pattern.template, chars_append, chars_append, chars_cons, chars_cons]
  exact whole

namespace Query

variable (q : Query) (s : Settings) (new : NewNode)

theorem asks_patterns :
    Asks (chars (Template.joined ", " ((q.createdPatterns s new).map Pattern.template)))
      (askedIn (q.targetAlias s :: q.label.toList ++ Value.fieldTexts new.model.entries) ++
        (new.records.zip (q.createdAliases s new)).flatMap fun p =>
          askedIn (RelatedNodes.texts (q.targetAlias s) p)) := by
  have patterns : List.Forall₂ (fun t names => Asks (chars t) names)
      ((q.createdPatterns s new).map Pattern.template)
      (askedIn (q.targetAlias s :: q.label.toList ++ Value.fieldTexts new.model.entries) ::
        (new.records.zip (q.createdAliases s new)).map fun p =>
          askedIn (RelatedNodes.texts (q.targetAlias s) p)) := by
    refine .cons (asks_node _ _ _) ?_
    rw [← List.map_uncurry_zip_eq_zipWith, List.map_map, List.forall₂_map_left_iff,
      List.forall₂_map_right_iff, List.forall₂_same]
    exact fun p _ => asks_record _ p
  exact .joined (by decide) patterns

theorem asked_create :
    asked (q.create s new).render.toList = askedIn (q.createdTexts s new) := by
  have returned : asked (chars [.text (" RETURN " ++
      ", ".intercalate (q.targetAlias s :: q.createdAliases s new))]) =
        askedIn (q.targetAlias s :: q.createdAliases s new) := by
    have single (text : String) : chars [.text text] = text.toList := by
      rw [chars_cons]
      exact List.append_nil _
    rw [single, String.toList_append, (Asks.plain (by decide)).before]
    exact Template.asked_listed _
  have opening : Asks (Part.chars (.text "CREATE ")) [] := .plain (by decide)
  rw [Template.render, String.toList_ofList, create, List.cons_append, chars_cons, chars_append,
    opening.before, (q.asks_patterns s new).before, returned, createdTexts, asked_in_append,
    asked_in_append, List.nil_append]
  simp only [askedIn, List.flatMap_append, List.flatMap_assoc]

theorem length_related_aliases (taken bases : List String) :
    (relatedAliases taken bases).length = bases.length := by
  induction bases generalizing taken with
  | nil => rfl
  | cons base rest ih => exact congrArg (· + 1) (ih _)

theorem dollarless_related {taken bases : List String} (plain : ∀ base ∈ bases, Dollarless base) :
    ∀ node ∈ relatedAliases taken bases, Dollarless node := by
  induction bases generalizing taken with
  | nil => exact List.forall_mem_nil _
  | cons base rest ih =>
    have here : Dollarless (ParameterName.unused taken base) := by
      apply Dollarless.render
      rw [ParameterName.base_free_from]
      exact plain base List.mem_cons_self
    exact List.forall_mem_cons.mpr
      ⟨here, ih fun other member => plain other (List.mem_cons_of_mem _ member)⟩

theorem unnamed_of_dollarless {t : String} (plain : Dollarless t) : ¬ Names t := by
  rw [← Template.asked_eq_nil]
  exact Template.asked_plain plain

/-- Where no alias has a dollar sign, the texts that are given decide. -/
theorem created_unnamed (fallback : Dollarless s.fallbackAlias) :
    (∀ t ∈ q.createdTexts s new, ¬ Names t) ↔ ∀ t ∈ q.label.toList ++ new.texts, ¬ Names t := by
  have target : ¬ Names (q.targetAlias s) :=
    unnamed_of_dollarless (.node_alias fallback q.label.toList)
  have related : ∀ node ∈ q.createdAliases s new, ¬ Names node := by
    intro node member
    refine unnamed_of_dollarless (dollarless_related (fun base inside => ?_) node member)
    obtain ⟨p, -, rfl⟩ := List.mem_map.mp inside
    exact .node_alias fallback p.1.labels
  have count : new.records.length = (q.createdAliases s new).length := by
    rw [createdAliases, length_related_aliases, List.length_map]
  have records : (new.records.zip (q.createdAliases s new)).map Prod.fst = new.records :=
    List.map_fst_zip (by omega)
  simp only [createdTexts, NewNode.texts, RelatedNodes.texts, List.forall_mem_append,
    List.forall_mem_cons, List.forall_mem_flatMap, target, not_false_eq_true, true_and]
  constructor
  · rintro ⟨⟨⟨label, model⟩, each⟩, -⟩
    refine ⟨label, model, fun p here => ?_⟩
    rw [← records] at here
    obtain ⟨pair, inside, rfl⟩ := List.mem_map.mp here
    obtain ⟨⟨relationship, -, labels⟩, fields⟩ := each pair inside
    exact ⟨⟨relationship, labels⟩, fields⟩
  · rintro ⟨label, model, each⟩
    refine ⟨⟨⟨label, model⟩, fun pair inside => ?_⟩, related⟩
    obtain ⟨here, called⟩ := List.of_mem_zip inside
    obtain ⟨⟨relationship, labels⟩, fields⟩ := each pair.1 here
    exact ⟨⟨relationship, related _ called, labels⟩, fields⟩

end Query

/-- The values are written out around a quotation that asks for nothing, and it is left. -/
theorem Quotation.inlined_around {w : Quotation} (unnamed : ¬ Names w.text)
    (before after : String) (values : Parameters) :
    inlineParameters (before ++ w.written ++ after) values =
      (inlineParameters before values).bind fun b =>
        (inlineParameters after values).map fun a => b ++ w.written ++ a := by
  have silent : asked w.written.toList = [] := by
    rw [w.asked_written, Template.asked_eq_nil]
    exact unnamed
  rw [w.inlined_apart, inline_silent silent]
  rfl

namespace Step

theorem inlined_text_apply {d : Dialect} {s : Session} {template : Template}
    (selected : d.select s.query = .ok template) :
    (run d .inlinedText s).1 =
      ((inlineParameters template.render s.query.parameters).mapError .compile).map .text := by
  obtain ⟨t, ran, -⟩ := Action.writes_inlined d s
  have result : (run d .inlinedText s).1 = ((Action.inlinedText d s).1).map .text :=
    congrArg Prod.fst (map_apply Answer.text (Action.inlinedText d) s)
  rw [result, ran]
  dsimp only
  rw [selected]
  rfl

/-- A quotation is copied, whatever stands around it, just when no dollar sign in it stands right
before a letter, a digit or an underscore; otherwise what follows the sign is taken for a parameter.
So it is with literals, and with the statements that create nodes; and no text of a query fails to
be written out for a quotation that has no such sign. -/
theorem unnamed_quotations_copied (d : Dialect) (s : Session) :
    let q := s.query
    (∀ t : String, (Value.string t).literal = (Quotation.string t).written ∧
      (Identifier.isPlain t.toList = false → Identifier.quote t = (Quotation.name t).written)) ∧
    (∀ (w : Quotation) (before after : String) (values : Parameters),
      inlineParameters (before ++ w.written ++ after) values =
        (inlineParameters before values).bind fun b =>
          (inlineParameters w.written values).bind fun m =>
            (inlineParameters after values).map fun a => b ++ m ++ a) ∧
    (∀ w : Quotation, (∀ values, inlineParameters w.written values = .ok w.written) ↔
      ¬ Names w.text) ∧
    (∀ v : Value, (∀ values, inlineParameters v.literal values = .ok v.literal) ↔
      ∀ t ∈ v.texts, ¬ Names t) ∧
    (∀ new, ∃ text,
      (run d (.create new) s).2.recorder.statements =
        s.recorder.statements ++ [⟨.statement, text, .empty, true⟩] ∧
      (inlineParameters text .empty = match askedIn (q.createdTexts d.settings new) with
        | [] => .ok text
        | x :: _ => .error (.unboundParameter x)) ∧
      (Dollarless d.settings.fallbackAlias → (inlineParameters text .empty = .ok text ↔
        ∀ t ∈ q.label.toList ++ new.texts, ¬ Names t))) ∧
    (∀ template, d.select q = .ok template → ∀ (w : Quotation) before after,
      template.render = before ++ w.written ++ after →
      let inlined := (run d .inlinedText s).1
      (¬ Names w.text → inlined = (((inlineParameters before q.parameters).bind fun b =>
        (inlineParameters after q.parameters).map fun a =>
          b ++ w.written ++ a).mapError .compile).map .text) ∧
      ∀ b x more, inlineParameters before q.parameters = .ok b → asked w.text.toList = x :: more →
        q.parameters.get? x = none → inlined = .error (.compile (.unboundParameter x))) := by
  intro q
  refine ⟨fun t => ⟨Quotation.written_string t, Quotation.written_name⟩,
    Quotation.inlined_apart, ?_, ?_, ?_, ?_⟩
  · intro w
    rw [inline_copied, w.asked_written, Template.asked_eq_nil]
  · intro v
    rw [inline_copied, Literal.asked_literal, Template.asked_in_eq_nil]
  · intro new
    have empty := inline_empty (q.create d.settings new).render
    rw [q.asked_create] at empty
    refine ⟨_, ((Action.sends_create d new).map Answer.rows).statements rfl, empty, ?_⟩
    intro fallback
    rw [← q.created_unnamed d.settings new fallback, ← Template.asked_in_eq_nil, empty]
    cases askedIn (q.createdTexts d.settings new) with
    | nil => exact ⟨fun _ => rfl, fun _ => rfl⟩
    | cons x more => exact ⟨nofun, nofun⟩
  · intro template selected w before after shape inlined
    have written := inlined_text_apply selected
    rw [shape] at written
    constructor
    · intro unnamed
      exact written.trans (by rw [Quotation.inlined_around unnamed])
    · intro b x more ahead first unbound
      rw [← w.asked_written] at first
      rw [w.inlined_apart, ahead, inline_unbound first unbound] at written
      exact written

/-- Dollar signs in every kind of text, none of them right before a letter or a digit. -/
def paid : NewNode :=
  ⟨⟨[("in $", .string "5 $ 'net'"), ("tax", .array [.string "US$ 1", .null])], by decide⟩,
    [⟨"$ owes", ["Account$"], .either, [⟨[("name", .string "$")], by decide⟩]⟩]⟩

theorem paid_copied :
    let s : Session := { query := { label := some "Cash$" } }
    (∃ text, (run {} (.create paid) s).2.recorder.statements = [⟨.statement, text, .empty, true⟩] ∧
        inlineParameters text .empty = .ok text) ∧
      ((run {} (.create paid) s).2.recorder.statements.map Statement.text =
        ["CREATE (cash:`Cash$` \x7b`in $`: '5 $ \\'net\\'', tax: ['US$ 1', null]\x7d), " ++
          "(cash)-[:`$ owes`]->(account:`Account$` \x7bname: '$'\x7d) RETURN cash, account"]) ∧
      (run {} .inlinedText s).1 = .ok (.text "MATCH (cash:`Cash$`) RETURN cash") := by
  intro s
  obtain ⟨-, -, -, -, creates, inlines⟩ := unnamed_quotations_copied {} s
  refine ⟨?_, by decide +kernel, ?_⟩
  · obtain ⟨text, sent, -, copied⟩ := creates paid
    exact ⟨text, sent, (copied (by decide)).mpr (by decide +kernel)⟩
  · have label : ¬ Names (Quotation.name "Cash$").text := by decide +kernel
    obtain ⟨left, -⟩ := inlines _ rfl (.name "Cash$") "MATCH (cash:" ") RETURN cash"
      (by decide +kernel)
    exact left label

/-- The label is quoted, and still the end of it is taken for a parameter. -/
theorem quoted_name_missed :
    let s : Session := { query := { label := some "Cash$flow" } }
    (Action.selectText {} s).1.toOption = some "MATCH (cashflow:`Cash$flow`) RETURN cashflow" ∧
      (run {} .inlinedText s).1 = .error (.compile (.unboundParameter "flow")) ∧
      (run {} (.create ⟨⟨[("note", .string "$name")], by decide⟩, []⟩) {}).2.recorder.statements.map
          (fun x => (x.text, inlineParameters x.text x.parameters)) =
        [("CREATE (n \x7bnote: '$name'\x7d) RETURN n", .error (.unboundParameter "name"))] := by
  refine ⟨by decide +kernel, rfl, by decide +kernel⟩

end Step
end GraphQuery
