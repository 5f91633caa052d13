import GraphQuery.Cypher.Select
import GraphQuery.Proofs.Parameter.Ledger

/-! The parameters in the text of a query are those of its conditions and traversals, and those of
the texts spliced into it. -/
namespace GraphQuery

namespace Template

theorem parameters_nil : parameters [] = [] := rfl

theorem parameters_append (t u : Template) : parameters (t ++ u) = parameters t ++ parameters u :=
  List.filterMap_append

theorem parameters_text (s : String) (t : Template) : parameters (.text s :: t) = parameters t :=
  rfl

theorem parameters_joined (separator : String) (ts : List Template) :
    parameters (joined separator ts) = ts.flatMap parameters := by
  induction ts with
  | nil => rfl
  | cons t rest ih =>
    cases rest with
    | nil => simp [joined]
    | cons u more =>
      rw [joined_cons_cons, parameters_append, parameters_text, ih]
      rfl

end Template

theorem Traversal.parameters_pattern (t : Traversal) :
    Template.parameters t.pattern.template = [] := by
  cases t with
  | relation _ direction => cases direction <;> rfl
  | polymorphic _ direction => cases direction <;> rfl

/-- The parameters of a predicate. -/
def Token.written (tokens : List Token) : List String :=
  Template.parameters (tokens.flatMap Token.template)

namespace Token

theorem written_append (tokens more : List Token) :
    written (tokens ++ more) = written tokens ++ written more := by
  simp only [written, List.flatMap_append, Template.parameters_append]

theorem written_cons (token : Token) (rest : List Token) :
    written (token :: rest) = Template.parameters token.template ++ written rest := by
  simp only [written, List.flatMap_cons, Template.parameters_append]

theorem written_connective (c : Connective) (rest : List Token) :
    written (c.token :: rest) = written rest := by
  cases c <;> rfl

theorem written_grouped (tokens : List Token) :
    written (.opening :: tokens ++ [.closing]) = written tokens := by
  rw [written_append, written_cons]
  exact List.append_nil _

theorem written_joined (tokens : List Token) :
    written (tokens.intersperse .and) = written tokens := by
  induction tokens with
  | nil => rfl
  | cons token rest ih =>
    cases rest with
    | nil => rfl
    | cons other more =>
      rw [List.intersperse_cons_cons, written_cons, written_cons, ih, written_cons token]
      rfl

end Token

namespace Condition

mutual

/-- The texts of the sub-queries in a condition. -/
def texts : Condition → List String
  | inQuery _ query _ _ | queryComparison _ _ query _ => [query]
  | group conditions _ => textsOf conditions
  | _ => []

def textsOf : List Condition → List String
  | [] => []
  | c :: rest => c.texts ++ textsOf rest

end

/-- A name that is bound, or a parameter of one of the texts. -/
def Shows (names : List ParameterName) (texts : List String) (x : String) : Prop :=
  x ∈ names.map ParameterName.render ∨ ∃ text ∈ texts, x ∈ (Template.ofText text).parameters

theorem shows_append (names more : List ParameterName) (texts others : List String) (x : String) :
    Shows (names ++ more) (texts ++ others) x ↔ Shows names texts x ∨ Shows more others x := by
  simp only [Shows, List.map_append, List.mem_append, or_and_right, exists_or]
  exact or_or_or_comm

variable (s : Settings) (target x : String)

mutual

theorem shows_tokens :
    (c : Condition) → (x ∈ Token.written (c.tokens s target) ↔ Shows c.boundNames c.texts x)
  | .group conditions _ => by
    simp only [tokens, Token.written_grouped]
    exact shows_tokens_of conditions
  | .comparison _ _ (.bound _) _ _ | .isIn .. | .notIn .. => by
    simp [tokens, Token.written, Token.template, Template.parameters, Shows, boundNames, binds,
      texts, name?]
  | .between .. => by
    simp [tokens, Token.written, Token.template, Template.parameters, Shows, boundNames, binds,
      texts, name?]
  | .comparison _ _ (.raw _) _ _ | .isNull .. | .notNull .. | .carried .. => by
    simp [tokens, Token.written, Token.template, Template.parameters, Shows, boundNames, binds,
      texts]
  | .inQuery .. => by
    simp [tokens, Token.written, Token.template, Template.collected, Template.parameters_append,
      Template.parameters_text, Template.parameters_nil, Shows, boundNames, binds, texts]
  | .queryComparison .. => by
    simp [tokens, Token.written, Token.template, Template.collected, Template.parameters_append,
      Template.parameters_text, Template.parameters_nil, Shows, boundNames, binds, texts]

theorem shows_tokens_of : (conditions : List Condition) →
    (x ∈ Token.written (tokensOf s target conditions) ↔
      Shows (boundNamesOf conditions) (textsOf conditions) x)
  | [] => by simp [tokensOf, Token.written, Template.parameters, Shows, boundNamesOf, textsOf]
  | c :: rest => by
    rw [tokensOf, Token.written_append, List.mem_append, boundNamesOf, textsOf, shows_append,
      shows_tokens c, shows_joined_tokens rest]

theorem shows_joined_tokens : (conditions : List Condition) →
    (x ∈ Token.written (joinedTokens s target conditions) ↔
      Shows (boundNamesOf conditions) (textsOf conditions) x)
  | [] => by simp [joinedTokens, Token.written, Template.parameters, Shows, boundNamesOf, textsOf]
  | c :: rest => by
    rw [joinedTokens, List.cons_append, Token.written_connective, Token.written_append,
      List.mem_append, boundNamesOf, textsOf, shows_append, shows_tokens c,
      shows_joined_tokens rest]

end

end Condition

namespace Query

variable (q : Query) (s : Settings) (x : String)

theorem written_constraints :
    Token.written ((q.traversals.filterMap (·.constraint? s)).map .atom) =
      ((q.traversals.filter Traversal.isConstrained).map Traversal.name).map
        ParameterName.render := by
  induction q.traversals with
  | nil => rfl
  | cons t rest ih =>
    cases t with
    | relation _ _ _ _ _ _ constrained =>
      cases constrained with
      | true => exact congrArg (_ :: ·) ih
      | false => exact ih
    | polymorphic _ _ _ _ _ constrained =>
      cases constrained with
      | true => exact congrArg (_ :: ·) ih
      | false => exact ih

theorem written_predicate :
    x ∈ Token.written (q.predicate s) ↔
      Condition.Shows q.writtenNames (Condition.textsOf q.conditions) x := by
  have conditions := Condition.shows_tokens_of s (q.targetAlias s) x q.conditions
  have constraints := q.written_constraints s
  have parts : Condition.Shows q.writtenNames (Condition.textsOf q.conditions) x ↔
      x ∈ Token.written (Condition.tokensOf s (q.targetAlias s) q.conditions) ∨
        x ∈ Token.written ((q.traversals.filterMap (·.constraint? s)).map .atom) := by
    rw [conditions, constraints, Condition.Shows, Condition.Shows, writtenNames, List.map_append,
      List.mem_append]
    exact or_right_comm
  rw [parts, predicate]
  generalize Condition.tokensOf s (q.targetAlias s) q.conditions = tokens
  generalize (q.traversals.filterMap (·.constraint? s)).map Token.atom = atoms
  cases atoms with
  | nil => simp [Token.written, Template.parameters_nil]
  | cons atom rest =>
    have grouped : Token.written (if 1 < q.conditions.length then
        .opening :: tokens ++ [.closing] else tokens) = Token.written tokens := by
      split
      · exact Token.written_grouped tokens
      · rfl
    simp only [Token.written_append, Token.written_joined, List.mem_append]
    rw [or_comm]
    cases tokens with
    | nil => exact .rfl
    | cons token more =>
      simp only [List.isEmpty_cons, Bool.false_eq_true, if_false, Token.written_cons .and]
      rw [grouped]
      exact .rfl

theorem written_patterns :
    Template.parameters (Template.joined ", " ((q.patterns s).map Pattern.template)) = [] := by
  have paths : ∀ p ∈ q.traversals.map Traversal.pattern, Template.parameters p.template = [] := by
    intro p hp
    obtain ⟨t, -, rfl⟩ := List.mem_map.mp hp
    exact t.parameters_pattern
  rw [Template.parameters_joined, List.flatMap_eq_nil_iff]
  intro t ht
  obtain ⟨p, hp, rfl⟩ := List.mem_map.mp ht
  simp only [patterns] at hp
  split at hp
  · exact paths p hp
  · rcases List.mem_cons.mp hp with rfl | hp
    · rfl
    · exact paths p hp

theorem written_carried : Template.parameters (q.carriedTemplate s) = [] := by
  unfold carriedTemplate
  split <;> rfl

/-- The parameters in a select statement. -/
theorem written_select : x ∈ Template.parameters (q.select s) ↔
    Condition.Shows q.writtenNames (Condition.textsOf q.conditions) x := by
  have filters : Template.parameters (if (q.predicate s).isEmpty then []
      else .text " WHERE " :: (q.predicate s).flatMap Token.template) =
        Token.written (q.predicate s) := by
    cases q.predicate s <;> rfl
  rw [← q.written_predicate s x, select, reading]
  simp only [Template.parameters_append, Template.parameters_text, written_patterns,
    written_carried, filters, Template.parameters_nil, List.append_nil, List.nil_append]

end Query
end GraphQuery
