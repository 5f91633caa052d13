import GraphQuery.Proofs.Parameter.Fresh
import GraphQuery.Proofs.Template.Legible

/-! Conditions that were given no dollar signs are written as texts whose parameters can be read
back. -/
namespace GraphQuery

open Template (Legible Readable Stops legible_append legible_text stops_cons)

namespace ParameterName

theorem is_name_char_of_word {c : Char} (word : Identifier.isWord c) : Template.isNameChar c := by
  simp only [Identifier.isWord, Template.isNameChar, Text.isAlphanumeric, Bool.or_eq_true] at *
  tauto

theorem render_words {n : ParameterName} (words : ∀ c ∈ n.base.toList, Identifier.isWord c) :
    ∀ c ∈ n.render.toList, Identifier.isWord c := by
  have digits : ∀ c ∈ n.occurrence.repr.toList, Identifier.isWord c := by
    intro c member
    rw [Nat.toList_repr] at member
    have digit := Nat.isDigit_of_mem_toDigits (by decide) (by decide) member
    simp [Identifier.isWord, Char.isAlphanum, digit]
  intro c member
  unfold render at member
  split at member
  · simp only [String.toList_append, List.mem_append] at member
    rcases member with (base | dash) | occurrence
    · exact words c base
    · have joined : c = '_' := by simpa using dash
      subst joined
      decide
    · exact digits c occurrence
  · exact words c member

theorem readable_of_words {name : String} (named : name ≠ "")
    (words : ∀ c ∈ name.toList, Identifier.isWord c) : Readable name :=
  ⟨named, fun c member => is_name_char_of_word (words c member)⟩

theorem readable_render {n : ParameterName} (named : n.base ≠ "")
    (words : ∀ c ∈ n.base.toList, Identifier.isWord c) : Readable n.render := by
  apply readable_of_words
  · unfold render
    split
    · intro empty
      have lengths := congrArg String.length empty
      simp at lengths
    · exact named
  · exact render_words words

/-- A column from whose name something remains takes readable names only. -/
theorem readable_next (q : Query) {column : String}
    (named : Identifier.parameterBase column ≠ "") : Readable (q.nextName column).render := by
  have base : (q.nextName column).base = Identifier.parameterBase column := base_next _ _
  refine readable_render (base ▸ named) ?_
  rw [base]
  exact Identifier.base_words column

end ParameterName

namespace Condition

mutual

/-- No text in the condition has a dollar sign, except a sub-query that can be read back. -/
def Clean : Condition → Prop
  | comparison column operator (.bound _) _ name =>
    Dollarless column ∧ Dollarless operator ∧ Readable name.render
  | comparison column operator (.raw expression) _ _ =>
    Dollarless column ∧ Dollarless operator ∧ Dollarless expression
  | isIn column _ _ name | notIn column _ _ name | between column _ _ name =>
    Dollarless column ∧ Readable name.render
  | isNull column _ _ | notNull column _ _ => Dollarless column
  | inQuery column query _ _ => Dollarless column ∧ Legible (Template.ofText query) []
  | carried column operator identifier _ =>
    Dollarless column ∧ Dollarless operator ∧ Dollarless identifier
  | group conditions _ => CleanAll conditions
  | queryComparison column operator query _ =>
    Dollarless column ∧ Dollarless operator ∧ Legible (Template.ofText query) []

def CleanAll : List Condition → Prop
  | [] => True
  | c :: rest => c.Clean ∧ CleanAll rest

end

theorem clean_all_append {conditions more : List Condition} :
    CleanAll (conditions ++ more) ↔ CleanAll conditions ∧ CleanAll more := by
  induction conditions with
  | nil => simp [CleanAll]
  | cons c rest ih => simp only [List.cons_append, CleanAll, ih, and_assoc]

section Tokens

variable {s : Settings} {target : String} {next : List Char}

theorem dollarless_comparison {column operator : String} (plain : s.Dollarless)
    (node : Dollarless target) (named : Dollarless column) (symbol : Dollarless operator) :
    Dollarless (s.comparison target column operator) := by
  have rendered : Dollarless (Operator.render operator) := by
    unfold Operator.render
    split
    · decide
    · split
      · exact .upper symbol
      · exact symbol
  simp only [Settings.comparison, Dollarless.append]
  exact ⟨⟨⟨plain.column node named, by decide⟩, rendered⟩, by decide⟩

theorem legible_collected {query : String} (legible : Legible (Template.ofText query) [])
    {t : Template} (after : Legible t next) : Legible (Template.collected query ++ t) next := by
  -- The blank before the brace ends the last name of the sub-query.
  have closes : Stops (Template.chars (.text " \x7d" :: t) ++ next) := by
    rw [Template.chars_cons]
    exact stops_cons (c := ' ') (by decide)
  have closing : Legible (.text " \x7d" :: t) next := ⟨by decide, after⟩
  have inside := legible_append.mpr ⟨legible.before closes, closing⟩
  have whole : Template.collected query ++ t =
      .text "COLLECT \x7b " :: (Template.ofText query ++ .text " \x7d" :: t) := by
    simp [Template.collected]
  rw [whole]
  exact ⟨by decide, inside⟩

theorem stops_joined (conditions : List Condition) (stops : Stops next) :
    Stops (Template.chars ((joinedTokens s target conditions).flatMap Token.template) ++ next) := by
  cases conditions with
  | nil => exact stops
  | cons c rest =>
    rw [joinedTokens]
    -- Both connectives start with a blank.
    cases c.connective with
    | and => exact stops_cons (c := ' ') (by decide)
    | or => exact stops_cons (c := ' ') (by decide)

theorem stops_text {text : String} {c : Char} {cs : List Char} (starts : text.toList = c :: cs)
    (ends : Template.isNameChar c = false) (rest : Template) :
    Stops (Template.chars (.text text :: rest) ++ next) := by
  rw [Template.chars_cons, Part.chars, starts]
  exact stops_cons ends

theorem stops_and (rest : Template) (next : List Char) :
    Stops (Template.chars (.text " AND " :: rest) ++ next) :=
  stops_text (c := ' ') rfl (by decide) rest

theorem legible_parameter {text : String} {name : ParameterName} (plain : Dollarless text)
    (readable : Readable name.render) (stops : Stops next) :
    Legible [.text text, .parameter name.render] next :=
  ⟨plain, readable, stops, trivial⟩

theorem legible_enclosed {tokens : List Token}
    (inside : Legible (tokens.flatMap Token.template) (')' :: next)) :
    Legible ((Token.opening :: tokens ++ [Token.closing]).flatMap Token.template) next := by
  have closed : Legible (tokens.flatMap Token.template ++ [.text ")"]) next :=
    legible_append.mpr ⟨inside, legible_text (by decide) next⟩
  have whole : (Token.opening :: tokens ++ [Token.closing]).flatMap Token.template =
      .text "(" :: (tokens.flatMap Token.template ++ [.text ")"]) := by
    simp [Token.template]
  rw [whole]
  exact ⟨by decide, closed⟩

theorem template_intersperse (ts : List Template) :
    ((ts.map Token.atom).intersperse .and).flatMap Token.template = Template.joined " AND " ts := by
  induction ts with
  | nil => rfl
  | cons t rest ih =>
    cases rest with
    | nil => exact List.append_nil t
    | cons u more =>
      rw [Template.joined_cons_cons, ← ih]
      rfl

/-- The AND behind a member ends its last name. -/
theorem legible_and {ts : List Template} (each : ∀ t ∈ ts, ∀ next, Stops next → Legible t next)
    (stops : Stops next) :
    Legible (((ts.map Token.atom).intersperse .and).flatMap Token.template) next := by
  have separated : " AND ".toList = ' ' :: "AND ".toList := by decide
  rw [template_intersperse]
  exact Template.legible_joined (by decide) separated (by decide) each stops

mutual

theorem legible_tokens (plain : s.Dollarless) (node : Dollarless target) :
    (c : Condition) → c.Clean → ∀ {next}, Stops next →
      Legible ((c.tokens s target).flatMap Token.template) next
  | .comparison column operator (.bound v) _ name, clean, next, stops => by
    obtain ⟨named, symbol, readable⟩ := clean
    exact legible_parameter (dollarless_comparison plain node named symbol) readable stops
  | .comparison column operator (.raw e) _ name, clean, next, stops => by
    obtain ⟨named, symbol, expression⟩ := clean
    have written := dollarless_comparison plain node named symbol
    exact legible_text ((Dollarless.append _ _).mpr ⟨written, expression⟩) next
  | .isIn column _ _ name, clean, next, stops => by
    have written : Dollarless (s.column target column ++ " IN ") :=
      (Dollarless.append _ _).mpr ⟨plain.column node clean.1, by decide⟩
    exact legible_parameter written clean.2 stops
  | .notIn column _ _ name, clean, next, stops => by
    have written : Dollarless ("NOT " ++ s.column target column ++ " IN ") := by
      simp only [Dollarless.append]
      exact ⟨⟨by decide, plain.column node clean.1⟩, by decide⟩
    exact legible_parameter written clean.2 stops
  | .inQuery column query _ negated, clean, next, stops => by
    have written :
        Dollarless ((if negated then "NOT " else "") ++ s.column target column ++ " IN ") := by
      simp only [Dollarless.append]
      exact ⟨⟨by cases negated <;> decide, plain.column node clean.1⟩, by decide⟩
    have inside : Legible (Template.collected query ++ []) next := legible_collected clean.2 trivial
    simp only [tokens, List.flatMap_cons, Token.template, List.flatMap_nil]
    exact ⟨written, inside⟩
  | .between column _ negated name, clean, next, stops => by
    have accessed := plain.column node clean.1
    have low :
        Dollarless ((if negated then "NOT (" else "(") ++ s.column target column ++ " >= ") := by
      simp only [Dollarless.append]
      exact ⟨⟨by cases negated <;> decide, accessed⟩, by decide⟩
    have high : Dollarless ("[0] AND " ++ s.column target column ++ " <= ") := by
      simp only [Dollarless.append]
      exact ⟨⟨by decide, accessed⟩, by decide⟩
    have first : ("[0] AND " ++ s.column target column ++ " <= ").toList =
        '[' :: ("0] AND " ++ s.column target column ++ " <= ").toList := by
      simp
    have last : "[1])".toList = '[' :: "1])".toList := by decide
    exact ⟨low, clean.2, stops_text first (by decide) _, high, clean.2,
      stops_text last (by decide) _, by decide, trivial⟩
  | .isNull column _ _, clean, next, stops =>
    legible_text ((Dollarless.append _ _).mpr ⟨plain.column node clean, by decide⟩) next
  | .notNull column _ _, clean, next, stops =>
    legible_text ((Dollarless.append _ _).mpr ⟨plain.column node clean, by decide⟩) next
  | .carried column operator identifier _, clean, next, stops => by
    obtain ⟨named, symbol, carries⟩ := clean
    have written := dollarless_comparison plain node named symbol
    exact legible_text ((Dollarless.append _ _).mpr ⟨written, carries⟩) next
  | .group conditions _, clean, next, stops =>
    legible_enclosed (legible_tokens_of plain node conditions clean (stops_cons (by decide)))
  | .queryComparison column operator query _, clean, next, stops => by
    obtain ⟨named, symbol, legible⟩ := clean
    have written : Dollarless (s.comparison target column operator ++ "head(") :=
      (Dollarless.append _ _).mpr ⟨dollarless_comparison plain node named symbol, by decide⟩
    have inside := legible_collected legible (legible_text (s := ")") (by decide) next)
    simp only [tokens, List.flatMap_cons, Token.template, List.flatMap_nil, List.append_nil]
    exact ⟨written, inside⟩

theorem legible_tokens_of (plain : s.Dollarless) (node : Dollarless target) :
    (conditions : List Condition) → CleanAll conditions → ∀ {next}, Stops next →
      Legible ((tokensOf s target conditions).flatMap Token.template) next
  | [], _, _, _ => trivial
  | c :: rest, clean, next, stops => by
    rw [tokensOf, List.flatMap_append, legible_append]
    exact ⟨legible_tokens plain node c clean.1 (stops_joined rest stops),
      legible_joined plain node rest clean.2 stops⟩

theorem legible_joined (plain : s.Dollarless) (node : Dollarless target) :
    (conditions : List Condition) → CleanAll conditions → ∀ {next}, Stops next →
      Legible ((joinedTokens s target conditions).flatMap Token.template) next
  | [], _, _, _ => trivial
  | c :: rest, clean, next, stops => by
    have connective : ∀ more, Legible (Token.template c.connective.token) more := by
      intro more
      cases c.connective <;> exact legible_text (by decide) more
    rw [joinedTokens, List.cons_append, List.flatMap_cons, List.flatMap_append, legible_append,
      legible_append]
    exact ⟨connective _, legible_tokens plain node c clean.1 (stops_joined rest stops),
      legible_joined plain node rest clean.2 stops⟩

end

end Tokens

end Condition

end GraphQuery
