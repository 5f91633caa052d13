import GraphQuery.Proofs.Parameter.Ledger
import GraphQuery.Proofs.Predicate.Reading

/-! What the conditions and traversals of a query ask, and that its predicate says so. -/
namespace GraphQuery

section Runs

variable {β : Type}

/-- The members up to the next one joined by OR belong to the run that has been begun. -/
def runsFrom (run : List β) : List (Connective × β) → List (List β)
  | [] => [run]
  | (.and, b) :: rest => runsFrom (run ++ [b]) rest
  | (.or, b) :: rest => run :: runsFrom [b] rest

/-- The longest parts joined by AND alone, in order. What joins the first member does not matter,
and without members there is one empty run. -/
def runs : List (Connective × β) → List (List β)
  | [] => [[]]
  | (_, b) :: rest => runsFrom [b] rest

/-- Some run holds throughout. -/
def anyRun (runs : List (List Bool)) : Bool := runs.any fun run => run.all id

end Runs

namespace Token

/-- How a token is spelled. An atom is its own text. -/
def spelling : Token → String
  | .atom t => t.render
  | .and => " AND "
  | .or => " OR "
  | .opening => "("
  | .closing => ")"

theorem chars_template (token : Token) : Template.chars token.template = token.spelling.toList := by
  cases token with
  | atom t => exact String.toList_ofList.symm
  | _ => simp [template, spelling, Template.chars, Part.chars]

theorem render_templates (tokens : List Token) :
    Template.render (tokens.flatMap template) = String.join (tokens.map spelling) := by
  have each : (fun token : Token => token.template.flatMap Part.chars) =
      fun token => token.spelling.toList := funext chars_template
  rw [← String.toList_inj, Template.render, String.toList_ofList, String.toList_join,
    List.flatMap_map, Template.chars, List.flatMap_assoc, each]

end Token

namespace Condition

variable (holds : Template → Bool) (s : Settings) (target : String)

mutual

/-- Whether a condition holds where the texts of single conditions are true or false as given. -/
def isTrue : Condition → Bool
  | group conditions _ => anyRun (runs (truths conditions))
  | condition => holds ((condition.tokens s target).flatMap Token.template)

def truths : List Condition → List (Connective × Bool)
  | [] => []
  | c :: rest => (c.connective, c.isTrue) :: truths rest

end

mutual

/-- No group in it is empty. -/
def isFilled : Condition → Bool
  | group conditions _ => !conditions.isEmpty && areFilled conditions
  | _ => true

def areFilled : List Condition → Bool
  | [] => true
  | c :: rest => c.isFilled && areFilled rest

end

variable {holds s target}

/-- A run that has been begun goes on through the conditions behind it. -/
theorem reads_joined {conditions : List Condition}
    (each : ∀ c ∈ conditions, Reads holds .operand (c.tokens s target) (c.isTrue holds s target))
    {tokens : List Token} {run : List Bool}
    (begun : Reads holds .conjunction tokens (run.all id)) :
    Reads holds .disjunction (tokens ++ joinedTokens s target conditions)
      (anyRun (runsFrom run (truths holds s target conditions))) := by
  induction conditions generalizing tokens run with
  | nil =>
    simpa [joinedTokens, truths, runsFrom, anyRun] using begun.only
  | cons c rest ih =>
    have here := each c List.mem_cons_self
    have later := fun d hd => each d (List.mem_cons_of_mem _ hd)
    rw [joinedTokens, truths]
    cases joined : c.connective with
    | and =>
      have longer : Reads holds .conjunction (tokens ++ .and :: c.tokens s target)
          ((run ++ [c.isTrue holds s target]).all id) := by
        simpa using begun.and here
      have whole := ih later longer
      simpa [Connective.token, runsFrom] using whole
    | or =>
      have next : Reads holds .conjunction (c.tokens s target)
          ([c.isTrue holds s target].all id) := by
        simpa using here.single
      have whole := begun.or (ih later next)
      simpa [Connective.token, runsFrom, anyRun] using whole

theorem reads_list {conditions : List Condition} (asked : conditions ≠ [])
    (each : ∀ c ∈ conditions, Reads holds .operand (c.tokens s target) (c.isTrue holds s target)) :
    Reads holds .disjunction (tokensOf s target conditions)
      (anyRun (runs (truths holds s target conditions))) := by
  cases conditions with
  | nil => exact absurd rfl asked
  | cons c rest =>
    have first : Reads holds .conjunction (c.tokens s target)
        ([c.isTrue holds s target].all id) := by
      simpa using (each c List.mem_cons_self).single
    exact reads_joined (fun d hd => each d (List.mem_cons_of_mem _ hd)) first

theorem reads_atom (t : Template) :
    Reads holds .operand [.atom t] (holds ([Token.atom t].flatMap Token.template)) := by
  have whole : [Token.atom t].flatMap Token.template = t := by simp [Token.template]
  rw [whole]
  exact .atom t

mutual

/-- Every condition is written as one operand. -/
theorem reads_tokens : (c : Condition) → c.isFilled →
    Reads holds .operand (c.tokens s target) (c.isTrue holds s target)
  | .group conditions _, filled => by
    rw [isFilled, Bool.and_eq_true] at filled
    have asked : conditions ≠ [] := by
      intro none
      simp [none] at filled
    exact (reads_list asked (reads_each conditions filled.2)).enclosed
  | .comparison _ _ (.bound _) _ _, _ | .comparison _ _ (.raw _) _ _, _ | .isIn .., _
  | .notIn .., _ | .inQuery .., _ | .between .., _ | .isNull .., _ | .notNull .., _
  | .carried .., _ | .queryComparison .., _ => reads_atom _

theorem reads_each : (conditions : List Condition) → areFilled conditions →
    ∀ c ∈ conditions, Reads holds .operand (c.tokens s target) (c.isTrue holds s target)
  | [], _ => by simp
  | c :: rest, filled => by
    rw [areFilled, Bool.and_eq_true] at filled
    exact List.forall_mem_cons.mpr ⟨reads_tokens c filled.1, reads_each rest filled.2⟩

end

/-- No condition is written as the empty text. -/
theorem text_ne_nil (c : Condition) :
    Template.chars ((c.tokens s target).flatMap Token.template) ≠ [] := by
  cases c with
  | comparison _ _ comparand =>
    cases comparand <;>
      simp [tokens, Token.template, Template.chars, Part.chars, Settings.comparison]
  | group =>
    simp [tokens, Token.template, Template.chars, Part.chars]
  | _ =>
    simp [tokens, Token.template, Template.chars, Part.chars, Settings.comparison,
      Template.collected]

theorem text_of_ne_nil {conditions : List Condition} (asked : conditions ≠ []) :
    Template.chars ((tokensOf s target conditions).flatMap Token.template) ≠ [] := by
  cases conditions with
  | nil => exact absurd rfl asked
  | cons c rest =>
    intro none
    simp only [tokensOf, List.flatMap_append, Template.chars, List.append_eq_nil_iff] at none
    exact c.text_ne_nil none.1

end Condition

namespace Query

variable {q : Query} {s : Settings}

/-- What the traversals and the conditions of a query ask together. -/
def isTrue (holds : Template → Bool) (s : Settings) (q : Query) : Bool :=
  (q.traversals.filterMap (·.constraint? s)).all holds &&
    anyRun (runs (Condition.truths holds s (q.targetAlias s) q.conditions))

def whereText (s : Settings) (q : Query) : String :=
  Template.render ((q.predicate s).flatMap Token.template)

theorem reads_grouped (holds : Template → Bool) (s : Settings) (target : String)
    {conditions : List Condition} (asked : conditions ≠ [])
    (filled : Condition.areFilled conditions) :
    let tokens := Condition.tokensOf s target conditions
    Reads holds .operand
      (if 1 < conditions.length then .opening :: tokens ++ [.closing] else tokens)
      (anyRun (runs (Condition.truths holds s target conditions))) := by
  intro tokens
  have each : ∀ c ∈ conditions,
      Reads holds .operand (c.tokens s target) (c.isTrue holds s target) :=
    Condition.reads_each conditions filled
  split
  · exact (Condition.reads_list asked each).enclosed
  · rename_i single
    cases conditions with
    | nil => exact absurd rfl asked
    | cons c rest =>
      have none : rest = [] := by
        cases rest with
        | nil => rfl
        | cons => simp at single
      subst none
      have here := each c List.mem_cons_self
      simpa [tokens, Condition.tokensOf, Condition.joinedTokens, Condition.truths, runs, runsFrom,
        anyRun] using here

theorem intersperse_and (t : Template) (rest : List Template) :
    ((t :: rest).map Token.atom).intersperse .and =
      [.atom t] ++ (rest.map fun u => [Token.atom u]).flatMap fun u => .and :: u := by
  induction rest generalizing t with
  | nil => rfl
  | cons u more ih =>
    rw [List.map_cons, List.map_cons, List.intersperse_cons_cons, ← List.map_cons, ih]
    rfl

/-- Constraints of traversals come first, joined with AND. -/
theorem reads_constraints (holds : Template → Bool) (t : Template) (rest : List Template) :
    Reads holds .conjunction (((t :: rest).map Token.atom).intersperse .and)
      ((t :: rest).all holds) := by
  have operands : ∀ p ∈ rest.map fun u => ([Token.atom u], holds u),
      Reads holds .operand p.1 p.2 := by
    intro p hp
    obtain ⟨u, -, rfl⟩ := List.mem_map.mp hp
    exact .atom u
  have first : Reads holds .operand [.atom t] (holds t) := .atom t
  have joined := Reads.all (Reads.single first) operands
  rw [intersperse_and]
  simpa [List.flatMap_map, List.all_map, Function.comp_def] using joined

theorem reads_predicate {holds : Template → Bool} (filled : Condition.areFilled q.conditions)
    (asked : q.predicate s ≠ []) :
    Reads holds .disjunction (q.predicate s) (q.isTrue holds s) := by
  unfold predicate isTrue at *
  cases constraints : q.traversals.filterMap (·.constraint? s) with
  | nil =>
    rw [constraints] at asked
    have conditions : q.conditions ≠ [] := by
      intro none
      simp [none, Condition.tokensOf] at asked
    simpa using Condition.reads_list conditions (Condition.reads_each q.conditions filled)
  | cons t rest =>
    have first := reads_constraints holds t rest
    by_cases conditions : q.conditions = []
    · simpa [conditions, Condition.tokensOf, Condition.truths, runs, anyRun] using first.only
    · have grouped := reads_grouped holds s (q.targetAlias s) conditions filled
      have both := (first.and grouped).only
      have shown : (Condition.tokensOf s (q.targetAlias s) q.conditions).isEmpty = false := by
        rw [List.isEmpty_eq_false_iff]
        intro none
        have text : Template.chars ((Condition.tokensOf s (q.targetAlias s)
            q.conditions).flatMap Token.template) ≠ [] := Condition.text_of_ne_nil conditions
        exact text (by simp [none, Template.chars])
      simpa [shown] using both

theorem constraints_eq_nil :
    q.traversals.filterMap (·.constraint? s) = [] ↔
      ∀ t ∈ q.traversals, t.isConstrained = false := by
  rw [List.filterMap_eq_nil_iff]
  refine forall₂_congr fun t _ => ?_
  cases t with
  | relation _ _ _ _ _ _ constrained =>
    cases constrained <;> simp [Traversal.constraint?, Traversal.isConstrained]
  | polymorphic _ _ _ _ _ constrained =>
    cases constrained <;> simp [Traversal.constraint?, Traversal.isConstrained]

theorem constraint_text_ne_nil {traversal : Traversal} {t : Template}
    (asked : traversal.constraint? s = some t) : t.chars ≠ [] := by
  cases traversal with
  | relation _ _ _ _ _ _ constrained =>
    cases constrained <;> simp only [Traversal.constraint?] at asked
    · cases asked
    · cases asked
      simp [Template.chars, Part.chars]
  | polymorphic _ _ _ _ _ constrained =>
    cases constrained <;> simp only [Traversal.constraint?] at asked
    · cases asked
    · cases asked
      simp [Template.chars, Part.chars]

theorem predicate_cons {t : Template} {rest : List Template}
    (constraints : q.traversals.filterMap (·.constraint? s) = t :: rest) :
    ∃ more, q.predicate s = .atom t :: more := by
  simp only [predicate, constraints]
  rw [intersperse_and]
  split
  · next none => cases none
  · exact ⟨_, rfl⟩

theorem where_text_eq_empty : q.whereText s = "" ↔
    (∀ t ∈ q.traversals, t.isConstrained = false) ∧ q.conditions = [] := by
  have text : q.whereText s = "" ↔
      Template.chars ((q.predicate s).flatMap Token.template) = [] := by
    rw [whereText, Template.render, ← String.toList_inj, String.toList_ofList]
    rfl
  rw [text, ← constraints_eq_nil (s := s)]
  cases constraints : q.traversals.filterMap (·.constraint? s) with
  | nil =>
    have plain : q.predicate s = Condition.tokensOf s (q.targetAlias s) q.conditions := by
      simp [predicate, constraints]
    rw [plain]
    constructor
    · intro empty
      refine ⟨rfl, ?_⟩
      by_contra asked
      exact Condition.text_of_ne_nil asked empty
    · rintro ⟨-, none⟩
      simp [none, Condition.tokensOf, Template.chars]
  | cons t rest =>
    have member : t ∈ q.traversals.filterMap (·.constraint? s) := constraints ▸ List.mem_cons_self
    obtain ⟨traversal, -, asked⟩ := List.mem_filterMap.mp member
    have shown := constraint_text_ne_nil asked
    constructor
    · intro empty
      obtain ⟨more, written⟩ := predicate_cons constraints
      rw [written, List.flatMap_cons, Template.chars, List.flatMap_append,
        List.append_eq_nil_iff] at empty
      exact absurd empty.1 shown
    · rintro ⟨none, -⟩
      cases none

/-- The text behind WHERE is that of its tokens: the texts of constraints and single conditions with
AND, OR and parentheses between them. It is empty just when nothing is asked. Any other has one
value under every assignment of truth to the texts of constraints and single conditions: that all
constraints hold and some run of the conditions does, where a group counts as one condition. -/
theorem where_text_read_as_asked (filled : Condition.areFilled q.conditions) :
    q.whereText s = String.join ((q.predicate s).map Token.spelling) ∧
      (q.whereText s = "" ↔
        (∀ t ∈ q.traversals, t.isConstrained = false) ∧ q.conditions = []) ∧
      (q.whereText s ≠ "" → ∀ holds b,
        Reads holds .disjunction (q.predicate s) b ↔ b = q.isTrue holds s) := by
  refine ⟨Token.render_templates _, where_text_eq_empty, fun written holds b => ?_⟩
  have asked : q.predicate s ≠ [] := by
    intro none
    exact written (by simp [whereText, none, Template.render, Template.chars])
  have reads : Reads holds .disjunction (q.predicate s) (q.isTrue holds s) :=
    reads_predicate filled asked
  constructor
  · exact fun other => other.unique reads
  · rintro rfl
    exact reads

/-- One of two alternatives, asked beside the owner of a node. -/
def owned : Query :=
  { label := some "Post"
    traversals :=
      [.relation "name" .incoming "OWNS" ⟨"post", ["Post"]⟩ ⟨"user", ["User"]⟩ (.first "name") true]
    conditions :=
      [.group
          [.isNull "hidden" .and (.first "hidden"), .notNull "shared" .and (.first "shared")] .and,
        .notNull "public" .or (.first "public")] }

theorem owned_read :
    let holds : Template → Bool := fun t => t = [.text "post.public IS NOT NULL"]
    Condition.areFilled owned.conditions ∧
      owned.whereText {} = "post.name = $name AND " ++
        "((post.hidden IS NULL AND post.shared IS NOT NULL) OR post.public IS NOT NULL)" ∧
      ∀ b, Reads holds .disjunction (owned.predicate {}) b ↔ b = false := by
  intro holds
  have filled : Condition.areFilled owned.conditions := by decide
  obtain ⟨spelled, -, read⟩ := where_text_read_as_asked (s := {}) filled
  have written : owned.whereText {} = "post.name = $name AND " ++
      "((post.hidden IS NULL AND post.shared IS NOT NULL) OR post.public IS NOT NULL)" :=
    spelled.trans (by decide +kernel)
  have unasked : owned.isTrue holds {} = false := by decide +kernel
  have shown : owned.whereText {} ≠ "" := by
    rw [written]
    decide
  have reads := read shown holds
  rw [unasked] at reads
  exact ⟨filled, written, reads⟩

end Query
end GraphQuery
