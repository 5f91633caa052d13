import GraphQuery.Proofs.Erasure.Session
import GraphQuery.Session.Traverse

/-! Conditions and traversals that differ in the values they bind. Of a value they see whether it is
null. -/
namespace GraphQuery

section Lifting

variable {κ : Type} (r : κ → κ → Prop)

/-- Mappings with the same columns in order, and null in the same places. -/
def EntriesAlike (entries others : List (String × Value)) : Prop :=
  List.Forall₂ (fun e f => e.1 = f.1 ∧ e.2.isNull = f.2.isNull) entries others

inductive Subject.Alike : Subject κ → Subject κ → Prop where
  | column (name : String) : Alike (.column name) (.column name)
  | equalities {mapping other : Row} (entries : EntriesAlike mapping.entries other.entries) :
      Alike (.equalities mapping) (.equalities other)
  | group {body other : κ} (bodies : r body other) : Alike (.group body) (.group other)

inductive Operand.Alike : Operand κ → Operand κ → Prop where
  | value {v w : Value} (nulls : v.isNull = w.isNull) : Alike (.value v) (.value w)
  | raw (expression : String) : Alike (.raw expression) (.raw expression)
  | query {body other : κ} (bodies : r body other) : Alike (.query body) (.query other)

inductive Members.Alike : Members κ → Members κ → Prop where
  | listed (values others : List Value) : Alike (.listed values) (.listed others)
  | query {body other : κ} (bodies : r body other) : Alike (.query body) (.query other)

theorem Operand.Alike.is_null {r : κ → κ → Prop} {operand other : Operand κ}
    (alike : Operand.Alike r operand other) : operand.isNull = other.isNull := by
  cases alike with
  | value nulls => exact nulls
  | raw | query => rfl

end Lifting

namespace Action

variable {d : Dialect}

/-- Conditions that ask the same, whatever they bind, are alike once they are on the query. -/
theorem couples_ask {f g : Query → Query} {column : String} (value other : Option Value)
    (make makeOther : Option String → ParameterName → Condition)
    (asks : ∀ q, f q = q.ask column value make)
    (asksOther : ∀ q, g q = q.ask column other makeOther)
    (binds : value.isSome = other.isSome)
    (same : ∀ label name, (make label name).erase = (makeOther label name).erase) :
    Couples Any (modifyQuery f) (modifyQuery g) := by
  refine .modify_query fun q r alike => ?_
  have bound : (value.map fun _ => Value.null) = other.map fun _ => .null := by
    cases value <;> cases other <;> first | rfl | cases binds
  rw [asks, asksOther, Query.erase_ask, Query.erase_ask, alike, bound]
  simp only [same]

theorem couples_filter_null (column : String) (connective : Connective) (negated : Bool) :
    Couples Any (filterNull column connective negated) (filterNull column connective negated) := by
  cases negated with
  | true =>
    exact couples_ask none none (fun _ name => .notNull column connective name)
      (fun _ name => .notNull column connective name)
      (fun _ => rfl) (fun _ => rfl) rfl fun _ _ => rfl
  | false =>
    exact couples_ask none none (fun _ name => .isNull column connective name)
      (fun _ name => .isNull column connective name)
      (fun _ => rfl) (fun _ => rfl) rfl fun _ _ => rfl

theorem couples_filter_raw (column operator expression : String) (connective : Connective) :
    Couples Any (filterRaw column operator expression connective)
      (filterRaw column operator expression connective) :=
  .bind (.report _ _) fun _ _ _ => couples_ask none none
    (fun _ name => .comparison column operator (.raw expression) connective name)
    (fun _ name => .comparison column operator (.raw expression) connective name)
    (fun _ => rfl) (fun _ => rfl) rfl fun _ _ => rfl

theorem couples_filter_bound (column operator : String) (v w : Value) (connective : Connective) :
    Couples Any (filterBound column operator v connective)
      (filterBound column operator w connective) := by
  refine .bind .query fun _ _ _ => .bind (.report _ _) fun _ _ _ => ?_
  exact couples_ask (some v) (some w)
    (fun _ name => .comparison column operator (.bound v) connective name)
    (fun _ name => .comparison column operator (.bound w) connective name)
    (fun _ => rfl) (fun _ => rfl) rfl fun _ _ => rfl

theorem couples_filter_between (column : String) (low high low' high' : Value)
    (connective : Connective) (negated : Bool) :
    Couples Any (filterBetween d column low high connective negated)
      (filterBetween d column low' high' connective negated) := by
  refine .bind .query fun _ _ _ => .bind (.report _ _) fun _ _ _ => ?_
  let make (label : Option String) (name : ParameterName) : Condition :=
    .between (if column = d.settings.identityColumn then
        d.settings.accessor (d.settings.nodeAlias label.toList)
      else column) connective negated name
  exact couples_ask (some (.array [low, high])) (some (.array [low', high'])) make make
    (fun _ => rfl) (fun _ => rfl) rfl fun _ _ => rfl

theorem couples_filter_carried (column operator identifier : String) (connective : Connective) :
    Couples Any (filterCarried column operator identifier connective)
      (filterCarried column operator identifier connective) := by
  refine .modify_query fun q r alike => ?_
  rw [Query.filterCarried, Query.filterCarried, Query.erase_push, Query.erase_push, alike]

theorem couples_filter_group {body other : Action Unit} (bodies : Couples Any body other)
    (connective : Connective) :
    Couples Any (filterGroup body connective) (filterGroup other connective) := by
  refine .bind .query fun q r same => ?_
  have children : q.groupChild.erase = r.groupChild.erase := by
    rw [← q.group_child_erase, same, r.group_child_erase]
  refine .bind (.in_sub_query (.within children bodies)) fun g h groups => ?_
  have conditions : Condition.eraseAll g.conditions = Condition.eraseAll h.conditions :=
    congrArg Query.conditions groups
  have empty : g.conditions.isEmpty = h.conditions.isEmpty := by
    rw [← Condition.is_empty_erase_all, conditions, Condition.is_empty_erase_all]
  rw [empty]
  split
  · exact .pure trivial
  · refine .bind (.report _ _) fun _ _ _ => .modify_query fun q r alike => ?_
    rw [Query.erase_filter_group, Query.erase_filter_group, alike, groups]

/-- The sub-query is written as the same text. -/
theorem couples_sub_query_text {body other : Action Unit} (bodies : Couples Any body other) :
    Couples Eq (subQueryText d body) (subQueryText d other) := by
  refine .bind .query fun q r same => ?_
  have children : q.child.erase = r.child.erase := by
    rw [← q.child_erase, same, r.child_erase]
  refine .bind (.in_sub_query (.within children bodies)) fun g h subs => ?_
  refine .bind_eq (.in_sub_query (couples_write d subs)) fun text => ?_
  refine .bind (.report _ _) fun _ _ _ => ?_
  refine .bind (.modify_query fun q r alike => ?_) fun _ _ _ => .pure rfl
  rw [Query.erase_adopt, Query.erase_adopt, alike, subs]

theorem couples_push (c : Condition) :
    Couples Any (modifyQuery (·.push c)) (modifyQuery (·.push c)) := by
  refine .modify_query fun q r alike => ?_
  rw [Query.erase_push, Query.erase_push, alike]

theorem couples_filter_query (column operator : String) {body other : Action Unit}
    (bodies : Couples Any body other) (connective : Connective) :
    Couples Any (filterQuery d column operator body connective)
      (filterQuery d column operator other connective) :=
  .bind_eq (couples_sub_query_text bodies) fun _ => couples_push _

theorem couples_filter_known (column operator : String) {operand other : Operand (Action Unit)}
    (alike : Operand.Alike (Couples Any) operand other) (connective : Connective) :
    Couples Any (filterKnown d column operator operand connective)
      (filterKnown d column operator other connective) := by
  cases alike with
  | query bodies => exact couples_filter_query column operator bodies connective
  | raw expression => exact couples_filter_raw column operator expression connective
  | @value v w nulls =>
    simp only [filterKnown, nulls]
    split
    · exact couples_filter_null column connective _
    · exact couples_filter_bound column operator v w connective

theorem couples_check_operator (operator : String) {operand other : Operand (Action Unit)}
    (alike : Operand.Alike (Couples Any) operand other) :
    Couples Any (checkOperator operator operand) (checkOperator operator other) := by
  unfold checkOperator
  rw [alike.is_null]
  split
  · exact .throw _
  · exact .pure trivial

theorem couples_filter_column (column : String) (operator : Option String)
    {operand other : Operand (Action Unit)} (alike : Operand.Alike (Couples Any) operand other)
    (connective : Connective) :
    Couples Any (filterColumn d column operator operand connective)
      (filterColumn d column operator other connective) := by
  cases operator with
  | none => exact couples_filter_known column "=" alike connective
  | some operator =>
    refine .bind (couples_check_operator operator alike) fun _ _ _ => ?_
    split
    · exact couples_filter_known column operator alike connective
    · refine .bind (.report _ _) fun _ _ _ => ?_
      exact couples_filter_known column "=" (.value rfl) connective

theorem couples_filter_each {entries others : List (String × Value)}
    (alike : EntriesAlike entries others) :
    Couples Any (filterEach d entries) (filterEach d others) := by
  induction alike with
  | nil => exact .pure trivial
  | @cons e f rest more same _ ih =>
    obtain ⟨column, nulls⟩ := same
    simp only [filterEach, column]
    exact .bind (couples_filter_column f.1 (some "=") (.value nulls) .and) fun _ _ _ => ih

theorem couples_filter {subject other : Subject (Action Unit)} (operator : Option String)
    {operand otherOperand : Operand (Action Unit)}
    (subjects : Subject.Alike (Couples Any) subject other)
    (operands : Operand.Alike (Couples Any) operand otherOperand) (connective : Connective) :
    Couples Any (filter d subject operator operand connective)
      (filter d other operator otherOperand connective) := by
  cases subjects with
  | column name => exact couples_filter_column name operator operands connective
  | equalities entries => exact couples_filter_group (couples_filter_each entries) connective
  | group bodies =>
    have grouped := couples_filter_group bodies connective
    cases operator with
    | none => exact grouped
    | some operator => exact .bind (couples_check_operator operator operands) fun _ _ _ => grouped

theorem couples_filter_in (column : String) {members others : Members (Action Unit)}
    (alike : Members.Alike (Couples Any) members others) (connective : Connective)
    (negated : Bool) :
    Couples Any (filterIn d column members connective negated)
      (filterIn d column others connective negated) := by
  cases alike with
  | listed values others =>
    refine .bind .query fun _ _ _ => .bind (.report _ _) fun _ _ _ => ?_
    cases negated with
    | true =>
      exact couples_ask (some (.array values)) (some (.array others))
        (fun _ name => .notIn column values connective name)
        (fun _ name => .notIn column others connective name)
        (fun _ => rfl) (fun _ => rfl) rfl fun _ _ => rfl
    | false =>
      exact couples_ask (some (.array values)) (some (.array others))
        (fun _ name => .isIn column values connective name)
        (fun _ name => .isIn column others connective name)
        (fun _ => rfl) (fun _ => rfl) rfl fun _ _ => rfl
  | query bodies => exact .bind_eq (couples_sub_query_text bodies) fun _ => couples_push _

theorem couples_append (conditions : List Condition) (values : Parameters) :
    Couples Any (append conditions values) (append conditions values) := by
  refine .bind (.report _ _) fun _ _ _ => .modify_query fun q r alike => ?_
  rw [Query.erase_append, Query.erase_append, alike]

theorem couples_append_query {body other : Action Unit} (bodies : Couples Any body other) :
    Couples Any (appendQuery body) (appendQuery other) := by
  refine .bind (.within rfl bodies) fun q r same => ?_
  have conditions : Condition.eraseAll q.conditions = Condition.eraseAll r.conditions :=
    congrArg Query.conditions same
  have values : q.parameters.erase = r.parameters.erase := by
    rw [← q.parameters_erase, same, r.parameters_erase]
  refine .bind (.report _ _) fun _ _ _ => .modify_query fun q r alike => ?_
  rw [Query.erase_append, Query.erase_append, alike, conditions, values]

theorem couples_add_value (value : Value) (bucket : String) :
    Couples Any (addValue value bucket) (addValue value bucket) := by
  refine .bind_eq (.of_except _) fun b => .bind (.report _ _) fun _ _ _ => ?_
  refine .modify_query fun q r alike => ?_
  rw [Query.erase_add_value, alike, ← Query.erase_add_value]

theorem couples_traverse {make makeOther : Query → Traversal}
    (same : ∀ q r, q.erase = r.erase → make q = makeOther r) (value other : Option Value) :
    Couples Any (traverse make value) (traverse makeOther other) := by
  refine .bind .query fun q r alike => ?_
  rw [same q r alike]
  refine .bind (.report _ _) fun _ _ _ => .modify_query fun q r alike => ?_
  rw [Query.erase_traverse, Query.erase_traverse, alike]

theorem next_name_alike {q r : Query} (alike : q.erase = r.erase) (column : String) :
    q.nextName column = r.nextName column := by
  rw [← q.next_name_erase, alike, r.next_name_erase]

/-- A traversal asks for its property unless it is given null. -/
theorem couples_relate (parent related : Node) (relatedAlias relationship property : String)
    {value other : Option Value} (nulls : Query.isGiven value = Query.isGiven other)
    (direction : Direction) :
    Couples Any (relate d parent related relatedAlias relationship property value direction)
      (relate d parent related relatedAlias relationship property other direction) := by
  refine couples_traverse (fun q r alike => ?_) value other
  simp only [Query.relation, next_name_alike alike, nulls]

theorem couples_relate_to_any (parent : Node) (relatedAlias property : String)
    {value other : Option Value} (nulls : Query.isGiven value = Query.isGiven other)
    (direction : Direction) :
    Couples Any (relateToAny d parent relatedAlias property value direction)
      (relateToAny d parent relatedAlias property other direction) := by
  refine couples_traverse (fun q r alike => ?_) value other
  simp only [Query.polymorphicRelation, next_name_alike alike, nulls]

end Action
end GraphQuery
