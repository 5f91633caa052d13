import GraphQuery.Proofs.Parameter.Ledger
import GraphQuery.Proofs.Script.Callback

/-! What the steps that build a query change in it, told without the session around it. Next to the
new query stands what the change wrote into the ledger. -/
namespace GraphQuery

/-- A changed query, and what was entered into the ledger on the way. -/
structure Outcome where
  query : Query
  ledger : Ledger

/-- The parameters of all conditions and traversals in the text of the query, those in spliced
texts included. -/
def Outcome.parameters (o : Outcome) : List String :=
  o.query.writtenNames.map ParameterName.render ++ (Ledger.spliced o.ledger).flatMap Spliced.own

/-- The finished query as the text of a sub-query. -/
def Outcome.written (o : Outcome) (text : String) : Spliced where
  text := text
  own := o.query.writtenNames.map ParameterName.render
  nested := (Ledger.spliced o.ledger).flatMap Spliced.own
  values := o.query.parameters

/-- A change of a query, which may be refused. -/
abbrev Change := Query → Except QueryError Outcome

namespace Change

def quiet (f : Query → Query) : Change := fun q => .ok ⟨f q, []⟩

def named (column : String) (value : Option Value) (f : Query → Query) : Change := fun q =>
  .ok ⟨f q, [.condition (q.nextName column) value]⟩

/-- A traversal binds null where it is given no value. -/
def traverse (property : String) (value : Option Value) (make : Query → Traversal) : Change :=
  fun q => .ok ⟨q.traverse (make q) value, [.traversal (q.nextName property) (value.getD .null)]⟩

def andThen (first second : Change) : Change := fun q =>
  match first q with
  | .error e => .error e
  | .ok o =>
    match second o.query with
    | .error e => .error e
    | .ok r => .ok ⟨r.query, o.ledger ++ r.ledger⟩

/-- A group without conditions leaves no trace. -/
def group (body : Change) (connective : Connective) : Change := fun q =>
  match body q.groupChild with
  | .error e => .error e.insideSubQuery
  | .ok g => .ok ⟨q.filterGroup g.query connective,
      if g.query.conditions.isEmpty then [] else Ledger.grouped g.ledger⟩

/-- Writes a sub-query into the condition that `make` gives. -/
def splice (d : Dialect) (body : Change) (make : String → Condition) : Change := fun q =>
  match body q.child with
  | .error e => .error e.insideSubQuery
  | .ok sub =>
    match d.select sub.query with
    | .error e => .error (QueryError.compile e).insideSubQuery
    | .ok t => .ok ⟨(q.adopt sub.query).push (make t.render),
        (Ledger.spliced sub.ledger ++ [sub.written t.render]).map .spliced⟩

theorem group_ok {body : Change} {connective : Connective} {q : Query} {o : Outcome}
    (made : group body connective q = .ok o) :
    ∃ g, body q.groupChild = .ok g ∧
      o = ⟨q.filterGroup g.query connective,
        if g.query.conditions.isEmpty then [] else Ledger.grouped g.ledger⟩ := by
  unfold group at made
  cases inside : body q.groupChild with
  | error e =>
    rw [inside] at made
    cases made
  | ok g =>
    rw [inside] at made
    exact ⟨g, rfl, (Except.ok.inj made).symm⟩

theorem splice_ok {d : Dialect} {body : Change} {make : String → Condition} {q : Query}
    {o : Outcome} (made : splice d body make q = .ok o) :
    ∃ sub t, body q.child = .ok sub ∧ d.select sub.query = .ok t ∧
      o = ⟨(q.adopt sub.query).push (make t.render),
        (Ledger.spliced sub.ledger ++ [sub.written t.render]).map .spliced⟩ := by
  unfold splice at made
  cases inside : body q.child with
  | error e =>
    rw [inside] at made
    cases made
  | ok sub =>
    simp only [inside] at made
    cases selected : d.select sub.query with
    | error e =>
      rw [selected] at made
      cases made
    | ok t =>
      rw [selected] at made
      exact ⟨sub, t, rfl, selected, (Except.ok.inj made).symm⟩

def filterKnown (d : Dialect) (column operator : String) (operand : Operand Change)
    (connective : Connective) : Change :=
  match operand with
  | .query body => splice d body (.queryComparison column operator · connective)
  | .raw expression => named column none (·.filterRaw column operator expression connective)
  | .value v =>
    if v.isNull then named column none (·.filterNull column connective (operator ≠ "="))
    else named column (some v) (·.filterBound column operator v connective)

def filterColumn (d : Dialect) (column : String) (operator : Option String)
    (operand : Operand Change) (connective : Connective) : Change :=
  match operator with
  | none => filterKnown d column "=" operand connective
  | some operator =>
    if operand.isNull && Operator.isKnown operator && !Operator.isEquality operator then
      fun _ => .error (.operatorBesideNull operator)
    else if Operator.isKnown operator then filterKnown d column operator operand connective
    else filterKnown d column "=" (.value (.string operator)) connective

def filterEach (d : Dialect) : List (String × Value) → Change
  | [] => quiet id
  | (column, v) :: rest =>
    (filterColumn d column (some "=") (.value v) .and).andThen (filterEach d rest)

def filter (d : Dialect) (subject : Subject Change) (operator : Option String)
    (operand : Operand Change) (connective : Connective) : Change :=
  match subject with
  | .column name => filterColumn d name operator operand connective
  | .equalities mapping => group (filterEach d mapping.entries) connective
  | .group body =>
    match operator with
    | none => group body connective
    | some operator =>
      if operand.isNull && Operator.isKnown operator && !Operator.isEquality operator then
        fun _ => .error (.operatorBesideNull operator)
      else group body connective

def filterIn (d : Dialect) (column : String) (members : Members Change) (connective : Connective)
    (negated : Bool) : Change :=
  match members with
  | .listed values =>
    named column (some (.array values)) (·.filterIn column values connective negated)
  | .query body => splice d body (.inQuery column · connective negated)

end Change

namespace Step

mutual

def change (d : Dialect) : Step → Change
  | .target label => .quiet fun q => { q with label := some label }
  | .select columns => .quiet fun q => { q with columns := some columns }
  | .limit rows => .quiet fun q => { q with limit := some rows }
  | .offset rows => .quiet fun q => { q with offset := some rows }
  | .sortBy column direction => .quiet (·.sortBy column direction)
  | .carry parts => .quiet (·.carry parts)
  | .filter subject operator operand connective =>
    .filter d (changeSubject d subject) operator (changeOperand d operand) connective
  | .filterGroup body connective => .group (changeAll d body) connective
  | .filterQuery column operator body connective =>
    .splice d (changeAll d body) (.queryComparison column operator · connective)
  | .filterIn column members connective negated =>
    .filterIn d column (changeMembers d members) connective negated
  | .filterBetween column low high connective negated =>
    .named column (some (.array [low, high]))
      (·.filterBetween d.settings column low high connective negated)
  | .filterNull column connective negated =>
    .named column none (·.filterNull column connective negated)
  | .filterCarried column operator identifier connective =>
    .quiet (·.filterCarried column operator identifier connective)
  | .relate parent related relatedAlias relationship property value direction =>
    .traverse property value
      (·.relation d.settings parent related relatedAlias relationship property value direction)
  | .relateToAny parent relatedAlias property value direction =>
    .traverse property value
      (·.polymorphicRelation d.settings parent relatedAlias property value direction)
  | _ => .quiet id

def changeAll (d : Dialect) : List Step → Change
  | [] => .quiet id
  | step :: rest => (change d step).andThen (changeAll d rest)

def changeSubject (d : Dialect) : Subject (List Step) → Subject Change
  | .column name => .column name
  | .equalities mapping => .equalities mapping
  | .group body => .group (changeAll d body)

def changeOperand (d : Dialect) : Operand (List Step) → Operand Change
  | .value v => .value v
  | .raw expression => .raw expression
  | .query body => .query (changeAll d body)

def changeMembers (d : Dialect) : Members (List Step) → Members Change
  | .listed values => .listed values
  | .query body => .query (changeAll d body)

end

/-- The changes of all steps; one that is refused changes nothing. -/
def changeEach (d : Dialect) : List Step → Query → Outcome
  | [], q => ⟨q, []⟩
  | step :: rest, q =>
    match change d step q with
    | .error _ => changeEach d rest q
    | .ok o =>
      let r := changeEach d rest o.query
      ⟨r.query, o.ledger ++ r.ledger⟩

def ledger (d : Dialect) (steps : List Step) (q : Query) : Ledger := (changeEach d steps q).ledger

end Step

namespace Change

/-- `R` holds of a query, the changed query and what the change enters into the ledger. -/
def Adds (R : Query → Query → Ledger → Prop) (change : Change) : Prop :=
  ∀ q o, change q = .ok o → R q o.query o.ledger

/-- What holds of the changes of steps holds of those of a script. -/
structure Composes (R : Query → Query → Ledger → Prop) : Prop where
  refl : ∀ q, R q q []
  trans : ∀ {q r t l m}, R q r l → R r t m → R q t (l ++ m)

variable {d : Dialect} {R : Query → Query → Ledger → Prop} {steps : List Step}

theorem Composes.all (composes : Composes R) (each : ∀ step ∈ steps, (step.change d).Adds R) :
    (Step.changeAll d steps).Adds R := by
  induction steps with
  | nil =>
    intro q o made
    cases made
    exact composes.refl q
  | cons step rest ih =>
    intro q o made
    simp only [Step.changeAll, andThen] at made
    split at made
    · cases made
    · rename_i first hf
      split at made
      · cases made
      · rename_i second hs
        cases made
        have head := each step List.mem_cons_self q first hf
        have tail := ih (fun next hn => each next (List.mem_cons_of_mem _ hn)) first.query second hs
        exact composes.trans head tail

theorem Composes.each (composes : Composes R) (each : ∀ step ∈ steps, (step.change d).Adds R)
    (q : Query) : R q (Step.changeEach d steps q).query (Step.ledger d steps q) := by
  induction steps generalizing q with
  | nil => exact composes.refl q
  | cons step rest ih =>
    have tail := ih fun next hn => each next (List.mem_cons_of_mem _ hn)
    simp only [Step.ledger, Step.changeEach] at tail ⊢
    split
    · exact tail q
    · rename_i o made
      exact composes.trans (each step List.mem_cons_self q o made) (tail o.query)

end Change
end GraphQuery
