import GraphQuery.Query
import Mathlib.Data.List.Pairwise

/-! A ledger of what was bound under which name, in the order in which it happened. -/
namespace GraphQuery

namespace Condition

def binds : Condition → Bool
  | comparison _ _ (.bound _) _ _ | isIn .. | notIn .. | between .. => true
  | _ => false

mutual

/-- The names under which the condition and everything grouped in it bind values. -/
def boundNames : Condition → List ParameterName
  | group conditions _ => boundNamesOf conditions
  | condition => if condition.binds then condition.name?.toList else []

def boundNamesOf : List Condition → List ParameterName
  | [] => []
  | c :: rest => c.boundNames ++ boundNamesOf rest

end

theorem names_of_append (conditions more : List Condition) :
    namesOf (conditions ++ more) = namesOf conditions ++ namesOf more := by
  induction conditions with
  | nil => rfl
  | cons c rest ih => simp [namesOf, ih]

theorem bound_names_of_append (conditions more : List Condition) :
    boundNamesOf (conditions ++ more) = boundNamesOf conditions ++ boundNamesOf more := by
  induction conditions with
  | nil => rfl
  | cons c rest ih => simp [boundNamesOf, ih]

theorem names_of_single (c : Condition) : namesOf [c] = c.names := by simp [namesOf]

theorem bound_names_of_single (c : Condition) : boundNamesOf [c] = c.boundNames := by
  simp [boundNamesOf]

end Condition

def Traversal.isConstrained : Traversal → Bool
  | relation _ _ _ _ _ _ constrained | polymorphic _ _ _ _ _ constrained => constrained

def Query.boundNames (q : Query) : List ParameterName :=
  Condition.boundNamesOf q.conditions ++ q.traversals.map Traversal.name

/-- The names that the query's own conditions and traversals are written with. -/
def Query.writtenNames (q : Query) : List ParameterName :=
  Condition.boundNamesOf q.conditions ++
    (q.traversals.filter Traversal.isConstrained).map Traversal.name

/-- The text of a sub-query, with the parameters of its own conditions and traversals and those of
the texts inside it. The values are those that it was written with. -/
structure Spliced where
  text : String
  own : List String
  nested : List String
  values : Parameters

def Spliced.parameters (sub : Spliced) : List String := sub.own ++ sub.nested

/-- What a step does with names: a condition or a traversal takes one, with the value it was given
to bind; a sub-query brings those of its own. -/
inductive Entry where
  | condition (name : ParameterName) (value : Option Value)
  | traversal (name : ParameterName) (value : Value)
  | spliced (query : Spliced)

namespace Entry

/-- The value that is written under a name. -/
def write? (x : String) : Entry → Option Value
  | condition name value => if x = name.render then value else none
  | traversal name value => if x = name.render then some value else none
  | spliced query => query.values.get? x

def isTraversal : Entry → Bool
  | traversal .. => true
  | _ => false

def conditionName? : Entry → Option ParameterName
  | condition name _ => some name
  | _ => none

def traversalName? : Entry → Option ParameterName
  | traversal name _ => some name
  | _ => none

def name? : Entry → Option ParameterName
  | condition name _ | traversal name _ => some name
  | spliced _ => none

def conditionValue? : Entry → Option (ParameterName × Value)
  | condition name value => value.map (name, ·)
  | _ => none

def traversalValue? : Entry → Option (ParameterName × Value)
  | traversal name value => some (name, value)
  | _ => none

def spliced? : Entry → Option Spliced
  | spliced query => some query
  | _ => none

/-- Writes nothing under the name of an earlier condition or traversal. -/
def Spares (later earlier : Entry) : Prop :=
  ∀ name, earlier.name? = some name → later.write? name.render = none

end Entry

abbrev Ledger := List Entry

namespace Ledger

def lastWrite (x : String) : Ledger → Option Value
  | [] => none
  | e :: rest => (lastWrite x rest).or (e.write? x)

/-- What a group hands on to its query: its traversals are dropped. -/
def grouped (l : Ledger) : Ledger := l.filter (!·.isTraversal)

def traversals (l : Ledger) : Ledger := l.filter Entry.isTraversal

@[simp] theorem grouped_nil : grouped [] = [] := rfl

@[simp] theorem grouped_condition (name : ParameterName) (value : Option Value) (l : Ledger) :
    grouped (.condition name value :: l) = .condition name value :: grouped l := rfl

@[simp] theorem grouped_traversal (name : ParameterName) (value : Value) (l : Ledger) :
    grouped (.traversal name value :: l) = grouped l := rfl

@[simp] theorem grouped_spliced (query : Spliced) (l : Ledger) :
    grouped (.spliced query :: l) = .spliced query :: grouped l := rfl

@[simp] theorem grouped_append (l m : Ledger) : grouped (l ++ m) = grouped l ++ grouped m :=
  List.filter_append l m

@[simp] theorem traversals_nil : traversals [] = [] := rfl

@[simp] theorem traversals_condition (name : ParameterName) (value : Option Value) (l : Ledger) :
    traversals (.condition name value :: l) = traversals l := rfl

@[simp] theorem traversals_traversal (name : ParameterName) (value : Value) (l : Ledger) :
    traversals (.traversal name value :: l) = .traversal name value :: traversals l := rfl

@[simp] theorem traversals_spliced (query : Spliced) (l : Ledger) :
    traversals (.spliced query :: l) = traversals l := rfl

@[simp] theorem traversals_append (l m : Ledger) :
    traversals (l ++ m) = traversals l ++ traversals m := List.filter_append l m

/-- The values that conditions and then traversals were given, with their names. -/
def given (l : Ledger) : List (ParameterName × Value) :=
  l.filterMap Entry.conditionValue? ++ l.filterMap Entry.traversalValue?

/-- The texts of all sub-queries, those inside other sub-queries included. -/
def spliced (l : Ledger) : List Spliced := l.filterMap Entry.spliced?

theorem last_write_append (x : String) (l m : Ledger) :
    lastWrite x (l ++ m) = (lastWrite x m).or (lastWrite x l) := by
  induction l with
  | nil => simp [lastWrite]
  | cons e rest ih => simp [lastWrite, ih, Option.or_assoc]

theorem last_write_is_some {x : String} {l : Ledger} :
    (lastWrite x l).isSome ↔ ∃ e ∈ l, (e.write? x).isSome := by
  induction l with
  | nil => simp [lastWrite]
  | cons e rest ih => simp [lastWrite, Option.isSome_or, ih, or_comm]

theorem last_write_eq_none {x : String} {l : Ledger} (spared : ∀ e ∈ l, e.write? x = none) :
    lastWrite x l = none := by
  rw [← Option.not_isSome_iff_eq_none, last_write_is_some]
  rintro ⟨e, he, written⟩
  simp [spared e he] at written

/-- No entry overwrites the value of an earlier condition or traversal. -/
abbrev Settled (l : Ledger) : Prop := l.Pairwise fun earlier later => later.Spares earlier

/-- Where nothing is overwritten, the value given to a condition or a traversal stays. -/
theorem Settled.last_write {l : Ledger} (settled : Settled l) {e : Entry} (member : e ∈ l)
    {name : ParameterName} (own : e.name? = some name) {value : Value}
    (written : e.write? name.render = some value) : lastWrite name.render l = some value := by
  induction l with
  | nil => cases member
  | cons f rest ih =>
    rw [Settled, List.pairwise_cons] at settled
    rcases List.mem_cons.mp member with here | there
    · subst here
      have spared : lastWrite name.render rest = none :=
        last_write_eq_none fun later hl => settled.1 later hl name own
      simp [lastWrite, spared, written]
    · simp [lastWrite, ih settled.2 there]

/-- The traversals' values may be taken first: none of their names is written later on. -/
theorem Settled.last_write_split {l : Ledger} (settled : Settled l) (x : String) :
    lastWrite x l = (lastWrite x (traversals l)).or (lastWrite x (grouped l)) := by
  induction l with
  | nil => rfl
  | cons e rest ih =>
    rw [Settled, List.pairwise_cons] at settled
    have tail := ih settled.2
    cases e with
    | traversal name value =>
      by_cases h : x = name.render
      · subst h
        have spared : lastWrite name.render rest = none :=
          last_write_eq_none fun later hl => settled.1 later hl name rfl
        rw [spared] at tail
        have parts := Option.or_eq_none_iff.mp tail.symm
        simp [lastWrite, spared, parts.1, Entry.write?]
      · simpa [lastWrite, Entry.write?, h] using tail
    | condition name value => simp [lastWrite, tail, Option.or_assoc]
    | spliced query => simp [lastWrite, tail, Option.or_assoc]

theorem mem_spliced {l : Ledger} {sub : Spliced} : sub ∈ l.spliced ↔ .spliced sub ∈ l := by
  constructor
  · intro member
    obtain ⟨e, he, same⟩ := List.mem_filterMap.mp member
    cases e with
    | spliced query => exact Option.some.inj same ▸ he
    | condition | traversal => cases same
  · exact fun member => List.mem_filterMap.mpr ⟨_, member, rfl⟩

theorem filter_map_grouped {α : Type} {f : Entry → Option α}
    (ignores : ∀ name value, f (.traversal name value) = none) (l : Ledger) :
    (grouped l).filterMap f = l.filterMap f := by
  induction l with
  | nil => rfl
  | cons e rest ih =>
    cases e <;> simp [List.filterMap_cons, ignores, ih]

theorem traversal_names_grouped (l : Ledger) :
    (grouped l).filterMap Entry.traversalName? = [] := by
  induction l with
  | nil => rfl
  | cons e rest ih => cases e <;> exact ih

theorem traversals_grouped (l : Ledger) : traversals (grouped l) = [] := by
  simp [grouped, traversals]

theorem grouped_eq {l : Ledger} (untraversed : traversals l = []) : grouped l = l := by
  rw [traversals, List.filter_eq_nil_iff] at untraversed
  exact List.filter_eq_self.mpr fun e member => by simpa using untraversed e member

theorem grouped_grouped (l : Ledger) : grouped (grouped l) = grouped l := by
  simp [grouped]

/-! A ledger of spliced texts alone. -/

theorem filter_map_splices {α : Type} {f : Entry → Option α}
    (ignores : ∀ sub, f (.spliced sub) = none) (subs : List Spliced) :
    (subs.map Entry.spliced).filterMap f = [] := by
  induction subs with
  | nil => rfl
  | cons sub rest ih => simp only [List.map_cons, List.filterMap_cons, ignores, ih]

theorem spliced_splices (subs : List Spliced) : spliced (subs.map Entry.spliced) = subs := by
  induction subs with
  | nil => rfl
  | cons sub rest ih => exact congrArg (sub :: ·) ih

theorem grouped_splices (subs : List Spliced) :
    grouped (subs.map Entry.spliced) = subs.map Entry.spliced := by
  induction subs with
  | nil => rfl
  | cons sub rest ih => exact congrArg (Entry.spliced sub :: ·) ih

theorem traversals_splices (subs : List Spliced) : traversals (subs.map Entry.spliced) = [] := by
  rw [← grouped_splices, traversals_grouped]

theorem settled_splices (subs : List Spliced) : Settled (subs.map Entry.spliced) := by
  refine List.pairwise_of_forall_mem_list ?_
  intro earlier he later _ name own
  obtain ⟨sub, _, rfl⟩ := List.mem_map.mp he
  cases own

end Ledger
end GraphQuery
