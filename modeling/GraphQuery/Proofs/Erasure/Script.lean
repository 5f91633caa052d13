import GraphQuery.Proofs.Erasure.Filter
import GraphQuery.Proofs.Script.Callback

/-! Scripts that differ in bound values only are written alike: no text shows more of a value than
whether it is null. -/
namespace GraphQuery

/-- Null stays null, and all other values become one. -/
def Value.erase : Value → Value
  | .null => .null
  | _ => .bool true

theorem Value.is_null_erase (v : Value) : v.erase.isNull = v.isNull := by
  cases v <;> rfl

namespace Step

mutual

/-- The step without the values that it binds. Values that are written out as text stay, as do those
that are added to a bucket as they are. -/
def erase : Step → Step
  | .appendQuery body => .appendQuery (eraseAll body)
  | .filter subject operator operand connective =>
    .filter (eraseSubject subject) operator (eraseOperand operand) connective
  | .filterGroup body connective => .filterGroup (eraseAll body) connective
  | .filterQuery column operator body connective =>
    .filterQuery column operator (eraseAll body) connective
  | .filterIn column members connective negated =>
    .filterIn column (eraseMembers members) connective negated
  | .filterBetween column _ _ connective negated =>
    .filterBetween column .null .null connective negated
  | .relate parent related relatedAlias relationship property value direction =>
    .relate parent related relatedAlias relationship property (some (value.getD .null).erase)
      direction
  | .relateToAny parent relatedAlias property value direction =>
    .relateToAny parent relatedAlias property (some (value.getD .null).erase) direction
  | .insert rows => .insert (rows.map Record.erase)
  | .insertReturning row sequence => .insertReturning row.erase sequence
  | .update values => .update values.erase
  | .connect parent related relationship properties =>
    .connect parent related relationship properties.erase
  | .insertText rows => .insertText (rows.map Record.erase)
  | .insertReturningText row sequence => .insertReturningText row.erase sequence
  | .updateText values => .updateText values.erase
  | .connectText parent related relationship properties =>
    .connectText parent related relationship properties.erase
  | step => step

def eraseAll : List Step → List Step
  | [] => []
  | step :: rest => step.erase :: eraseAll rest

def eraseSubject : Subject (List Step) → Subject (List Step)
  | .column name => .column name
  | .equalities mapping => .equalities (mapping.mapValues Value.erase)
  | .group body => .group (eraseAll body)

def eraseOperand : Operand (List Step) → Operand (List Step)
  | .value v => .value v.erase
  | .raw expression => .raw expression
  | .query body => .query (eraseAll body)

def eraseMembers : Members (List Step) → Members (List Step)
  | .listed _ => .listed []
  | .query body => .query (eraseAll body)

end

section Rules

open GraphQuery.Action

theorem couples_done {a b : Action Unit} (couples : Couples Any a b) :
    Couples Any (done a) (done b) :=
  couples.bind fun _ _ _ => .pure trivial

theorem couples_unanswered {α : Type} {a b : Action α} {f : α → Answer} (couples : Couples Eq a b) :
    Couples Any (f <$> a) (f <$> b) :=
  couples.map fun _ _ _ => trivial

/-- What is set beside conditions and values is set alike. -/
theorem couples_set {f : Query → Query} (blind : ∀ q, (f q).erase = f q.erase) :
    Couples Any (done (modifyQuery f)) (done (modifyQuery f)) := by
  refine couples_done (.modify_query fun q r alike => ?_)
  rw [blind, blind, alike]

theorem couples_reply {f : Recorder → Recorder} (reply : Reply)
    (queues : ∀ r, f r = { r with replies := r.replies ++ [reply] }) :
    Couples Any (done (modifyRecorder f)) (done (modifyRecorder f)) := by
  refine couples_done fun s t alike => .ok trivial ⟨alike.query, ?_, ?_⟩
  · simp only [queues, alike.statements]
  · simp only [queues, alike.replies]

theorem couples_append_encoded (conditions : Value) (values : Parameters) :
    Couples Any (Action.appendEncoded conditions values)
      (Action.appendEncoded conditions values) := by
  unfold Action.appendEncoded
  split
  · exact .bind (couples_append _ values) fun _ _ _ => .pure trivial
  · exact .pure trivial

theorem given_erase (value : Option Value) :
    Query.isGiven value = Query.isGiven (some (value.getD .null).erase) := by
  simp only [Query.isGiven, Option.getD_some, Value.is_null_erase]

theorem entries_alike_erase (entries : List (String × Value)) :
    EntriesAlike entries (entries.map (Prod.map id Value.erase)) := by
  induction entries with
  | nil => exact .nil
  | cons e rest ih => exact .cons ⟨rfl, (Value.is_null_erase e.2).symm⟩ ih

theorem erase_rows (rows : List Row) :
    rows.map Record.erase = (rows.map Record.erase).map Record.erase := by
  simp only [List.map_map, Function.comp_def, Record.erase_erase]

variable (d : Dialect)

mutual

/-- A step and its erasure keep sessions alike. -/
theorem run_couples : (step : Step) → Couples Any (run d step) (run d step.erase)
  | .target _ | .select _ | .limit _ | .offset _ | .sortBy .. | .carry _ | .renew =>
    couples_set fun _ => rfl
  | .addValue value bucket => couples_done (couples_add_value value bucket)
  | .appendQuery body => couples_done (couples_append_query (run_all_couples body))
  | .appendEncoded conditions values => couples_append_encoded conditions values
  | .filter subject operator operand connective =>
    couples_done (couples_filter operator (subject_couples subject) (operand_couples operand)
      connective)
  | .filterGroup body connective =>
    couples_done (couples_filter_group (run_all_couples body) connective)
  | .filterQuery column operator body connective =>
    couples_done (couples_filter_query column operator (run_all_couples body) connective)
  | .filterIn column members connective negated =>
    couples_done (couples_filter_in column (members_couples members) connective negated)
  | .filterBetween column low high connective negated =>
    couples_done (couples_filter_between column low high .null .null connective negated)
  | .filterNull column connective negated =>
    couples_done (couples_filter_null column connective negated)
  | .filterCarried column operator identifier connective =>
    couples_done (couples_filter_carried column operator identifier connective)
  | .relate parent related relatedAlias relationship property value direction =>
    couples_done (couples_relate parent related relatedAlias relationship property
      (given_erase value) direction)
  | .relateToAny parent relatedAlias property value direction =>
    couples_done (couples_relate_to_any parent relatedAlias property (given_erase value) direction)
  | .respond rows => couples_reply (.ok (.ofRows rows)) fun _ => rfl
  | .fail error => couples_reply (.error error) fun _ => rfl
  | .fetchAll => couples_unanswered (couples_fetch d ["*"])
  | .fetch columns => couples_unanswered (couples_fetch d columns)
  | .pluck column =>
    couples_unanswered (.bind_eq (couples_fetch d [column]) fun _ => .pure rfl)
  | .pluckKeyed column key =>
    couples_unanswered (.bind_eq (couples_fetch d [column, key]) fun _ => .pure rfl)
  | .aggregate function columns percentile =>
    couples_unanswered (couples_aggregate d function columns percentile)
  | .sum column => couples_unanswered (couples_aggregate d "sum" [column] none)
  | .avg column => couples_unanswered (couples_aggregate d "avg" [column] none)
  | .min column => couples_unanswered (couples_aggregate d "min" [column] none)
  | .max column => couples_unanswered (couples_aggregate d "max" [column] none)
  | .stdev column => couples_unanswered (couples_aggregate d "stdev" [column] none)
  | .stdevp column => couples_unanswered (couples_aggregate d "stdevp" [column] none)
  | .percentileDisc column percentile =>
    couples_unanswered (couples_aggregate d "percentileDisc" [column] (some percentile))
  | .percentileCont column percentile =>
    couples_unanswered (couples_aggregate d "percentileCont" [column] (some percentile))
  | .count column =>
    couples_unanswered (.bind_eq (couples_aggregate d "count" [column] none) fun _ => .pure rfl)
  | .countDistinct column =>
    couples_unanswered
      (.bind_eq (couples_aggregate d "countDistinct" [column] none) fun _ => .pure rfl)
  | .collect column =>
    couples_unanswered (.bind_eq (couples_aggregate d "collect" [column] none) fun _ => .pure rfl)
  | .insert rows => couples_unanswered (couples_insert d (erase_rows rows))
  | .insertReturning row sequence =>
    couples_unanswered (couples_insert_returning d row.erase_erase.symm sequence)
  | .update values => couples_unanswered (couples_update d values.erase_erase.symm)
  | .create new => couples_unanswered (couples_create d new)
  | .connect parent related relationship properties =>
    couples_unanswered
      (couples_connect d parent related relationship properties.erase_erase.symm)
  | .selectText => couples_unanswered (couples_select_text d)
  | .inlinedText => (couples_inlined_text d).map fun _ _ _ => trivial
  | .insertText rows => couples_unanswered (couples_insert_text d (erase_rows rows))
  | .insertReturningText row sequence =>
    couples_unanswered (couples_insert_returning_text d row.erase_erase.symm sequence)
  | .updateText values => couples_unanswered (couples_update_text d values.erase_erase.symm)
  | .createText new => couples_unanswered (couples_create_text d new)
  | .connectText parent related relationship properties =>
    couples_unanswered
      (couples_connect_text d parent related relationship properties.erase_erase.symm)
  | .nodeAlias (some _) | .parameterForm _ | .rowNames _ => .pure trivial
  | .nodeAlias none | .updateNames _ => .bind .query fun _ _ _ => .pure trivial

theorem run_all_couples :
    (steps : List Step) → Couples Any (runAll d steps) (runAll d (eraseAll steps))
  | [] => .pure trivial
  | step :: rest => .bind (run_couples step) fun _ _ _ => run_all_couples rest

theorem subject_couples : (subject : Subject (List Step)) →
    Subject.Alike (Couples Any) (runSubject d subject) (runSubject d (eraseSubject subject))
  | .column name => .column name
  | .equalities mapping => .equalities (entries_alike_erase mapping.entries)
  | .group body => .group (run_all_couples body)

theorem operand_couples : (operand : Operand (List Step)) →
    Operand.Alike (Couples Any) (runOperand d operand) (runOperand d (eraseOperand operand))
  | .value v => .value v.is_null_erase.symm
  | .raw expression => .raw expression
  | .query body => .query (run_all_couples body)

theorem members_couples : (members : Members (List Step)) →
    Members.Alike (Couples Any) (runMembers d members) (runMembers d (eraseMembers members))
  | .listed values => .listed values []
  | .query body => .query (run_all_couples body)

end

end Rules

theorem erase_all_take (steps : List Step) (n : Nat) :
    eraseAll (steps.take n) = (eraseAll steps).take n := by
  induction steps generalizing n with
  | nil => cases n <;> rfl
  | cons step rest ih =>
    cases n with
    | zero => rfl
    | succ n => simp only [List.take_succ_cons, eraseAll, ih]

variable {d : Dialect}

/-- Steps with one erasure keep sessions alike, each being coupled with it. -/
theorem run_alike {step other : Step} (same : step.erase = other.erase) {s t : Session}
    (alike : s.Alike t) : (run d step s).2.Alike (run d other t).2 := by
  have first := (run_couples d step alike).sessions
  have second := (run_couples d other (.refl t)).sessions
  rw [same] at first
  exact first.trans second.symm

theorem run_each_alike {steps others : List Step} (same : eraseAll steps = eraseAll others)
    {s t : Session} (alike : s.Alike t) : (runEach d steps s).Alike (runEach d others t) := by
  induction steps generalizing others s t with
  | nil =>
    cases others with
    | nil => exact alike
    | cons => cases same
  | cons step rest ih =>
    cases others with
    | nil => cases same
    | cons other more =>
      obtain ⟨head, tail⟩ := List.cons.inj same
      exact ih tail (run_alike head alike)

/-- After every step of two scripts that differ in bound values, the query is written as the same
text, and the same texts have been sent. -/
theorem texts_show_no_values {steps others : List Step} (same : eraseAll steps = eraseAll others)
    {s t : Session} (alike : s.Alike t) (n : Nat) :
    let a := runEach d (steps.take n) s
    let b := runEach d (others.take n) t
    d.select a.query = d.select b.query ∧
      a.recorder.statements.map Statement.text = b.recorder.statements.map Statement.text := by
  have taken : eraseAll (steps.take n) = eraseAll (others.take n) := by
    rw [erase_all_take, erase_all_take, same]
  have after := run_each_alike (d := d) taken alike
  refine ⟨?_, ?_⟩
  · rw [← d.select_erase, after.query, d.select_erase]
  · have texts := congrArg (List.map Statement.text) after.statements
    rwa [List.map_map, List.map_map] at texts

/-- A search and an update with their values left open. -/
def searchAndUpdate (name : String) (ages : List Value) (low : Nat) (row : Row) : List Step :=
  [.target "Person",
    .filter (.equalities (.ofList [("name", .string name), ("left", .null)])) none
      (.value .null) .and,
    .filterGroup
      [.filterIn "age" (.listed ages) .and true,
        .filterQuery "id" "="
          [.target "Post", .filterBetween "likes" (.nat low) (.nat 100) .and false, .limit 1] .or]
      .and,
    .relateToAny ⟨["Person"], none, none⟩ "friend" "name" (some (.string name)) .outgoing,
    .fetchAll, .insert [row], .update row]

theorem search_shows_no_values :
    let steps := searchAndUpdate "Ada" [.nat 1, .null] 7 (.ofList [("b", .nat 1), ("a", .null)])
    let others := searchAndUpdate "x OR 1=1" [] 8 (.ofList [("b", .string "y"), ("a", .nat 2)])
    let a := runEach {} steps {}
    let b := runEach {} others {}
    eraseAll steps = eraseAll others ∧ a.recorder.statements.length = 3 ∧
      a.query.parameters ≠ b.query.parameters ∧
      a.recorder.statements.map Statement.text = b.recorder.statements.map Statement.text := by
  have same : eraseAll (searchAndUpdate "Ada" [.nat 1, .null] 7
      (.ofList [("b", .nat 1), ("a", .null)])) =
      eraseAll (searchAndUpdate "x OR 1=1" [] 8 (.ofList [("b", .string "y"), ("a", .nat 2)])) :=
    rfl
  refine ⟨same, by decide +kernel, by decide +kernel, ?_⟩
  exact (texts_show_no_values (d := {}) same (.refl {}) 7).2

end Step
end GraphQuery
