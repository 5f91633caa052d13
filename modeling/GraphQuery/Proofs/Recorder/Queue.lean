import GraphQuery.Recorder
import Mathlib.Data.List.Induction

/-! A recorder keeps every call and gives its replies in turn, however replies and calls alternate:
each call returns the oldest reply that none before it has returned, or no rows where there is no
such reply. -/
namespace GraphQuery.Recorder

/-- What is done with a connection: a reply is put in, or a call is made. -/
inductive Use where
  | respond (rows : List Row)
  | fail (error : TransportError)
  | select (text : String) (parameters : Parameters)
  | insert (text : String) (parameters : Parameters)
  | update (text : String) (parameters : Parameters)
  | statement (text : String) (parameters : Parameters) (raw : Bool)

/-- The reply that is put in. Rows come back as they were given, with the cursor on the first. -/
def Use.reply? : Use → Option Reply
  | .respond rows => some (.ok ⟨rows, 0⟩)
  | .fail error => some (.error error)
  | .select .. | .insert .. | .update .. | .statement .. => none

/-- The statement that is called. Only a plain statement can ask for raw rows. -/
def Use.called? : Use → Option Statement
  | .respond _ | .fail _ => none
  | .select text parameters => some ⟨.select, text, parameters, false⟩
  | .insert text parameters => some ⟨.insert, text, parameters, false⟩
  | .update text parameters => some ⟨.update, text, parameters, false⟩
  | .statement text parameters raw => some ⟨.statement, text, parameters, raw⟩

/-- What a call returns, and the recorder after it. -/
def call (r : Recorder) (x : Statement) : Option Reply × Recorder :=
  (some (r.execute x).1, (r.execute x).2)

def use (r : Recorder) : Use → Option Reply × Recorder
  | .respond rows => (none, r.respond rows)
  | .fail error => (none, r.fail error)
  | .select text parameters => r.call ⟨.select, text, parameters, false⟩
  | .insert text parameters => r.call ⟨.insert, text, parameters, false⟩
  | .update text parameters => r.call ⟨.update, text, parameters, false⟩
  | .statement text parameters raw => r.call ⟨.statement, text, parameters, raw⟩

/-- What came back from each use, in order, and the recorder after all of them. -/
def run (uses : List Use) : List (Option Reply) × Recorder :=
  uses.foldl (fun done u => (done.1 ++ [(done.2.use u).1], (done.2.use u).2)) ([], {})

/-- The replies that were put in, oldest first. -/
def queued (uses : List Use) : List Reply := uses.filterMap Use.reply?

/-- The statements that were called, oldest first. -/
def called (uses : List Use) : List Statement := uses.filterMap Use.called?

/-- The use at `i` returns the reply that was put in as number `place i`, if there is a number. -/
structure InTurn (uses : List Use) (place : Nat → Option Nat) : Prop where
  /-- Only calls return replies. -/
  caller : ∀ i k, place i = some k → ∃ u x, uses[i]? = some u ∧ u.called? = some x
  /-- The reply was put in before the call. -/
  before : ∀ i k, place i = some k → k < (queued (uses.take i)).length
  /-- No reply is returned twice. -/
  once : ∀ i j k, place i = some k → place j = some k → i = j
  /-- All older replies have been returned before. -/
  oldest : ∀ i k, place i = some k → ∀ m < k, ∃ j < i, place j = some m
  /-- A call goes without a reply only when all that were put in have been returned. -/
  empty : ∀ i u x, uses[i]? = some u → u.called? = some x → place i = none →
    ∀ m < (queued (uses.take i)).length, ∃ j < i, place j = some m

/-- What comes back from the use `u` at `i`: nothing unless it is a call, then the reply in its
place, or no rows if it has none. -/
def answer (uses : List Use) (place : Nat → Option Nat) (i : Nat) (u : Use) : Option Reply :=
  u.called?.map fun _ => ((place i).bind fun k => (queued uses)[k]?).getD (.ok ⟨[], 0⟩)

theorem reply_or_call (u : Use) :
    (∃ reply, u.reply? = some reply ∧ u.called? = none) ∨
      ∃ x, u.reply? = none ∧ u.called? = some x := by
  cases u with
  | respond rows => exact .inl ⟨_, rfl, rfl⟩
  | fail error => exact .inl ⟨_, rfl, rfl⟩
  | select text parameters => exact .inr ⟨_, rfl, rfl⟩
  | insert text parameters => exact .inr ⟨_, rfl, rfl⟩
  | update text parameters => exact .inr ⟨_, rfl, rfl⟩
  | statement text parameters raw => exact .inr ⟨_, rfl, rfl⟩

theorem use_reply (r : Recorder) {u : Use} {reply : Reply} (put : u.reply? = some reply) :
    r.use u = (none, { r with replies := r.replies ++ [reply] }) := by
  cases u <;> cases put <;> rfl

theorem use_call (r : Recorder) {u : Use} {x : Statement} (calls : u.called? = some x) :
    r.use u = r.call x := by
  cases u <;> cases calls <;> rfl

theorem run_append (uses : List Use) (u : Use) :
    run (uses ++ [u]) =
      ((run uses).1 ++ [((run uses).2.use u).1], ((run uses).2.use u).2) := by
  rw [run, List.foldl_append]
  rfl

theorem queued_append_reply (uses : List Use) {u : Use} {reply : Reply}
    (put : u.reply? = some reply) : queued (uses ++ [u]) = queued uses ++ [reply] := by
  simp [queued, put]

theorem queued_append_call (uses : List Use) {u : Use} (calls : u.reply? = none) :
    queued (uses ++ [u]) = queued uses := by
  simp [queued, calls]

/-- How many replies wait. A call takes one, and none when there is none. -/
def waiting (uses : List Use) : Nat :=
  uses.foldl (fun count u => if u.called?.isSome then count - 1 else count + 1) 0

/-- How many replies have been returned. -/
def returned (uses : List Use) : Nat := (queued uses).length - waiting uses

theorem waiting_append (uses : List Use) (u : Use) :
    waiting (uses ++ [u]) =
      if u.called?.isSome then waiting uses - 1 else waiting uses + 1 := by
  rw [waiting, List.foldl_append]
  rfl

theorem waiting_le (uses : List Use) : waiting uses ≤ (queued uses).length := by
  induction uses using List.reverseRecOn with
  | nil => exact Nat.le_refl 0
  | append_singleton uses u ih =>
    rw [waiting_append]
    rcases reply_or_call u with ⟨reply, put, silent⟩ | ⟨x, silent, calls⟩
    · rw [queued_append_reply uses put, silent, List.length_append]
      exact Nat.succ_le_succ ih
    · rw [queued_append_call uses silent, calls]
      exact Nat.le_trans (Nat.sub_le _ 1) ih

theorem returned_append_reply (uses : List Use) {u : Use} {reply : Reply}
    (put : u.reply? = some reply) (silent : u.called? = none) :
    returned (uses ++ [u]) = returned uses := by
  rw [returned, waiting_append, queued_append_reply uses put, silent, List.length_append]
  exact Nat.add_sub_add_right ..

theorem returned_append_call (uses : List Use) {u : Use} {x : Statement}
    (silent : u.reply? = none) (calls : u.called? = some x) :
    returned (uses ++ [u]) = if waiting uses = 0 then returned uses else returned uses + 1 := by
  have within := waiting_le uses
  have step : waiting (uses ++ [u]) = waiting uses - 1 := by
    rw [waiting_append, calls]
    rfl
  rw [returned, step, queued_append_call uses silent, returned]
  split <;> omega

/-- The replies that wait are those that were put in last. -/
theorem replies_run (uses : List Use) :
    (run uses).2.replies = (queued uses).drop (returned uses) := by
  induction uses using List.reverseRecOn with
  | nil => rfl
  | append_singleton uses u ih =>
    rw [run_append]
    rcases reply_or_call u with ⟨reply, put, silent⟩ | ⟨x, silent, calls⟩
    · have inside : returned uses ≤ (queued uses).length := Nat.sub_le ..
      rw [use_reply _ put, queued_append_reply uses put, returned_append_reply uses put silent,
        List.drop_append_of_le_length inside, ← ih]
    · rw [use_call _ calls, queued_append_call uses silent, returned_append_call uses silent calls]
      by_cases idle : waiting uses = 0
      · have nothing : (queued uses).drop (returned uses) = [] := by
          rw [returned, idle, Nat.sub_zero, List.drop_length]
        rw [if_pos idle, nothing]
        rw [nothing] at ih
        simp only [call, execute, ih]
      · have inside : returned uses < (queued uses).length := by
          have within := waiting_le uses
          rw [returned]
          omega
        rw [if_neg idle]
        rw [List.drop_eq_getElem_cons inside] at ih
        simp only [call, execute, ih]

theorem statements_run (uses : List Use) : (run uses).2.statements = called uses := by
  induction uses using List.reverseRecOn with
  | nil => rfl
  | append_singleton uses u ih =>
    rw [run_append, called, List.filterMap_append, ← called, ← ih]
    rcases reply_or_call u with ⟨reply, put, silent⟩ | ⟨x, silent, calls⟩
    · rw [use_reply _ put]
      simp [silent]
    · rw [use_call _ calls]
      simp only [call, execute]
      split <;> simp [calls]

theorem length_answers (uses : List Use) : (run uses).1.length = uses.length := by
  induction uses using List.reverseRecOn with
  | nil => rfl
  | append_singleton uses u ih => simp [run_append, ih]

/-- A use is answered by the recorder that the uses before it leave. -/
theorem answers_run (uses : List Use) (i : Nat) :
    (run uses).1[i]? = uses[i]?.map fun u => ((run (uses.take i)).2.use u).1 := by
  induction uses using List.reverseRecOn with
  | nil => rfl
  | append_singleton uses u ih =>
    rw [run_append]
    rcases Nat.lt_trichotomy i uses.length with earlier | rfl | later
    · rw [List.getElem?_append_left (by rwa [length_answers]), List.getElem?_append_left earlier,
        List.take_append_of_le_length (Nat.le_of_lt earlier), ih]
    · have last : (uses ++ [u])[uses.length]? = some u := List.getElem?_concat_length
      rw [last, List.take_left, ← length_answers uses, List.getElem?_concat_length]
      rfl
    · rw [List.getElem?_eq_none (by simp [length_answers]; omega),
        List.getElem?_eq_none (by simp; omega)]
      rfl

/-- The number of the reply that the use at `i` returns. -/
def place (uses : List Use) (i : Nat) : Option Nat :=
  (uses[i]?.bind Use.called?).bind fun _ =>
    if waiting (uses.take i) = 0 then none else some (returned (uses.take i))

theorem place_call {uses : List Use} {i : Nat} {u : Use} {x : Statement}
    (here : uses[i]? = some u) (calls : u.called? = some x) :
    place uses i =
      if waiting (uses.take i) = 0 then none else some (returned (uses.take i)) := by
  rw [place, here, Option.bind_some, calls, Option.bind_some]

theorem place_reply {uses : List Use} {i : Nat} {u : Use} (here : uses[i]? = some u)
    (silent : u.called? = none) : place uses i = none := by
  rw [place, here, Option.bind_some, silent, Option.bind_none]

theorem place_outside {uses : List Use} {i : Nat} (outside : uses.length ≤ i) :
    place uses i = none := by
  rw [place, List.getElem?_eq_none outside, Option.bind_none, Option.bind_none]

theorem called_of_place {uses : List Use} {i k : Nat} (placed : place uses i = some k) :
    ∃ u x, uses[i]? = some u ∧ u.called? = some x := by
  rw [place, Option.bind_eq_some_iff] at placed
  obtain ⟨x, called, -⟩ := placed
  obtain ⟨u, here, calls⟩ := Option.bind_eq_some_iff.mp called
  exact ⟨u, x, here, calls⟩

theorem returned_of_place {uses : List Use} {i k : Nat} (placed : place uses i = some k) :
    returned (uses.take i) = k ∧ waiting (uses.take i) ≠ 0 := by
  obtain ⟨u, x, here, calls⟩ := called_of_place placed
  rw [place_call here calls] at placed
  split at placed
  · cases placed
  · rename_i more
    exact ⟨Option.some.inj placed, more⟩

theorem returned_take_succ {uses : List Use} {i : Nat} {u : Use} (here : uses[i]? = some u) :
    returned (uses.take (i + 1)) =
      returned (uses.take i) + if (place uses i).isSome then 1 else 0 := by
  rw [List.take_add_one, here, Option.toList_some]
  rcases reply_or_call u with ⟨reply, put, silent⟩ | ⟨x, silent, calls⟩
  · rw [returned_append_reply _ put silent, place_reply here silent]
    rfl
  · rw [returned_append_call _ silent calls, place_call here calls]
    split <;> rfl

/-- What has been returned before a use are the oldest replies, one by one. -/
theorem returned_before (uses : List Use) (i m : Nat) :
    m < returned (uses.take i) ↔ ∃ j < i, place uses j = some m := by
  induction i with
  | zero => simp [returned, queued]
  | succ i ih =>
    have split : (∃ j < i + 1, place uses j = some m) ↔
        (∃ j < i, place uses j = some m) ∨ place uses i = some m := by
      constructor
      · rintro ⟨j, before, placed⟩
        rcases Nat.lt_succ_iff_lt_or_eq.mp before with earlier | rfl
        · exact .inl ⟨j, earlier, placed⟩
        · exact .inr placed
      · rintro (⟨j, earlier, placed⟩ | placed)
        · exact ⟨j, Nat.lt_succ_of_lt earlier, placed⟩
        · exact ⟨i, Nat.lt_succ_self i, placed⟩
    rw [split, ← ih]
    cases here : uses[i]? with
    | none =>
      have outside : uses.length ≤ i := List.getElem?_eq_none_iff.mp here
      rw [List.take_of_length_le outside, List.take_of_length_le (Nat.le_succ_of_le outside),
        place_outside outside]
      simp
    | some u =>
      rw [returned_take_succ here]
      cases placed : place uses i with
      | none => simp
      | some k =>
        have count := (returned_of_place placed).1
        simp only [Option.isSome_some, if_true, Option.some.injEq]
        omega

theorem called_within {uses : List Use} {i k : Nat} (placed : place uses i = some k) :
    k < (queued (uses.take i)).length := by
  obtain ⟨count, more⟩ := returned_of_place placed
  have within := waiting_le (uses.take i)
  rw [returned] at count
  omega

theorem in_turn (uses : List Use) : InTurn uses (place uses) where
  caller _ _ placed := called_of_place placed
  before _ _ placed := called_within placed
  once := by
    have apart {i j k : Nat} (first : place uses i = some k) (second : place uses j = some k) :
        ¬ i < j := by
      intro earlier
      have below := (returned_before uses j k).mpr ⟨i, earlier, first⟩
      have count := (returned_of_place second).1
      omega
    intro i j k first second
    exact Nat.le_antisymm (Nat.not_lt.mp (apart second first)) (Nat.not_lt.mp (apart first second))
  oldest i k placed m older := by
    apply (returned_before uses i m).mp
    rwa [(returned_of_place placed).1]
  empty i u x here calls unplaced m inside := by
    apply (returned_before uses i m).mp
    rw [place_call here calls] at unplaced
    split at unplaced
    · rename_i idle
      rwa [returned, idle, Nat.sub_zero]
    · cases unplaced

/-- What is returned next depends only on what has been returned before. -/
theorem InTurn.next {uses : List Use} {place other : Nat → Option Nat} (turn : InTurn uses place)
    (also : InTurn uses other) {i k : Nat} (before : ∀ j < i, place j = other j)
    (placed : place i = some k) : other i = some k := by
  obtain ⟨u, x, here, calls⟩ := turn.caller i k placed
  have waits : ¬ ∃ j < i, other j = some k := by
    rintro ⟨j, earlier, gone⟩
    have same := turn.once i j k placed ((before j earlier).trans gone)
    omega
  cases there : other i with
  | none => exact absurd (also.empty i u x here calls there k (turn.before i k placed)) waits
  | some m =>
    rcases Nat.lt_trichotomy m k with older | rfl | newer
    · obtain ⟨j, earlier, gone⟩ := turn.oldest i k placed m older
      have same := also.once i j m there ((before j earlier).symm.trans gone)
      omega
    · rfl
    · exact absurd (also.oldest i m there k newer) waits

/-- There is only one way to answer in turn. -/
theorem InTurn.unique {uses : List Use} {place other : Nat → Option Nat}
    (turn : InTurn uses place) (also : InTurn uses other) : place = other := by
  funext i
  induction i using Nat.strongRecOn with
  | ind i before =>
    apply Option.ext
    intro k
    constructor
    · exact turn.next also before
    · exact also.next turn fun j earlier => (before j earlier).symm

theorem execute_reply (r : Recorder) (x : Statement) :
    (r.execute x).1 = r.replies.head?.getD (.ok ⟨[], 0⟩) := by
  unfold execute
  split
  · rename_i nothing
    rw [nothing]
    rfl
  · rename_i first
    rw [first]
    rfl

theorem queued_take {uses : List Use} {i k : Nat} (inside : k < (queued (uses.take i)).length) :
    (queued (uses.take i))[k]? = (queued uses)[k]? := by
  have split : queued uses = queued (uses.take i) ++ queued (uses.drop i) := by
    rw [queued, queued, queued, ← List.filterMap_append, List.take_append_drop]
  rw [split, List.getElem?_append_left inside]

theorem answer_in_place (uses : List Use) (i : Nat) :
    (run uses).1[i]? = uses[i]?.map (answer uses (place uses) i) := by
  rw [answers_run]
  cases here : uses[i]? with
  | none => rfl
  | some u =>
    rw [Option.map_some, Option.map_some, answer]
    apply congrArg some
    rcases reply_or_call u with ⟨reply, put, silent⟩ | ⟨x, silent, calls⟩
    · rw [use_reply _ put, silent]
      rfl
    · have first : ((run (uses.take i)).2.execute x).1 =
          ((queued (uses.take i))[returned (uses.take i)]?).getD (.ok ⟨[], 0⟩) := by
        rw [execute_reply, replies_run, List.head?_drop]
      rw [use_call _ calls, calls, place_call here calls, call, first]
      split
      · rename_i idle
        have all : (queued (uses.take i))[returned (uses.take i)]? = none := by
          have every : returned (uses.take i) = (queued (uses.take i)).length := by
            rw [returned, idle, Nat.sub_zero]
          exact List.getElem?_eq_none (Nat.le_of_eq every.symm)
        rw [all]
        rfl
      · rename_i more
        have placed : place uses i = some (returned (uses.take i)) := by
          rw [place_call here calls, if_neg more]
        rw [queued_take (called_within placed)]
        rfl

/-- However the uses of a new connection follow each other: the calls are on record as they were
made, and what is on record stays; each call returns the reply whose turn it is, or no rows, and
there is only one way to take turns; and the replies that are left are those that no call has
returned, in order. -/
theorem replies_in_turn (uses : List Use) :
    (run uses).2.statements = called uses ∧
    (∀ n, (run (uses.take n)).2.statements <+: (run uses).2.statements) ∧
    ∃ place : Nat → Option Nat, InTurn uses place ∧
      (∀ other, InTurn uses other → other = place) ∧
      (∀ i, (run uses).1[i]? = uses[i]?.map (answer uses place i)) ∧
      ∃ count, (run uses).2.replies = (queued uses).drop count ∧
        ∀ k, k < count ↔ ∃ i, place i = some k := by
  refine ⟨statements_run uses, ?_, place uses, in_turn uses,
    fun _ also => also.unique (in_turn uses), answer_in_place uses, returned uses,
    replies_run uses, ?_⟩
  · intro n
    rw [statements_run, statements_run, called, called]
    exact (List.take_prefix n uses).filterMap _
  · intro k
    have all := returned_before uses uses.length k
    rw [List.take_length] at all
    rw [all]
    constructor
    · rintro ⟨i, -, placed⟩
      exact ⟨i, placed⟩
    · rintro ⟨i, placed⟩
      obtain ⟨u, x, here, -⟩ := called_of_place placed
      obtain ⟨inside, -⟩ := List.getElem?_eq_some_iff.mp here
      exact ⟨i, inside, placed⟩

def firstVisit : Row := ⟨[("visits", .nat 1)], by decide⟩
def secondVisit : Row := ⟨[("visits", .nat 2)], by decide⟩

/-- The first call comes too early, the others return rows, a failure and again no rows, and the
last reply is never asked for. -/
def exchange : List Use :=
  [.select "RETURN 1" .empty, .respond [firstVisit, secondVisit], .fail (.unreachable "refused"),
    .update "SET a" firstVisit, .insert "CREATE (a)" secondVisit,
    .statement "RETURN 2" .empty true, .respond [secondVisit]]

theorem exchange_answered :
    (run exchange).1 =
      [some (.ok ⟨[], 0⟩), none, none, some (.ok ⟨[firstVisit, secondVisit], 0⟩),
        some (.error (.unreachable "refused")), some (.ok ⟨[], 0⟩), none] ∧
    (run exchange).2.statements =
      [⟨.select, "RETURN 1", .empty, false⟩, ⟨.update, "SET a", firstVisit, false⟩,
        ⟨.insert, "CREATE (a)", secondVisit, false⟩, ⟨.statement, "RETURN 2", .empty, true⟩] ∧
    (run exchange).2.replies = [.ok ⟨[secondVisit], 0⟩] := by
  obtain ⟨recorded, -, turns, -, only, answers, count, left, gone⟩ := replies_in_turn exchange
  have placed : Recorder.place exchange = turns := only _ (in_turn exchange)
  subst placed
  have answered : (run exchange).1 = exchange.mapIdx (answer exchange (place exchange)) := by
    apply List.ext_getElem?
    intro i
    rw [answers, List.getElem?_mapIdx]
  have second : 1 < count := (gone 1).mpr ⟨4, rfl⟩
  have third : ¬ 2 < count := by
    rw [gone]
    rintro ⟨i, taken⟩
    have early : ∀ i < 7, place exchange i ≠ some 2 := by decide
    have late : 7 ≤ i := Nat.not_lt.mp fun inside => early i inside taken
    cases (place_outside late).symm.trans taken
  have two : count = 2 := by omega
  exact ⟨answered, recorded, left.trans (by rw [two]; rfl)⟩

end GraphQuery.Recorder
