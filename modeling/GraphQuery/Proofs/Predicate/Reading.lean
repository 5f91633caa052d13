import GraphQuery.Cypher.Predicate

/-! How a predicate is read: AND binds tighter than OR, and parentheses make one operand of what
they enclose. Tokens that can be read have one value under each assignment of truth to their
atoms. -/
namespace GraphQuery

inductive Phrase where
  | operand
  | conjunction
  | disjunction

/-- The tokens form a phrase of that kind, and its truth follows from that of its atoms. -/
inductive Reads (holds : Template → Bool) : Phrase → List Token → Bool → Prop where
  | atom (t : Template) : Reads holds .operand [.atom t] (holds t)
  | enclosed {tokens : List Token} {b : Bool} (inside : Reads holds .disjunction tokens b) :
      Reads holds .operand (.opening :: tokens ++ [.closing]) b
  | single {tokens : List Token} {b : Bool} (operand : Reads holds .operand tokens b) :
      Reads holds .conjunction tokens b
  | and {left right : List Token} {a b : Bool} (first : Reads holds .conjunction left a)
      (last : Reads holds .operand right b) :
      Reads holds .conjunction (left ++ .and :: right) (a && b)
  | only {tokens : List Token} {b : Bool} (run : Reads holds .conjunction tokens b) :
      Reads holds .disjunction tokens b
  | or {left right : List Token} {a b : Bool} (first : Reads holds .conjunction left a)
      (others : Reads holds .disjunction right b) :
      Reads holds .disjunction (left ++ .or :: right) (a || b)

/-- What is known of a disjunction up to some token: whether a run before the last OR holds, and
whether the present run does so far. -/
structure Tally where
  earlier : Bool
  run : Bool

namespace Tally

def value (t : Tally) : Bool := t.earlier || t.run

def meet (t : Tally) (b : Bool) : Tally := { t with run := t.run && b }

/-- One token read from left to right. Disjunctions around the present one are set aside, the
innermost first. -/
def step (holds : Template → Bool) : List Tally × Tally → Token → List Tally × Tally
  | (around, now), .atom t => (around, now.meet (holds t))
  | (around, now), .and => (around, now)
  | (around, now), .or => (around, ⟨now.value, true⟩)
  | (around, now), .opening => (now :: around, ⟨false, true⟩)
  | (outer :: around, now), .closing => (around, outer.meet now.value)
  | ([], now), .closing => ([], now)

def scan (holds : Template → Bool) (state : List Tally × Tally) (tokens : List Token) :
    List Tally × Tally :=
  tokens.foldl (step holds) state

theorem scan_append (holds : Template → Bool) (state : List Tally × Tally)
    (left right : List Token) :
    scan holds state (left ++ right) = scan holds (scan holds state left) right :=
  List.foldl_append

theorem scan_cons (holds : Template → Bool) (state : List Tally × Tally) (token : Token)
    (rest : List Token) :
    scan holds state (token :: rest) = scan holds (step holds state token) rest := rfl

/-- Reading a phrase comes to its value, whatever is around it. A disjunction is only ever met at
its start, where nothing but earlier runs is known. -/
def Settles (holds : Template → Bool) (tokens : List Token) (b : Bool) : Phrase → Prop
  | .disjunction => ∀ around earlier, ∃ last,
      scan holds (around, ⟨earlier, true⟩) tokens = (around, last) ∧ last.value = (earlier || b)
  | _ => ∀ around now, scan holds (around, now) tokens = (around, now.meet b)

end Tally

namespace Reads

variable {holds : Template → Bool} {phrase : Phrase} {tokens : List Token}

theorem settles {b : Bool} (reads : Reads holds phrase tokens b) :
    Tally.Settles holds tokens b phrase := by
  induction reads with
  | atom t => exact fun _ _ => rfl
  | @enclosed tokens b _ inside =>
    intro around now
    obtain ⟨last, scanned, value⟩ := inside (now :: around) false
    rw [List.cons_append, Tally.scan_cons, Tally.scan_append]
    have opened : Tally.step holds (around, now) .opening = (now :: around, ⟨false, true⟩) := rfl
    rw [opened, scanned]
    have closed : Tally.scan holds (now :: around, last) [.closing] =
      (around, now.meet last.value) := rfl
    rw [closed, value, Bool.false_or]
  | single _ ih => exact ih
  | @and left right a b _ _ first last =>
    intro around now
    rw [Tally.scan_append, first, Tally.scan_cons]
    have passed : Tally.step holds (around, now.meet a) .and = (around, now.meet a) := rfl
    rw [passed, last, Tally.meet, Tally.meet, Tally.meet, Bool.and_assoc]
  | @only tokens b _ run =>
    intro around earlier
    refine ⟨_, run around ⟨earlier, true⟩, ?_⟩
    rw [Tally.meet, Tally.value, Bool.true_and]
  | @or left right a b _ _ first others =>
    intro around earlier
    obtain ⟨last, scanned, value⟩ := others around (earlier || a)
    refine ⟨last, ?_, by rw [value, Bool.or_assoc]⟩
    rw [Tally.scan_append, first, Tally.scan_cons, ← scanned]
    have passed : Tally.step holds (around, Tally.meet ⟨earlier, true⟩ a) .or =
      (around, ⟨earlier || a, true⟩) := by
      simp [Tally.step, Tally.value, Tally.meet]
    rw [passed]

/-- There are not two ways to read a predicate that differ in its truth. -/
theorem unique {a b : Bool} (first : Reads holds .disjunction tokens a)
    (second : Reads holds .disjunction tokens b) : a = b := by
  obtain ⟨last, scanned, value⟩ := first.settles [] false
  obtain ⟨other, again, same⟩ := second.settles [] false
  rw [scanned] at again
  cases again
  rwa [Bool.false_or, value, Bool.false_or] at same

/-- Operands joined with AND hold when all of them do. -/
theorem all {operands : List (List Token × Bool)} {a : Bool}
    (first : Reads holds .conjunction tokens a)
    (each : ∀ p ∈ operands, Reads holds .operand p.1 p.2) :
    Reads holds .conjunction (tokens ++ operands.flatMap fun p => .and :: p.1)
      (a && operands.all Prod.snd) := by
  induction operands generalizing tokens a with
  | nil => simpa using first
  | cons p rest ih =>
    have joined := first.and (each p List.mem_cons_self)
    have more := ih joined fun q hq => each q (List.mem_cons_of_mem _ hq)
    simpa [List.append_assoc, Bool.and_assoc] using more

end Reads
end GraphQuery
