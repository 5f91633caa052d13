import GraphQuery.Proofs.Template.Legible

/-! The names that a text asks for, wherever its dollar signs stand: which texts ask for names by
themselves, and what writing values out does where names have none. -/
namespace GraphQuery.Template

/-- The names asked for, in order. -/
def asked (cs : List Char) : List String := parameters (scan none cs)

/-- A dollar sign stands right before a letter, a digit or an underscore. -/
def Names (s : String) : Prop :=
  ∃ before c after, s.toList = before ++ '$' :: c :: after ∧ isNameChar c

theorem stops_dollar (cs : List Char) : Stops ('$' :: cs) := stops_cons (by decide +kernel)

theorem stops_longer {cs : List Char} (given : cs ≠ []) (stops : Stops cs) (rest : List Char) :
    Stops (cs ++ rest) := by
  cases cs with
  | nil => exact absurd rfl given
  | cons c tail => exact stops_cons (stops c rfl)

/-- Scanning starts afresh where no name can go on. -/
theorem scan_append (cs : List Char) {next : List Char} (stops : Stops next)
    (pending : Option (List Char)) :
    scan pending (cs ++ next) = scan pending cs ++ scan none next := by
  induction cs generalizing pending with
  | nil =>
    cases pending with
    | none => rfl
    | some name => exact scan_stopped stops
  | cons c rest ih =>
    cases pending with
    | none =>
      rw [List.cons_append, scan, scan]
      split
      · exact ih _
      · exact congrArg (_ :: ·) (ih none)
    | some name =>
      rw [List.cons_append, scan, scan]
      split
      · exact ih _
      · split
        · exact congrArg (named name :: ·) (ih _)
        · exact congrArg (named name :: _ :: ·) (ih none)

theorem scan_cons {c : Char} (other : c ≠ '$') (rest : List Char) :
    scan none (c :: rest) = .text (String.singleton c) :: scan none rest := by
  rw [scan, if_neg other]

theorem asked_append (cs : List Char) {next : List Char} (stops : Stops next) :
    asked (cs ++ next) = asked cs ++ asked next := by
  rw [asked, scan_append cs stops, parameters_append]
  rfl

theorem asked_plain {cs : List Char} (plain : '$' ∉ cs) : asked cs = [] := by
  induction cs with
  | nil => rfl
  | cons c rest ih =>
    rw [List.mem_cons, not_or] at plain
    rw [asked, scan_cons (Ne.symm plain.1)]
    exact ih plain.2

theorem parameters_reading {name : List Char} (begun : name ≠ []) (cs : List Char) :
    parameters (scan (some name) cs) ≠ [] := by
  induction cs generalizing name with
  | nil =>
    cases name with
    | nil => exact absurd rfl begun
    | cons c more => exact List.cons_ne_nil _ _
  | cons c rest ih =>
    rw [scan]
    split
    · exact ih (by simp)
    · cases name with
      | nil => exact absurd rfl begun
      | cons d more => exact List.cons_ne_nil _ _

theorem asked_eq_nil (s : String) : asked s.toList = [] ↔ ¬ Names s := by
  constructor
  · rintro nothing ⟨before, c, after, shape, name⟩
    rw [shape, asked_append _ (stops_dollar _), List.append_eq_nil_iff] at nothing
    apply parameters_reading (List.cons_ne_nil c []) after
    have reading : scan none ('$' :: c :: after) = scan (some [c]) after := by
      rw [scan, if_pos rfl, scan, if_pos name]
      rfl
    rw [← reading]
    exact nothing.2
  · unfold Names
    intro absent
    generalize s.toList = cs at absent
    induction cs with
    | nil => rfl
    | cons c rest ih =>
      have later : asked rest = [] := by
        apply ih
        rintro ⟨before, d, after, rfl, name⟩
        exact absent ⟨c :: before, d, after, rfl, name⟩
      by_cases dollar : c = '$'
      · subst dollar
        cases rest with
        | nil => rfl
        | cons d more =>
          have stop : isNameChar d = false := by
            by_contra name
            exact absent ⟨[], d, more, rfl, by simpa using name⟩
          rw [asked, scan, if_pos rfl, scan_stopped (stops_cons stop)]
          exact later
      · rw [asked, scan_cons dollar]
        exact later

instance (s : String) : Decidable (Names s) :=
  decidable_of_iff (asked s.toList ≠ []) (by rw [ne_eq, asked_eq_nil, not_not])

/-- The characters ask for these names, whatever stands behind them. -/
structure Asks (cs : List Char) (names : List String) : Prop where
  closed : ∀ rest, scan none (cs ++ rest) = scan none cs ++ scan none rest
  names : asked cs = names

namespace Asks

variable {cs ds : List Char} {names more : List String}

theorem plain (plain : '$' ∉ cs) : Asks cs [] where
  closed := by
    intro rest
    have whole := scan_text plain []
    rw [List.append_nil] at whole
    rw [scan_text plain, whole]
    simp [scan]
  names := asked_plain plain

theorem before (asks : Asks cs names) (rest : List Char) :
    asked (cs ++ rest) = names ++ asked rest := by
  rw [asked, asks.closed, parameters_append, ← asks.names]
  rfl

theorem append (first : Asks cs names) (second : Asks ds more) :
    Asks (cs ++ ds) (names ++ more) where
  closed := by
    intro rest
    rw [List.append_assoc, first.closed, second.closed, first.closed, List.append_assoc]
  names := by rw [first.before, second.names]

theorem behind (cs : List Char) (given : ds ≠ []) (stops : Stops ds) (asks : Asks ds more) :
    Asks (cs ++ ds) (asked cs ++ more) where
  closed := by
    intro rest
    have longer := stops_longer given stops rest
    rw [List.append_assoc, scan_append cs longer, asks.closed, scan_append cs stops,
      List.append_assoc]
  names := by rw [asked_append cs stops, asks.names]

theorem joined {separator : String} (apart : '$' ∉ separator.toList) {ts : List Template}
    {asking : List (List String)}
    (each : List.Forall₂ (fun t names => Asks (chars t) names) ts asking) :
    Asks (chars (Template.joined separator ts)) asking.flatten := by
  induction each with
  | nil => exact .plain List.not_mem_nil
  | @cons t names _ _ here rest ih =>
    cases rest with
    | nil => simpa [Template.joined] using here
    | cons =>
      rw [joined_cons_cons, chars_append, chars_cons]
      exact here.append ((Asks.plain apart).append ih)

theorem joined_map {α : Type} {separator : String} (apart : '$' ∉ separator.toList)
    {part : α → Template} {asking : α → List String} (members : List α)
    (each : ∀ a ∈ members, Asks (chars (part a)) (asking a)) :
    Asks (chars (Template.joined separator (members.map part))) (members.flatMap asking) := by
  rw [List.flatMap]
  apply joined apart
  rw [List.forall₂_map_left_iff, List.forall₂_map_right_iff, List.forall₂_same]
  exact each

end Asks

theorem asked_listed (texts : List String) :
    asked (", ".intercalate texts).toList = texts.flatMap fun t => asked t.toList := by
  rw [String.toList_intercalate]
  induction texts with
  | nil => rfl
  | cons t rest ih =>
    cases rest with
    | nil => simp
    | cons u more =>
      have comma : ", ".toList = [',', ' '] := by decide
      have between : Stops (", ".toList ++
          ", ".toList.intercalate ((u :: more).map String.toList)) := by
        rw [comma]
        exact stops_cons (by decide +kernel)
      rw [List.map_cons, List.map_cons, List.intercalate_cons_cons, ← List.map_cons,
        List.append_assoc, asked_append _ between, (Asks.plain (by decide)).before, ih]
      rfl

/-- Characters are written as they are, or as some that belong to no name. -/
structure Escapes (f : Char → List Char) : Prop where
  kept : ∀ c, isNameChar c ∨ c = '$' → f c = [c]
  other : ∀ c, isNameChar c = false → c ≠ '$' →
    ∃ d ds, f c = d :: ds ∧ isNameChar d = false ∧ '$' ∉ d :: ds

theorem scan_escaped {f : Char → List Char} (escapes : Escapes f) (cs : List Char)
    (pending : Option (List Char)) :
    parameters (scan pending (cs.flatMap f)) = parameters (scan pending cs) := by
  induction cs generalizing pending with
  | nil => rfl
  | cons c rest ih =>
    rw [List.flatMap_cons]
    by_cases dollar : c = '$'
    · subst dollar
      rw [escapes.kept _ (.inr rfl), List.singleton_append]
      cases pending with
      | none => exact ih (some [])
      | some name =>
        have stop : isNameChar '$' = false := by decide +kernel
        simp only [scan, stop, Bool.false_eq_true, if_false, if_true]
        have split (t : Template) :
            parameters (named name :: t) = parameters [named name] ++ parameters t :=
          parameters_append [named name] t
        exact (split _).trans ((congrArg _ (ih (some []))).trans (split _).symm)
    · by_cases word : isNameChar c
      · rw [escapes.kept c (.inl word), List.singleton_append]
        cases pending with
        | none =>
          rw [scan_cons dollar, scan_cons dollar]
          exact ih none
        | some name =>
          rw [scan, scan, if_pos word, if_pos word]
          exact ih _
      · rw [Bool.not_eq_true] at word
        obtain ⟨d, ds, shape, stop, plain⟩ := escapes.other c word dollar
        -- Whatever was being read ends here on both sides.
        have written : Stops (d :: (ds ++ rest.flatMap f)) := stops_cons stop
        have given : Stops (c :: rest) := stops_cons word
        have left := scan_append [] written pending
        have right := scan_append [] given pending
        rw [List.nil_append] at left right
        rw [shape, List.cons_append, left, right, parameters_append, parameters_append,
          scan_cons dollar, ← List.cons_append]
        have texts := (Asks.plain plain).before (rest.flatMap f)
        exact congrArg (_ ++ ·) (texts.trans (ih none))

theorem fill_append (values : Parameters) (t u : Template) :
    fill values (t ++ u) = (fill values t).bind fun a => (fill values u).map (a ++ ·) := by
  induction t with
  | nil =>
    rw [List.nil_append, fill, Except.bind]
    cases fill values u <;> rfl
  | cons part rest ih =>
    have joined (cs : List Char) : (fill values (rest ++ u)).map (cs ++ ·) =
        ((fill values rest).map (cs ++ ·)).bind fun a => (fill values u).map (a ++ ·) := by
      rw [ih]
      cases fill values rest with
      | error e => rfl
      | ok a => cases fill values u <;> simp [Except.map, Except.bind]
    cases part with
    | text s => exact joined s.toList
    | parameter name =>
      simp only [List.cons_append, fill]
      cases values.get? name with
      | none => rfl
      | some value => exact joined (Literal.chars value)

theorem fill_silent (values : Parameters) {t : Template} (silent : t.parameters = []) :
    fill values t = .ok t.chars := by
  induction t with
  | nil => rfl
  | cons part rest ih =>
    cases part with
    | text s =>
      rw [fill, ih silent]
      rfl
    | parameter name => cases silent

theorem fill_unbound {values : Parameters} {t : Template} {x : String} {more : List String}
    (first : t.parameters = x :: more) (unbound : values.get? x = none) :
    fill values t = .error (.unboundParameter x) := by
  induction t with
  | nil => cases first
  | cons part rest ih =>
    cases part with
    | text s =>
      rw [fill, ih first]
      rfl
    | parameter name =>
      cases first
      rw [fill, unbound]

end GraphQuery.Template

namespace GraphQuery

open Template (asked Asks Stops)

variable {text : String} {values : Parameters}

theorem inline_silent (silent : asked text.toList = []) (values : Parameters) :
    inlineParameters text values = .ok text := by
  have nothing : (Template.ofText text).parameters = [] := silent
  rw [inlineParameters, Template.fill_silent values nothing]
  exact congrArg Except.ok (Template.render_text text)

theorem inline_unbound {x : String} {more : List String} (first : asked text.toList = x :: more)
    (unbound : values.get? x = none) :
    inlineParameters text values = .error (.unboundParameter x) := by
  rw [inlineParameters, Template.ofText, Template.fill_unbound first unbound]
  rfl

/-- Without values a text is copied, or its first name fails. -/
theorem inline_empty (text : String) : inlineParameters text .empty =
    match asked text.toList with
    | [] => .ok text
    | x :: _ => .error (.unboundParameter x) := by
  split
  · rename_i silent
    exact inline_silent silent .empty
  · rename_i first
    exact inline_unbound first rfl

/-- Only a text that asks for nothing is copied whatever the values are. -/
theorem inline_copied (text : String) :
    (∀ values, inlineParameters text values = .ok text) ↔ asked text.toList = [] := by
  constructor
  · intro copied
    cases first : asked text.toList with
    | nil => rfl
    | cons x more => exact absurd ((copied .empty).symm.trans (inline_unbound first rfl)) nofun
  · exact inline_silent

theorem inline_split {s t : String} (values : Parameters)
    (apart : Template.scan none (s.toList ++ t.toList) =
      Template.scan none s.toList ++ Template.scan none t.toList) :
    inlineParameters (s ++ t) values = (inlineParameters s values).bind fun a =>
      (inlineParameters t values).map (a ++ ·) := by
  rw [inlineParameters, Template.ofText, String.toList_append, apart, Template.fill_append,
    inlineParameters, inlineParameters, Template.ofText, Template.ofText]
  cases Template.fill values (.scan none s.toList) with
  | error e => rfl
  | ok a =>
    cases Template.fill values (.scan none t.toList) with
    | error e => rfl
    | ok b => exact congrArg Except.ok String.ofList_append

end GraphQuery
