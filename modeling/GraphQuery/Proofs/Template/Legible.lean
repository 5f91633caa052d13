import GraphQuery.Proofs.Parameter.Written
import GraphQuery.Proofs.Text.Dollarless

/-! When the text of a template can be read back: no parameter starts inside a text, and no name
runs on into what follows it. -/
namespace GraphQuery

namespace Template

/-- A name ends before these characters. -/
def Stops (next : List Char) : Prop := ∀ c, next.head? = some c → isNameChar c = false

/-- A name that is read back as a whole. -/
structure Readable (name : String) : Prop where
  named : name ≠ ""
  chars : ∀ c ∈ name.toList, isNameChar c

/-- Each parameter can be told from what stands around it, where `next` comes last. -/
def Legible : Template → List Char → Prop
  | [], _ => True
  | .text s :: rest, next => Dollarless s ∧ Legible rest next
  | .parameter name :: rest, next =>
    Readable name ∧ Stops (chars rest ++ next) ∧ Legible rest next

/-- The same template, with one text for each character. -/
def spelled (t : Template) : Template :=
  t.flatMap fun
    | .text s => s.toList.map fun c => .text (String.singleton c)
    | .parameter name => [.parameter name]

theorem stops_cons {c : Char} {next : List Char} (stops : isNameChar c = false) :
    Stops (c :: next) := by
  rintro d ⟨⟩
  exact stops

theorem Stops.append {first next : List Char} (stops : Stops first) (last : Stops next) :
    Stops (first ++ next) := by
  cases first with
  | nil => exact last
  | cons c rest => exact stops_cons (stops c rfl)

theorem legible_append {t u : Template} {next : List Char} :
    Legible (t ++ u) next ↔ Legible t (chars u ++ next) ∧ Legible u next := by
  induction t with
  | nil => simp [Legible]
  | cons part rest ih =>
    cases part with
    | text s => simp only [List.cons_append, Legible, ih, and_assoc]
    | parameter name =>
      simp only [List.cons_append, Legible, ih, chars_append, List.append_assoc, and_assoc]

theorem legible_text {s : String} (plain : Dollarless s) (next : List Char) :
    Legible [.text s] next := ⟨plain, trivial⟩

/-- What can be read at the end of a text can be read before any character that ends a name. -/
theorem Legible.before {t : Template} (legible : Legible t []) {next : List Char}
    (stops : Stops next) : Legible t next := by
  induction t with
  | nil => trivial
  | cons part rest ih =>
    cases part with
    | text s => exact ⟨legible.1, ih legible.2⟩
    | parameter name =>
      obtain ⟨readable, ends, after⟩ := legible
      rw [List.append_nil] at ends
      exact ⟨readable, ends.append stops, ih after⟩

/-- The separator ends the last name of the member before it. -/
theorem legible_joined {separator : String} (plain : Dollarless separator) {c : Char}
    {cs : List Char} (starts : separator.toList = c :: cs) (ends : isNameChar c = false)
    {ts : List Template} (each : ∀ t ∈ ts, ∀ next, Stops next → Legible t next)
    {next : List Char} (stops : Stops next) : Legible (joined separator ts) next := by
  induction ts with
  | nil => trivial
  | cons t rest ih =>
    have here := each t List.mem_cons_self
    have later := ih fun u hu => each u (List.mem_cons_of_mem _ hu)
    cases rest with
    | nil => exact here next stops
    | cons u more =>
      have between : Stops (chars (.text separator :: joined separator (u :: more)) ++ next) := by
        rw [chars_cons, Part.chars, starts]
        exact stops_cons ends
      rw [joined_cons_cons, legible_append]
      exact ⟨here _ between, plain, later⟩

theorem spelled_cons (part : Part) (rest : Template) :
    spelled (part :: rest) = spelled [part] ++ spelled rest := by
  cases part <;> simp [spelled]

theorem parameters_spelled (t : Template) : (spelled t).parameters = t.parameters := by
  induction t with
  | nil => rfl
  | cons part rest ih =>
    rw [spelled_cons, parameters_append, ih]
    cases part with
    | text s => simp [spelled, parameters]
    | parameter name => rfl

/-- Spelling a text out changes nothing that is put together from its characters. -/
theorem flat_map_spelled {f : Part → List Char} (texts : ∀ s, f (.text s) = s.toList)
    (t : Template) : (spelled t).flatMap f = t.flatMap f := by
  have letters (cs : List Char) :
      (cs.map fun c => Part.text (String.singleton c)).flatMap f = cs := by
    induction cs with
    | nil => rfl
    | cons c rest ih => rw [List.map_cons, List.flatMap_cons, texts, ih]; simp
  induction t with
  | nil => rfl
  | cons part rest ih =>
    rw [spelled_cons, List.flatMap_append, ih, List.flatMap_cons]
    cases part with
    | text s => simp [spelled, letters, texts]
    | parameter name => simp [spelled]

theorem chars_spelled (t : Template) : chars (spelled t) = chars t :=
  flat_map_spelled (fun _ => rfl) t

theorem legible_letters {cs : List Char} (plain : '$' ∉ cs) {rest : Template} {next : List Char}
    (after : Legible rest next) :
    Legible (cs.map (fun c => .text (String.singleton c)) ++ rest) next := by
  induction cs with
  | nil => exact after
  | cons c more ih =>
    rw [List.mem_cons, not_or] at plain
    refine ⟨?_, ih plain.2⟩
    simpa [Dollarless] using plain.1

theorem legible_spelled {t : Template} {next : List Char} (legible : Legible t next) :
    Legible (spelled t) next := by
  induction t with
  | nil => trivial
  | cons part rest ih =>
    cases part with
    | text s =>
      have split : spelled (.text s :: rest) =
          s.toList.map (fun c => .text (String.singleton c)) ++ spelled rest := rfl
      rw [split]
      exact legible_letters legible.1 (ih legible.2)
    | parameter name =>
      obtain ⟨readable, stops, after⟩ := legible
      rw [← chars_spelled rest] at stops
      exact ⟨readable, stops, ih after⟩

theorem scan_text {cs : List Char} (plain : '$' ∉ cs) (next : List Char) :
    scan none (cs ++ next) =
      cs.map (fun c => .text (String.singleton c)) ++ scan none next := by
  induction cs with
  | nil => rfl
  | cons c rest ih =>
    rw [List.mem_cons, not_or] at plain
    rw [List.cons_append, scan, if_neg fun same => plain.1 same.symm, ih plain.2]
    rfl

theorem scan_stopped {name : List Char} {next : List Char} (stops : Stops next) :
    scan (some name) next = named name :: scan none next := by
  cases next with
  | nil => rfl
  | cons c rest =>
    have stop := stops c rfl
    simp only [scan, stop, Bool.false_eq_true, if_false]

theorem scan_name {cs : List Char} (word : ∀ c ∈ cs, isNameChar c) (name : List Char)
    {next : List Char} (stops : Stops next) :
    scan (some name) (cs ++ next) = named (name ++ cs) :: scan none next := by
  induction cs generalizing name with
  | nil => simpa using scan_stopped stops
  | cons c rest ih =>
    have here := word c List.mem_cons_self
    rw [List.cons_append, scan, if_pos here,
      ih (fun d hd => word d (List.mem_cons_of_mem _ hd)), List.append_assoc]
    rfl

theorem scan_legible {t : Template} {next : List Char} (legible : Legible t next) :
    scan none (chars t ++ next) = spelled t ++ scan none next := by
  induction t with
  | nil => rfl
  | cons part rest ih =>
    cases part with
    | text s =>
      rw [chars_cons, List.append_assoc, Part.chars, scan_text legible.1, ih legible.2, spelled,
        spelled, List.flatMap_cons, List.append_assoc]
    | parameter name =>
      obtain ⟨readable, stops, after⟩ := legible
      have kept : named name.toList = .parameter name := by
        cases spelling : name.toList with
        | nil => exact absurd (String.toList_eq_nil_iff.mp spelling) readable.named
        | cons c cs =>
          have whole : String.ofList (c :: cs) = name := by rw [← spelling, String.ofList_toList]
          exact congrArg Part.parameter whole
      rw [chars_cons, List.append_assoc, Part.chars, List.cons_append, scan, if_pos rfl,
        scan_name readable.chars [] stops, List.nil_append, kept, ih after]
      rfl

/-- Reading the text of a legible template gives back its parameters, and what stands between
them. -/
theorem of_text_render {t : Template} (legible : Legible t []) : ofText t.render = spelled t := by
  have scanned := scan_legible legible
  rw [List.append_nil] at scanned
  rw [ofText, render, String.toList_ofList, scanned]
  exact List.append_nil _

/-- What a part is written as when the values are written out; a parameter without one would be
null. -/
def inlined (values : Parameters) : Part → List Char
  | .text s => s.toList
  | .parameter name => Literal.chars ((values.get? name).getD .null)

theorem fill_bound {values : Parameters} {t : Template}
    (bound : ∀ x ∈ t.parameters, (values.get? x).isSome) :
    fill values t = .ok (t.flatMap (inlined values)) := by
  induction t with
  | nil => rfl
  | cons part rest ih =>
    cases part with
    | text s =>
      rw [fill, ih bound]
      rfl
    | parameter name =>
      have here := bound name List.mem_cons_self
      have after := ih fun x hx => bound x (List.mem_cons_of_mem _ hx)
      obtain ⟨value, given⟩ := Option.isSome_iff_exists.mp here
      simp only [fill, given, after, List.flatMap_cons, inlined, Option.getD_some]
      rfl

/-- Writing the values out changes the parameters and nothing else, whatever the values are. -/
theorem inline_render {values : Parameters} {t : Template} (legible : Legible t [])
    (bound : ∀ x ∈ t.parameters, (values.get? x).isSome) :
    inlineParameters t.render values = .ok (String.ofList (t.flatMap (inlined values))) := by
  have spelt : ∀ x ∈ (spelled t).parameters, (values.get? x).isSome := by
    rwa [parameters_spelled]
  rw [inlineParameters, of_text_render legible, fill_bound spelt,
    flat_map_spelled (fun _ => rfl)]
  rfl

/-- A parameter that becomes the literal of its value; one without a value would be null. -/
def filled (values : Parameters) : Part → Part
  | .text s => .text s
  | .parameter name => .text ((values.get? name).getD .null).literal

theorem chars_filled (values : Parameters) (t : Template) :
    chars (t.map (filled values)) = t.flatMap (inlined values) := by
  rw [chars, List.flatMap_map]
  apply List.flatMap_congr
  intro part _
  cases part with
  | text s => rfl
  | parameter name => exact String.toList_ofList

theorem filled_joined (values : Parameters) (separator : String) (ts : List Template) :
    (joined separator ts).map (filled values) =
      joined separator (ts.map (List.map (filled values))) := by
  induction ts with
  | nil => rfl
  | cons t rest ih =>
    cases rest with
    | nil => rfl
    | cons u more =>
      rw [joined_cons_cons, List.map_append, List.map_cons, ih]
      rfl

end Template
end GraphQuery
