import GraphQuery.Error
import GraphQuery.Literal
import GraphQuery.Record
import GraphQuery.Text.Alphanumeric

/-! Query text in which the parameters can be told from the rest. -/
namespace GraphQuery

inductive Part where
  | text (s : String)
  | parameter (name : String)
deriving DecidableEq

abbrev Template := List Part

def Part.chars : Part → List Char
  | .text s => s.toList
  | .parameter name => '$' :: name.toList

namespace Template

def chars (t : Template) : List Char := t.flatMap Part.chars

def render (t : Template) : String := String.ofList (chars t)

/-- The names of the parameters, in order. -/
def parameters (t : Template) : List String :=
  t.filterMap fun
    | .parameter name => some name
    | .text _ => none

/-- Puts a separator between the members. -/
def joined (separator : String) : List Template → Template
  | [] => []
  | [t] => t
  | t :: rest => t ++ .text separator :: joined separator rest

def isNameChar (c : Char) : Bool := Text.isAlphanumeric c || c = '_'

/-- What a dollar sign and the name read after it stand for; alone it is text. -/
def named : List Char → Part
  | [] => .text "$"
  | name => .parameter (String.ofList name)

/-- Finds the parameters of a text. The first argument holds the name that is being read. -/
def scan : Option (List Char) → List Char → Template
  | none, [] => []
  | some name, [] => [named name]
  | none, c :: cs =>
    if c = '$' then scan (some []) cs else .text (String.singleton c) :: scan none cs
  | some name, c :: cs =>
    if isNameChar c then scan (some (name ++ [c])) cs
    else named name ::
      if c = '$' then scan (some []) cs else .text (String.singleton c) :: scan none cs

def ofText (s : String) : Template := scan none s.toList

theorem chars_cons (p : Part) (t : Template) : chars (p :: t) = p.chars ++ chars t := by
  simp [chars]

theorem chars_append (t u : Template) : chars (t ++ u) = chars t ++ chars u :=
  List.flatMap_append

theorem render_append (t u : Template) : render (t ++ u) = render t ++ render u := by
  rw [render, chars_append, String.ofList_append]
  rfl

theorem render_text_cons (s : String) (t : Template) : render (.text s :: t) = s ++ render t := by
  rw [render, chars_cons, String.ofList_append, Part.chars, String.ofList_toList]
  rfl

theorem render_single (s : String) : render [.text s] = s := by
  rw [render_text_cons]
  exact String.append_empty

theorem render_parameter (name : String) : render [.parameter name] = "$" ++ name := by
  simp [render, chars, Part.chars]

theorem joined_cons_cons (separator : String) (t u : Template) (rest : List Template) :
    joined separator (t :: u :: rest) = t ++ .text separator :: joined separator (u :: rest) := rfl

theorem render_joined (separator : String) (ts : List Template) :
    render (joined separator ts) = separator.intercalate (ts.map render) := by
  induction ts with
  | nil => rfl
  | cons t rest ih =>
    cases rest with
    | nil => simp [joined]
    | cons u more =>
      rw [joined_cons_cons, render_append, render_text_cons, ih, List.map_cons, List.map_cons,
        List.map_cons, String.intercalate_cons_cons, String.append_assoc]

theorem chars_named (name : List Char) : (named name).chars = '$' :: name := by
  cases name <;> simp [named, Part.chars]

theorem chars_singleton (c : Char) : (Part.text (String.singleton c)).chars = [c] := by
  simp [Part.chars]

theorem chars_scan (pending : Option (List Char)) (cs : List Char) :
    chars (scan pending cs) = (pending.map ('$' :: ·)).getD [] ++ cs := by
  induction cs generalizing pending with
  | nil => cases pending <;> simp [scan, chars, chars_named]
  | cons c cs ih =>
    cases pending with
    | none =>
      rw [scan]
      split
      · next h => simp [ih, h]
      · simp [chars_cons, chars_singleton, ih]
    | some name =>
      rw [scan]
      split
      · simp [ih]
      · split
        · next h => simp [chars_cons, chars_named, ih, h]
        · simp [chars_cons, chars_named, chars_singleton, ih]

/-- Telling the parameters from the rest loses nothing. -/
theorem render_text (s : String) : render (ofText s) = s := by
  simp [render, ofText, chars_scan]

/-- Puts the literal of its value in place of each parameter. -/
def fill (parameters : Parameters) : Template → Except CompileError (List Char)
  | [] => .ok []
  | .text s :: rest => (fill parameters rest).map (s.toList ++ ·)
  | .parameter name :: rest =>
    match parameters.get? name with
    | some value => (fill parameters rest).map (Literal.chars value ++ ·)
    | none => .error (.unboundParameter name)

end Template

/-- The text with every parameter replaced by the literal of its value. -/
def inlineParameters (text : String) (parameters : Parameters) : Except CompileError String :=
  (Template.fill parameters (.ofText text)).map String.ofList

end GraphQuery
