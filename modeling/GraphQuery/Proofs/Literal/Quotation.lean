import GraphQuery.Proofs.Template.Asked

/-! Quoting hides no dollar sign: a quoted text asks for the names that it asked for before, and a
literal for those in its strings and keys. -/
namespace GraphQuery

open Template (asked Asks Escapes isNameChar)

/-- A text between single quotes or between backticks. -/
inductive Quotation where
  | string (s : String)
  | name (s : String)

namespace Quotation

def text : Quotation → String
  | string s | name s => s

def chars : Quotation → List Char
  | string s => Literal.quoted s
  | name s => '`' :: Identifier.escape s.toList ++ ['`']

def written (w : Quotation) : String := String.ofList w.chars

theorem written_string (s : String) : (Value.string s).literal = (string s).written := by
  rw [Value.literal, Literal.chars]
  rfl

theorem written_name {s : String} (thorny : Identifier.isPlain s.toList = false) :
    Identifier.quote s = (name s).written := by
  rw [Identifier.quote, Identifier.quoteChars, thorny]
  rfl

theorem escapes_string : Escapes Literal.escapeChar where
  kept := by
    intro c plain
    have apart {d : Char} (stop : isNameChar d = false) (other : d ≠ '$') : c ≠ d := by
      rintro rfl
      rcases plain with word | dollar
      · rw [stop] at word
        cases word
      · exact other dollar
    have slash : c ≠ '\\' := apart (by decide +kernel) (by decide)
    have quote : c ≠ '\x27' := apart (by decide +kernel) (by decide)
    have line : c ≠ '\n' := apart (by decide +kernel) (by decide)
    have back : c ≠ '\r' := apart (by decide +kernel) (by decide)
    have tab : c ≠ '\t' := apart (by decide +kernel) (by decide)
    simp [Literal.escapeChar, slash, quote, line, back, tab]
  other := by
    intro c stop other
    have escaped {d : Char} (plain : '$' ≠ d) :
        ∃ e ds, ['\\', d] = e :: ds ∧ isNameChar e = false ∧ '$' ∉ e :: ds :=
      ⟨'\\', [d], rfl, by decide +kernel, by simp [plain]⟩
    unfold Literal.escapeChar
    split_ifs
    · exact escaped (by decide)
    · exact escaped (by decide)
    · exact escaped (by decide)
    · exact escaped (by decide)
    · exact escaped (by decide)
    · exact ⟨c, [], rfl, stop, by simpa using Ne.symm other⟩

def escapeTick (c : Char) : List Char := if c = '`' then ['`', '`'] else [c]

theorem escape_ticks (cs : List Char) : Identifier.escape cs = cs.flatMap escapeTick := by
  induction cs with
  | nil => rfl
  | cons c rest ih =>
    rw [Identifier.escape, List.flatMap_cons, ← ih, escapeTick]
    split <;> rfl

theorem tick_stops : isNameChar '`' = false := by decide +kernel

theorem escapes_name : Escapes escapeTick where
  kept := by
    intro c plain
    apply if_neg
    rintro rfl
    rcases plain with word | dollar
    · rw [tick_stops] at word
      cases word
    · exact absurd dollar (by decide)
  other := by
    intro c stop other
    unfold escapeTick
    split
    · exact ⟨_, _, rfl, tick_stops, by decide⟩
    · exact ⟨c, [], rfl, stop, by simpa using Ne.symm other⟩

theorem asks_between {f : Char → List Char} (escapes : Escapes f) {quote : Char}
    (stop : isNameChar quote = false) (other : quote ≠ '$') (cs : List Char) :
    Asks (quote :: cs.flatMap f ++ [quote]) (asked cs) := by
  have single : Asks [quote] [] := .plain (by simpa using Ne.symm other)
  have inside : asked (cs.flatMap f) = asked cs := Template.scan_escaped escapes cs none
  have whole := single.append (.behind (cs.flatMap f) (List.cons_ne_nil _ _)
    (Template.stops_cons stop) single)
  rwa [inside, List.append_nil] at whole

theorem asks (w : Quotation) : Asks w.chars (asked w.text.toList) := by
  cases w with
  | string s => exact asks_between escapes_string (by decide +kernel) (by decide) s.toList
  | name s =>
    rw [chars, escape_ticks]
    exact asks_between escapes_name tick_stops (by decide) s.toList

theorem asked_written (w : Quotation) : asked w.written.toList = asked w.text.toList := by
  rw [written, String.toList_ofList]
  exact w.asks.names

theorem stops_chars (w : Quotation) (rest : List Char) : Template.Stops (w.chars ++ rest) := by
  cases w with
  | string s => exact Template.stops_cons (by decide +kernel)
  | name s => exact Template.stops_cons tick_stops

/-- The values are written out before, in and behind a quotation as if each stood alone. -/
theorem inlined_apart (w : Quotation) (before after : String) (values : Parameters) :
    inlineParameters (before ++ w.written ++ after) values =
      (inlineParameters before values).bind fun b =>
        (inlineParameters w.written values).bind fun m =>
          (inlineParameters after values).map fun a => b ++ m ++ a := by
  have behind := inline_split (s := w.written) (t := after) values (by
    rw [written, String.toList_ofList]
    exact w.asks.closed after.toList)
  have ahead := inline_split (s := before) (t := w.written ++ after) values (by
    rw [written, String.toList_append, String.toList_ofList]
    exact Template.scan_append _ (w.stops_chars _) none)
  rw [String.append_assoc, ahead, behind]
  cases inlineParameters before values with
  | error e => rfl
  | ok b =>
    cases inlineParameters w.written values with
    | error e => rfl
    | ok m =>
      cases inlineParameters after values with
      | error e => rfl
      | ok a => exact congrArg Except.ok String.append_assoc.symm

end Quotation

theorem Identifier.asks_quote_chars (s : String) : Asks (quoteChars s.toList) (asked s.toList) := by
  by_cases plain : isPlain s.toList
  · have dollarless : '$' ∉ s.toList :=
      fun dollar => absurd (word_of_plain plain '$' dollar) (by decide)
    rw [quoteChars, if_pos plain, Template.asked_plain dollarless]
    exact .plain dollarless
  · rw [quoteChars, if_neg plain]
    exact (Quotation.name s).asks

theorem Identifier.asks_quote (s : String) : Asks (quote s).toList (asked s.toList) := by
  rw [quote, String.toList_ofList]
  exact asks_quote_chars s

namespace Value

mutual

/-- The strings in a value, and the keys of its maps. -/
def texts : Value → List String
  | .string s => [s]
  | .array items => itemTexts items
  | .object fields => fieldTexts fields
  | _ => []

def itemTexts : List Value → List String
  | [] => []
  | v :: rest => v.texts ++ itemTexts rest

def fieldTexts : List (String × Value) → List String
  | [] => []
  | (k, v) :: rest => k :: v.texts ++ fieldTexts rest

end

end Value

/-- The names that texts ask for one after the other. -/
def Template.askedIn (texts : List String) : List String := texts.flatMap fun t => asked t.toList

theorem Template.asked_in_append (texts more : List String) :
    askedIn (texts ++ more) = askedIn texts ++ askedIn more :=
  List.flatMap_append

theorem Template.asked_in_eq_nil (texts : List String) :
    askedIn texts = [] ↔ ∀ t ∈ texts, ¬ Names t := by
  simp only [askedIn, List.flatMap_eq_nil_iff, asked_eq_nil]

namespace Decimal

theorem dollarless_digits (n : Nat) : '$' ∉ Nat.toDigits 10 n := by
  intro member
  have digit := Nat.isDigit_of_mem_toDigits (by decide) (by decide) member
  exact absurd digit (by decide)

theorem dollarless_positional (l : Layout) {digits : List Char} (plain : '$' ∉ digits)
    (lead : Int) : '$' ∉ positional l digits lead := by
  have zeros (n : Nat) : '$' ∉ List.replicate n '0' :=
    fun member => absurd (List.eq_of_mem_replicate member) (by decide)
  unfold positional
  dsimp only
  split
  · simp [plain]
  · have padded (n : Nat) : '$' ∉ digits ++ List.replicate n '0' := by
      rw [List.mem_append, not_or]
      exact ⟨plain, zeros n⟩
    rw [List.mem_append, not_or]
    constructor
    · exact fun member => padded _ (List.mem_of_mem_take member)
    · split
      · split <;> decide
      · intro member
        rcases List.mem_cons.mp member with point | later
        · exact absurd point (by decide)
        · exact padded _ (List.mem_of_mem_drop later)

theorem dollarless_scientific {digits : List Char} (plain : '$' ∉ digits) (lead : Int) :
    '$' ∉ scientific digits lead := by
  have sign : '$' ≠ if lead < 0 then '-' else '+' := by split <;> decide
  have exponent := dollarless_digits lead.natAbs
  unfold scientific
  split
  · simp only [List.mem_cons, not_or] at plain
    simp [plain, sign, exponent]
  · simp [plain, sign, exponent]

theorem dollarless_write (l : Layout) (x : Finite) : '$' ∉ x.write l := by
  have digits := dollarless_digits (x.shortest l.tie).digits
  unfold Finite.write
  dsimp only
  have body (lead : Int) : '$' ∉ if l.positional lead then
      positional l (Nat.toDigits 10 (x.shortest l.tie).digits) lead
      else scientific (Nat.toDigits 10 (x.shortest l.tie).digits) lead := by
    split
    · exact dollarless_positional l digits lead
    · exact dollarless_scientific digits lead
  split
  · rw [List.mem_cons, not_or]
    exact ⟨by decide, body _⟩
  · exact body _

end Decimal

theorem Number.dollarless (n : Number) : '$' ∉ n.chars := by
  cases n with
  | int n =>
    rw [chars, List.mem_append, not_or]
    constructor
    · split <;> decide
    · exact Decimal.dollarless_digits n.natAbs
  | float x => exact Decimal.dollarless_write .value x

namespace Literal

open Template (askedIn asked_in_append)

theorem asks_comma : Asks [',', ' '] [] := .plain (by decide)

theorem asks_field (k : String) {v : Value} (asks : Asks (chars v) (askedIn v.texts)) :
    Asks (Identifier.quoteChars k.toList ++ ':' :: ' ' :: chars v) (askedIn (k :: v.texts)) := by
  have colon : Asks [':', ' '] [] := .plain (by decide)
  exact (Identifier.asks_quote_chars k).append (colon.append asks)

mutual

theorem asks_chars : ∀ v : Value, Asks (chars v) (askedIn v.texts)
  | .null => .plain (by decide)
  | .bool b => .plain (by cases b <;> decide)
  | .number n => .plain n.dollarless
  | .string s => by
    have quoted := (Quotation.string s).asks
    rwa [← List.append_nil (asked _)] at quoted
  | .array items => by
    have opening : Asks ['['] [] := .plain (by decide)
    have closing : Asks [']'] [] := .plain (by decide)
    have whole := (opening.append (asks_item_chars items)).append closing
    rwa [List.nil_append, List.append_nil] at whole
  | .object fields => by
    have opening : Asks ['\x7b'] [] := .plain (by decide)
    have closing : Asks ['\x7d'] [] := .plain (by decide)
    have whole := (opening.append (asks_field_chars fields)).append closing
    rwa [List.nil_append, List.append_nil] at whole

theorem asks_item_chars : ∀ items : List Value,
    Asks (itemChars items) (askedIn (Value.itemTexts items))
  | [] => .plain List.not_mem_nil
  | [v] => by
    rw [Value.itemTexts, Value.itemTexts, List.append_nil]
    exact asks_chars v
  | v :: w :: rest => by
    have later := asks_comma.append (asks_item_chars (w :: rest))
    rw [Value.itemTexts, asked_in_append]
    exact (asks_chars v).append later

theorem asks_field_chars : ∀ fields : List (String × Value),
    Asks (fieldChars fields) (askedIn (Value.fieldTexts fields))
  | [] => .plain List.not_mem_nil
  | [(k, v)] => by
    rw [Value.fieldTexts, Value.fieldTexts, List.append_nil]
    exact asks_field k (asks_chars v)
  | (k, v) :: e :: rest => by
    have later := asks_comma.append (asks_field_chars (e :: rest))
    rw [Value.fieldTexts, asked_in_append]
    exact (asks_field k (asks_chars v)).append later

end

theorem asked_literal (v : Value) : asked v.literal.toList = askedIn v.texts := by
  rw [Value.literal, String.toList_ofList]
  exact (asks_chars v).names

end Literal
end GraphQuery
