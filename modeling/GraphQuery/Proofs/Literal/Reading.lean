import GraphQuery.Literal
import GraphQuery.Proofs.Identifier.Reading

/-! A reader of literals. It gives back what was written, and stops where the literal does. -/
namespace GraphQuery

namespace Value

mutual

/-- No number in the value is a float. -/
def isFloatless : Value → Bool
  | .number (.float _) => false
  | .array items => areFloatless items
  | .object fields => holdFloatless fields
  | _ => true

def areFloatless : List Value → Bool
  | [] => true
  | v :: rest => v.isFloatless && areFloatless rest

def holdFloatless : List (String × Value) → Bool
  | [] => true
  | (_, v) :: rest => v.isFloatless && holdFloatless rest

end

end Value

namespace Literal

/-- What a character behind a backslash stands for. -/
def unescape? (c : Char) : Option Char :=
  if c = 'n' then some '\n'
  else if c = 'r' then some '\r'
  else if c = 't' then some '\t'
  else if c = '\\' ∨ c = '\x27' then some c
  else none

/-- What is left of a string behind its first quote. -/
def readString : List Char → Option (List Char × List Char)
  | [] => none
  | '\x27' :: cs => some ([], cs)
  | '\\' :: [] => none
  | '\\' :: c :: cs => do
    let d ← unescape? c
    let (s, rest) ← readString cs
    return (d :: s, rest)
  | c :: cs => (readString cs).map fun p => (c :: p.1, p.2)

/-- The characters that a number or a word goes on with. -/
def goesOn (c : Char) : Bool := Identifier.isWord c || c = '.'

def readNatural (word : List Char) : Option Nat :=
  if word.isEmpty || !word.all Char.isDigit then none else some (Nat.ofDigitChars 10 word 0)

def readWord (word : List Char) : Option Value :=
  if word = "null".toList then some .null
  else if word = "true".toList then some (.bool true)
  else if word = "false".toList then some (.bool false)
  else (readNatural word).map .nat

mutual

/-- Reads the literal at the front. As much fuel as there are characters always suffices. -/
def readValue : (fuel : Nat) → List Char → Option (Value × List Char)
  | 0, _ => none
  | _ + 1, '\x27' :: cs => (readString cs).map fun p => (.string (String.ofList p.1), p.2)
  | _ + 1, '[' :: ']' :: cs => some (.array [], cs)
  | fuel + 1, '[' :: cs => (readItems fuel cs).map fun p => (.array p.1, p.2)
  | _ + 1, '\x7b' :: '\x7d' :: cs => some (.object [], cs)
  | fuel + 1, '\x7b' :: cs => (readFields fuel cs).map fun p => (.object p.1, p.2)
  | _ + 1, '-' :: cs => (readNatural (cs.takeWhile goesOn)).map fun (n : Nat) =>
    (.number (.int (-n)), cs.dropWhile goesOn)
  | _ + 1, cs => (readWord (cs.takeWhile goesOn)).map fun v => (v, cs.dropWhile goesOn)

/-- At least one item, up to the bracket behind the last one. -/
def readItems : (fuel : Nat) → List Char → Option (List Value × List Char)
  | 0, _ => none
  | fuel + 1, cs => do
    let (v, rest) ← readValue fuel cs
    match rest with
    | ']' :: rest => return ([v], rest)
    | ',' :: ' ' :: rest =>
      let (items, rest) ← readItems fuel rest
      return (v :: items, rest)
    | _ => none

def readFields : (fuel : Nat) → List Char → Option (List (String × Value) × List Char)
  | 0, _ => none
  | fuel + 1, cs => do
    let (k, rest) ← Identifier.readName cs
    match rest with
    | ':' :: ' ' :: rest =>
      let (v, rest) ← readValue fuel rest
      match rest with
      | '\x7d' :: rest => return ([(String.ofList k, v)], rest)
      | ',' :: ' ' :: rest =>
        let (fields, rest) ← readFields fuel rest
        return ((String.ofList k, v) :: fields, rest)
      | _ => none
    | _ => none

end

def read (cs : List Char) : Option (Value × List Char) := readValue cs.length cs

/-- No number, word or identifier goes on into these characters. -/
def Ends (rest : List Char) : Prop := ∀ c, rest.head? = some c → goesOn c = false

/-- Puts `word` in the place of a character wherever it stands. -/
def substitute (c : Char) (word cs : List Char) : List Char :=
  cs.flatMap fun d => if d = c then word else [d]

/-- Escaping is five substitutions in a row. The backslashes come first, as the others write
backslashes of their own. -/
theorem escape_in_passes (cs : List Char) :
    cs.flatMap escapeChar = substitute '\t' ['\\', 't'] (substitute '\r' ['\\', 'r']
      (substitute '\n' ['\\', 'n'] (substitute '\x27' ['\\', '\x27']
        (substitute '\\' ['\\', '\\'] cs)))) := by
  simp only [substitute, List.flatMap_assoc]
  congr 1
  funext c
  unfold escapeChar
  split_ifs with slash quote line back tab
  · subst slash; rfl
  · subst quote; rfl
  · subst line; rfl
  · subst back; rfl
  · subst tab; rfl
  · simp [quote, line, back, tab]

theorem read_escaped (c : Char) (cs : List Char) :
    readString (escapeChar c ++ cs) = (readString cs).map fun p => (c :: p.1, p.2) := by
  have behind {d e : Char} (stands : unescape? d = some e) :
      readString ('\\' :: d :: cs) = (readString cs).map fun p => (e :: p.1, p.2) := by
    rw [readString, stands]
    cases readString cs <;> rfl
  unfold escapeChar
  split_ifs with slash quote line back tab
  · subst slash
    exact behind rfl
  · subst quote
    exact behind rfl
  · subst line
    exact behind rfl
  · subst back
    exact behind rfl
  · subst tab
    exact behind rfl
  · rw [List.singleton_append, readString]
    · exact quote
    · exact fun same => absurd same slash
    · exact fun _ _ same => absurd same slash

/-- The quote behind an escaped string is the first one that ends it. -/
theorem read_string_escaped (cs rest : List Char) :
    readString (cs.flatMap escapeChar ++ '\x27' :: rest) = some (cs, rest) := by
  induction cs with
  | nil => rfl
  | cons c more ih =>
    rw [List.flatMap_cons, List.append_assoc, read_escaped, ih]
    rfl

theorem to_digits_digit (n : Nat) : ∀ c ∈ Nat.toDigits 10 n, c.isDigit :=
  fun _ member => Nat.isDigit_of_mem_toDigits (by decide) (by decide) member

theorem read_natural_digits (n : Nat) : readNatural (Nat.toDigits 10 n) = some n := by
  have given : (Nat.toDigits 10 n).isEmpty = false := by simp
  have digits : (Nat.toDigits 10 n).all Char.isDigit = true :=
    List.all_eq_true.mpr (to_digits_digit n)
  rw [readNatural, given, digits]
  simp

theorem goes_on_digit {c : Char} (digit : c.isDigit) : goesOn c := by
  simp [goesOn, Identifier.isWord, Char.isAlphanum, digit]

theorem read_word_digits (n : Nat) : readWord (Nat.toDigits 10 n) = some (.nat n) := by
  have other {word : List Char} {c : Char} (inside : c ∈ word) (letter : c.isDigit = false) :
      Nat.toDigits 10 n ≠ word := by
    intro same
    have digit := to_digits_digit n c (same ▸ inside)
    rw [letter] at digit
    cases digit
  rw [readWord, if_neg (other (c := 'n') (by decide) (by decide)),
    if_neg (other (c := 't') (by decide) (by decide)),
    if_neg (other (c := 'f') (by decide) (by decide)), read_natural_digits]
  rfl

/-- A word is read as a whole, whatever stands behind it. -/
theorem read_value_word (word : List Char) {rest : List Char} {v : Value}
    (goes : ∀ c ∈ word, goesOn c) (reads : readWord word = some v) (ends : Ends rest) (fuel : Nat) :
    readValue (fuel + 1) (word ++ rest) = some (v, rest) := by
  have whole := Identifier.take_while_stopped goes ends
  have behind := Identifier.drop_while_stopped goes ends
  cases word with
  | nil => cases reads
  | cons c cs =>
    have apart {d : Char} (stops : goesOn d = false) {tail : List Char} :
        c :: cs ++ rest ≠ d :: tail := by
      intro same
      have here := goes c List.mem_cons_self
      rw [(List.cons.inj same).1, stops] at here
      cases here
    rw [readValue, whole, behind, reads]
    · rfl
    all_goals exact fun _ => apart (by decide)

theorem number_head (n : Int) :
    ∃ c cs, Number.chars (.int n) = c :: cs ∧ (c = '-' ∨ c.isDigit) := by
  rw [Number.chars]
  split_ifs
  · exact ⟨'-', _, rfl, .inl rfl⟩
  · cases digits : Nat.toDigits 10 n.natAbs with
    | nil => simp at digits
    | cons c cs =>
      have digit := to_digits_digit n.natAbs c (digits ▸ List.mem_cons_self)
      exact ⟨c, cs, rfl, .inr digit⟩

/-- No literal starts with the bracket that would end a list. -/
theorem chars_head (v : Value) (floatless : v.isFloatless) :
    ∃ c cs, chars v = c :: cs ∧ c ≠ ']' := by
  cases v with
  | null => exact ⟨'n', _, rfl, by decide⟩
  | bool b => cases b <;> exact ⟨_, _, rfl, by decide⟩
  | string s => exact ⟨'\x27', _, rfl, by decide⟩
  | array items => exact ⟨'[', _, rfl, by decide⟩
  | object fields => exact ⟨'\x7b', _, rfl, by decide⟩
  | number n =>
    cases n with
    | float x => cases floatless
    | int n =>
      obtain ⟨c, cs, shape, first⟩ := number_head n
      refine ⟨c, cs, shape, ?_⟩
      rintro rfl
      revert first
      decide

theorem read_value_number (n : Int) {rest : List Char} (ends : Ends rest) (fuel : Nat) :
    readValue (fuel + 1) (Number.chars (.int n) ++ rest) = some (.number (.int n), rest) := by
  have goes : ∀ c ∈ Nat.toDigits 10 n.natAbs, goesOn c :=
    fun c member => goes_on_digit (to_digits_digit _ c member)
  rw [Number.chars]
  split_ifs with negative
  · rw [List.singleton_append, List.cons_append, readValue,
      Identifier.take_while_stopped goes ends, Identifier.drop_while_stopped goes ends,
      read_natural_digits, Option.map_some]
    congr 4
    omega
  · have same : Value.nat n.natAbs = .number (.int n) := by
      rw [Value.nat]
      congr 2
      omega
    rw [List.nil_append, ← same]
    exact read_value_word _ goes (read_word_digits _) ends fuel

theorem ends_cons {c : Char} (stops : goesOn c = false) (rest : List Char) : Ends (c :: rest) := by
  rintro d ⟨⟩
  exact stops

theorem closes_colon (rest : List Char) : Identifier.Closes (':' :: rest) := by
  rintro d ⟨⟩
  decide

/-- No quoted name starts with the brace that would end a map. -/
theorem quote_head (cs : List Char) :
    ∃ c more, Identifier.quoteChars cs = c :: more ∧ c ≠ '\x7d' := by
  rw [Identifier.quoteChars]
  split
  · rename_i plain
    cases cs with
    | nil => cases plain
    | cons c more =>
      refine ⟨c, more, rfl, ?_⟩
      rintro rfl
      cases plain
  · exact ⟨'`', _, rfl, by decide⟩

theorem item_chars_head (v : Value) (items : List Value)
    (floatless : Value.areFloatless (v :: items)) :
    ∃ c cs, itemChars (v :: items) = c :: cs ∧ c ≠ ']' := by
  rw [Value.areFloatless, Bool.and_eq_true] at floatless
  obtain ⟨c, cs, first, other⟩ := chars_head v floatless.1
  cases items with
  | nil => exact ⟨c, cs, first, other⟩
  | cons w more =>
    exact ⟨c, _, congrArg (· ++ ',' :: ' ' :: itemChars (w :: more)) first, other⟩

theorem field_chars_head (k : String) (v : Value) (fields : List (String × Value)) :
    ∃ c cs, fieldChars ((k, v) :: fields) = c :: cs ∧ c ≠ '\x7d' := by
  obtain ⟨c, more, first, other⟩ := quote_head k.toList
  have behind (tail : List Char) :
      Identifier.quoteChars k.toList ++ tail = c :: (more ++ tail) := congrArg (· ++ tail) first
  cases fields with
  | nil => exact ⟨c, _, behind _, other⟩
  | cons e rest =>
    have entry := behind (':' :: ' ' :: chars v)
    exact ⟨c, _, congrArg (· ++ ',' :: ' ' :: fieldChars (e :: rest)) entry, other⟩

theorem read_brackets {fuel : Nat} {cs : List Char} {c : Char} (other : c ≠ ']') :
    readValue (fuel + 1) ('[' :: c :: cs) =
      (readItems fuel (c :: cs)).map fun p => (.array p.1, p.2) := by
  rw [readValue]
  rintro _ ⟨⟩
  exact other rfl

theorem read_braces {fuel : Nat} {cs : List Char} {c : Char} (other : c ≠ '\x7d') :
    readValue (fuel + 1) ('\x7b' :: c :: cs) =
      (readFields fuel (c :: cs)).map fun p => (.object p.1, p.2) := by
  rw [readValue]
  rintro _ ⟨⟩
  exact other rfl

theorem read_last_item {fuel : Nat} {cs rest : List Char} {v : Value}
    (head : readValue fuel cs = some (v, ']' :: rest)) :
    readItems (fuel + 1) cs = some ([v], rest) := by
  rw [readItems, head]
  rfl

theorem read_next_item {fuel : Nat} {cs more rest : List Char} {v : Value} {items : List Value}
    (head : readValue fuel cs = some (v, ',' :: ' ' :: more))
    (tail : readItems fuel more = some (items, rest)) :
    readItems (fuel + 1) cs = some (v :: items, rest) := by
  rw [readItems, head]
  simp only [Option.bind_eq_bind, Option.bind_some, tail]
  rfl

theorem read_last_field (k : String) {fuel : Nat} {cs rest : List Char} {v : Value}
    (head : readValue fuel cs = some (v, '\x7d' :: rest)) :
    readFields (fuel + 1) (Identifier.quoteChars k.toList ++ ':' :: ' ' :: cs) =
      some ([(k, v)], rest) := by
  rw [readFields, Identifier.read_name_quote k.toList (closes_colon _)]
  simp only [Option.bind_eq_bind, Option.bind_some, head, String.ofList_toList]
  rfl

theorem read_next_field (k : String) {fuel : Nat} {cs more rest : List Char} {v : Value}
    {fields : List (String × Value)} (head : readValue fuel cs = some (v, ',' :: ' ' :: more))
    (tail : readFields fuel more = some (fields, rest)) :
    readFields (fuel + 1) (Identifier.quoteChars k.toList ++ ':' :: ' ' :: cs) =
      some ((k, v) :: fields, rest) := by
  rw [readFields, Identifier.read_name_quote k.toList (closes_colon _)]
  simp only [Option.bind_eq_bind, Option.bind_some, head, tail, String.ofList_toList]
  rfl

mutual

theorem read_value_chars : ∀ v : Value, v.isFloatless → ∀ {fuel : Nat} {rest : List Char},
    (chars v).length ≤ fuel → Ends rest → readValue fuel (chars v ++ rest) = some (v, rest)
  | .null, _, fuel + 1, rest, _, ends =>
    read_value_word "null".toList (List.all_eq_true.mp rfl) rfl ends fuel
  | .bool b, _, fuel + 1, rest, _, ends => by
    cases b with
    | true => exact read_value_word "true".toList (List.all_eq_true.mp rfl) rfl ends fuel
    | false => exact read_value_word "false".toList (List.all_eq_true.mp rfl) rfl ends fuel
  | .number (.int n), _, fuel + 1, rest, _, ends => read_value_number n ends fuel
  | .string s, _, fuel + 1, rest, _, _ => by
    have read := read_string_escaped s.toList rest
    rw [chars, quoted, List.cons_append, List.cons_append, List.append_assoc, readValue]
    rw [List.singleton_append, read, Option.map_some, String.ofList_toList]
  | .array [], _, fuel + 1, rest, _, _ => rfl
  | .array (v :: items), floatless, fuel + 1, rest, enough, _ => by
    rw [chars, List.length_append, List.length_cons, List.length_singleton] at enough
    have inside : readItems fuel (itemChars (v :: items) ++ ']' :: rest) =
        some (v :: items, rest) := read_items_chars v items floatless (by omega)
    obtain ⟨c, cs, first, other⟩ := item_chars_head v items floatless
    rw [chars, List.append_assoc, List.cons_append, List.singleton_append]
    rw [first, List.cons_append] at inside ⊢
    rw [read_brackets other, inside]
    rfl
  | .object [], _, fuel + 1, rest, _, _ => rfl
  | .object ((k, v) :: fields), floatless, fuel + 1, rest, enough, _ => by
    rw [chars, List.length_append, List.length_cons, List.length_singleton] at enough
    have inside : readFields fuel (fieldChars ((k, v) :: fields) ++ '\x7d' :: rest) =
        some ((k, v) :: fields, rest) := read_fields_chars k v fields floatless (by omega)
    obtain ⟨c, cs, first, other⟩ := field_chars_head k v fields
    rw [chars, List.append_assoc, List.cons_append, List.singleton_append]
    rw [first, List.cons_append] at inside ⊢
    rw [read_braces other, inside]
    rfl
  | v, floatless, 0, rest, enough, _ => by
    obtain ⟨c, cs, first, -⟩ := chars_head v floatless
    rw [first] at enough
    exact absurd enough (Nat.not_succ_le_zero _)

theorem read_items_chars : ∀ (v : Value) (items : List Value),
    Value.areFloatless (v :: items) → ∀ {fuel : Nat} {rest : List Char},
    (itemChars (v :: items)).length < fuel →
      readItems fuel (itemChars (v :: items) ++ ']' :: rest) = some (v :: items, rest)
  | v, items, floatless, 0, rest, enough => absurd enough (Nat.not_lt_zero _)
  | v, [], floatless, fuel + 1, rest, enough => by
    rw [Value.areFloatless, Bool.and_eq_true] at floatless
    have short : (chars v).length ≤ fuel := Nat.le_of_lt_succ enough
    exact read_last_item (read_value_chars v floatless.1 short (ends_cons (by decide) rest))
  | v, w :: items, floatless, fuel + 1, rest, enough => by
    rw [Value.areFloatless, Bool.and_eq_true] at floatless
    have split : itemChars (v :: w :: items) =
        chars v ++ ',' :: ' ' :: itemChars (w :: items) := rfl
    rw [split, List.length_append, List.length_cons, List.length_cons] at enough
    have tail : readItems fuel (itemChars (w :: items) ++ ']' :: rest) =
        some (w :: items, rest) := read_items_chars w items floatless.2 (by omega)
    rw [split, List.append_assoc, List.cons_append, List.cons_append]
    apply read_next_item _ tail
    exact read_value_chars v floatless.1 (by omega) (ends_cons (by decide) _)

theorem read_fields_chars : ∀ (k : String) (v : Value) (fields : List (String × Value)),
    Value.holdFloatless ((k, v) :: fields) → ∀ {fuel : Nat} {rest : List Char},
    (fieldChars ((k, v) :: fields)).length < fuel →
      readFields fuel (fieldChars ((k, v) :: fields) ++ '\x7d' :: rest) =
        some ((k, v) :: fields, rest)
  | k, v, fields, floatless, 0, rest, enough => absurd enough (Nat.not_lt_zero _)
  | k, v, [], floatless, fuel + 1, rest, enough => by
    rw [Value.holdFloatless, Bool.and_eq_true] at floatless
    rw [fieldChars, List.length_append, List.length_cons, List.length_cons] at enough
    rw [fieldChars, List.append_assoc, List.cons_append, List.cons_append]
    apply read_last_field
    exact read_value_chars v floatless.1 (by omega) (ends_cons (by decide) rest)
  | k, v, (l, w) :: fields, floatless, fuel + 1, rest, enough => by
    rw [Value.holdFloatless, Bool.and_eq_true] at floatless
    have split : fieldChars ((k, v) :: (l, w) :: fields) = Identifier.quoteChars k.toList ++
        ':' :: ' ' :: (chars v ++ ',' :: ' ' :: fieldChars ((l, w) :: fields)) := by
      simp [fieldChars]
    simp only [split, List.length_append, List.length_cons] at enough
    have tail : readFields fuel (fieldChars ((l, w) :: fields) ++ '\x7d' :: rest) =
        some ((l, w) :: fields, rest) := read_fields_chars l w fields floatless.2 (by omega)
    simp only [split, List.append_assoc, List.cons_append]
    apply read_next_field k _ tail
    exact read_value_chars v floatless.1 (by omega) (ends_cons (by decide) _)

end

/-- A literal is read back as its value, whatever it ends before, so that the value and what follows
are told by the text. Strings need nothing to follow them, and quoted keys no more than the colon
that does. -/
theorem literal_read_back (v : Value) (floatless : v.isFloatless) :
    (∀ rest, Ends rest → read (v.literal.toList ++ rest) = some (v, rest)) ∧
      (∀ w : Value, w.isFloatless → ∀ rest other, Ends rest → Ends other →
        v.literal.toList ++ rest = w.literal.toList ++ other → v = w ∧ rest = other) ∧
      (∀ s rest, read ((Value.string s).literal.toList ++ rest) = some (.string s, rest)) ∧
      ∀ key rest, Identifier.Closes rest →
        Identifier.readName ((Identifier.quote key).toList ++ rest) = some (key.toList, rest) := by
  have reads (v : Value) (floatless : v.isFloatless) (rest : List Char) (ends : Ends rest) :
      read (v.literal.toList ++ rest) = some (v, rest) := by
    have enough : (chars v).length ≤ (chars v ++ rest).length := by simp
    rw [Value.literal, String.toList_ofList]
    exact read_value_chars v floatless enough ends
  refine ⟨reads v floatless, ?_, ?_, ?_⟩
  · intro w whole rest other ends stops same
    have first := reads v floatless rest ends
    rw [same, reads w whole other stops] at first
    cases first
    exact ⟨rfl, rfl⟩
  · intro s rest
    rw [Value.literal, String.toList_ofList, read, chars, quoted, List.append_assoc,
      List.cons_append, List.singleton_append, List.length_cons, readValue, read_string_escaped,
      Option.map_some, String.ofList_toList]
  · intro key rest closes
    rw [Identifier.quote, String.toList_ofList]
    exact Identifier.read_name_quote key.toList closes

/-- Quotes, brackets and backticks in every place that could end something too early. -/
def thorny : Value :=
  .object [("first name", .array [.string "it\x27s ', \\", .null, .array [], .object []]),
    ("", .number (.int (-12))), ("`a``", .string "\n\t\x7d]"), ("ok", .bool true)]

theorem thorny_read :
    thorny.isFloatless ∧ Ends ", next".toList ∧
      read (thorny.literal.toList ++ ", next".toList) = some (thorny, ", next".toList) ∧
      (Value.nat 12).literal ≠ (Value.string "12").literal := by
  have floatless : thorny.isFloatless := rfl
  have ends : Ends ", next".toList := ends_cons (by decide) _
  obtain ⟨reads, -⟩ := literal_read_back thorny floatless
  obtain ⟨-, apart, -⟩ := literal_read_back (.nat 12) rfl
  refine ⟨floatless, ends, reads _ ends, fun same => ?_⟩
  have values := apart (.string "12") rfl [] [] nofun nofun (by rw [same])
  cases values.1

end Literal
end GraphQuery
