import UIoT.Utils.JsonParser

/-!
# The member scan on the text of a document

What `json_get_next_object` cuts out of the text of a document whose strings
are plain: the value of a member is cut where it ends (`readable_plain`), except
that a number loses its exponent, and the scan goes on behind it. It does not
stop at the end of the object: the members that follow in the enclosing objects
come next (`allEntries_members`, `allEntries_behind`).
-/

set_option autoImplicit false

namespace UIoT.Utils

open Json

/-! ## Bytes -/

/-- The bytes that the scan looks for. -/
def Mark (byte : UInt8) : Prop :=
  byte = quote ∨ byte = openBrace ∨ byte = closeBrace ∨ byte = openBracket ∨ byte = closeBracket

instance (byte : UInt8) : Decidable (Mark byte) := inferInstanceAs (Decidable (_ ∨ _))

/-- A text without any of these bytes. -/
def NoMark (text : List UInt8) : Prop := ∀ byte ∈ text, ¬Mark byte

/-- A nonempty string without quotes, backslashes or brackets. -/
def Plain (str : Str) : Prop := str.bytes ≠ [] ∧ NoMark str.bytes

theorem noMark_of_all {text : List UInt8} (checked : text.all fun byte => decide ¬Mark byte) :
    NoMark text :=
  fun byte member => of_decide_eq_true (List.all_eq_true.mp checked byte member)

theorem NoMark.append {text more : List UInt8} (first : NoMark text) (second : NoMark more) :
    NoMark (text ++ more) := by
  intro byte member
  rcases List.mem_append.mp member with inFirst | inSecond
  · exact first byte inFirst
  · exact second byte inSecond

theorem NoMark.cons {byte : UInt8} {text : List UInt8} (head : ¬Mark byte) (rest : NoMark text) :
    NoMark (byte :: text) := by
  intro other member
  rcases List.mem_cons.mp member with rfl | inRest
  · exact head
  · exact rest other inRest

theorem NoMark.nil : NoMark [] := by
  intro byte member
  simp at member

theorem NoMark.not_mem {text : List UInt8} (clean : NoMark text) {byte : UInt8} (mark : Mark byte) :
    byte ∉ text :=
  fun member => clean byte member mark

theorem noQuote_str (str : Str) : quote ∉ str.bytes :=
  fun member => (str.unescaped quote member).2.1 rfl

theorem noMark_blanks (blanks : Blanks) : NoMark blanks.text := by
  intro byte member
  obtain ⟨blank, _, rfl⟩ := List.mem_map.mp member
  cases blank <;> decide

theorem not_mark_digitByte : ∀ digit : Digit, ¬Mark (digitByte digit) := by decide

theorem noMark_digits (digits : List Digit) : NoMark (digits.map digitByte) := by
  intro byte member
  obtain ⟨digit, _, rfl⟩ := List.mem_map.mp member
  exact not_mark_digitByte digit

theorem noMark_fraction (fraction : Option (Digit × List Digit)) :
    NoMark (fractionText fraction) := by
  cases fraction with
  | none => exact .nil
  | some fraction =>
      exact .cons (by decide) (.cons (not_mark_digitByte _) (noMark_digits _))

theorem noMark_mantissa (number : Number) : NoMark number.mantissa := by
  refine .append (.append ?_ (.cons (not_mark_digitByte _) (noMark_digits _))) (noMark_fraction _)
  split
  · exact .cons (by decide) .nil
  · exact .nil

theorem noMark_exponent (exponent : Option Exponent) : NoMark (exponentText exponent) := by
  cases exponent with
  | none => exact .nil
  | some exponent =>
      refine .append (.cons ?_ ?_) (.cons (not_mark_digitByte _) (noMark_digits _))
      · split <;> decide
      · cases exponent.sign
        · exact .nil
        · exact .cons (by decide) .nil
        · exact .cons (by decide) .nil

theorem noMark_separator (members : Members) : NoMark members.separator := by
  cases members
  · exact .nil
  · exact .cons (by decide) .nil

/-! ## Looking for a byte -/

theorem strchr_skip {byte : UInt8} {text : List UInt8} (rest : Cursor) (absent : byte ∉ text) :
    strchr byte (text ++ rest) = strchr byte rest := by
  induction text with
  | nil => rfl
  | cons head text ih =>
      have other : head ≠ byte := fun same => absent (by simp [same])
      rw [List.cons_append, strchr, if_neg other]
      exact ih fun member => absent (List.mem_cons_of_mem _ member)

theorem strchr_here (byte : UInt8) (rest : Cursor) :
    strchr byte (byte :: rest) = some (byte :: rest) := by
  simp [strchr]

theorem strchr_suffix {byte : UInt8} {str found : Cursor} (result : strchr byte str = some found) :
    found <:+ str ∧ found ≠ [] := by
  induction str with
  | nil => cases result
  | cons head rest ih =>
      rw [strchr] at result
      split at result
      · cases result
        exact ⟨List.suffix_refl _, List.cons_ne_nil _ _⟩
      · obtain ⟨isSuffix, notEmpty⟩ := ih result
        exact ⟨isSuffix.trans (List.suffix_cons _ _), notEmpty⟩

/-- What is found is behind what has no such byte. -/
theorem strchr_split {byte : UInt8} {str found : Cursor} (result : strchr byte str = some found) :
    ∃ front rest, str = front ++ found ∧ found = byte :: rest ∧ byte ∉ front := by
  induction str with
  | nil => simp [strchr] at result
  | cons head str ih =>
      rw [strchr] at result
      split at result
      · rename_i same
        cases result
        exact ⟨[], str, rfl, by rw [same], List.not_mem_nil⟩
      · rename_i other
        obtain ⟨front, rest, rfl, found, absent⟩ := ih result
        exact ⟨head :: front, rest, rfl, found,
          List.not_mem_cons_of_ne_of_not_mem (Ne.symm other) absent⟩

/-! ## Nested marks -/

/-- The depth is the same behind a text as in front of it, and the text holds
no closing mark of the depth in front of it. -/
def Passes (opening closing : UInt8) (text : List UInt8) : Prop :=
  ∀ depth len rest, markedLen opening closing depth len (text ++ rest) =
    markedLen opening closing depth (len + text.length) rest

variable {opening closing : UInt8}

theorem Passes.append {text more : List UInt8} (first : Passes opening closing text)
    (second : Passes opening closing more) : Passes opening closing (text ++ more) := by
  intro depth len rest
  rw [List.append_assoc, first, second, List.length_append, Nat.add_assoc]

theorem Passes.nil : Passes opening closing [] := by
  intro depth len rest
  rfl

theorem Passes.cons {byte : UInt8} {text : List UInt8} (notOpening : byte ≠ opening)
    (notClosing : byte ≠ closing) (rest : Passes opening closing text) :
    Passes opening closing (byte :: text) := by
  intro depth len more
  rw [List.cons_append, markedLen, if_neg notClosing, if_neg notOpening, rest, List.length_cons]
  congr 1
  omega

theorem Passes.of_absent {text : List UInt8} (noOpening : opening ∉ text)
    (noClosing : closing ∉ text) : Passes opening closing text := by
  induction text with
  | nil => exact .nil
  | cons byte text ih =>
      refine .cons (fun same => noOpening (by simp [same])) (fun same => noClosing (by simp [same])) ?_
      exact ih (fun member => noOpening (List.mem_cons_of_mem _ member))
        fun member => noClosing (List.mem_cons_of_mem _ member)

theorem Passes.of_noMark {text : List UInt8} (clean : NoMark text) (isOpening : Mark opening)
    (isClosing : Mark closing) : Passes opening closing text :=
  .of_absent (clean.not_mem isOpening) (clean.not_mem isClosing)

/-- An enclosed text goes one level down and comes back. -/
theorem Passes.enclosed {text : List UInt8} (inner : Passes opening closing text)
    (different : opening ≠ closing) : Passes opening closing (opening :: text ++ [closing]) := by
  intro depth len rest
  have back : markedLen opening closing (depth + 1) (len + 1 + text.length) (closing :: rest) =
      markedLen opening closing depth (len + 1 + text.length + 1) rest := by
    rw [markedLen, if_pos rfl, if_neg (Nat.succ_ne_zero depth), Nat.add_sub_cancel]
  rw [List.cons_append, List.cons_append, markedLen, if_neg different, if_pos rfl,
    List.append_assoc, inner, List.singleton_append, back]
  congr 1
  simp
  omega

/-- The marks of an object or of an array. -/
def Bracket (opening closing : UInt8) : Prop :=
  (opening = openBrace ∧ closing = closeBrace) ∨ (opening = openBracket ∧ closing = closeBracket)

theorem Bracket.opening_mark (bracket : Bracket opening closing) : Mark opening := by
  rcases bracket with ⟨rfl, _⟩ | ⟨rfl, _⟩ <;> decide

theorem Bracket.closing_mark (bracket : Bracket opening closing) : Mark closing := by
  rcases bracket with ⟨_, rfl⟩ | ⟨_, rfl⟩ <;> decide

theorem Bracket.passes_noMark (bracket : Bracket opening closing) {text : List UInt8}
    (clean : NoMark text) : Passes opening closing text :=
  .of_noMark clean bracket.opening_mark bracket.closing_mark

theorem Bracket.passes_quote (bracket : Bracket opening closing) :
    Passes opening closing [quote] := by
  rcases bracket with ⟨rfl, rfl⟩ | ⟨rfl, rfl⟩ <;> exact .cons (by decide) (by decide) .nil

theorem Bracket.passes_str (bracket : Bracket opening closing) {str : Str} (plain : Plain str) :
    Passes opening closing str.text :=
  (bracket.passes_quote.append (bracket.passes_noMark plain.2)).append bracket.passes_quote

mutual

/-- A value opens and closes its own brackets only. -/
theorem passes_value (bracket : Bracket opening closing) : (value : Value) →
    value.AllStr Plain → Passes opening closing value.text
  | .string _, plain => bracket.passes_str plain
  | .number _, _ => bracket.passes_noMark (.append (noMark_mantissa _) (noMark_exponent _))
  | .true, _ => bracket.passes_noMark (noMark_of_all rfl)
  | .false, _ => bracket.passes_noMark (noMark_of_all rfl)
  | .null, _ => bracket.passes_noMark (noMark_of_all rfl)
  | .array blanks elements, plain => by
      have inner := (bracket.passes_noMark (noMark_blanks blanks)).append
        (passes_elements bracket elements plain)
      rcases bracket with ⟨rfl, rfl⟩ | ⟨rfl, rfl⟩
      · exact (Passes.cons (by decide) (by decide) inner).append (.cons (by decide) (by decide) .nil)
      · exact inner.enclosed (by decide)
  | .object blanks members, plain => by
      have inner := (bracket.passes_noMark (noMark_blanks blanks)).append
        (passes_members bracket members plain)
      rcases bracket with ⟨rfl, rfl⟩ | ⟨rfl, rfl⟩
      · exact inner.enclosed (by decide)
      · exact (Passes.cons (by decide) (by decide) inner).append (.cons (by decide) (by decide) .nil)

@[inherit_doc passes_value]
theorem passes_elements (bracket : Bracket opening closing) : (elements : Elements) →
    elements.AllStr Plain → Passes opening closing elements.text
  | .nil, _ => .nil
  | .cons before value after rest, plain => by
      have separated : Passes opening closing rest.separator := by
        cases rest
        · exact .nil
        · exact bracket.passes_noMark (.cons (by decide) .nil)
      have blanks : ∀ blanks : Blanks, Passes opening closing blanks.text := fun blanks =>
        bracket.passes_noMark (noMark_blanks blanks)
      exact ((((blanks before).append (passes_value bracket value plain.1)).append
        (blanks after)).append separated).append (passes_elements bracket rest plain.2)

@[inherit_doc passes_value]
theorem passes_members (bracket : Bracket opening closing) : (members : Members) →
    members.AllStr Plain → Passes opening closing members.text
  | .nil, _ => .nil
  | .cons before name beforeColon afterColon value after rest, plain => by
      have blanks : ∀ blanks : Blanks, Passes opening closing blanks.text := fun blanks =>
        bracket.passes_noMark (noMark_blanks blanks)
      have fromColon : Passes opening closing (colon :: afterColon.text) :=
        bracket.passes_noMark (.cons (by decide) (noMark_blanks afterColon))
      exact (((((((blanks before).append (bracket.passes_str plain.1)).append
        (blanks beforeColon)).append fromColon).append
        (passes_value bracket value plain.2.1)).append (blanks after)).append
        (bracket.passes_noMark (noMark_separator rest))).append
        (passes_members bracket rest plain.2.2)

end

/-! ## The value of a member -/

/-- The byte behind a value: no digit and no point. -/
def Follows (tail : List UInt8) : Prop :=
  ∃ byte rest, tail = byte :: rest ∧ isDigit byte = false ∧ byte ≠ point

theorem follows_append {text tail : List UInt8}
    (bytes : ∀ byte ∈ text, isDigit byte = false ∧ byte ≠ point) (follows : Follows tail) :
    Follows (text ++ tail) := by
  cases text with
  | nil => exact follows
  | cons byte text =>
      have head := bytes byte List.mem_cons_self
      exact ⟨byte, text ++ tail, rfl, head.1, head.2⟩

theorem follows_blanks (blanks : Blanks) {tail : List UInt8} (follows : Follows tail) :
    Follows (blanks.text ++ tail) := by
  refine follows_append (fun byte member => ?_) follows
  obtain ⟨blank, _, rfl⟩ := List.mem_map.mp member
  cases blank <;> decide

theorem follows_exponent (exponent : Option Exponent) {tail : List UInt8}
    (follows : Follows tail) : Follows (exponentText exponent ++ tail) := by
  cases exponent with
  | none => exact follows
  | some exponent =>
      refine ⟨_, _, rfl, ?_, ?_⟩
      · split <;> decide
      · split <;> decide

theorem isDigit_digitByte : ∀ digit : Digit, isDigit (digitByte digit) = true := by decide

/-- The number scan goes over digits and points. -/
theorem numberLen_skip {text : List UInt8} (len : Nat) (rest : Cursor)
    (bytes : ∀ byte ∈ text, isDigit byte = true ∨ byte = point) :
    numberLen len (text ++ rest) = numberLen (len + text.length) rest := by
  induction text generalizing len with
  | nil => rfl
  | cons byte text ih =>
      have goesOn : (!isDigit byte && byte ≠ point) = false := by
        rcases bytes byte List.mem_cons_self with digit | isPoint
        · simp [digit]
        · simp [isPoint]
      rw [List.cons_append, numberLen, goesOn, if_neg Bool.false_ne_true,
        ih _ fun other member => bytes other (List.mem_cons_of_mem _ member), List.length_cons]
      congr 1
      omega

/-- It stops at the byte behind the number. -/
theorem numberLen_stop (len : Nat) {tail : Cursor} (follows : Follows tail) :
    numberLen len tail = len := by
  obtain ⟨byte, rest, rfl, noDigit, noPoint⟩ := follows
  simp [numberLen, noDigit, noPoint]

theorem digits_or_point_digits (digits : List Digit) :
    ∀ byte ∈ digits.map digitByte, isDigit byte = true ∨ byte = point := by
  intro byte member
  obtain ⟨digit, _, rfl⟩ := List.mem_map.mp member
  exact .inl (isDigit_digitByte digit)

theorem digits_or_point_fraction (fraction : Option (Digit × List Digit)) :
    ∀ byte ∈ fractionText fraction, isDigit byte = true ∨ byte = point := by
  intro byte member
  cases fraction with
  | none => simp [fractionText] at member
  | some fraction =>
      rw [fractionText, List.mem_cons, List.mem_cons] at member
      rcases member with rfl | rfl | digit
      · exact .inr rfl
      · exact .inl (isDigit_digitByte _)
      · exact digits_or_point_digits _ byte digit

/-- The mantissa's first byte, which begins the value, and the others. -/
theorem mantissa_scan (number : Number) : ∃ first more, number.mantissa = first :: more ∧
    (first = minus ∨ isDigit first = true) ∧ ∀ byte ∈ more, isDigit byte = true ∨ byte = point := by
  have digits := digits_or_point_digits number.more
  have fraction := digits_or_point_fraction number.fraction
  cases negative : number.negative with
  | true =>
      refine ⟨minus, digitByte number.first :: number.more.map digitByte ++
        fractionText number.fraction, by simp [Number.mantissa, negative], .inl rfl, ?_⟩
      intro byte member
      rw [List.cons_append, List.mem_cons, List.mem_append] at member
      rcases member with rfl | inDigits | inFraction
      · exact .inl (isDigit_digitByte _)
      · exact digits byte inDigits
      · exact fraction byte inFraction
  | false =>
      refine ⟨digitByte number.first, number.more.map digitByte ++ fractionText number.fraction,
        by simp [Number.mantissa, negative], .inr (isDigit_digitByte _), ?_⟩
      intro byte member
      rcases List.mem_append.mp member with inDigits | inFraction
      · exact digits byte inDigits
      · exact fraction byte inFraction

/-- A byte that begins a number begins nothing else. -/
theorem beginOfValue_number {byte : UInt8} (rest : Cursor)
    (begins : byte = minus ∨ isDigit byte = true) :
    beginOfValue (byte :: rest) = some (.number, byte :: rest, rest) := by
  have notQuote : byte ≠ quote := by rintro rfl; revert begins; decide
  have notBrace : byte ≠ openBrace := by rintro rfl; revert begins; decide
  have notBracket : byte ≠ openBracket := by rintro rfl; revert begins; decide
  rw [beginOfValue, if_neg notQuote, if_neg notBrace, if_neg notBracket, if_pos begins]

theorem beginOfValue_blanks (blanks : Blanks) (rest : Cursor) :
    beginOfValue (blanks.text ++ rest) = beginOfValue rest := by
  induction blanks with
  | nil => rfl
  | cons blank blanks ih =>
      have skip : ∀ more, beginOfValue (blank.byte :: more) = beginOfValue more := by
        intro more
        cases blank <;> rfl
      exact (skip _).trans ih

def valueType : Value → JsonType
  | .string _ => .string
  | .number _ => .number
  | .true => .boolean
  | .false => .boolean
  | .null => .null
  | .array .. => .array
  | .object .. => .object

/-- Where the cursor for a value stands: behind the opening quote of a string,
else at its first byte. -/
def valueCursor : Value → List UInt8 → Cursor
  | .string str, tail => str.bytes ++ quote :: tail
  | value, tail => value.text ++ tail

/-- What the scan takes for the value. -/
def scanned : Value → List UInt8
  | .string str => str.bytes
  | .number number => number.mantissa
  | value => value.text

/-- What it leaves of the value. -/
def unscanned : Value → List UInt8
  | .number number => exponentText number.exponent
  | _ => []

theorem noMark_unscanned (value : Value) : NoMark (unscanned value) := by
  cases value with
  | number number => exact noMark_exponent _
  | _ => exact .nil

theorem take_valueCursor (value : Value) (tail : List UInt8) :
    (valueCursor value tail).take (scanned value).length = scanned value := by
  cases value with
  | number number =>
      rw [valueCursor, Value.text, Number.text, List.append_assoc]
      exact List.take_left
      all_goals simp
  | _ => simp [valueCursor, scanned]

theorem markedLen_close (len : Nat) (tail : Cursor) :
    markedLen opening closing 0 len (closing :: tail) = some len := by
  simp [markedLen]

/-- The string scan stops at the closing quote. -/
theorem markedLen_string {bytes : List UInt8} (absent : quote ∉ bytes) (tail : Cursor) :
    markedLen quote quote 0 0 (bytes ++ quote :: tail) = some bytes.length := by
  have passes : Passes quote quote bytes := .of_absent absent absent
  rw [passes, markedLen_close, Nat.zero_add]

/-- The bracket scan stops at the bracket that closes the value. -/
theorem markedLen_bracket {inner : List UInt8} (passes : Passes opening closing inner)
    (tail : Cursor) :
    markedLen opening closing 0 1 (inner ++ closing :: tail) = some (1 + inner.length) := by
  rw [passes, markedLen_close]

/-- The entry for a member whose value stands in front of `tail`. -/
def entryFor (key : Cursor) (keyLen : Nat) (value : Value) (tail : Cursor) : Entry :=
  { key := key
    keyLen := keyLen
    value := valueCursor value tail
    valueLen := (scanned value).length
    type := valueType value }

/-- The value is cut where it ends, but for the exponent of a number. -/
def Readable (value : Value) : Prop :=
  ∀ (key : Cursor) (keyLen : Nat) (tail : Cursor), Follows tail →
    valueFrom key keyLen (value.text ++ tail) =
      some (entryFor key keyLen value tail, unscanned value ++ tail)

/-- A string ends at its quote, whatever other bytes it holds. -/
theorem readable_scalar {value : Value} (scalar : value.Scalar) : Readable value := by
  intro key keyLen tail follows
  cases value with
  | string str =>
      have begins : beginOfValue ((Value.string str).text ++ tail) =
          some (.string, str.bytes ++ quote :: tail, str.bytes ++ quote :: tail) := by
        simp [Value.text, Str.text, beginOfValue]
      simp only [valueFrom, begins, valueLen, markedLen_string (noQuote_str str), Option.getD_some]
      simp [entryFor, valueCursor, scanned, valueType, unscanned, List.drop_append]
  | number number =>
      obtain ⟨first, more, mantissa, begins, bytes⟩ := mantissa_scan number
      have whole : (Value.number number).text ++ tail =
          first :: (more ++ (exponentText number.exponent ++ tail)) := by
        simp [Value.text, Number.text, mantissa]
      have len : numberLen 1 (more ++ (exponentText number.exponent ++ tail)) =
          number.mantissa.length := by
        rw [numberLen_skip 1 _ bytes, numberLen_stop _ (follows_exponent _ follows), mantissa,
          List.length_cons, Nat.add_comm]
      have rest : (first :: (more ++ (exponentText number.exponent ++ tail))).drop
          number.mantissa.length = exponentText number.exponent ++ tail := by
        rw [← List.cons_append, ← mantissa]
        exact List.drop_left
      simp only [valueFrom, whole, beginOfValue_number _ begins, valueLen, len]
      simp only [reduceCtorEq, if_false, rest]
      rw [entryFor, valueCursor, whole]
      · rfl
      · simp
  | true => rfl
  | false => rfl
  | null => rfl
  | array blanks elements => exact scalar.elim
  | object blanks members => exact scalar.elim

/-- A value whose strings are plain is cut where its brackets close. -/
theorem readable_plain {value : Value} (plain : value.AllStr Plain) : Readable value := by
  cases value with
  | array blanks elements =>
      intro key keyLen tail _
      have bracket : Bracket openBracket closeBracket := .inr ⟨rfl, rfl⟩
      have inner := (bracket.passes_noMark (noMark_blanks blanks)).append
        (passes_elements bracket elements plain)
      have whole : (Value.array blanks elements).text ++ tail =
          openBracket :: ((blanks.text ++ elements.text) ++ closeBracket :: tail) := by
        simp [Value.text]
      have len := markedLen_bracket inner tail
      have begins : ∀ rest, beginOfValue (openBracket :: rest) =
          some (.array, openBracket :: rest, rest) := fun _ => rfl
      simp only [valueFrom, whole, begins, valueLen, len, Option.map_some, Option.getD_some]
      simp only [entryFor, valueCursor, scanned, valueType, unscanned, reduceCtorEq, if_false, whole]
      have total : (Value.array blanks elements).text.length =
          1 + (blanks.text ++ elements.text).length + 1 := by
        simp [Value.text]
        omega
      rw [total, ← whole, ← total, List.drop_left, List.nil_append]
  | object blanks members =>
      intro key keyLen tail _
      have bracket : Bracket openBrace closeBrace := .inl ⟨rfl, rfl⟩
      have inner := (bracket.passes_noMark (noMark_blanks blanks)).append
        (passes_members bracket members plain)
      have whole : (Value.object blanks members).text ++ tail =
          openBrace :: ((blanks.text ++ members.text) ++ closeBrace :: tail) := by
        simp [Value.text]
      have len := markedLen_bracket inner tail
      have begins : ∀ rest, beginOfValue (openBrace :: rest) =
          some (.object, openBrace :: rest, rest) := fun _ => rfl
      simp only [valueFrom, whole, begins, valueLen, len, Option.map_some, Option.getD_some]
      simp only [entryFor, valueCursor, scanned, valueType, unscanned, reduceCtorEq, if_false, whole]
      have total : (Value.object blanks members).text.length =
          1 + (blanks.text ++ members.text).length + 1 := by
        simp [Value.text]
        omega
      rw [total, ← whole, ← total, List.drop_left, List.nil_append]
  | _ => exact readable_scalar trivial

theorem readable_members : {members : Members} → members.AllStr Plain → members.EachValue Readable
  | .nil, _ => trivial
  | .cons _ _ _ _ _ _ _, plain => ⟨readable_plain plain.2.1, readable_members plain.2.2⟩

/-! ## The members from a position on -/

/-- The scan looks for a quote first. -/
theorem jsonGetNextObject_skip {text : List UInt8} (rest : Cursor) (absent : quote ∉ text) :
    jsonGetNextObject .object (text ++ rest) = jsonGetNextObject .object rest := by
  simp only [jsonGetNextObject, if_true, strchr_skip rest absent]

theorem jsonGetNextObject_noQuote {text : List UInt8} (absent : quote ∉ text) :
    jsonGetNextObject .object text = none := by
  have skipped := jsonGetNextObject_skip [] absent
  rw [List.append_nil] at skipped
  exact skipped.trans rfl

/-- A member's text from its name on. -/
def nameCursor (name : Str) (beforeColon afterColon : Blanks) (value : Value) (tail : List UInt8) :
    Cursor :=
  name.bytes ++ quote :: (beforeColon.text ++ colon :: (afterColon.text ++ (value.text ++ tail)))

/-- Behind a member's name, the value is read. -/
theorem jsonGetNextObject_afterName (name : Str) (beforeColon afterColon : Blanks) (value : Value)
    (tail : Cursor) :
    jsonGetNextObject .object (quote :: nameCursor name beforeColon afterColon value tail) =
      valueFrom (nameCursor name beforeColon afterColon value tail) name.bytes.length
        (value.text ++ tail) := by
  have closing := strchr_skip (quote :: (beforeColon.text ++
    colon :: (afterColon.text ++ (value.text ++ tail)))) (noQuote_str name)
  rw [strchr_here] at closing
  have noColon : colon ∉ quote :: beforeColon.text := by
    intro member
    rcases List.mem_cons.mp member with isQuote | inBlanks
    · exact absurd isQuote (by decide)
    · obtain ⟨blank, _, isColon⟩ := List.mem_map.mp inBlanks
      revert isColon
      cases blank <;> decide
  have separator := strchr_skip (colon :: (afterColon.text ++ (value.text ++ tail))) noColon
  rw [strchr_here, List.cons_append] at separator
  have fromColon : valueFrom (nameCursor name beforeColon afterColon value tail) name.bytes.length
      (colon :: (afterColon.text ++ (value.text ++ tail))) =
      valueFrom (nameCursor name beforeColon afterColon value tail) name.bytes.length
        (value.text ++ tail) := by
    have skip : beginOfValue (colon :: (afterColon.text ++ (value.text ++ tail))) =
        beginOfValue (value.text ++ tail) := beginOfValue_blanks afterColon _
    rw [valueFrom, skip, valueFrom]
  have len : (nameCursor name beforeColon afterColon value tail).length - (quote ::
      (beforeColon.text ++ colon :: (afterColon.text ++ (value.text ++ tail)))).length =
      name.bytes.length := by
    rw [nameCursor, List.length_append, Nat.add_sub_cancel]
  simp only [jsonGetNextObject, if_true, strchr_here, List.drop_one, List.tail_cons]
  rw [nameCursor, closing]
  simp only [separator]
  rw [← nameCursor, len, fromColon]

/-- A member is cut into its name and its value. -/
theorem jsonGetNextObject_member (name : Str) (beforeColon afterColon : Blanks) {value : Value}
    (readable : Readable value) {tail : Cursor} (follows : Follows tail) :
    jsonGetNextObject .object (quote :: nameCursor name beforeColon afterColon value tail) =
      some (entryFor (nameCursor name beforeColon afterColon value tail) name.bytes.length value tail,
        unscanned value ++ tail) := by
  rw [jsonGetNextObject_afterName, readable _ _ _ follows]

theorem beginOfValue_length_le {scan value rest : Cursor} {type : JsonType}
    (begins : beginOfValue scan = some (type, value, rest)) : value.length ≤ scan.length := by
  induction scan with
  | nil => simp [beginOfValue] at begins
  | cons byte scan ih =>
      rw [beginOfValue] at begins
      repeat' split at begins
      all_goals first
        | (have bound := ih begins; simp only [List.length_cons]; omega)
        | (cases begins; simp)

/-- Each turn of the loop moves forward. -/
theorem jsonGetNextObject_shorter {pos next : Cursor} {entry : Entry}
    (result : jsonGetNextObject .object pos = some (entry, next)) : next.length < pos.length := by
  rw [jsonGetNextObject, if_pos rfl] at result
  cases quoted : strchr quote pos with
  | none => simp only [quoted, reduceCtorEq] at result
  | some opening =>
      simp only [quoted] at result
      cases closed : strchr quote (opening.drop 1) with
      | none => simp only [closed, reduceCtorEq] at result
      | some closing =>
          simp only [closed] at result
          cases separated : strchr colon closing with
          | none => simp only [separated, reduceCtorEq] at result
          | some scan =>
              simp only [separated, valueFrom] at result
              split at result
              · cases result
              · rename_i type value rest begun
                have first := (strchr_suffix quoted).1.length_le
                have second := (strchr_suffix closed).1.length_le
                have third := (strchr_suffix separated).1.length_le
                have fourth := beginOfValue_length_le begun
                have positive := List.length_pos_iff.mpr (strchr_suffix quoted).2
                cases result
                simp only [List.length_drop] at second ⊢
                omega

/-- The members from a position on. -/
def allEntries (pos : Cursor) : List Entry := jsonObjectForEachKv pos.length pos

/-- The loop ends at the end of the text, whatever number of turns it is given
beyond the bytes left. -/
theorem jsonObjectForEachKv_eq : ∀ (turns : Nat) (pos : Cursor), pos.length ≤ turns →
    jsonObjectForEachKv turns pos = allEntries pos := by
  have same : ∀ (turns more : Nat) (pos : Cursor), pos.length ≤ turns → pos.length ≤ more →
      jsonObjectForEachKv turns pos = jsonObjectForEachKv more pos := by
    intro turns
    induction turns with
    | zero =>
        intro more pos short _
        have empty : pos = [] := List.length_eq_zero_iff.mp (Nat.le_zero.mp short)
        subst empty
        cases more <;> rfl
    | succ turns ih =>
        intro more pos short shortMore
        cases more with
        | zero =>
            have empty : pos = [] := List.length_eq_zero_iff.mp (Nat.le_zero.mp shortMore)
            subst empty
            rfl
        | succ more =>
            simp only [jsonObjectForEachKv]
            cases result : jsonGetNextObject .object pos with
            | none => rfl
            | some found =>
                obtain ⟨entry, next⟩ := found
                have shorter := jsonGetNextObject_shorter result
                exact congrArg (entry :: ·) (ih more next (by omega) (by omega))
  intro turns pos enough
  exact same turns pos.length pos enough (Nat.le_refl _)

theorem allEntries_step {pos next : Cursor} {entry : Entry}
    (result : jsonGetNextObject .object pos = some (entry, next)) :
    allEntries pos = entry :: allEntries next := by
  have shorter := jsonGetNextObject_shorter result
  obtain ⟨turns, length⟩ := Nat.exists_eq_succ_of_ne_zero (Nat.ne_of_gt (Nat.zero_lt_of_lt shorter))
  rw [allEntries, length]
  simp only [jsonObjectForEachKv, result]
  rw [jsonObjectForEachKv_eq turns next (by omega)]

theorem allEntries_end {pos : Cursor} (result : jsonGetNextObject .object pos = none) :
    allEntries pos = [] := by
  rw [allEntries]
  cases pos.length with
  | zero => rfl
  | succ turns => simp only [jsonObjectForEachKv, result]

theorem allEntries_skip {text : List UInt8} (rest : Cursor) (absent : quote ∉ text) :
    allEntries (text ++ rest) = allEntries rest := by
  have skip := jsonGetNextObject_skip rest absent
  cases result : jsonGetNextObject .object rest with
  | none => rw [allEntries_end result, allEntries_end (skip.trans result)]
  | some found =>
      obtain ⟨entry, next⟩ := found
      rw [allEntries_step result, allEntries_step (skip.trans result)]

/-! ## The members of a document -/

/-- An enclosing object, left at one of its members: the blanks behind that
member's value and the members that follow. -/
structure Frame where
  after : Blanks
  rest : Members

/-- The text behind a value, from the innermost enclosing object outwards. -/
def behind (trailing : Blanks) : List Frame → List UInt8
  | [] => trailing.text
  | frame :: frames =>
      frame.after.text ++ (frame.rest.separator ++ (frame.rest.text
        ++ closeBrace :: behind trailing frames))

/-- A member as the scan sees it: its text from the name on, and its value with
what encloses it. -/
structure Sighting where
  name : Str
  text : Cursor
  value : Value
  frames : List Frame

def Sighting.entry (trailing : Blanks) (sighting : Sighting) : Entry :=
  entryFor sighting.text sighting.name.bytes.length sighting.value
    (behind trailing sighting.frames)

/-- The members of an object that is enclosed by `frames`. -/
def Members.sightings (trailing : Blanks) (frames : List Frame) : Members → List Sighting
  | .nil => []
  | .cons _ name beforeColon afterColon value after rest =>
      { name := name
        text := nameCursor name beforeColon afterColon value
          (behind trailing ({ after := after, rest := rest } :: frames))
        value := value
        frames := { after := after, rest := rest } :: frames } :: Members.sightings trailing frames rest

/-- The members that follow in the enclosing objects. -/
def followers (trailing : Blanks) : List Frame → List Sighting
  | [] => []
  | frame :: frames =>
      Members.sightings trailing frames frame.rest ++ followers trailing frames

def Frame.AllStr (P : Str → Prop) (frame : Frame) : Prop := frame.rest.AllStr P

theorem follows_behind {trailing : Blanks} (frame : Frame) (frames : List Frame) :
    Follows (behind trailing (frame :: frames)) := by
  refine follows_blanks _ ?_
  cases nonempty : frame.rest with
  | nil => exact ⟨closeBrace, _, rfl, by decide, by decide⟩
  | cons => exact ⟨comma, _, rfl, by decide, by decide⟩

/-- The scan sees the members of an object, then what stands behind it. -/
theorem allEntries_members {trailing : Blanks} (frames : List Frame) :
    (members : Members) → members.EachValue Readable → ∀ {text : List UInt8}, NoMark text →
      allEntries (text ++ (members.text ++ closeBrace :: behind trailing frames)) =
        (Members.sightings trailing frames members).map (Sighting.entry trailing) ++
          allEntries (closeBrace :: behind trailing frames)
  | .nil, _, text, clean => allEntries_skip _ (clean.not_mem (.inl rfl))
  | .cons before name beforeColon afterColon value after rest, readable, text, clean => by
      have whole : text ++ ((Members.cons before name beforeColon afterColon value after rest).text ++
          closeBrace :: behind trailing frames) = (text ++ before.text) ++
            quote :: nameCursor name beforeColon afterColon value
              (behind trailing ({ after := after, rest := rest } :: frames)) := by
        simp [Members.text, nameCursor, Str.text, behind]
      have first := jsonGetNextObject_member name beforeColon afterColon readable.1
        (@follows_behind trailing { after := after, rest := rest } frames)
      have next : unscanned value ++ behind trailing ({ after := after, rest := rest } :: frames) =
          (unscanned value ++ after.text ++ rest.separator) ++
            (rest.text ++ closeBrace :: behind trailing frames) := by
        simp [behind]
      have between : NoMark (unscanned value ++ after.text ++ rest.separator) :=
        ((noMark_unscanned value).append (noMark_blanks after)).append (noMark_separator rest)
      rw [whole, allEntries_skip _ ((clean.append (noMark_blanks before)).not_mem (.inl rfl)),
        allEntries_step first, next,
        allEntries_members frames rest readable.2 between]
      rfl

/-- The scan does not stop at the end of an object: it goes on with the members
that follow in the enclosing objects. -/
theorem allEntries_behind {trailing : Blanks} : (frames : List Frame) →
    (∀ frame ∈ frames, frame.AllStr Plain) →
      allEntries (closeBrace :: behind trailing frames) =
        (followers trailing frames).map (Sighting.entry trailing)
  | [], _ => by
      have absent : quote ∉ closeBrace :: trailing.text := by
        intro member
        rcases List.mem_cons.mp member with isBrace | inBlanks
        · exact absurd isBrace (by decide)
        · exact noMark_blanks trailing quote inBlanks (.inl rfl)
      exact allEntries_end (jsonGetNextObject_noQuote absent)
  | frame :: frames, plain => by
      have separated : NoMark (frame.after.text ++ frame.rest.separator) :=
        (noMark_blanks _).append (noMark_separator _)
      have brace : allEntries (closeBrace :: behind trailing (frame :: frames)) =
          allEntries (behind trailing (frame :: frames)) :=
        @allEntries_skip [closeBrace] _ (by decide)
      rw [brace, behind, ← List.append_assoc,
        allEntries_members frames frame.rest (readable_members (plain frame List.mem_cons_self)) separated,
        allEntries_behind frames fun other member => plain other (List.mem_cons_of_mem _ member),
        followers, List.map_append]

end UIoT.Utils
