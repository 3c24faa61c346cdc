import UIoT.Lib.Json

/-!
# Reading a JSON document

`Data` is what a document says, without its blanks. `read` takes a text apart,
and finds in the text of every document what the document says (`read_text`).
So a text is that of at most one content (`data_unique`), and a text that is not
read is no document's.
-/

set_option autoImplicit false

namespace UIoT.Json

/-! ## What a document says -/

inductive Data where
  | string (str : Str)
  | number (number : Number)
  | true
  | false
  | null
  | array (elements : List Data)
  | object (members : List (Str × Data))

mutual

def Value.data : Value → Data
  | .string str => .string str
  | .number number => .number number
  | .true => .true
  | .false => .false
  | .null => .null
  | .array _ elements => .array elements.data
  | .object _ members => .object members.data

def Elements.data : Elements → List Data
  | .nil => []
  | .cons _ value _ rest => value.data :: rest.data

def Members.data : Members → List (Str × Data)
  | .nil => []
  | .cons _ name _ _ value _ rest => (name, value.data) :: rest.data

end

/-- The first member of an object with a name. -/
def Data.member (name : List UInt8) : Data → Option Data
  | .object members => (members.find? fun member => member.1.bytes = name).map Prod.snd
  | _ => none

/-! ## The reader -/

def isBlank (byte : UInt8) : Bool := byte = 0x20 || byte = 0x09 || byte = 0x0A || byte = 0x0D

def dropBlanks (text : List UInt8) : List UInt8 := text.dropWhile isBlank

/-- The string behind an opening quote. -/
def readStr (text : List UInt8) : Option (Str × List UInt8) :=
  let bytes := text.takeWhile (· ≠ quote)
  if checked : bytes.all fun byte => decide (Unescaped byte) then
    match text.drop bytes.length with
    | [] => none
    | _ :: rest => some (.ofBytes bytes checked, rest)
  else none

def isDigitByte (byte : UInt8) : Bool := 0x30 ≤ byte && byte ≤ 0x39

def digitOf (byte : UInt8) : Digit := Fin.ofNat 10 (byte.toNat - 0x30)

/-- The digits at the start of a text. -/
def readDigits (text : List UInt8) : List Digit × List UInt8 :=
  ((text.takeWhile isDigitByte).map digitOf, text.dropWhile isDigitByte)

def readFraction : List UInt8 → Option (Option (Digit × List Digit) × List UInt8)
  | [] => some (none, [])
  | byte :: rest =>
      if byte = point then
        match readDigits rest with
        | ([], _) => none
        | (first :: more, rest) => some (some (first, more), rest)
      else some (none, byte :: rest)

def readSign : List UInt8 → ExponentSign × List UInt8
  | [] => (.none, [])
  | byte :: rest =>
      if byte = 0x2B then (.plus, rest)
      else if byte = minus then (.minus, rest)
      else (.none, byte :: rest)

def readExponent : List UInt8 → Option (Option Exponent × List UInt8)
  | [] => some (none, [])
  | byte :: rest =>
      if byte = 0x45 ∨ byte = 0x65 then
        let (sign, rest) := readSign rest
        match readDigits rest with
        | ([], _) => none
        | (first :: more, rest) =>
            some (some { upper := byte = 0x45, sign := sign, first := first, more := more }, rest)
      else some (none, byte :: rest)

/-- The minus at the start of a text, and what follows. -/
def readMinus : List UInt8 → Bool × List UInt8
  | [] => (false, [])
  | byte :: rest => if byte = minus then (true, rest) else (false, byte :: rest)

def readNumber (text : List UInt8) : Option (Number × List UInt8) :=
  let (negative, text) := readMinus text
  match readDigits text with
  | ([], _) => none
  | (first :: more, text) =>
      (readFraction text).bind fun (fraction, text) =>
        (readExponent text).map fun (exponent, text) =>
          ({ negative := negative
             first := first
             more := more
             fraction := fraction
             exponent := exponent }, text)

mutual

/-- The value at the start of a text; `turns` bounds the recursion. -/
def readValue : Nat → List UInt8 → Option (Data × List UInt8)
  | 0, _ => none
  | _, [] => none
  | turns + 1, byte :: rest =>
      if byte = quote then (readStr rest).map fun (str, rest) => (.string str, rest)
      else if byte = openBracket then
        match dropBlanks rest with
        | [] => none
        | byte :: rest =>
            if byte = closeBracket then some (.array [], rest)
            else (readElements turns (byte :: rest)).map fun (elements, rest) =>
              (.array elements, rest)
      else if byte = openBrace then
        match dropBlanks rest with
        | [] => none
        | byte :: rest =>
            if byte = closeBrace then some (.object [], rest)
            else (readMembers turns (byte :: rest)).map fun (members, rest) =>
              (.object members, rest)
      else if trueText.isPrefixOf (byte :: rest) then some (.true, (byte :: rest).drop 4)
      else if falseText.isPrefixOf (byte :: rest) then some (.false, (byte :: rest).drop 5)
      else if nullText.isPrefixOf (byte :: rest) then some (.null, (byte :: rest).drop 4)
      else (readNumber (byte :: rest)).map fun (number, rest) => (.number number, rest)

/-- The elements up to the closing bracket. -/
def readElements : Nat → List UInt8 → Option (List Data × List UInt8)
  | 0, _ => none
  | turns + 1, text =>
      (readValue turns text).bind fun (data, rest) =>
        match dropBlanks rest with
        | [] => none
        | byte :: rest =>
            if byte = comma then
              (readElements turns (dropBlanks rest)).map fun (elements, rest) =>
                (data :: elements, rest)
            else if byte = closeBracket then some ([data], rest)
            else none

/-- The members up to the closing brace. -/
def readMembers : Nat → List UInt8 → Option (List (Str × Data) × List UInt8)
  | 0, _ => none
  | _, [] => none
  | turns + 1, byte :: rest =>
      if byte ≠ quote then none
      else
        (readStr rest).bind fun (name, rest) =>
          match dropBlanks rest with
          | [] => none
          | byte :: rest =>
              if byte ≠ colon then none
              else
                (readValue turns (dropBlanks rest)).bind fun (data, rest) =>
                  match dropBlanks rest with
                  | [] => none
                  | byte :: rest =>
                      if byte = comma then
                        (readMembers turns (dropBlanks rest)).map fun (members, rest) =>
                          ((name, data) :: members, rest)
                      else if byte = closeBrace then some ([(name, data)], rest)
                      else none

end

/-- What a text says if it is a document's. -/
def read (text : List UInt8) : Option Data :=
  match readValue (2 * text.length) (dropBlanks text) with
  | some (data, rest) => if dropBlanks rest = [] then some data else none
  | none => none

/-! ## Tokens are read back -/

theorem isBlank_byte (blank : Blank) : isBlank blank.byte = true := by
  cases blank <;> decide

theorem dropBlanks_text (blanks : Blanks) (text : List UInt8) :
    dropBlanks (blanks.text ++ text) = dropBlanks text := by
  induction blanks with
  | nil => rfl
  | cons blank blanks ih =>
      rw [← ih]
      exact List.dropWhile_cons_of_pos (isBlank_byte blank)

theorem dropBlanks_cons {byte : UInt8} (text : List UInt8) (notBlank : isBlank byte = false) :
    dropBlanks (byte :: text) = byte :: text :=
  List.dropWhile_cons_of_neg (by rw [notBlank]; exact Bool.false_ne_true)

theorem dropBlanks_only (blanks : Blanks) : dropBlanks blanks.text = [] := by
  have only := dropBlanks_text blanks []
  rwa [List.append_nil] at only

theorem takeWhile_stop {α : Type} (keep : α → Bool) (front back : List α)
    (kept : ∀ a ∈ front, keep a = true) (stop : ∀ a ∈ back.head?, keep a = false) :
    (front ++ back).takeWhile keep = front ∧ (front ++ back).dropWhile keep = back := by
  rw [List.takeWhile_append_of_pos kept, List.dropWhile_append_of_pos kept]
  cases back with
  | nil => exact ⟨List.append_nil _, rfl⟩
  | cons a back =>
      have notKept : ¬keep a = true := by
        rw [stop a rfl]
        exact Bool.false_ne_true
      rw [List.takeWhile_cons_of_neg notKept, List.dropWhile_cons_of_neg notKept, List.append_nil]
      exact ⟨rfl, rfl⟩

theorem readStr_text (str : Str) (rest : List UInt8) :
    readStr (str.bytes ++ quote :: rest) = some (str, rest) := by
  obtain ⟨taken, _⟩ := takeWhile_stop (· ≠ quote) str.bytes (quote :: rest)
    (fun byte member => decide_eq_true (str.unescaped byte member).2.1)
    (fun byte first => by cases first; rfl)
  have checked : str.bytes.all (fun byte => decide (Unescaped byte)) = true :=
    List.all_eq_true.mpr fun byte member => decide_eq_true (str.unescaped byte member)
  simp only [readStr, taken]
  rw [dif_pos checked, List.drop_left]
  rfl

theorem isDigitByte_digitByte (digit : Digit) : isDigitByte (digitByte digit) = true := by
  revert digit
  decide

theorem digitOf_digitByte (digit : Digit) : digitOf (digitByte digit) = digit := by
  revert digit
  decide

theorem readDigits_text (digits : List Digit) (rest : List UInt8)
    (stop : ∀ byte ∈ rest.head?, isDigitByte byte = false) :
    readDigits (digits.map digitByte ++ rest) = (digits, rest) := by
  have all : ∀ byte ∈ digits.map digitByte, isDigitByte byte = true := by
    intro byte member
    obtain ⟨digit, _, rfl⟩ := List.mem_map.mp member
    exact isDigitByte_digitByte digit
  obtain ⟨taken, dropped⟩ := takeWhile_stop isDigitByte _ rest all stop
  rw [readDigits, taken, dropped, List.map_map]
  congr 1
  calc digits.map (digitOf ∘ digitByte) = digits.map id :=
        List.map_congr_left fun digit _ => digitOf_digitByte digit
    _ = digits := List.map_id digits

/-! ## Numbers are read back -/

/-- A byte that ends a number: it continues neither digits nor a fraction nor an
exponent. -/
def endsNumber (byte : UInt8) : Bool :=
  !isDigitByte byte && byte ≠ point && byte ≠ 0x45 && byte ≠ 0x65

/-- The text, if there is any, starts with a byte that ends a number. -/
def Ends (text : List UInt8) : Prop := ∀ byte ∈ text.head?, endsNumber byte = true

theorem ends_cons {byte : UInt8} (text : List UInt8) (ends : endsNumber byte = true) :
    Ends (byte :: text) := by
  intro first isFirst
  cases isFirst
  exact ends

theorem ends_blanks (blanks : Blanks) {text : List UInt8} (ends : Ends text) :
    Ends (blanks.text ++ text) := by
  cases blanks with
  | nil => exact ends
  | cons blank blanks =>
      apply ends_cons
      cases blank <;> decide

theorem Ends.notDigit {text : List UInt8} (ends : Ends text) :
    ∀ byte ∈ text.head?, isDigitByte byte = false := by
  intro byte first
  have parts := ends byte first
  simp only [endsNumber, Bool.and_eq_true, Bool.not_eq_true'] at parts
  exact parts.1.1.1

theorem readExponent_text (exponent : Option Exponent) {rest : List UInt8} (ends : Ends rest) :
    readExponent (exponentText exponent ++ rest) = some (exponent, rest) := by
  cases exponent with
  | none =>
      cases rest with
      | nil => rfl
      | cons byte rest =>
          have parts := ends byte rfl
          simp only [endsNumber, Bool.and_eq_true, decide_eq_true_eq] at parts
          have other : ¬(byte = 0x45 ∨ byte = 0x65) := by
            rintro (upper | lower)
            · exact parts.1.2 upper
            · exact parts.2 lower
          exact if_neg other
  | some exponent =>
      have sign : readSign (exponent.sign.text ++ digitByte exponent.first ::
          (exponent.more.map digitByte ++ rest)) =
            (exponent.sign, digitByte exponent.first :: (exponent.more.map digitByte ++ rest)) := by
        cases exponent.sign with
        | none =>
            have digit := isDigitByte_digitByte exponent.first
            have notPlus : ¬digitByte exponent.first = 0x2B := by
              intro plus
              rw [plus] at digit
              cases digit
            have notMinus : ¬digitByte exponent.first = minus := by
              intro isMinus
              rw [isMinus] at digit
              cases digit
            simp only [ExponentSign.text, List.nil_append, readSign, if_neg notPlus,
              if_neg notMinus]
        | plus => rfl
        | minus => rfl
      have letter : (if exponent.upper then 0x45 else 0x65 : UInt8) = 0x45 ∨
          (if exponent.upper then 0x45 else 0x65 : UInt8) = 0x65 := by
        cases exponent.upper
        · exact .inr rfl
        · exact .inl rfl
      have case : decide ((if exponent.upper then 0x45 else 0x65 : UInt8) = 0x45) =
          exponent.upper := by
        cases exponent.upper <;> rfl
      have digits := readDigits_text (exponent.first :: exponent.more) rest ends.notDigit
      rw [List.map_cons, List.cons_append] at digits
      simp only [exponentText, Exponent.text, List.cons_append, List.append_assoc, readExponent,
        if_pos letter, sign, digits, case]

/-- An exponent, or what ends the number, ends the digits in front of it. -/
theorem exponentText_notDigit (exponent : Option Exponent) {rest : List UInt8} (ends : Ends rest) :
    ∀ byte ∈ (exponentText exponent ++ rest).head?, isDigitByte byte = false ∧ byte ≠ point := by
  intro byte first
  cases exponent with
  | none =>
      have parts := ends byte first
      simp only [endsNumber, Bool.and_eq_true, Bool.not_eq_true', decide_eq_true_eq] at parts
      exact parts.1.1
  | some exponent =>
      rw [exponentText, Exponent.text, List.cons_append, List.cons_append] at first
      cases first
      cases exponent.upper <;> decide

theorem readFraction_text (fraction : Option (Digit × List Digit)) {rest : List UInt8}
    (stop : ∀ byte ∈ rest.head?, isDigitByte byte = false ∧ byte ≠ point) :
    readFraction (fractionText fraction ++ rest) = some (fraction, rest) := by
  cases fraction with
  | none =>
      cases rest with
      | nil => rfl
      | cons byte rest => exact if_neg (stop byte rfl).2
  | some fraction =>
      obtain ⟨first, more⟩ := fraction
      have digits := readDigits_text (first :: more) rest fun byte isFirst => (stop byte isFirst).1
      rw [List.map_cons, List.cons_append] at digits
      simp only [fractionText, List.cons_append, readFraction, if_true, digits]

theorem readMinus_text (negative : Bool) (digit : Digit) (rest : List UInt8) :
    readMinus ((if negative then [minus] else []) ++ digitByte digit :: rest) =
      (negative, digitByte digit :: rest) := by
  cases negative with
  | true => rfl
  | false =>
      have notMinus : ¬digitByte digit = minus := by
        intro isMinus
        have isDigit := isDigitByte_digitByte digit
        rw [isMinus] at isDigit
        cases isDigit
      exact if_neg notMinus

theorem readNumber_text (number : Number) {rest : List UInt8} (ends : Ends rest) :
    readNumber (number.text ++ rest) = some (number, rest) := by
  have afterDigits : ∀ byte ∈ (fractionText number.fraction ++
      (exponentText number.exponent ++ rest)).head?, isDigitByte byte = false := by
    intro byte first
    cases fraction : number.fraction with
    | none =>
        rw [fraction] at first
        exact (exponentText_notDigit number.exponent ends byte first).1
    | some digits =>
        rw [fraction] at first
        cases first
        rfl
  have digits := readDigits_text (number.first :: number.more) _ afterDigits
  rw [List.map_cons, List.cons_append] at digits
  have fraction := readFraction_text number.fraction (exponentText_notDigit number.exponent ends)
  simp only [Number.text, Number.mantissa, List.append_assoc, List.cons_append, readNumber,
    readMinus_text, digits, fraction, Option.bind_some, readExponent_text number.exponent ends,
    Option.map_some]

/-! ## Values are read back -/

/-- A number starts with a digit or a minus, which no other value starts with. -/
theorem readValue_number (turns : Nat) {byte : UInt8} (text : List UInt8)
    (starts : byte = minus ∨ isDigitByte byte = true) :
    readValue (turns + 1) (byte :: text) =
      (readNumber (byte :: text)).map fun (number, rest) => (.number number, rest) := by
  have other : ∀ head, head ≠ minus → isDigitByte head = false → byte ≠ head := by
    rintro head notMinus notDigit rfl
    rcases starts with isMinus | isDigit
    · exact notMinus isMinus
    · rw [notDigit] at isDigit
      cases isDigit
  have notPrefix : ∀ head tail, byte ≠ head → List.isPrefixOf (head :: tail) (byte :: text) = false := by
    intro head tail different
    rw [List.isPrefixOf, beq_eq_false_iff_ne.mpr different.symm, Bool.false_and]
  have notTrue := notPrefix 0x74 [0x72, 0x75, 0x65] (other _ (by decide) (by decide))
  have notFalse := notPrefix 0x66 [0x61, 0x6C, 0x73, 0x65] (other _ (by decide) (by decide))
  have notNull := notPrefix 0x6E [0x75, 0x6C, 0x6C] (other _ (by decide) (by decide))
  rw [readValue, if_neg (other quote (by decide) (by decide)),
    if_neg (other openBracket (by decide) (by decide)),
    if_neg (other openBrace (by decide) (by decide)), trueText, falseText, nullText, notTrue, notFalse,
    notNull]
  simp only [Bool.false_eq_true, if_false]

theorem Number.text_head (number : Number) :
    ∃ byte text, number.text = byte :: text ∧ (byte = minus ∨ isDigitByte byte = true) := by
  cases negative : number.negative with
  | true =>
      rw [Number.text, Number.mantissa, negative]
      exact ⟨minus, _, rfl, .inl rfl⟩
  | false =>
      rw [Number.text, Number.mantissa, negative]
      exact ⟨digitByte number.first, _, rfl, .inr (isDigitByte_digitByte _)⟩

/-- A value starts with a byte that is neither a blank nor a closing bracket. -/
theorem Value.text_head (value : Value) :
    ∃ byte text, value.text = byte :: text ∧ isBlank byte = Bool.false ∧ byte ≠ closeBracket := by
  cases value with
  | string str => exact ⟨quote, _, rfl, rfl, by decide⟩
  | number number =>
      obtain ⟨byte, text, same, starts⟩ := number.text_head
      refine ⟨byte, text, same, ?_⟩
      rcases starts with rfl | digit
      · decide
      · constructor
        · cases blank : isBlank byte with
          | false => rfl
          | true =>
              simp only [isBlank, Bool.or_eq_true, decide_eq_true_eq] at blank
              rcases blank with ((rfl | rfl) | rfl) | rfl <;> cases digit
        · rintro rfl
          cases digit
  | true => exact ⟨_, _, rfl, rfl, by decide⟩
  | false => exact ⟨_, _, rfl, rfl, by decide⟩
  | null => exact ⟨_, _, rfl, rfl, by decide⟩
  | array => exact ⟨_, _, rfl, rfl, by decide⟩
  | object => exact ⟨_, _, rfl, rfl, by decide⟩

theorem Value.text_pos (value : Value) : 0 < value.text.length := by
  obtain ⟨byte, text, same, _⟩ := value.text_head
  rw [same]
  exact Nat.succ_pos _

theorem dropBlanks_value (value : Value) (rest : List UInt8) :
    dropBlanks (value.text ++ rest) = value.text ++ rest := by
  obtain ⟨byte, text, same, notBlank, _⟩ := value.text_head
  rw [same, List.cons_append]
  exact dropBlanks_cons _ notBlank

/-- What follows the last item, or the one before the next, ends a number. -/
theorem ends_separator (after : Blanks) {byte : UInt8} (text : List UInt8)
    (separates : endsNumber byte = true) : Ends (after.text ++ byte :: text) :=
  ends_blanks after (ends_cons text separates)

mutual

theorem readValue_text : (value : Value) → (turns : Nat) → (rest : List UInt8) → Ends rest →
    2 * value.text.length ≤ turns → readValue turns (value.text ++ rest) = some (value.data, rest)
  | value, 0, _, _, enough => absurd value.text_pos (by omega)
  | .string str, turns + 1, rest, _, _ => by
      rw [Value.text, Str.text, List.cons_append, List.cons_append, List.append_assoc,
        List.singleton_append, readValue, if_pos rfl, readStr_text]
      rfl
  | .number number, turns + 1, rest, ends, _ => by
      obtain ⟨byte, text, same, starts⟩ := number.text_head
      have numberRead := readNumber_text number ends
      rw [same, List.cons_append] at numberRead
      rw [Value.text, same, List.cons_append, readValue_number turns _ starts, numberRead]
      rfl
  | .true, turns + 1, rest, _, _ => rfl
  | .false, turns + 1, rest, _, _ => rfl
  | .null, turns + 1, rest, _, _ => rfl
  | .array blanks .nil, turns + 1, rest, _, _ => by
      have inside : dropBlanks (blanks.text ++ closeBracket :: rest) = closeBracket :: rest :=
        (dropBlanks_text blanks _).trans (dropBlanks_cons _ rfl)
      have other : openBracket ≠ quote := by decide
      simp only [Value.text, Elements.text, List.append_nil, List.cons_append, List.append_assoc,
        List.nil_append, readValue, if_neg other, if_true, inside]
      rfl
  | .array blanks (.cons before value after more), turns + 1, rest, _, enough => by
      rw [Value.text, List.length_append, List.length_cons, List.length_append] at enough
      have elements := readElements_text before value after more turns rest (by
        rw [List.length_cons, List.length_nil] at enough
        omega)
      obtain ⟨byte, text, same, notBlank, notClosed⟩ := value.text_head
      have inside : dropBlanks (blanks.text ++ ((Elements.cons before value after more).text ++
          closeBracket :: rest)) = byte :: (text ++ (after.text ++ (more.separator ++ (more.text ++
            closeBracket :: rest)))) := by
        simp only [Elements.text, List.append_assoc]
        rw [dropBlanks_text, dropBlanks_text, same, List.cons_append]
        exact dropBlanks_cons _ notBlank
      have whole : value.text ++ (after.text ++ (more.separator ++ (more.text ++
          closeBracket :: rest))) = byte :: (text ++ (after.text ++ (more.separator ++ (more.text ++
            closeBracket :: rest)))) := by
        rw [same, List.cons_append]
      rw [whole] at elements
      have other : openBracket ≠ quote := by decide
      rw [Value.text, List.append_assoc, List.cons_append, List.cons_append, List.append_assoc,
        readValue, if_neg other, if_pos rfl, List.singleton_append, inside]
      simp only [if_neg notClosed, elements]
      rfl
  | .object blanks .nil, turns + 1, rest, _, _ => by
      have inside : dropBlanks (blanks.text ++ closeBrace :: rest) = closeBrace :: rest :=
        (dropBlanks_text blanks _).trans (dropBlanks_cons _ rfl)
      have other : openBrace ≠ quote := by decide
      have notBracket : openBrace ≠ openBracket := by decide
      simp only [Value.text, Members.text, List.append_nil, List.cons_append, List.append_assoc,
        List.nil_append, readValue, if_neg other, if_neg notBracket, if_true, inside]
      rfl
  | .object blanks (.cons before name beforeColon afterColon value after more), turns + 1, rest, _,
      enough => by
      rw [Value.text, List.length_append, List.length_cons, List.length_append] at enough
      have members := readMembers_text before name beforeColon afterColon value after more turns rest
        (by rw [List.length_cons, List.length_nil] at enough; omega)
      have inside : dropBlanks (blanks.text ++ ((Members.cons before name beforeColon afterColon value
          after more).text ++ closeBrace :: rest)) = quote :: (name.bytes ++ quote ::
            (beforeColon.text ++ colon :: (afterColon.text ++ (value.text ++ (after.text ++
              (more.separator ++ (more.text ++ closeBrace :: rest))))))) := by
        simp only [Members.text, Str.text, List.append_assoc, List.cons_append, List.nil_append]
        rw [dropBlanks_text, dropBlanks_text]
        exact dropBlanks_cons _ rfl
      have other : openBrace ≠ quote := by decide
      have notBracket : openBrace ≠ openBracket := by decide
      have notClosed : quote ≠ closeBrace := by decide
      rw [Value.text, List.append_assoc, List.cons_append, List.cons_append, List.append_assoc,
        readValue, if_neg other, if_neg notBracket, if_pos rfl,
        List.singleton_append, inside]
      simp only [if_neg notClosed, members]
      rfl

theorem readElements_text : (before : Blanks) → (value : Value) → (after : Blanks) →
    (more : Elements) → (turns : Nat) → (rest : List UInt8) →
    2 * (Elements.cons before value after more).text.length + 1 ≤ turns →
    readElements turns (value.text ++ (after.text ++ (more.separator ++ (more.text ++
      closeBracket :: rest)))) = some ((Elements.cons before value after more).data, rest)
  | _, _, _, _, 0, _, enough => absurd enough (Nat.not_succ_le_zero _)
  | _, value, after, .nil, turns + 1, rest, enough => by
      simp only [Elements.text, List.length_append] at enough
      have first := readValue_text value turns (after.text ++ closeBracket :: rest)
        (ends_separator after rest rfl) (by omega)
      have behind : dropBlanks (after.text ++ closeBracket :: rest) = closeBracket :: rest :=
        (dropBlanks_text after _).trans (dropBlanks_cons _ rfl)
      have other : closeBracket ≠ comma := by decide
      simp only [Elements.separator, Elements.text, List.nil_append, readElements, first,
        Option.bind_some, behind, if_neg other, if_true]
      rfl
  | before, value, after, .cons beforeNext next afterNext more, turns + 1, rest, enough => by
      rw [Elements.text] at enough
      simp only [Elements.separator, List.length_append, List.length_singleton] at enough
      have first := readValue_text value turns (after.text ++ comma ::
        ((Elements.cons beforeNext next afterNext more).text ++ closeBracket :: rest))
        (ends_separator after _ rfl) (by omega)
      have others := readElements_text beforeNext next afterNext more turns rest (by omega)
      have behind : dropBlanks (after.text ++ comma ::
          ((Elements.cons beforeNext next afterNext more).text ++ closeBracket :: rest)) =
          comma :: ((Elements.cons beforeNext next afterNext more).text ++ closeBracket :: rest) :=
        (dropBlanks_text after _).trans (dropBlanks_cons _ rfl)
      have start : dropBlanks ((Elements.cons beforeNext next afterNext more).text ++
          closeBracket :: rest) = next.text ++ (afterNext.text ++ (more.separator ++ (more.text ++
            closeBracket :: rest))) := by
        simp only [Elements.text, List.append_assoc]
        rw [dropBlanks_text]
        exact dropBlanks_value next _
      rw [Elements.separator, List.singleton_append, readElements, first]
      simp only [Option.bind_some, behind, if_true, start, others]
      rfl

theorem readMembers_text : (before : Blanks) → (name : Str) → (beforeColon afterColon : Blanks) →
    (value : Value) → (after : Blanks) → (more : Members) → (turns : Nat) → (rest : List UInt8) →
    2 * (Members.cons before name beforeColon afterColon value after more).text.length + 1 ≤ turns →
    readMembers turns (quote :: (name.bytes ++ quote :: (beforeColon.text ++ colon ::
      (afterColon.text ++ (value.text ++ (after.text ++ (more.separator ++ (more.text ++
        closeBrace :: rest)))))))) =
      some ((Members.cons before name beforeColon afterColon value after more).data, rest)
  | _, _, _, _, _, _, _, 0, _, enough => absurd enough (Nat.not_succ_le_zero _)
  | _, name, beforeColon, afterColon, value, after, .nil, turns + 1, rest, enough => by
      simp only [Members.text, List.length_append, List.length_cons] at enough
      have first := readValue_text value turns (after.text ++ closeBrace :: rest)
        (ends_separator after rest rfl) (by omega)
      have atColon : ∀ text, dropBlanks (beforeColon.text ++ colon :: text) = colon :: text :=
        fun text => (dropBlanks_text beforeColon _).trans (dropBlanks_cons _ rfl)
      have atValue : ∀ text, dropBlanks (afterColon.text ++ (value.text ++ text)) =
          value.text ++ text :=
        fun text => (dropBlanks_text afterColon _).trans (dropBlanks_value value _)
      have behind : dropBlanks (after.text ++ closeBrace :: rest) = closeBrace :: rest :=
        (dropBlanks_text after _).trans (dropBlanks_cons _ rfl)
      have other : closeBrace ≠ comma := by decide
      simp only [Members.separator, Members.text, List.nil_append, readMembers, ne_eq,
        not_true_eq_false, if_false, readStr_text, Option.bind_some, atColon, atValue, first, behind,
        if_neg other, if_true]
      rfl
  | before, name, beforeColon, afterColon, value, after,
      .cons beforeNext nameNext beforeColonNext afterColonNext next afterNext more, turns + 1, rest,
      enough => by
      rw [Members.text] at enough
      simp only [Members.separator, List.length_append, List.length_cons] at enough
      have first := readValue_text value turns (after.text ++ comma ::
        ((Members.cons beforeNext nameNext beforeColonNext afterColonNext next afterNext more).text ++
          closeBrace :: rest))
        (ends_separator after _ rfl) (by omega)
      have others := readMembers_text beforeNext nameNext beforeColonNext afterColonNext next afterNext
        more turns rest (by omega)
      have atColon : ∀ text, dropBlanks (beforeColon.text ++ colon :: text) = colon :: text :=
        fun text => (dropBlanks_text beforeColon _).trans (dropBlanks_cons _ rfl)
      have atValue : ∀ text, dropBlanks (afterColon.text ++ (value.text ++ text)) =
          value.text ++ text :=
        fun text => (dropBlanks_text afterColon _).trans (dropBlanks_value value _)
      have behind : dropBlanks (after.text ++ comma :: ((Members.cons beforeNext nameNext
          beforeColonNext afterColonNext next afterNext more).text ++ closeBrace :: rest)) =
          comma :: ((Members.cons beforeNext nameNext beforeColonNext afterColonNext next afterNext
            more).text ++ closeBrace :: rest) :=
        (dropBlanks_text after _).trans (dropBlanks_cons _ rfl)
      have start : dropBlanks ((Members.cons beforeNext nameNext beforeColonNext afterColonNext next
          afterNext more).text ++ closeBrace :: rest) = quote :: (nameNext.bytes ++ quote ::
            (beforeColonNext.text ++ colon :: (afterColonNext.text ++ (next.text ++ (afterNext.text ++
              (more.separator ++ (more.text ++ closeBrace :: rest))))))) := by
        simp only [Members.text, Str.text, List.append_assoc, List.cons_append, List.nil_append]
        rw [dropBlanks_text]
        exact dropBlanks_cons _ rfl
      rw [Members.separator, List.singleton_append, readMembers, if_neg (not_not.mpr rfl),
        readStr_text, Option.bind_some]
      simp only [atColon, ne_eq, not_true_eq_false, if_false, atValue, first, Option.bind_some, behind,
        if_true, start, others]
      rfl

end

/-- The text of a document says what the document says. -/
theorem read_text (document : Document) : read document.text = some document.root.data := by
  have start : dropBlanks document.text = document.root.text ++ document.trailing.text := by
    rw [Document.text, dropBlanks_text]
    exact dropBlanks_value _ _
  have ends : Ends document.trailing.text := by
    rw [← List.append_nil document.trailing.text]
    exact ends_blanks _ fun byte first => nomatch first
  have enough : 2 * document.root.text.length ≤ 2 * document.text.length := by
    rw [Document.text, List.length_append, List.length_append]
    omega
  rw [read, start, readValue_text document.root _ _ ends enough]
  simp only [dropBlanks_only, if_true]

/-- A text says at most one thing. -/
theorem data_unique {first second : Document} (same : first.text = second.text) :
    first.root.data = second.root.data := by
  have read := read_text first
  rw [same, read_text second] at read
  exact (Option.some.inj read).symm

end UIoT.Json
