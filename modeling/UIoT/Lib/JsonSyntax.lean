import UIoT.Lib.Json

/-!
# JSON texts with escape sequences

The grammar of `Json`, with strings as they are written in a JSON text: bytes
as they are, a backslash and a letter, or a backslash, a `u` and four
hexadecimal digits. Trees keep every blank, so `Value.text` gives every text of
a value.

A text is balanced in a pair of brackets when no closing bracket comes before
its opening one and none is left open. Brackets that a string holds count as
well: balance is a property of the bytes, not of the tree.
-/

set_option autoImplicit false

namespace UIoT.JsonSyntax

open Json

/-! ## Strings -/

structure HexDigit where
  byte : UInt8
  isHex : (0x30 ≤ byte ∧ byte ≤ 0x39) ∨ (0x41 ≤ byte ∧ byte ≤ 0x46) ∨ (0x61 ≤ byte ∧ byte ≤ 0x66)

/-- What a backslash may stand in front of. -/
inductive Letter where
  | quote
  | backslash
  | slash
  | backspace
  | formFeed
  | newline
  | carriageReturn
  | tab
  deriving DecidableEq, Repr

def Letter.byte : Letter → UInt8
  | .quote => Json.quote
  | .backslash => Json.backslash
  | .slash => 0x2F
  | .backspace => 0x62
  | .formFeed => 0x66
  | .newline => 0x6E
  | .carriageReturn => 0x72
  | .tab => 0x74

/-- A character of a string as it is written. -/
inductive Symbol where
  | plain (byte : UInt8) (unescaped : Unescaped byte)
  | escaped (letter : Letter)
  | unicode (first second third fourth : HexDigit)

def Symbol.bytes : Symbol → List UInt8
  | .plain byte _ => [byte]
  | .escaped letter => [backslash, letter.byte]
  | .unicode first second third fourth =>
      [backslash, 0x75, first.byte, second.byte, third.byte, fourth.byte]

/-- The contents of a string. -/
abbrev Str := List Symbol

def Str.bytes (str : Str) : List UInt8 := str.flatMap Symbol.bytes

def Str.text (str : Str) : List UInt8 := quote :: (str.bytes ++ [quote])

/-- A string of bytes that need no escape. -/
def Str.ofBytes (bytes : List UInt8) (checked : ∀ byte ∈ bytes, Unescaped byte) : Str :=
  bytes.attach.map fun byte => .plain byte.1 (checked byte.1 byte.2)

theorem HexDigit.ne_quote (digit : HexDigit) : digit.byte ≠ Json.quote := by
  intro same
  have isHex := digit.isHex
  rw [same] at isHex
  revert isHex
  decide

theorem Symbol.quote_mem_iff (symbol : Symbol) :
    Json.quote ∈ symbol.bytes ↔ symbol = .escaped .quote := by
  cases symbol with
  | plain byte unescaped => simpa [bytes] using unescaped.2.1.symm
  | escaped letter => cases letter <;> simp [bytes, Letter.byte] <;> decide
  | unicode first second third fourth =>
      have notEscape : Json.quote ≠ backslash ∧ Json.quote ≠ 0x75 := by decide
      simp [bytes, notEscape, first.ne_quote.symm, second.ne_quote.symm, third.ne_quote.symm,
        fourth.ne_quote.symm]

/-- A quote in the text of a string is an escaped one. -/
theorem Str.quote_not_mem_iff (str : Str) :
    Json.quote ∉ str.bytes ↔ Symbol.escaped .quote ∉ str := by
  rw [Str.bytes, List.mem_flatMap]
  simp only [Symbol.quote_mem_iff, exists_eq_right]

/-! ## Values -/

mutual

inductive Value where
  | string (str : Str)
  | number (number : Number)
  | true
  | false
  | null
  | array (blanks : Blanks) (elements : Elements)
  | object (blanks : Blanks) (members : Members)

@[inherit_doc Json.Elements]
inductive Elements where
  | nil
  | cons (before : Blanks) (value : Value) (after : Blanks) (rest : Elements)

@[inherit_doc Json.Members]
inductive Members where
  | nil
  | cons (before : Blanks) (name : Str) (beforeColon afterColon : Blanks) (value : Value)
      (after : Blanks) (rest : Members)

end

def Elements.separator : Elements → List UInt8
  | .nil => []
  | .cons .. => [comma]

def Members.separator : Members → List UInt8
  | .nil => []
  | .cons .. => [comma]

mutual

def Value.text : Value → List UInt8
  | .string str => str.text
  | .number number => number.text
  | .true => trueText
  | .false => falseText
  | .null => nullText
  | .array blanks elements => openBracket :: (blanks.text ++ elements.text ++ [closeBracket])
  | .object blanks members => openBrace :: (blanks.text ++ members.text ++ [closeBrace])

def Elements.text : Elements → List UInt8
  | .nil => []
  | .cons before value after rest =>
      before.text ++ (value.text ++ (after.text ++ (rest.separator ++ rest.text)))

def Members.text : Members → List UInt8
  | .nil => []
  | .cons before name beforeColon afterColon value after rest =>
      before.text ++ (quote :: (name.bytes ++ quote :: (beforeColon.text ++ colon ::
        (afterColon.text ++ (value.text ++ (after.text ++ (rest.separator ++ rest.text)))))))

end

/-! ## Balance -/

section

variable {α : Type} [DecidableEq α] {opening closing : α}

/-- With `depth` brackets open in front of a text, none is closed that is not
open, and none is open behind it. -/
structure BalancedFrom (opening closing : α) (depth : Nat) (text : List α) : Prop where
  opened : ∀ front, front <+: text → front.count closing ≤ depth + front.count opening
  closed : text.count closing = depth + text.count opening

/-- Every bracket that a text opens it closes, and no other. -/
abbrev Balanced (opening closing : α) (text : List α) : Prop := BalancedFrom opening closing 0 text

theorem balancedFrom_nil {depth : Nat} : BalancedFrom opening closing depth [] ↔ depth = 0 := by
  constructor
  · intro balanced
    have closed := balanced.closed
    simpa using closed.symm
  · rintro rfl
    refine ⟨fun front isPrefix => ?_, rfl⟩
    rw [List.prefix_nil.mp isPrefix]
    simp

/-- A text behind one byte, whatever it changes the depth by. -/
theorem balancedFrom_cons {depth depth' : Nat} {byte : α} {text : List α}
    (changes : depth + [byte].count opening = depth' + [byte].count closing) :
    BalancedFrom opening closing depth (byte :: text) ↔ BalancedFrom opening closing depth' text := by
  have count : ∀ (mark : α) (front : List α),
      (byte :: front).count mark = [byte].count mark + front.count mark := fun mark front =>
    @List.count_append _ _ _ [byte] front
  constructor
  · intro balanced
    refine ⟨fun front isPrefix => ?_, ?_⟩
    · have opened := balanced.opened (byte :: front) ((List.prefix_cons_inj byte).mpr isPrefix)
      rw [count opening, count closing] at opened
      omega
    · have closed := balanced.closed
      rw [count opening, count closing] at closed
      omega
  · intro balanced
    refine ⟨fun front isPrefix => ?_, ?_⟩
    · cases front with
      | nil => simp
      | cons head front =>
          obtain ⟨rfl, within⟩ := List.cons_prefix_cons.mp isPrefix
          have opened := balanced.opened front within
          rw [count opening, count closing]
          omega
    · rw [count opening, count closing]
      have closed := balanced.closed
      omega

theorem balancedFrom_opening {depth : Nat} {text : List α} (different : opening ≠ closing) :
    BalancedFrom opening closing depth (opening :: text) ↔
      BalancedFrom opening closing (depth + 1) text :=
  balancedFrom_cons (by simp [different])

theorem balancedFrom_closing {depth : Nat} {text : List α} (different : opening ≠ closing) :
    BalancedFrom opening closing (depth + 1) (closing :: text) ↔
      BalancedFrom opening closing depth text :=
  balancedFrom_cons (by simp [different.symm])

theorem balancedFrom_other {depth : Nat} {byte : α} {text : List α} (notOpening : byte ≠ opening)
    (notClosing : byte ≠ closing) :
    BalancedFrom opening closing depth (byte :: text) ↔ BalancedFrom opening closing depth text :=
  balancedFrom_cons (by simp [notOpening, notClosing])

/-- A bracket that nothing opens is not closed. -/
theorem not_balanced_closing {text : List α} (different : opening ≠ closing) :
    ¬BalancedFrom opening closing 0 (closing :: text) := by
  intro balanced
  have opened := balanced.opened [closing] (by simp)
  simp [different.symm] at opened

end

end UIoT.JsonSyntax
