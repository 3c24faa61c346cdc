import Mathlib.Algebra.Order.Field.Rat
import Mathlib.Algebra.Order.Ring.Int
import Mathlib.Data.List.Basic
import Mathlib.Tactic.Ring

/-!
# JSON documents

Documents are concrete syntax trees over bytes: every blank between two tokens
is kept, so `Value.text` gives every text of a document. Strings hold no escape
sequence. A path is a list of member names; `Value.lookup` follows it from
object to object, taking the first member with the name of each step. Integers
are written with their decimal digits (`Number.toRat_ofInt`).
-/

set_option autoImplicit false

namespace UIoT.Json

abbrev quote : UInt8 := 0x22
abbrev backslash : UInt8 := 0x5C
abbrev colon : UInt8 := 0x3A
abbrev comma : UInt8 := 0x2C
abbrev minus : UInt8 := 0x2D
abbrev point : UInt8 := 0x2E
abbrev openBrace : UInt8 := 0x7B
abbrev closeBrace : UInt8 := 0x7D
abbrev openBracket : UInt8 := 0x5B
abbrev closeBracket : UInt8 := 0x5D

/-! ## Tokens -/

inductive Blank where
  | space
  | tab
  | newline
  | carriageReturn
  deriving DecidableEq, Repr

def Blank.byte : Blank → UInt8
  | .space => 0x20
  | .tab => 0x09
  | .newline => 0x0A
  | .carriageReturn => 0x0D

/-- A run of blanks. -/
abbrev Blanks := List Blank

def Blanks.text (blanks : Blanks) : List UInt8 := blanks.map Blank.byte

/-- The bytes that a string holds as they are. -/
def Unescaped (byte : UInt8) : Prop := 0x20 ≤ byte ∧ byte ≠ quote ∧ byte ≠ backslash

instance (byte : UInt8) : Decidable (Unescaped byte) := inferInstanceAs (Decidable (_ ∧ _ ∧ _))

/-- The contents of a string without escape sequences. -/
structure Str where
  bytes : List UInt8
  unescaped : ∀ byte ∈ bytes, Unescaped byte

instance : DecidableEq Str := fun a b =>
  decidable_of_iff (a.bytes = b.bytes) ⟨fun same => by cases a; cases b; simp_all, fun same => by rw [same]⟩

/-- A string that is checked byte by byte. -/
def Str.ofBytes (bytes : List UInt8) (checked : bytes.all fun byte => decide (Unescaped byte)) :
    Str where
  bytes := bytes
  unescaped := fun byte member => of_decide_eq_true (List.all_eq_true.mp checked byte member)

def Str.text (str : Str) : List UInt8 := quote :: str.bytes ++ [quote]

abbrev Digit := Fin 10

scoped instance neZero_ten : NeZero 10 := ⟨by decide⟩

def digitByte (digit : Digit) : UInt8 := 0x30 + UInt8.ofNat digit.val

inductive ExponentSign where
  | none
  | plus
  | minus
  deriving DecidableEq, Repr

def ExponentSign.text : ExponentSign → List UInt8
  | .none => []
  | .plus => [0x2B]
  | .minus => [Json.minus]

structure Exponent where
  upper : Bool
  sign : ExponentSign
  first : Digit
  more : List Digit
  deriving DecidableEq, Repr

def Exponent.text (exponent : Exponent) : List UInt8 :=
  (if exponent.upper then 0x45 else 0x65) :: exponent.sign.text
    ++ digitByte exponent.first :: exponent.more.map digitByte

structure Number where
  negative : Bool
  first : Digit
  more : List Digit
  fraction : Option (Digit × List Digit)
  exponent : Option Exponent
  deriving DecidableEq, Repr

/-- The digits behind the point, with the point. -/
def fractionText : Option (Digit × List Digit) → List UInt8
  | none => []
  | some (first, more) => point :: digitByte first :: more.map digitByte

/-- A number's text in front of its exponent. -/
def Number.mantissa (number : Number) : List UInt8 :=
  (if number.negative then [minus] else []) ++ digitByte number.first :: number.more.map digitByte
    ++ fractionText number.fraction

def exponentText : Option Exponent → List UInt8
  | none => []
  | some exponent => exponent.text

def Number.text (number : Number) : List UInt8 := number.mantissa ++ exponentText number.exponent

/-! ## What a number denotes -/

/-- The decimal digits of a number in front of `more`, at most `turns + 1` of
them. -/
def decimalFrom : Nat → Nat → List Digit → Digit × List Digit
  | 0, n, more => (Fin.ofNat 10 n, more)
  | turns + 1, n, more =>
      if n < 10 then (Fin.ofNat 10 n, more)
      else decimalFrom turns (n / 10) (Fin.ofNat 10 (n % 10) :: more)

/-- The first decimal digit of a number and the others. -/
def decimal (n : Nat) : Digit × List Digit := decimalFrom n n []

/-- The number that digits denote. -/
def ofDigits (digits : List Digit) : Nat := digits.foldl (fun n digit => 10 * n + digit.val) 0

theorem foldl_digits (start : Nat) (digits : List Digit) :
    digits.foldl (fun n digit => 10 * n + digit.val) start =
      start * 10 ^ digits.length + ofDigits digits := by
  induction digits generalizing start with
  | nil => simp [ofDigits]
  | cons digit digits ih =>
      rw [List.foldl_cons, ofDigits, List.foldl_cons, ih, ih (10 * 0 + digit.val),
        List.length_cons, pow_succ]
      ring

theorem ofDigits_cons (digit : Digit) (digits : List Digit) :
    ofDigits (digit :: digits) = digit.val * 10 ^ digits.length + ofDigits digits := by
  rw [ofDigits, List.foldl_cons, foldl_digits, Nat.mul_zero, Nat.zero_add]

theorem ofDigits_decimalFrom (turns n : Nat) (more : List Digit) (enough : n < 10 ^ (turns + 1)) :
    ofDigits ((decimalFrom turns n more).1 :: (decimalFrom turns n more).2) =
      n * 10 ^ more.length + ofDigits more := by
  have single : ∀ n more, n < 10 →
      ofDigits (Fin.ofNat 10 n :: more) = n * 10 ^ more.length + ofDigits more := by
    intro n more small
    rw [ofDigits_cons, Fin.val_ofNat, Nat.mod_eq_of_lt small]
  induction turns generalizing n more with
  | zero => exact single n more (by simpa using enough)
  | succ turns ih =>
      rw [decimalFrom]
      split
      · exact single n more (by assumption)
      · rw [ih _ _ (by rw [pow_succ] at enough; omega), List.length_cons, pow_succ,
          single _ _ (Nat.mod_lt n (by decide))]
        have division := Nat.div_add_mod n 10
        calc n / 10 * (10 ^ more.length * 10) + (n % 10 * 10 ^ more.length + ofDigits more)
            = (10 * (n / 10) + n % 10) * 10 ^ more.length + ofDigits more := by ring
          _ = n * 10 ^ more.length + ofDigits more := by rw [division]

/-- The decimal digits denote the number. -/
theorem ofDigits_decimal (n : Nat) : ofDigits ((decimal n).1 :: (decimal n).2) = n := by
  have enough : n < 10 ^ (n + 1) :=
    Nat.lt_trans (Nat.lt_pow_self (by decide)) (Nat.pow_lt_pow_right (by decide) (Nat.lt_succ_self n))
  have whole := ofDigits_decimalFrom n n [] enough
  simpa [decimal, ofDigits] using whole

/-- A number below a power of ten has at most as many digits as the exponent. -/
theorem decimalFrom_length (turns n exponent : Nat) (more : List Digit)
    (small : n < 10 ^ (exponent + 1)) :
    (decimalFrom turns n more).2.length ≤ more.length + exponent := by
  induction turns generalizing n exponent more with
  | zero => exact Nat.le_add_right _ _
  | succ turns ih =>
      rw [decimalFrom]
      split
      · exact Nat.le_add_right _ _
      · rename_i large
        cases exponent with
        | zero => exact absurd small (by simpa using large)
        | succ exponent =>
            have bound := ih (n / 10) exponent (Fin.ofNat 10 (n % 10) :: more)
              (by rw [pow_succ] at small; omega)
            rw [List.length_cons] at bound
            omega

theorem decimal_length {n exponent : Nat} (small : n < 10 ^ (exponent + 1)) :
    (decimal n).2.length ≤ exponent := by
  simpa [decimal] using decimalFrom_length n n exponent [] small

def Number.ofInt (i : Int) : Number where
  negative := i < 0
  first := (decimal i.natAbs).1
  more := (decimal i.natAbs).2
  fraction := none
  exponent := none

/-- The integer behind the letter of an exponent. -/
def Exponent.toInt (exponent : Exponent) : Int :=
  let magnitude : Int := ofDigits (exponent.first :: exponent.more)
  if exponent.sign = .minus then -magnitude else magnitude

def decimals : Option (Digit × List Digit) → List Digit
  | none => []
  | some (first, more) => first :: more

/-- The rational number that a number denotes. -/
def Number.toRat (number : Number) : ℚ :=
  (if number.negative then -1 else 1) *
    (ofDigits (number.first :: number.more) +
      ofDigits (decimals number.fraction) / 10 ^ (decimals number.fraction).length) *
    10 ^ (number.exponent.elim 0 Exponent.toInt)

/-- The digits of an integer denote it. -/
theorem Number.toRat_ofInt (i : Int) : (Number.ofInt i).toRat = i := by
  have magnitude : ((ofDigits ((decimal i.natAbs).1 :: (decimal i.natAbs).2) : Nat) : ℚ) = i.natAbs := by
    rw [ofDigits_decimal]
  simp only [Number.toRat, Number.ofInt, decimals, Option.elim_none, zpow_zero, mul_one,
    List.length_nil, pow_zero, div_one, magnitude, decide_eq_true_eq]
  have noDigits : ofDigits [] = 0 := rfl
  rw [noDigits, Nat.cast_zero, add_zero, Nat.cast_natAbs]
  split
  · rename_i negative
    rw [abs_of_neg negative, Int.cast_neg]
    ring
  · rename_i notNegative
    rw [abs_of_nonneg (not_lt.mp notNegative), one_mul]

/-! ## Values -/

mutual

inductive Value where
  | string (str : Str)
  | number (number : Number)
  | true
  | false
  | null
  | array (blanks : Blanks) (elements : Elements)
  | object (blanks : Blanks) (members : Members)

/-- Elements of an array: each follows its blanks and is followed by some. -/
inductive Elements where
  | nil
  | cons (before : Blanks) (value : Value) (after : Blanks) (rest : Elements)

/-- Members of an object. -/
inductive Members where
  | nil
  | cons (before : Blanks) (name : Str) (beforeColon afterColon : Blanks) (value : Value)
      (after : Blanks) (rest : Members)

end

/-- `true`, `false` and `null` -/
def trueText : List UInt8 := [0x74, 0x72, 0x75, 0x65]
def falseText : List UInt8 := [0x66, 0x61, 0x6C, 0x73, 0x65]
def nullText : List UInt8 := [0x6E, 0x75, 0x6C, 0x6C]

/-- The separator between an item and those after it. -/
def Elements.separator : Elements → List UInt8
  | .nil => []
  | .cons .. => [comma]

@[inherit_doc Elements.separator]
def Members.separator : Members → List UInt8
  | .nil => []
  | .cons .. => [comma]

mutual

def Value.text : Value → List UInt8
  | .string str => str.text
  | .number number => number.text
  | .true => trueText
  | .false => falseText
  | .null => nullText
  | .array blanks elements => openBracket :: blanks.text ++ elements.text ++ [closeBracket]
  | .object blanks members => openBrace :: blanks.text ++ members.text ++ [closeBrace]

def Elements.text : Elements → List UInt8
  | .nil => []
  | .cons before value after rest =>
      before.text ++ value.text ++ after.text ++ rest.separator ++ rest.text

def Members.text : Members → List UInt8
  | .nil => []
  | .cons before name beforeColon afterColon value after rest =>
      before.text ++ name.text ++ beforeColon.text ++ colon :: afterColon.text ++ value.text
        ++ after.text ++ rest.separator ++ rest.text

end

/-- A text that holds one value. -/
structure Document where
  leading : Blanks
  root : Value
  trailing : Blanks

def Document.text (document : Document) : List UInt8 :=
  document.leading.text ++ (document.root.text ++ document.trailing.text)

/-! ## Names and paths -/

/-- The first member with a name, its blanks and the members after it. -/
def Members.find (name : List UInt8) : Members → Option (Value × Blanks × Members)
  | .nil => none
  | .cons _ found _ _ value after rest =>
      if found.bytes = name then some (value, after, rest) else rest.find name

/-- The value that a path leads to. -/
def Value.lookup : List (List UInt8) → Value → Option Value
  | [], value => some value
  | name :: path, .object _ members =>
      match members.find name with
      | some (value, _, _) => value.lookup path
      | none => none
  | _ :: _, _ => none

/-- The value's text, without the quotes of a string. -/
def Value.bare : Value → List UInt8
  | .string str => str.bytes
  | value => value.text

mutual

/-- Every string and every member name satisfies `P`. -/
def Value.AllStr (P : Str → Prop) : Value → Prop
  | .string str => P str
  | .array _ elements => elements.AllStr P
  | .object _ members => members.AllStr P
  | _ => True

@[inherit_doc Value.AllStr]
def Elements.AllStr (P : Str → Prop) : Elements → Prop
  | .nil => True
  | .cons _ value _ rest => value.AllStr P ∧ rest.AllStr P

@[inherit_doc Value.AllStr]
def Members.AllStr (P : Str → Prop) : Members → Prop
  | .nil => True
  | .cons _ name _ _ value _ rest => P name ∧ value.AllStr P ∧ rest.AllStr P

end

/-- A value that is no array and no object. -/
def Value.Scalar : Value → Prop
  | .array .. => False
  | .object .. => False
  | _ => True

/-- The values of the members, not those inside them, satisfy `P`. -/
def Members.EachValue (P : Value → Prop) : Members → Prop
  | .nil => True
  | .cons _ _ _ _ value _ rest => P value ∧ rest.EachValue P

mutual

/-- Every member name, at any depth, satisfies `P`. -/
def Value.AllNames (P : Str → Prop) : Value → Prop
  | .array _ elements => elements.AllNames P
  | .object _ members => members.AllNames P
  | _ => True

@[inherit_doc Value.AllNames]
def Elements.AllNames (P : Str → Prop) : Elements → Prop
  | .nil => True
  | .cons _ value _ rest => value.AllNames P ∧ rest.AllNames P

@[inherit_doc Value.AllNames]
def Members.AllNames (P : Str → Prop) : Members → Prop
  | .nil => True
  | .cons _ name _ _ value _ rest => P name ∧ value.AllNames P ∧ rest.AllNames P

end

def Members.names : Members → List (List UInt8)
  | .nil => []
  | .cons _ name _ _ _ _ rest => name.bytes :: rest.names

mutual

/-- No object, at any depth, has two members of one name. -/
def Value.UniqueNames : Value → Prop
  | .array _ elements => elements.UniqueNames
  | .object _ members => members.names.Nodup ∧ members.UniqueNames
  | _ => True

@[inherit_doc Value.UniqueNames]
def Elements.UniqueNames : Elements → Prop
  | .nil => True
  | .cons _ value _ rest => value.UniqueNames ∧ rest.UniqueNames

@[inherit_doc Value.UniqueNames]
def Members.UniqueNames : Members → Prop
  | .nil => True
  | .cons _ _ _ _ value _ rest => value.UniqueNames ∧ rest.UniqueNames

end

/-! ## What a lookup keeps -/

theorem Members.EachValue.imp {P Q : Value → Prop} (implies : ∀ value, P value → Q value) :
    {members : Members} → members.EachValue P → members.EachValue Q
  | .nil, _ => trivial
  | .cons _ _ _ _ value _ _, each => ⟨implies value each.1, each.2.imp implies⟩

theorem Members.AllStr.find {P : Str → Prop} {name : List UInt8} {value : Value} {after : Blanks}
    {rest : Members} : {members : Members} → members.AllStr P →
      members.find name = some (value, after, rest) → value.AllStr P ∧ rest.AllStr P
  | .nil, _, found => by simp [Members.find] at found
  | .cons _ _ _ _ _ _ _, all, found => by
      rw [Members.find] at found
      split at found
      · cases found
        exact all.2
      · exact Members.AllStr.find all.2.2 found

theorem Members.AllNames.find {P : Str → Prop} {name : List UInt8} {value : Value} {after : Blanks}
    {rest : Members} : {members : Members} → members.AllNames P →
      members.find name = some (value, after, rest) → value.AllNames P
  | .nil, _, found => by simp [Members.find] at found
  | .cons _ _ _ _ _ _ _, all, found => by
      rw [Members.find] at found
      split at found
      · cases found
        exact all.2.1
      · exact Members.AllNames.find all.2.2 found

/-- The name of a member is a string without escape sequences. -/
theorem Members.find_unescaped {name : List UInt8} {found : Value × Blanks × Members} :
    {members : Members} → members.find name = some found → ∀ byte ∈ name, Unescaped byte
  | .nil, result => by simp [Members.find] at result
  | .cons _ first _ _ _ _ _, result => by
      rw [Members.find] at result
      split at result
      · rename_i same
        subst same
        exact first.unescaped
      · exact Members.find_unescaped result

end UIoT.Json
