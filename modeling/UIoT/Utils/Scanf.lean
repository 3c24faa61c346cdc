import Mathlib.RingTheory.Coprime.Lemmas
import UIoT.Utils.JsonScan
import UIoT.Utils.Printf

/-!
# Numbers read by `sscanf`

The functions `LITE_get_…` read a property's number from a text with `sscanf`:
signed types with `%i`, which takes the base from the number's own prefix,
unsigned types with `%u`. Eight bits go through a variable of sixteen. C leaves
open what is stored for a number that its type cannot hold; `CLibrary` says it.

A decimal number without a leading zero is read up to its point or its exponent
(`scanI_number`, `scanU_number`).
-/

set_option autoImplicit false

namespace UIoT.Utils

open Json

/-- What C leaves to its library: the value that `sscanf` stores for a number
that the type cannot hold, and floating point. -/
structure CLibrary where
  int32 : Int → Int32
  int16 : Int → Int16
  uint32 : Int → UInt32
  uint16 : Int → UInt16
  floating : Cursor → Option Floating

/-! ## The number at the start of a text -/

/-- `isspace` -/
def isSpaceByte (byte : UInt8) : Bool := byte = space || (0x09 ≤ byte && byte ≤ 0x0D)

/-- A digit in some base: 36 for a byte that is none. -/
def digitValue (byte : UInt8) : Nat :=
  if isDigit byte then byte.toNat - 0x30
  else if 0x61 ≤ byte && byte ≤ 0x7A then byte.toNat - 0x61 + 10
  else if 0x41 ≤ byte && byte ≤ 0x5A then byte.toNat - 0x41 + 10
  else 36

/-- The number that the digits of a base denote at the start of a text. -/
def numberIn (base : Nat) (text : Cursor) : Option Nat :=
  match (text.map digitValue).takeWhile (· < base) with
  | [] => none
  | digits => some (digits.foldl (fun n digit => base * n + digit) 0)

/-- The number at the start of a text, in the base that its prefix tells. -/
def numberByPrefix (text : Cursor) : Option Nat :=
  match text with
  | first :: letter :: rest =>
      if first = 0x30 then
        if letter = 0x78 ∨ letter = 0x58 then numberIn 16 rest else numberIn 8 text
      else numberIn 10 text
  | _ => numberIn 10 text

/-- A number behind blanks and a sign. -/
def signed (number : Cursor → Option Nat) (text : Cursor) : Option Int :=
  match text.dropWhile isSpaceByte with
  | [] => none
  | sign :: rest =>
      if sign = minus then (number rest).map fun (n : Nat) => -(n : Int)
      else if sign = 0x2B then (number rest).map fun (n : Nat) => (n : Int)
      else (number (sign :: rest)).map fun (n : Nat) => (n : Int)

/-- The number that `%i` reads. -/
def scanI (text : Cursor) : Option Int := signed numberByPrefix text

/-- The number that `%u` reads. -/
def scanU (text : Cursor) : Option Int := signed (numberIn 10) text

/-! ## The functions -/

variable (library : CLibrary)

/-- What is stored in an `int32_t`. -/
def storeInt32 (number : Int) : Int32 :=
  if -2 ^ 31 ≤ number ∧ number < 2 ^ 31 then Int32.ofInt number else library.int32 number

def storeInt16 (number : Int) : Int16 :=
  if -2 ^ 15 ≤ number ∧ number < 2 ^ 15 then Int16.ofInt number else library.int16 number

def storeUInt32 (number : Int) : UInt32 :=
  if 0 ≤ number ∧ number < 2 ^ 32 then UInt32.ofNat number.toNat else library.uint32 number

def storeUInt16 (number : Int) : UInt16 :=
  if 0 ≤ number ∧ number < 2 ^ 16 then UInt16.ofNat number.toNat else library.uint16 number

/-- `LITE_get_int32`: none where it returns `FAILURE_RET`. -/
def liteGetInt32 (src : Cursor) : Option Int32 := (scanI src).map (storeInt32 library)

/-- `LITE_get_int16` -/
def liteGetInt16 (src : Cursor) : Option Int16 := (scanI src).map (storeInt16 library)

/-- `LITE_get_int8` -/
def liteGetInt8 (src : Cursor) : Option Int8 :=
  (scanI src).map fun number => (storeInt16 library number).toInt8

/-- `LITE_get_uint32` -/
def liteGetUInt32 (src : Cursor) : Option UInt32 := (scanU src).map (storeUInt32 library)

/-- `LITE_get_uint16` -/
def liteGetUInt16 (src : Cursor) : Option UInt16 := (scanU src).map (storeUInt16 library)

/-- `LITE_get_uint8` -/
def liteGetUInt8 (src : Cursor) : Option UInt8 :=
  (scanU src).map fun number => (storeUInt16 library number).toUInt8

/-- `LITE_get_boolean`, which returns `SUCCESS_RET` on every text. -/
def liteGetBoolean (src : Cursor) : Bool := src ≠ literal "0"

/-! ## A decimal number -/

/-- The integer in front of the point of a number. -/
def integerPart (number : Number) : Int :=
  (if number.negative then -1 else 1) * (ofDigits (number.first :: number.more) : Nat)

/-- A zero is not followed by digits. -/
def NoLeadingZero (number : Number) : Prop := number.first = 0 → number.more = []

theorem digitValue_digitByte : ∀ digit : Digit, digitValue (digitByte digit) = digit.val := by
  decide

/-- The digits in front of a text that begins with none are read in full. -/
theorem numberIn_digits {base : Nat} {first : Digit} {more : List Digit} {tail : Cursor}
    (small : ∀ digit ∈ first :: more, digit.val < base)
    (ends : ∀ byte ∈ tail.head?, base ≤ digitValue byte) :
    numberIn base ((first :: more).map digitByte ++ tail) =
      some ((first :: more).foldl (fun n digit => base * n + digit.val) 0) := by
  have digits : ((first :: more).map digitByte).map digitValue = (first :: more).map Fin.val := by
    rw [List.map_map]
    exact List.map_congr_left fun digit _ => digitValue_digitByte digit
  have stops : (tail.map digitValue).takeWhile (· < base) = [] := by
    cases tail with
    | nil => rfl
    | cons byte tail =>
        have large := ends byte rfl
        rw [List.map_cons, List.takeWhile_cons, if_neg (by simpa using large)]
  have taken : (((first :: more).map digitByte ++ tail).map digitValue).takeWhile (· < base) =
      (first :: more).map Fin.val := by
    rw [List.map_append, digits, List.takeWhile_append_of_pos, stops, List.append_nil]
    intro value member
    obtain ⟨digit, isDigit, rfl⟩ := List.mem_map.mp member
    exact decide_eq_true (small digit isDigit)
  rw [numberIn, taken, List.map_cons]
  exact congrArg some (List.foldl_map (l := more) ..)

/-- The text of a number behind its sign and the digits in front of the point. -/
def behindInteger (number : Number) : List UInt8 :=
  fractionText number.fraction ++ exponentText number.exponent

/-- The text of a number behind its sign. -/
def magnitude (number : Number) : List UInt8 :=
  (number.first :: number.more).map digitByte ++ behindInteger number

theorem number_text_eq (number : Number) :
    number.text = (if number.negative then [minus] else []) ++ magnitude number := by
  simp [Number.text, Number.mantissa, magnitude, behindInteger]

/-- No digit and no `x` follows the integer part. -/
theorem behindInteger_head (number : Number) : ∀ byte ∈ (behindInteger number).head?,
    10 ≤ digitValue byte ∧ byte ≠ 0x78 ∧ byte ≠ 0x58 := by
  intro byte isHead
  rw [behindInteger] at isHead
  cases isFraction : number.fraction with
  | some fraction =>
      rw [isFraction] at isHead
      obtain rfl : point = byte := Option.some.inj isHead
      decide
  | none =>
      rw [isFraction] at isHead
      cases isExponent : number.exponent with
      | none =>
          rw [isExponent] at isHead
          cases isHead
      | some exponent =>
          rw [isExponent] at isHead
          obtain rfl : (if exponent.upper then 0x45 else 0x65) = byte := Option.some.inj isHead
          split <;> decide

theorem numberIn_magnitude (number : Number) :
    numberIn 10 (magnitude number) = some (ofDigits (number.first :: number.more)) :=
  numberIn_digits (fun digit _ => digit.isLt) fun byte isHead =>
    (behindInteger_head number byte isHead).1

theorem digitByte_ne_zero : ∀ digit : Digit, digit ≠ 0 → digitByte digit ≠ 0x30 := by decide

theorem numberByPrefix_magnitude {number : Number} (canonical : NoLeadingZero number) :
    numberByPrefix (magnitude number) = some (ofDigits (number.first :: number.more)) := by
  have decimal := numberIn_magnitude number
  by_cases isZero : number.first = 0
  · have single := canonical isZero
    have heads := behindInteger_head number
    rw [magnitude, isZero, single] at decimal ⊢
    cases behind : behindInteger number with
    | nil => rw [behind] at decimal; exact decimal
    | cons letter rest =>
        obtain ⟨noDigit, notLower, notUpper⟩ := heads letter (by rw [behind]; rfl)
        have octal := @numberIn_digits 8 0 [] (letter :: rest) (by decide) fun byte isHead => by
            obtain rfl : letter = byte := Option.some.inj isHead
            omega
        have notHex : ¬(letter = 0x78 ∨ letter = 0x58) := by simp [notLower, notUpper]
        change (if letter = 0x78 ∨ letter = 0x58 then numberIn 16 rest
          else numberIn 8 ([(0 : Digit)].map digitByte ++ letter :: rest)) = _
        rw [if_neg notHex, octal]
        rfl
  · have notZero := digitByte_ne_zero number.first isZero
    have whole : magnitude number = digitByte number.first ::
        (number.more.map digitByte ++ behindInteger number) := rfl
    rw [whole] at decimal ⊢
    cases rest : number.more.map digitByte ++ behindInteger number with
    | nil => rw [rest] at decimal; exact decimal
    | cons letter rest' =>
        rw [rest] at decimal
        rw [numberByPrefix, if_neg notZero]
        exact decimal

theorem not_space_digit : ∀ digit : Digit, isSpaceByte (digitByte digit) = false ∧
    digitByte digit ≠ minus ∧ digitByte digit ≠ 0x2B := by decide

/-- The sign of a number is read in front of its digits. -/
theorem signed_number {reads : Cursor → Option Nat} {number : Number}
    (result : reads (magnitude number) = some (ofDigits (number.first :: number.more))) :
    signed reads number.text = some (integerPart number) := by
  obtain ⟨notSpace, notMinus, notPlus⟩ := not_space_digit number.first
  have whole : magnitude number = digitByte number.first ::
      (number.more.map digitByte ++ behindInteger number) := rfl
  rw [number_text_eq, signed, integerPart]
  cases number.negative with
  | true =>
      have minusKept : (([minus] : List UInt8) ++ magnitude number).dropWhile isSpaceByte =
          minus :: magnitude number := by
        rw [List.singleton_append, List.dropWhile_cons_of_neg (by decide)]
      simp only [if_true, minusKept, result, Option.map_some, neg_one_mul]
  | false =>
      have digitsKept : (([] : List UInt8) ++ magnitude number).dropWhile isSpaceByte =
          magnitude number := by
        rw [List.nil_append, whole, List.dropWhile_cons_of_neg (by simp [notSpace])]
      simp only [Bool.false_eq_true, if_false, digitsKept]
      rw [whole] at result ⊢
      simp only [if_neg notMinus, if_neg notPlus, result, Option.map_some, one_mul]

theorem scanI_number {number : Number} (canonical : NoLeadingZero number) :
    scanI number.text = some (integerPart number) :=
  signed_number (numberByPrefix_magnitude canonical)

theorem scanU_number (number : Number) : scanU number.text = some (integerPart number) :=
  signed_number (numberIn_magnitude number)

/-! ## What the number denotes -/

theorem ofDigits_lt (digits : List Digit) : ofDigits digits < 10 ^ digits.length := by
  induction digits with
  | nil => decide
  | cons digit digits ih =>
      rw [ofDigits_cons, List.length_cons, pow_succ]
      have small := digit.isLt
      have bound : digit.val * 10 ^ digits.length ≤ 9 * 10 ^ digits.length :=
        Nat.mul_le_mul_right _ (by omega)
      omega

/-- A number without its sign, behind whose integer part there is a fraction. -/
theorem toRat_split (number : Number) : ∃ fraction : ℚ, 0 ≤ fraction ∧ fraction < 1 ∧
    number.toRat = (if number.negative then -1 else 1) *
      (ofDigits (number.first :: number.more) + fraction) *
        10 ^ (number.exponent.elim 0 Exponent.toInt) := by
  refine ⟨(ofDigits (decimals number.fraction) : ℚ) / 10 ^ (decimals number.fraction).length, ?_, ?_,
    rfl⟩
  · positivity
  · rw [div_lt_one (by positivity)]
    exact_mod_cast ofDigits_lt _

/-- The same without signs: an exponent that is not negative makes the number
larger, and a negative one cuts zeros off its digits. -/
theorem digits_near {digits : Nat} {fraction : ℚ} (nonneg : 0 ≤ fraction) (small : fraction < 1)
    {exponent n : Int} (value : ((digits : ℚ) + fraction) * 10 ^ exponent = n) :
    (∃ k : Nat, (digits : Int) = n * 10 ^ k) ∨ (digits : Int) ≤ n := by
  rcases le_or_gt 0 exponent with growing | shrinking
  · right
    have factor : (1 : ℚ) ≤ 10 ^ exponent := one_le_zpow₀ (by norm_num) growing
    have larger : (digits : ℚ) ≤ n := by
      calc (digits : ℚ) ≤ digits + fraction := le_add_of_nonneg_right nonneg
        _ = (digits + fraction) * 1 := (mul_one _).symm
        _ ≤ (digits + fraction) * 10 ^ exponent :=
            mul_le_mul_of_nonneg_left factor (by positivity)
        _ = n := value
    exact_mod_cast larger
  · left
    obtain ⟨k, isK⟩ := Int.eq_ofNat_of_zero_le (Int.neg_nonneg_of_nonpos (le_of_lt shrinking))
    refine ⟨k, ?_⟩
    have isExponent : exponent = -(k : Int) := by omega
    have scaled : (digits : ℚ) + fraction = n * 10 ^ k := by
      rw [← value, isExponent, zpow_neg, zpow_natCast, mul_assoc, inv_mul_cancel₀ (by positivity),
        mul_one]
    have low : (digits : ℚ) ≤ n * 10 ^ k := by rw [← scaled]; exact le_add_of_nonneg_right nonneg
    have high : (n * 10 ^ k : ℚ) < digits + 1 := by rw [← scaled]; exact add_lt_add_right small _
    have lowInt : (digits : Int) ≤ n * 10 ^ k := by exact_mod_cast low
    have highInt : n * 10 ^ k < (digits : Int) + 1 := by exact_mod_cast high
    omega

/-- A number that denotes an integer has its integer part in front of a power of
ten, or its integer part lies between zero and the integer. -/
theorem integerPart_near {number : Number} {n : Int} (denotes : number.toRat = n) :
    (∃ k : Nat, integerPart number = n * 10 ^ k) ∨
      (0 ≤ integerPart number ∧ integerPart number ≤ n) ∨
      (n ≤ integerPart number ∧ integerPart number ≤ 0) := by
  obtain ⟨fraction, nonneg, small, value⟩ := toRat_split number
  rw [denotes] at value
  rw [integerPart]
  generalize number.exponent.elim 0 Exponent.toInt = exponent at value
  generalize ofDigits (number.first :: number.more) = digits at value ⊢
  generalize number.negative = negative at value ⊢
  cases negative with
  | true =>
      have positive : ((digits : ℚ) + fraction) * 10 ^ exponent = ((-n : Int) : ℚ) := by
        push_cast
        rw [value, if_pos rfl]
        ring
      rcases digits_near nonneg small positive with ⟨k, cut⟩ | below
      · exact .inl ⟨k, by rw [if_pos rfl, cut]; ring⟩
      · rw [if_pos rfl]
        omega
  | false =>
      have positive : ((digits : ℚ) + fraction) * 10 ^ exponent = (n : ℚ) := by
        rw [value, if_neg Bool.false_ne_true]
        ring
      rcases digits_near nonneg small positive with ⟨k, cut⟩ | below
      · exact .inl ⟨k, by rw [if_neg Bool.false_ne_true, cut]; ring⟩
      · rw [if_neg Bool.false_ne_true]
        omega

/-- Modulo 256 the integer part tells a number of eight bits from no other. -/
theorem integerPart_eq {number : Number} {n : Int} (denotes : number.toRat = n)
    (small : -256 < n ∧ n < 256) (same : (256 : Int) ∣ integerPart number - n) :
    integerPart number = n := by
  rcases integerPart_near denotes with ⟨k, cut⟩ | near
  · cases k with
    | zero => rw [cut, pow_zero, mul_one]
    | succ k =>
        rw [cut] at same ⊢
        have factor : n * 10 ^ (k + 1) - n = n * (10 ^ (k + 1) - 1) := by ring
        have coprime : IsCoprime (256 : Int) (10 ^ (k + 1) - 1) := by
          have odd : IsCoprime (2 : Int) (10 ^ (k + 1) - 1) := ⟨5 * 10 ^ k, -1, by ring⟩
          have power : (256 : Int) = 2 ^ 8 := by norm_num
          rw [power]
          exact IsCoprime.pow_left odd
        have zero : n = 0 := by
          have divides := coprime.dvd_of_dvd_mul_right (factor ▸ same)
          omega
        rw [zero, zero_mul]
  · omega

/-! ## The digits of an integer -/

theorem decimalFrom_first {turns n : Nat} {more : List Digit} (enough : n < 10 ^ (turns + 1))
    (zero : (decimalFrom turns n more).1 = 0) : n = 0 := by
  have single : n < 10 → (Fin.ofNat 10 n) = 0 → n = 0 := by
    intro small isZero
    have value := congrArg Fin.val isZero
    rwa [Fin.val_ofNat, Nat.mod_eq_of_lt small] at value
  induction turns generalizing n more with
  | zero => exact single (by simpa using enough) zero
  | succ turns ih =>
      rw [decimalFrom] at zero
      split at zero
      · exact single (by assumption) zero
      · rw [pow_succ] at enough
        have quotient := ih (by omega) zero fun small isZero => by
          have value := congrArg Fin.val isZero
          rwa [Fin.val_ofNat, Nat.mod_eq_of_lt small] at value
        omega

theorem noLeadingZero_ofInt (i : Int) : NoLeadingZero (Number.ofInt i) := by
  intro isZero
  have enough : i.natAbs < 10 ^ (i.natAbs + 1) :=
    Nat.lt_trans (Nat.lt_pow_self (by decide)) (Nat.pow_lt_pow_right (by decide) (Nat.lt_succ_self _))
  have zero : i.natAbs = 0 := decimalFrom_first enough isZero
  change (decimal i.natAbs).2 = []
  rw [zero]
  rfl

theorem integerPart_ofInt (i : Int) : integerPart (Number.ofInt i) = i := by
  have digits : ofDigits ((Number.ofInt i).first :: (Number.ofInt i).more) = i.natAbs :=
    ofDigits_decimal i.natAbs
  rw [integerPart, digits]
  change (if (decide (i < 0)) = true then -1 else 1) * (i.natAbs : Int) = i
  simp only [decide_eq_true_eq]
  split <;> omega

/-! ## Eight bits -/

/-- Sixteen bits narrowed to eight. -/
theorem toInt8_ofInt16 (n : Int) : (Int16.ofInt n).toInt8 = Int8.ofInt n := by
  apply Int8.toInt.inj
  rw [Int16.toInt_toInt8, Int16.toInt_ofInt, Int8.toInt_ofInt]
  exact Int.bmod_bmod_of_dvd (by decide)

/-- Two numbers that a variable of eight bits does not tell apart. -/
theorem dvd_of_int8 {m n : Int} (same : Int8.ofInt m = Int8.ofInt n) : (256 : Int) ∣ m - n := by
  have equal := congrArg Int8.toInt same
  rw [Int8.toInt_ofInt, Int8.toInt_ofInt] at equal
  exact Int.dvd_iff_bmod_eq_zero.mpr (Int.bmod_eq_bmod_iff_bmod_sub_eq_zero.mp equal)

/-- A library that stores one number for all that a type cannot hold. -/
def constantLibrary (number : Int) : CLibrary where
  int32 := fun _ => Int32.ofInt number
  int16 := fun _ => Int16.ofInt number
  uint32 := fun _ => UInt32.ofNat number.toNat
  uint16 := fun _ => UInt16.ofNat number.toNat
  floating := fun _ => none

end UIoT.Utils
