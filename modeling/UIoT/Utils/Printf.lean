import UIoT.Defs
import UIoT.Utils.JsonParser
import Mathlib.Tactic.FieldSimp
import Mathlib.Tactic.Linarith
import Mathlib.Tactic.Positivity

/-!
# Formatted text in a buffer

`HAL_Snprintf` writes at most as many bytes as it is told are left, the last of
them the terminator. How many are left is a difference of unsigned numbers,
which wraps when more is used than there is (`sizeLeft`). A buffer keeps the
text it holds, and two facts that no code reads: how far it has been written to
and whether a difference has wrapped.
-/

set_option autoImplicit false

namespace UIoT.Utils

open Json

/-! ## Conversions -/

/-- `%u` -/
def formatNat (n : Nat) : List UInt8 := digitByte (decimal n).1 :: (decimal n).2.map digitByte

/-- `%d` -/
def formatInt (i : Int) : List UInt8 := (if i < 0 then [minus] else []) ++ formatNat i.natAbs

theorem formatInt_eq_text (i : Int) : formatInt i = (Number.ofInt i).text := by
  simp [formatInt, formatNat, Number.ofInt, Number.text, Number.mantissa, fractionText, exponentText]

/-- The value of a `double`: a finite one is `significand * 2 ^ exponent` with a
sign. -/
inductive Floating where
  | finite (negative : Bool) (significand : Nat) (exponent : Int)
  | infinite (negative : Bool)
  | nan (negative : Bool)
  deriving DecidableEq, Repr

/-- The multiple of a millionth next to a finite value, an even one in the
middle of two. -/
def millionths (significand : Nat) (exponent : Int) : Nat :=
  if 0 ≤ exponent then significand * 2 ^ exponent.toNat * 1000000
  else
    let divisor := 2 ^ (-exponent).toNat
    let quotient := significand * 1000000 / divisor
    let rest := significand * 1000000 % divisor
    if divisor < 2 * rest ∨ (2 * rest = divisor ∧ quotient % 2 = 1) then quotient + 1 else quotient

/-- The six digits behind the point. -/
def fractionDigits (n : Nat) : Digit × List Digit :=
  (Fin.ofNat 10 (n / 100000), [Fin.ofNat 10 (n / 10000), Fin.ofNat 10 (n / 1000),
    Fin.ofNat 10 (n / 100), Fin.ofNat 10 (n / 10), Fin.ofNat 10 n])

/-- `%f` -/
def formatFloating : Floating → List UInt8
  | .finite negative significand exponent =>
      let n := millionths significand exponent
      (if negative then [minus] else []) ++ formatNat (n / 1000000)
        ++ point :: digitByte (fractionDigits n).1 :: (fractionDigits n).2.map digitByte
  | .infinite negative => (if negative then [minus] else []) ++ literal "inf"
  | .nan negative => (if negative then [minus] else []) ++ literal "nan"

/-! ## What a conversion of a `double` denotes -/

def Floating.toRat? : Floating → Option ℚ
  | .finite negative significand exponent =>
      some ((if negative then -1 else 1) * (significand * 2 ^ exponent))
  | _ => none

/-- The number that `%f` writes for a count of millionths. -/
def ofMillionths (negative : Bool) (n : Nat) : Number where
  negative := negative
  first := (decimal (n / 1000000)).1
  more := (decimal (n / 1000000)).2
  fraction := some (fractionDigits n)
  exponent := none

theorem formatFloating_eq_text (negative : Bool) (significand : Nat) (exponent : Int) :
    formatFloating (.finite negative significand exponent) =
      (ofMillionths negative (millionths significand exponent)).text := by
  cases negative <;>
    simp [formatFloating, formatNat, ofMillionths, Number.text, Number.mantissa, fractionText,
      exponentText]

theorem ofDigits_fractionDigits (n : Nat) :
    ofDigits ((fractionDigits n).1 :: (fractionDigits n).2) = n % 1000000 := by
  simp only [ofDigits, fractionDigits, List.foldl_cons, List.foldl_nil, Fin.val_ofNat]
  omega

theorem toRat_ofMillionths (negative : Bool) (n : Nat) :
    (ofMillionths negative n).toRat = (if negative then -1 else 1) * (n / 1000000) := by
  have division : ((1000000 * (n / 1000000) + n % 1000000 : Nat) : ℚ) = n := by
    rw [Nat.div_add_mod]
  push_cast at division
  have six : (fractionDigits n).2.length = 5 := rfl
  simp only [Number.toRat, ofMillionths, ofDigits_decimal, decimals, ofDigits_fractionDigits,
    List.length_cons, six, Option.elim_none, zpow_zero, mul_one]
  congr 1
  rw [← division]
  field_simp
  ring

/-- The count of millionths is the nearest one. -/
theorem millionths_near (significand : Nat) (exponent : Int) :
    |(millionths significand exponent : ℚ) - significand * 2 ^ exponent * 1000000| ≤ 1 / 2 := by
  unfold millionths
  split
  · rename_i whole
    have power : (2 : ℚ) ^ exponent = 2 ^ exponent.toNat := by
      rw [← zpow_natCast, Int.toNat_of_nonneg whole]
    push_cast
    rw [power, sub_self, abs_zero]
    norm_num
  · rename_i broken
    have power : (2 : ℚ) ^ exponent = 1 / 2 ^ (-exponent).toNat := by
      rw [← zpow_natCast, Int.toNat_of_nonneg (by omega), zpow_neg, one_div, inv_inv]
    have positive : (0 : ℚ) < 2 ^ (-exponent).toNat := by positivity
    dsimp only
    have division := Nat.div_add_mod (significand * 1000000) (2 ^ (-exponent).toNat)
    have below := Nat.mod_lt (significand * 1000000) (Nat.two_pow_pos (-exponent).toNat)
    generalize significand * 1000000 / 2 ^ (-exponent).toNat = quotient at division
    generalize significand * 1000000 % 2 ^ (-exponent).toNat = rest at division below
    have value : (significand : ℚ) * 2 ^ exponent * 1000000 =
        quotient + rest / 2 ^ (-exponent).toNat := by
      have cast : ((2 : ℚ) ^ (-exponent).toNat * quotient + rest) = significand * 1000000 := by
        exact_mod_cast division
      rw [power]
      field_simp
      linarith only [cast]
    rw [value, abs_le]
    split
    · rename_i up
      have half : 2 ^ (-exponent).toNat ≤ 2 * rest := by
        rcases up with more | middle
        · exact Nat.le_of_lt more
        · exact Nat.le_of_eq middle.1.symm
      have atLeast : 1 / 2 ≤ (rest : ℚ) / 2 ^ (-exponent).toNat := by
        rw [div_le_div_iff₀ two_pos positive, one_mul, mul_comm]
        exact_mod_cast half
      have atMost : (rest : ℚ) / 2 ^ (-exponent).toNat ≤ 1 := by
        rw [div_le_one positive]
        exact_mod_cast Nat.le_of_lt below
      push_cast
      constructor <;> linarith only [atLeast, atMost]
    · rename_i notUp
      have half : 2 * rest ≤ 2 ^ (-exponent).toNat := Nat.not_lt.mp fun more => notUp (.inl more)
      have atMost : (rest : ℚ) / 2 ^ (-exponent).toNat ≤ 1 / 2 := by
        rw [div_le_div_iff₀ positive two_pos, one_mul, mul_comm]
        exact_mod_cast half
      have atLeast : 0 ≤ (rest : ℚ) / 2 ^ (-exponent).toNat := by positivity
      constructor <;> linarith only [atLeast, atMost]

/-- `%f` writes a finite value with an error of at most half a millionth. -/
theorem formatFloating_near {floating : Floating} {value : ℚ}
    (finite : floating.toRat? = some value) : ∃ number : Number,
      formatFloating floating = number.text ∧ |number.toRat - value| ≤ 1 / 2000000 := by
  cases floating with
  | infinite => cases finite
  | nan => cases finite
  | finite negative significand exponent =>
      cases finite
      refine ⟨_, formatFloating_eq_text negative significand exponent, ?_⟩
      have near := millionths_near significand exponent
      have scaled : (ofMillionths negative (millionths significand exponent)).toRat -
          (if negative then -1 else 1) * (significand * 2 ^ exponent) =
            (if negative then -1 else 1) * ((millionths significand exponent -
              significand * 2 ^ exponent * 1000000) / 1000000) := by
        rw [toRat_ofMillionths]
        ring
      have sign : |(if negative then -1 else 1 : ℚ)| = 1 := by
        cases negative <;> simp
      have million : |(1000000 : ℚ)| = 1000000 := abs_of_pos (by norm_num)
      rw [scaled, abs_mul, sign, one_mul, abs_div, million, div_le_div_iff₀ (by norm_num) (by norm_num)]
      linarith only [near]

/-! ## The buffer -/

/-- The C string in a buffer. Two facts about what was done to it come with it:
the bytes up to `reach` may have been written, and whether the size left has
wrapped. -/
structure Buffer where
  text : List UInt8
  reach : Nat
  wrapped : Bool
  deriving DecidableEq, Repr

/-- One more than the greatest `size_t`. -/
abbrev sizeModulus : Nat := 2 ^ 32

/-- `sizeOfBuffer - strlen(buffer)` -/
def sizeLeft (size : Nat) (buffer : Buffer) : Nat × Buffer :=
  if buffer.text.length ≤ size then (size - buffer.text.length, buffer)
  else (sizeModulus + size - buffer.text.length, { buffer with wrapped := true })

/-- `HAL_Snprintf` at an offset into the text: the number of bytes of the whole
text is returned, however much of it was written. -/
def snprintf (buffer : Buffer) (offset remainSize : Nat) (text : List UInt8) : Int × Buffer :=
  if remainSize = 0 then (text.length, buffer)
  else
    let written := text.take (remainSize - 1)
    (text.length, { buffer with
      text := buffer.text.take offset ++ written
      reach := max buffer.reach (offset + written.length + 1) })

/-- `_check_snprintf_return`: the code is compared as an unsigned number. -/
def checkSnprintfReturn (returnCode : Int) (maxSizeOfWrite : Nat) : Int :=
  let unsigned := if returnCode < 0 then sizeModulus + returnCode else returnCode
  if (maxSizeOfWrite : Int) ≤ unsigned then errJsonBufferTruncated
  else if returnCode < 0 then errJson
  else successRet

end UIoT.Utils
