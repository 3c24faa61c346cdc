import Mathlib.Data.List.Basic
import Mathlib.Tactic.Ring

/-!
# Base-128 numbers with continuation bits

A natural number is written as bytes of seven bits each, least significant
first. Every byte but the last has its high bit set. The encoder returns the
shortest such byte list. The decoder reads one number off the front of a byte
list and returns the bytes after it.

A list that the decoder takes entirely is a *field* for the number
(`IsFieldOf`). A number has many fields, since high zero digits may be written,
and its encoding is the shortest of them (`encode_length_le_of_isField`).
-/

set_option autoImplicit false

namespace UIoT.Base128

/-! ## Bits of a byte -/

theorem toNat_and_127 (byte : UInt8) : (byte &&& 127).toNat = byte.toNat % 128 := by
  rw [UInt8.toNat_and]
  exact Nat.and_two_pow_sub_one_eq_mod byte.toNat 7

theorem and_128_eq_zero_iff (byte : UInt8) : byte &&& 128 = 0 ↔ byte.toNat < 128 := by
  have table : ∀ value : Fin 256, value.val &&& 128 = value.val / 128 * 128 := by decide +kernel
  have masked : (byte &&& 128).toNat = byte.toNat / 128 * 128 := by
    rw [UInt8.toNat_and]
    exact table ⟨byte.toNat, byte.toNat_lt⟩
  have bound := byte.toNat_lt
  constructor
  · intro zero
    rw [zero] at masked
    simp only [UInt8.toNat_zero] at masked
    omega
  · intro small
    apply UInt8.toNat_inj.mp
    rw [masked, UInt8.toNat_zero]
    omega

theorem toNat_or_128 {digit : Nat} (small : digit < 128) :
    (UInt8.ofNat digit ||| 128).toNat = digit + 128 := by
  have table : ∀ value : Fin 128, value.val ||| 128 = value.val + 128 := by decide +kernel
  rw [UInt8.toNat_or, UInt8.toNat_ofNat', Nat.mod_eq_of_lt (by omega)]
  exact table ⟨digit, small⟩

theorem toNat_ofNat {digit : Nat} (small : digit < 256) : (UInt8.ofNat digit).toNat = digit := by
  rw [UInt8.toNat_ofNat', Nat.mod_eq_of_lt small]

/-! ## Encoder and decoder -/

/-- The shortest byte list for a number. -/
def encode (value : Nat) : List UInt8 :=
  if value < 128 then [UInt8.ofNat value]
  else UInt8.ofNat (value % 128 + 128) :: encode (value / 128)
termination_by value
decreasing_by omega

/-- The number at the front of a byte list, and the bytes after it. -/
def decode : List UInt8 → Option (Nat × List UInt8)
  | [] => none
  | byte :: rest =>
      if byte.toNat < 128 then some (byte.toNat, rest)
      else (decode rest).map fun (high, after) => (byte.toNat % 128 + 128 * high, after)

/-- A byte list that is one number, with nothing after it. -/
def IsFieldOf (field : List UInt8) (value : Nat) : Prop := decode field = some (value, [])

instance (field : List UInt8) (value : Nat) : Decidable (IsFieldOf field value) :=
  inferInstanceAs (Decidable (decode field = some (value, [])))

theorem encode_of_lt {value : Nat} (small : value < 128) : encode value = [UInt8.ofNat value] := by
  rw [encode, if_pos small]

theorem encode_of_le {value : Nat} (large : 128 ≤ value) :
    encode value = UInt8.ofNat (value % 128 + 128) :: encode (value / 128) := by
  rw [encode, if_neg (by omega)]

theorem encode_ne_nil (value : Nat) : encode value ≠ [] := by
  rw [encode]
  split <;> simp

theorem encode_length_pos (value : Nat) : 0 < (encode value).length :=
  List.length_pos_iff.mpr (encode_ne_nil value)

/-- Bytes after a field do not change what is decoded. -/
theorem decode_append {field : List UInt8} {value : Nat} (isField : IsFieldOf field value)
    (after : List UInt8) : decode (field ++ after) = some (value, after) := by
  induction field generalizing value with
  | nil => simp [IsFieldOf, decode] at isField
  | cons byte rest ih =>
      unfold IsFieldOf at isField
      simp only [List.cons_append, decode] at isField ⊢
      by_cases last : byte.toNat < 128
      · rw [if_pos last] at isField ⊢
        obtain ⟨rfl, rfl⟩ := by simpa using isField
        rfl
      · rw [if_neg last] at isField ⊢
        obtain ⟨⟨high, tail⟩, decoded, same⟩ := Option.map_eq_some_iff.mp isField
        obtain ⟨rfl, rfl⟩ := by simpa using same
        rw [ih decoded, Option.map_some]

theorem isField_encode (value : Nat) : IsFieldOf (encode value) value := by
  induction value using Nat.strongRecOn with
  | ind value ih =>
      by_cases small : value < 128
      · rw [encode_of_lt small, IsFieldOf, decode, toNat_ofNat (by omega), if_pos small]
      · rw [encode_of_le (by omega), IsFieldOf, decode, toNat_ofNat (by omega), if_neg (by omega),
          ih (value / 128) (by omega)]
        simp only [Option.map_some, Option.some.injEq, Prod.mk.injEq, and_true]
        omega

/-- **Round trip.** Decoding an encoding followed by any bytes gives back the
number and those bytes. -/
theorem decode_encode_append (value : Nat) (after : List UInt8) :
    decode (encode value ++ after) = some (value, after) :=
  decode_append (isField_encode value) after

/-! ## Lengths -/

/-- An encoding has at most `k + 1` bytes exactly when the number is below
`128 ^ (k + 1)`. -/
theorem encode_length_le_iff (k value : Nat) :
    (encode value).length ≤ k + 1 ↔ value < 128 ^ (k + 1) := by
  induction k generalizing value with
  | zero =>
      by_cases small : value < 128
      · simp [encode_of_lt small, small]
      · have := encode_length_pos (value / 128)
        rw [encode_of_le (by omega), List.length_cons]
        omega
  | succ k ih =>
      by_cases small : value < 128
      · have grows : 128 ≤ 128 ^ (k + 1 + 1) := by
          calc 128 = 128 ^ 1 := rfl
            _ ≤ 128 ^ (k + 1 + 1) := Nat.pow_le_pow_right (by omega) (by omega)
        rw [encode_of_lt small, List.length_singleton]
        omega
      · rw [encode_of_le (by omega), List.length_cons, Nat.add_le_add_iff_right, ih,
          Nat.div_lt_iff_lt_mul (by omega), ← Nat.pow_succ]

/-- A field of `k` bytes holds a number below `128 ^ k`. -/
theorem IsFieldOf.value_lt {field : List UInt8} {value : Nat} (isField : IsFieldOf field value) :
    value < 128 ^ field.length := by
  induction field generalizing value with
  | nil => simp [IsFieldOf, decode] at isField
  | cons byte rest ih =>
      simp only [IsFieldOf, decode] at isField
      by_cases last : byte.toNat < 128
      · rw [if_pos last] at isField
        obtain ⟨rfl, rfl⟩ := by simpa using isField
        simpa using last
      · rw [if_neg last] at isField
        obtain ⟨⟨high, tail⟩, decoded, same⟩ := Option.map_eq_some_iff.mp isField
        obtain ⟨rfl, rfl⟩ := by simpa using same
        have bound := ih decoded
        rw [List.length_cons, Nat.pow_succ]
        omega

theorem IsFieldOf.value_lt_of_length_le {field : List UInt8} {value bytes : Nat}
    (isField : IsFieldOf field value) (short : field.length ≤ bytes) : value < 128 ^ bytes :=
  isField.value_lt.trans_le (Nat.pow_le_pow_right (by decide) short)

theorem IsFieldOf.length_pos {field : List UInt8} {value : Nat} (isField : IsFieldOf field value) :
    0 < field.length := by
  cases field with
  | nil => simp [IsFieldOf, decode] at isField
  | cons byte rest => simp

/-- The encoding is the shortest field of its number. -/
theorem encode_length_le_of_isField {field : List UInt8} {value : Nat}
    (isField : IsFieldOf field value) : (encode value).length ≤ field.length := by
  have positive := isField.length_pos
  obtain ⟨k, length⟩ : ∃ k, field.length = k + 1 := ⟨field.length - 1, by omega⟩
  rw [length, encode_length_le_iff, ← length]
  exact isField.value_lt

end UIoT.Base128
