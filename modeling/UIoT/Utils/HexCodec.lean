import UIoT.Utils.JsonParser

/-!
# Bytes as hexadecimal text

The encoder of `string_utils.c` counts bytes, and the decoder tests its length as that of the text and
counts bytes with it as well. It therefore writes as many bytes as the text has characters and reads
twice as many characters. The first half of what it writes are the bytes of the text
(`liteHexstrConvert_front`), and with the number of bytes as its length it inverts the encoder
(`liteHexstrConvert_liteHexbufConvert`), if that number is even.
-/

set_option autoImplicit false

namespace UIoT.Utils

/-- `zEncode`, the digits in lower and in upper case. -/
def zEncode (uppercase : Bool) : List UInt8 :=
  if uppercase then literal "0123456789ABCDEF" else literal "0123456789abcdef"

/-- The two characters of a byte. -/
def hexPair (uppercase : Bool) (byte : UInt8) : List UInt8 :=
  [(zEncode uppercase).getD ((byte >>> 4) &&& 0xF).toNat 0, (zEncode uppercase).getD (byte &&& 0xF).toNat 0]

/-- `LITE_hexbuf_convert`, over a buffer of at least `inLen` bytes. -/
def liteHexbufConvert (digest : List UInt8) (inLen : Int) (uppercase : Bool) : List UInt8 :=
  (digest.take inLen.toNat).flatMap (hexPair uppercase)

/-- `_hexval_of_char` -/
def hexvalOfChar (hex : UInt8) : UInt8 :=
  if isDigit hex then hex - 0x30
  else if 0x61 ≤ hex && hex ≤ 0x66 then hex - 0x61 + 10
  else if 0x41 ≤ hex && hex ≤ 0x46 then hex - 0x41 + 10
  else 0

/-- The characters that were read, by their index, and the bytes of `out_buf` from its start. -/
structure HexstrRun where
  reads : List Nat
  written : List UInt8
  deriving DecidableEq, Repr

/-- One pass of the loop at the index `i`. -/
def hexstrPass (hexstr : Nat → UInt8) (i : Nat) : UInt8 :=
  hexvalOfChar (hexstr (2 * i)) <<< 4 ||| hexvalOfChar (hexstr (2 * i + 1))

/-- `LITE_hexstr_convert` over the memory from `hexstr` on -/
def liteHexstrConvert (hexstr : Nat → UInt8) (inLen : Int) : HexstrRun :=
  if inLen.tmod 2 ≠ 0 then { reads := [], written := [] }
  else
    { reads := (List.range inLen.toNat).flatMap fun i => [2 * i, 2 * i + 1]
      written := (List.range inLen.toNat).map (hexstrPass hexstr) }

/-! ## Digits -/

theorem hexvalOfChar_zEncode (uppercase : Bool) {digit : Nat} (small : digit < 16) :
    hexvalOfChar ((zEncode uppercase).getD digit 0) = UInt8.ofNat digit := by
  have table : ∀ digit < 16, hexvalOfChar ((zEncode uppercase).getD digit 0) = UInt8.ofNat digit := by
    cases uppercase
    · decide
    · decide
  exact table digit small

theorem toNat_and_15 (byte : UInt8) : (byte &&& 0xF).toNat = byte.toNat % 16 :=
  Nat.and_two_pow_sub_one_eq_mod byte.toNat 4

/-- A byte is its upper half and its lower half. -/
theorem halves_or (byte : UInt8) :
    UInt8.ofNat ((byte >>> 4) &&& 0xF).toNat <<< 4 ||| UInt8.ofNat (byte &&& 0xF).toNat = byte := by
  have table : ∀ n < 256, ((UInt8.ofNat n >>> 4) &&& 0xF) <<< 4 ||| (UInt8.ofNat n &&& 0xF) =
      UInt8.ofNat n := by
    decide +kernel
  have entry := table byte.toNat byte.toNat_lt
  rw [UInt8.ofNat_toNat] at entry
  rw [UInt8.ofNat_toNat, UInt8.ofNat_toNat, entry]

/-- The memory from some address on begins with this text. -/
def BeginsWith (memory : Nat → UInt8) (text : List UInt8) : Prop :=
  ∀ i, ∀ inside : i < text.length, memory i = text[i]

section Texts

variable {hexstr : Nat → UInt8} {uppercase : Bool} {b : List UInt8}

theorem BeginsWith.cons {byte : UInt8} {bytes : List UInt8}
    (begins : BeginsWith hexstr ((byte :: bytes).flatMap (hexPair uppercase))) :
    hexstrPass hexstr 0 = byte ∧
      BeginsWith (fun i => hexstr (i + 2)) (bytes.flatMap (hexPair uppercase)) := by
  constructor
  · have high : hexstr 0 = (zEncode uppercase).getD ((byte >>> 4) &&& 0xF).toNat 0 :=
      begins 0 (Nat.zero_lt_succ _)
    have low : hexstr 1 = (zEncode uppercase).getD (byte &&& 0xF).toNat 0 :=
      begins 1 (Nat.succ_lt_succ (Nat.zero_lt_succ _))
    have upper : ((byte >>> 4) &&& 0xF).toNat < 16 := by
      rw [toNat_and_15]
      exact Nat.mod_lt _ (by decide)
    have lower : (byte &&& 0xF).toNat < 16 := by
      rw [toNat_and_15]
      exact Nat.mod_lt _ (by decide)
    rw [hexstrPass, Nat.mul_zero, Nat.zero_add, high, low, hexvalOfChar_zEncode uppercase upper,
      hexvalOfChar_zEncode uppercase lower]
    exact halves_or byte
  · intro i inside
    exact begins (i + 2) (Nat.add_lt_add_right inside 2)

/-- The passes over the text of some bytes give these bytes. -/
theorem hexstrPass_text (begins : BeginsWith hexstr (b.flatMap (hexPair uppercase))) :
    (List.range b.length).map (hexstrPass hexstr) = b := by
  induction b generalizing hexstr with
  | nil => rfl
  | cons byte bytes inductionHypothesis =>
      obtain ⟨first, later⟩ := begins.cons
      have rest := inductionHypothesis later
      rw [List.length_cons, List.range_succ_eq_map, List.map_cons, List.map_map, first]
      congr 1

theorem liteHexbufConvert_all (bytes : List UInt8) :
    liteHexbufConvert bytes bytes.length uppercase = bytes.flatMap (hexPair uppercase) := by
  rw [liteHexbufConvert, Int.toNat_natCast, List.take_length]

theorem liteHexstrConvert_even (hexstr : Nat → UInt8) {inLen : Nat} (even : inLen % 2 = 0) :
    liteHexstrConvert hexstr inLen =
      { reads := (List.range inLen).flatMap fun i => [2 * i, 2 * i + 1]
        written := (List.range inLen).map (hexstrPass hexstr) } := by
  have whole : (inLen : Int).tmod 2 = 0 := by
    rw [Int.tmod_eq_emod_of_nonneg (Int.natCast_nonneg inLen)]
    omega
  rw [liteHexstrConvert, if_neg (not_not_intro whole), Int.toNat_natCast]

/-- With the length of a text of `n` bytes it makes `2 * n` passes. -/
theorem liteHexstrConvert_text (hexstr : Nat → UInt8) (n : Nat) :
    liteHexstrConvert hexstr (2 * n) =
      { reads := (List.range (2 * n)).flatMap fun i => [2 * i, 2 * i + 1]
        written := (List.range (2 * n)).map (hexstrPass hexstr) } :=
  liteHexstrConvert_even hexstr (Nat.mul_mod_right 2 n)

/-- The decoder inverts the encoder when it is given the number of bytes. -/
theorem liteHexstrConvert_liteHexbufConvert (even : b.length % 2 = 0)
    (begins : BeginsWith hexstr (liteHexbufConvert b b.length uppercase)) :
    (liteHexstrConvert hexstr b.length).written = b := by
  rw [liteHexbufConvert_all] at begins
  rw [liteHexstrConvert_even hexstr even]
  exact hexstrPass_text begins

/-- With the length of the text it writes the bytes first, and more behind them. -/
theorem liteHexstrConvert_front
    (begins : BeginsWith hexstr (liteHexbufConvert b b.length uppercase)) :
    (liteHexstrConvert hexstr (2 * b.length)).written.take b.length = b := by
  rw [liteHexbufConvert_all] at begins
  have front : min b.length (2 * b.length) = b.length := by omega
  rw [liteHexstrConvert_text, ← List.map_take, List.take_range, front]
  exact hexstrPass_text begins

end Texts

/-! ## The round trip -/

/-- From the text of the bytes and its length the decoder makes the bytes, and reads nothing behind the
text. -/
structure RoundTrips (b : List UInt8) (uppercase : Bool) : Prop where
  reads : ∀ hexstr, BeginsWith hexstr (liteHexbufConvert b b.length uppercase) →
    ∀ i ∈ (liteHexstrConvert hexstr (2 * b.length)).reads, i < 2 * b.length
  written : ∀ hexstr, BeginsWith hexstr (liteHexbufConvert b b.length uppercase) →
    (liteHexstrConvert hexstr (2 * b.length)).written = b

/-- The memory that holds a text and zeros behind it. -/
def memoryOf (text : List UInt8) (i : Nat) : UInt8 := text.getD i 0

theorem memoryOf_beginsWith (text : List UInt8) : BeginsWith (memoryOf text) text := by
  intro i inside
  exact (List.getElem_eq_getD 0).symm

/-- As many bytes are written as the text has characters. -/
theorem liteHexstrConvert_length (hexstr : Nat → UInt8) (n : Nat) :
    (liteHexstrConvert hexstr (2 * n)).written.length = 2 * n := by
  rw [liteHexstrConvert_text, List.length_map, List.length_range]

/-- Only the empty text comes back. -/
theorem roundTrips_iff (b : List UInt8) (uppercase : Bool) : RoundTrips b uppercase ↔ b = [] := by
  constructor
  · intro trips
    have written := trips.written _ (memoryOf_beginsWith _)
    have length := liteHexstrConvert_length (memoryOf (liteHexbufConvert b b.length uppercase)) b.length
    rw [written] at length
    apply List.eq_nil_of_length_eq_zero
    omega
  · intro empty
    subst empty
    constructor
    · intro hexstr begins i isRead
      exact absurd isRead List.not_mem_nil
    · intro hexstr begins
      rfl

/-- The text `ab` makes two bytes. -/
theorem not_roundTrips_ab : ¬RoundTrips [0xAB] false := by
  intro trips
  have written := trips.written _ (memoryOf_beginsWith _)
  exact absurd written (by decide)

example : liteHexstrConvert (memoryOf (literal "ab")) 2 =
    { reads := [0, 1, 2, 3], written := [0xAB, 0] } := by
  decide

end UIoT.Utils
