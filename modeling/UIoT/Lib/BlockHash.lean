import Mathlib.Algebra.Group.Nat.Defs
import Mathlib.Data.List.Basic
import Mathlib.Data.UInt

/-!
# Hashing in blocks

A hash function compresses a stream block by block and keeps the bytes behind
the last whole block. `absorb` does so for a stream that is there at once. A
stream that comes in pieces is absorbed piece by piece, each behind the bytes
that the one before it left (`absorb_append`), so the pieces do not matter.
-/

set_option autoImplicit false

namespace UIoT.BlockHash

variable {State Byte : Type} (size : Nat) (compress : State → List Byte → State)

/-- At most `turns` blocks from the start of a stream. -/
def absorbBlocks : Nat → State → List Byte → State × List Byte
  | 0, state, bytes => (state, bytes)
  | turns + 1, state, bytes =>
      if size ≤ bytes.length then absorbBlocks turns (compress state (bytes.take size)) (bytes.drop size)
      else (state, bytes)

/-- All whole blocks of a stream, and what is left behind them. -/
def absorb (state : State) (bytes : List Byte) : State × List Byte :=
  absorbBlocks size compress bytes.length state bytes

variable {size compress} {state : State} {bytes : List Byte}

/-- A stream shorter than a block is left as it is. -/
theorem absorbBlocks_short (turns : Nat) (short : bytes.length < size) :
    absorbBlocks size compress turns state bytes = (state, bytes) := by
  cases turns with
  | zero => rfl
  | succ turns => exact if_neg (Nat.not_le.mpr short)

/-- More turns than there are bytes make no difference. -/
theorem absorbBlocks_eq (positive : 0 < size) :
    ∀ (turns : Nat) (state : State) (bytes : List Byte), bytes.length ≤ turns →
      absorbBlocks size compress turns state bytes = absorb size compress state bytes := by
  have enough : ∀ (turns more : Nat) (state : State) (bytes : List Byte), bytes.length ≤ turns →
      absorbBlocks size compress (turns + more) state bytes =
        absorbBlocks size compress turns state bytes := by
    intro turns
    induction turns with
    | zero =>
        intro more state bytes none
        exact absorbBlocks_short _ (by omega)
    | succ turns ih =>
        intro more state bytes fits
        rw [Nat.add_right_comm, absorbBlocks, absorbBlocks]
        split
        · refine ih more _ _ ?_
          rw [List.length_drop]
          omega
        · rfl
  intro turns state bytes fits
  have split : turns = bytes.length + (turns - bytes.length) := by omega
  rw [absorb, split]
  exact enough _ _ _ _ (Nat.le_refl _)

theorem absorb_short (short : bytes.length < size) :
    absorb size compress state bytes = (state, bytes) :=
  absorbBlocks_short _ short

/-- One block is compressed. -/
theorem absorb_block (positive : 0 < size) (block : size ≤ bytes.length) :
    absorb size compress state bytes =
      absorb size compress (compress state (bytes.take size)) (bytes.drop size) := by
  have some : bytes.length = bytes.length - 1 + 1 := by omega
  rw [absorb, some, absorbBlocks, if_pos block]
  refine absorbBlocks_eq positive _ _ _ ?_
  rw [List.length_drop]
  omega

/-- A stream in two pieces. -/
theorem absorb_append (positive : 0 < size) (state : State) (first second : List Byte) :
    absorb size compress state (first ++ second) =
      absorb size compress (absorb size compress state first).1
        ((absorb size compress state first).2 ++ second) := by
  induction length : first.length using Nat.strongRecOn generalizing state first with
  | ind n ih =>
      by_cases block : size ≤ first.length
      · have longer : size ≤ (first ++ second).length := by
          rw [List.length_append]
          omega
        rw [absorb_block positive longer, absorb_block positive block, List.take_append_of_le_length block,
          List.drop_append_of_le_length block]
        refine ih _ ?_ _ _ rfl
        rw [List.length_drop]
        omega
      · rw [absorb_short (Nat.not_le.mp block)]

/-- What is left is shorter than a block. -/
theorem absorb_rest (positive : 0 < size) (state : State) (bytes : List Byte) :
    (absorb size compress state bytes).2.length = bytes.length % size := by
  induction length : bytes.length using Nat.strongRecOn generalizing state bytes with
  | ind n ih =>
      by_cases block : size ≤ bytes.length
      · have shorter : (bytes.drop size).length = n - size := by
          rw [List.length_drop, length]
        rw [absorb_block positive block, ih (n - size) (by omega) _ _ shorter]
        exact (Nat.mod_eq_sub_mod (length ▸ block)).symm
      · rw [absorb_short (Nat.not_le.mp block), length, Nat.mod_eq_of_lt (by omega)]

/-- States that are represented by others are hashed alike. -/
theorem absorb_map {Other : Type} {compress' : Other → List Byte → Other} (represent : State → Other)
    (same : ∀ state block, compress' (represent state) block = represent (compress state block))
    (state : State) (bytes : List Byte) :
    absorb size compress' (represent state) bytes =
      (represent (absorb size compress state bytes).1, (absorb size compress state bytes).2) := by
  rw [absorb, absorb]
  generalize bytes.length = turns
  induction turns generalizing state bytes with
  | zero => rfl
  | succ turns ih =>
      rw [absorbBlocks, absorbBlocks]
      split
      · rw [same, ih]
      · rfl

/-- A piece that fills the block begun by what is left. -/
theorem absorb_filled (positive : 0 < size) (state : State) {left piece : List Byte}
    (room : left.length ≤ size) (fills : size - left.length ≤ piece.length) :
    absorb size compress state (left ++ piece) =
      absorb size compress (compress state (left ++ piece.take (size - left.length)))
        (piece.drop (size - left.length)) := by
  have whole : size = left.length + (size - left.length) := by omega
  have longer : size ≤ (left ++ piece).length := by
    rw [List.length_append]
    omega
  have block : (left ++ piece).take size = left ++ piece.take (size - left.length) := by
    conv_lhs => rw [whole, List.take_length_add_append]
  have behind : (left ++ piece).drop size = piece.drop (size - left.length) := by
    conv_lhs => rw [whole, List.drop_length_add_append]
  rw [absorb_block positive longer, block, behind]

/-! ## Streams through a buffer -/

/-- Storing bytes into a buffer. -/
def store (buf : List Byte) (offset : Nat) (bytes : List Byte) : List Byte :=
  buf.take offset ++ bytes ++ buf.drop (offset + bytes.length)

theorem store_length {buf stored : List Byte} {offset : Nat}
    (fits : offset + stored.length ≤ buf.length) : (store buf offset stored).length = buf.length := by
  rw [store, List.length_append, List.length_append, List.length_take, List.length_drop]
  omega

theorem store_take {buf stored : List Byte} {offset : Nat}
    (fits : offset + stored.length ≤ buf.length) :
    (store buf offset stored).take (offset + stored.length) = buf.take offset ++ stored := by
  have front : (buf.take offset ++ stored).length = offset + stored.length := by
    rw [List.length_append, List.length_take]
    omega
  rw [store, ← front, List.take_left]

/-- Storing up to the end of a buffer. -/
theorem store_end {buf stored : List Byte} {offset : Nat}
    (fits : offset + stored.length = buf.length) :
    store buf offset stored = buf.take offset ++ stored := by
  rw [store, List.drop_of_length_le (Nat.le_of_eq fits.symm), List.append_nil]

variable (size compress)

/-- A piece of a stream behind `left` bytes in a buffer: a block that is begun is filled in the buffer,
whole blocks are taken from the piece, and what is left of it is copied. -/
def update [DecidableEq Byte] (state : State) (buf : List Byte) (left : Nat) (piece : List Byte) :
    State × List Byte :=
  let filled := left ≠ 0 ∧ size - left ≤ piece.length
  let buffer := if filled then store buf left (piece.take (size - left)) else buf
  let state := if filled then compress state buffer else state
  let input := if filled then piece.drop (size - left) else piece
  let left := if filled then 0 else left
  let absorbed := absorb size compress state input
  (absorbed.1, if absorbed.2 = [] then buffer else store buffer left absorbed.2)

/-- The state and the buffer of a stream. -/
structure Buffered (start state : State) (buf bytes : List Byte) : Prop where
  length : buf.length = size
  absorbed : absorb size compress start bytes = (state, buf.take (bytes.length % size))

variable {size compress} {start : State} {buf piece : List Byte}

/-- What is left behind the blocks goes to the start of the buffer, or behind what is there. -/
theorem store_rest [DecidableEq Byte] {rest : List Byte} {offset : Nat}
    (fits : offset + rest.length ≤ buf.length) :
    (if rest = [] then buf else store buf offset rest).length = buf.length ∧
      (if rest = [] then buf else store buf offset rest).take (offset + rest.length) =
        buf.take offset ++ rest := by
  by_cases empty : rest = []
  · subst empty
    rw [if_pos rfl, List.length_nil, Nat.add_zero, List.append_nil]
    exact ⟨rfl, rfl⟩
  · rw [if_neg empty]
    exact ⟨store_length fits, store_take fits⟩

theorem store_start [DecidableEq Byte] {rest : List Byte} (fits : rest.length ≤ buf.length) :
    (if rest = [] then buf else store buf 0 rest).length = buf.length ∧
      (if rest = [] then buf else store buf 0 rest).take rest.length = rest := by
  have room : 0 + rest.length ≤ buf.length := by omega
  have kept := store_rest room
  rwa [Nat.zero_add, List.take_zero, List.nil_append] at kept

/-- A buffer that starts with what is left of a stream. -/
theorem Buffered.of_absorb (positive : 0 < size) {rest : List Byte}
    (absorbs : absorb size compress start bytes = (state, rest)) (length : buf.length = size)
    (front : buf.take rest.length = rest) : Buffered size compress start state buf bytes := by
  have restLength : (absorb size compress start bytes).2.length = bytes.length % size :=
    absorb_rest positive start bytes
  rw [absorbs] at restLength
  refine ⟨length, ?_⟩
  rw [absorbs, ← restLength, front]

/-- A piece extends the stream. -/
theorem Buffered.update [DecidableEq Byte] (positive : 0 < size)
    (stands : Buffered size compress start state buf bytes) (piece : List Byte) :
    Buffered size compress start
      (BlockHash.update size compress state buf (bytes.length % size) piece).1
      (BlockHash.update size compress state buf (bytes.length % size) piece).2 (bytes ++ piece) := by
  have remainder := Nat.mod_lt bytes.length positive
  have bufferLength := stands.length
  have whole : absorb size compress start (bytes ++ piece) =
      absorb size compress state (buf.take (bytes.length % size) ++ piece) := by
    rw [absorb_append positive, stands.absorbed]
  have short : ∀ (state : State) (bytes : List Byte),
      (absorb size compress state bytes).2.length ≤ size := by
    intro state bytes
    rw [absorb_rest positive]
    exact Nat.le_of_lt (Nat.mod_lt _ positive)
  generalize bytes.length % size = left at *
  have front : (buf.take left).length = left := by
    rw [List.length_take]
    omega
  rw [BlockHash.update]
  by_cases filled : left ≠ 0 ∧ size - left ≤ piece.length
  · have part : left + (piece.take (size - left)).length = buf.length := by
      rw [List.length_take]
      omega
    have stored := (store_length (Nat.le_of_eq part)).trans bufferLength
    have room : (buf.take left).length ≤ size := by omega
    have fills : size - (buf.take left).length ≤ piece.length := by omega
    rw [absorb_filled positive state room fills, front, ← store_end part] at whole
    simp only [filled, if_true, ne_eq, not_false_eq_true, and_self]
    have fits := Nat.le_trans (short (compress state (store buf left (piece.take (size - left))))
      (piece.drop (size - left))) (Nat.le_of_eq stored.symm)
    obtain ⟨sameLength, kept⟩ := store_start fits
    exact .of_absorb positive whole (sameLength.trans stored) kept
  · simp only [filled, if_false]
    by_cases begun : left = 0
    · subst begun
      rw [List.take_zero, List.nil_append] at whole
      obtain ⟨sameLength, kept⟩ := store_start
        (Nat.le_trans (short state piece) (Nat.le_of_eq bufferLength.symm))
      exact .of_absorb positive whole (sameLength.trans bufferLength) kept
    · -- The piece stays behind the bytes that are left.
      have small : left + piece.length < size := by omega
      have joined : (buf.take left ++ piece).length = left + piece.length := by
        rw [List.length_append, front]
      have alone : absorb size compress state piece = (state, piece) := by
        apply absorb_short
        omega
      have kept : absorb size compress state (buf.take left ++ piece) =
          (state, buf.take left ++ piece) := by
        apply absorb_short
        omega
      have room : left + piece.length ≤ buf.length := by omega
      obtain ⟨sameLength, stored⟩ := store_rest room
      rw [alone]
      refine .of_absorb positive (whole.trans kept) (sameLength.trans bufferLength) ?_
      rw [joined, stored]

/-! ## Padding to blocks of 64 bytes -/

/-- A one bit, and as few zeros as leave 8 bytes to a whole block, behind a message of some length. -/
def closing (length : Nat) : List UInt8 := 0x80 :: List.replicate ((119 - length % 64) % 64) 0

/-- The padding is cut out of a block. -/
theorem take_closing (length : Nat) :
    (0x80 :: List.replicate 63 0).take
        (if length % 64 < 56 then 56 - length % 64 else 120 - length % 64) = closing length := by
  have cut : ∀ n, 0 < n → n ≤ 64 →
      ((0x80 : UInt8) :: List.replicate 63 0).take n = 0x80 :: List.replicate (n - 1) 0 := by
    intro n positive fits
    obtain ⟨m, rfl⟩ := Nat.exists_eq_succ_of_ne_zero (Nat.pos_iff_ne_zero.mp positive)
    rw [List.take_succ_cons, List.take_replicate, Nat.min_eq_left (by omega)]
    rfl
  have room := Nat.mod_lt length (by decide : 0 < 64)
  rw [closing]
  generalize length % 64 = last at *
  split
  · rw [cut _ (by omega) (by omega)]
    congr 2
    omega
  · rw [cut _ (by omega) (by omega)]
    congr 2
    omega

/-- With 8 bytes more the blocks are whole. -/
theorem closing_length (length : Nat) : (length + (closing length).length + 8) % 64 = 0 := by
  rw [closing, List.length_cons, List.length_replicate]
  omega

/-! ## Lengths in two words -/

/-- Two words count a length modulo 2^64. -/
def Counts (low high : UInt32) (length : Nat) : Prop :=
  low.toNat + 2 ^ 32 * high.toNat = length % 2 ^ 64

variable {low high : UInt32} {length : Nat}

/-- The low word is added to, and a sum that wraps carries. -/
theorem Counts.add (counts : Counts low high length) {more : Nat} (short : more < 2 ^ 32) :
    Counts (low + UInt32.ofNat more)
      (if low + UInt32.ofNat more < UInt32.ofNat more then high + 1 else high) (length + more) := by
  rw [Counts] at counts
  have lowSmall := low.toNat_lt
  have highSmall := high.toNat_lt
  have isMore : (UInt32.ofNat more).toNat = more := Nat.mod_eq_of_lt short
  have sum : (low + UInt32.ofNat more).toNat = (low.toNat + more) % 2 ^ 32 := by
    rw [UInt32.toNat_add, isMore]
  have next : (high + 1).toNat = (high.toNat + 1) % 2 ^ 32 := UInt32.toNat_add _ _
  have carries : low + UInt32.ofNat more < UInt32.ofNat more ↔ 2 ^ 32 ≤ low.toNat + more := by
    rw [UInt32.lt_iff_toNat_lt, sum, isMore]
    omega
  rw [Counts]
  split
  · rename_i carry
    have passed := carries.mp carry
    rw [sum, next]
    omega
  · rename_i noCarry
    have below := mt carries.mpr noCarry
    rw [sum]
    omega

/-- The bytes behind the last block of 64. -/
theorem Counts.left (counts : Counts low high length) : (low &&& 0x3F).toNat = length % 64 := by
  rw [Counts] at counts
  have small := low.toNat_lt
  have mask : (low &&& 0x3F).toNat = low.toNat % 64 := Nat.and_two_pow_sub_one_eq_mod low.toNat 6
  omega

/-- The low word of the length in bits. -/
theorem Counts.low_bits (counts : Counts low high length) :
    low <<< 3 = UInt32.ofNat (8 * length) := by
  rw [Counts] at counts
  have small := low.toNat_lt
  have shifted : (low <<< 3).toNat = low.toNat * 2 ^ 3 % 2 ^ 32 := by
    rw [UInt32.toNat_shiftLeft, Nat.shiftLeft_eq]
    rfl
  apply UInt32.toNat_inj.mp
  rw [shifted, UInt32.toNat_ofNat']
  omega

/-- The high word takes the bits that are shifted out of the low one. -/
theorem Counts.high_bits (counts : Counts low high length) :
    low >>> 29 ||| high <<< 3 = UInt32.ofNat (8 * length / 2 ^ 32) := by
  rw [Counts] at counts
  have lowSmall := low.toNat_lt
  have highSmall := high.toNat_lt
  have right : (low >>> 29).toNat = low.toNat / 2 ^ 29 := by
    rw [UInt32.toNat_shiftRight, Nat.shiftRight_eq_div_pow]
    rfl
  have shifted : (high <<< 3).toNat = 2 ^ 3 * (high.toNat % 2 ^ 29) := by
    have three : UInt32.toNat 3 % 32 = 3 := rfl
    rw [UInt32.toNat_shiftLeft, Nat.shiftLeft_eq, three]
    omega
  apply UInt32.toNat_inj.mp
  rw [UInt32.toNat_or, right, shifted, Nat.or_comm, ← Nat.two_pow_add_eq_or_of_lt (by omega),
    UInt32.toNat_ofNat']
  omega

end UIoT.BlockHash
