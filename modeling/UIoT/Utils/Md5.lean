import UIoT.Lib.BlockHash
import UIoT.Net
import UIoT.Utils.JsonParser

/-!
# MD5

The context of `utils_md5.c` holds the length so far, the chaining state and the
bytes behind the last whole block. Updates take a stream piece by piece, and the
context stands for the stream whatever the pieces were (`utilsMd5Update_holds`), so
a message has the digest of its chunks (`utilsMd5Update_chunks`).
-/

set_option autoImplicit false

namespace UIoT.Utils

/-- The four words of the chaining state. -/
structure Md5State where
  a : UInt32
  b : UInt32
  c : UInt32
  d : UInt32
  deriving DecidableEq, Repr

/-- `iot_md5_context` -/
structure Md5Context where
  total0 : UInt32
  total1 : UInt32
  state : Md5State
  buffer : List UInt8
  deriving DecidableEq, Repr

/-- `utils_md5_init` and `utils_md5_starts` -/
def utilsMd5Starts : Md5Context where
  total0 := 0
  total1 := 0
  state := ⟨0x67452301, 0xEFCDAB89, 0x98BADCFE, 0x10325476⟩
  buffer := List.replicate 64 0

/-! ## Words -/

/-- `IOT_MD5_GET_UINT32_LE` -/
def getUInt32LE (bytes : List UInt8) (i : Nat) : UInt32 :=
  (bytes.getD i 0).toUInt32 ||| (bytes.getD (i + 1) 0).toUInt32 <<< 8 |||
    (bytes.getD (i + 2) 0).toUInt32 <<< 16 ||| (bytes.getD (i + 3) 0).toUInt32 <<< 24

/-- `IOT_MD5_PUT_UINT32_LE` -/
def putUInt32LE (n : UInt32) : List UInt8 :=
  [n.toUInt8, (n >>> 8).toUInt8, (n >>> 16).toUInt8, (n >>> 24).toUInt8]

/-! ## One block -/

def functionF (x y z : UInt32) : UInt32 := z ^^^ (x &&& (y ^^^ z))
def functionG (x y z : UInt32) : UInt32 := y ^^^ (z &&& (x ^^^ y))
def functionH (x y z : UInt32) : UInt32 := x ^^^ y ^^^ z
def functionI (x y z : UInt32) : UInt32 := y ^^^ (x ||| ~~~z)

/-- `S` -/
def rotate (x n : UInt32) : UInt32 := x <<< n ||| x >>> (32 - n)

/-- `P`, after which the registers stand as the next step takes them. -/
def stepP (f : UInt32 → UInt32 → UInt32 → UInt32) (word : Nat → UInt32) (r : Md5State)
    (row : Nat × UInt32 × UInt32) : Md5State :=
  let (k, s, t) := row
  { a := r.d, b := rotate (r.a + f r.b r.c r.d + word k + t) s + r.b, c := r.b, d := r.c }

/-- The index of the word, the shift and the constant of each step. -/
def firstRound : List (Nat × UInt32 × UInt32) :=
  [ (0, 7, 0xD76AA478), (1, 12, 0xE8C7B756), (2, 17, 0x242070DB), (3, 22, 0xC1BDCEEE),
    (4, 7, 0xF57C0FAF), (5, 12, 0x4787C62A), (6, 17, 0xA8304613), (7, 22, 0xFD469501),
    (8, 7, 0x698098D8), (9, 12, 0x8B44F7AF), (10, 17, 0xFFFF5BB1), (11, 22, 0x895CD7BE),
    (12, 7, 0x6B901122), (13, 12, 0xFD987193), (14, 17, 0xA679438E), (15, 22, 0x49B40821) ]

@[inherit_doc firstRound]
def secondRound : List (Nat × UInt32 × UInt32) :=
  [ (1, 5, 0xF61E2562), (6, 9, 0xC040B340), (11, 14, 0x265E5A51), (0, 20, 0xE9B6C7AA),
    (5, 5, 0xD62F105D), (10, 9, 0x02441453), (15, 14, 0xD8A1E681), (4, 20, 0xE7D3FBC8),
    (9, 5, 0x21E1CDE6), (14, 9, 0xC33707D6), (3, 14, 0xF4D50D87), (8, 20, 0x455A14ED),
    (13, 5, 0xA9E3E905), (2, 9, 0xFCEFA3F8), (7, 14, 0x676F02D9), (12, 20, 0x8D2A4C8A) ]

@[inherit_doc firstRound]
def thirdRound : List (Nat × UInt32 × UInt32) :=
  [ (5, 4, 0xFFFA3942), (8, 11, 0x8771F681), (11, 16, 0x6D9D6122), (14, 23, 0xFDE5380C),
    (1, 4, 0xA4BEEA44), (4, 11, 0x4BDECFA9), (7, 16, 0xF6BB4B60), (10, 23, 0xBEBFBC70),
    (13, 4, 0x289B7EC6), (0, 11, 0xEAA127FA), (3, 16, 0xD4EF3085), (6, 23, 0x04881D05),
    (9, 4, 0xD9D4D039), (12, 11, 0xE6DB99E5), (15, 16, 0x1FA27CF8), (2, 23, 0xC4AC5665) ]

@[inherit_doc firstRound]
def fourthRound : List (Nat × UInt32 × UInt32) :=
  [ (0, 6, 0xF4292244), (7, 10, 0x432AFF97), (14, 15, 0xAB9423A7), (5, 21, 0xFC93A039),
    (12, 6, 0x655B59C3), (3, 10, 0x8F0CCC92), (10, 15, 0xFFEFF47D), (1, 21, 0x85845DD1),
    (8, 6, 0x6FA87E4F), (15, 10, 0xFE2CE6E0), (6, 15, 0xA3014314), (13, 21, 0x4E0811A1),
    (4, 6, 0xF7537E82), (11, 10, 0xBD3AF235), (2, 15, 0x2AD7D2BB), (9, 21, 0xEB86D391) ]

/-- `utils_md5_process` -/
def utilsMd5Process (state : Md5State) (data : List UInt8) : Md5State :=
  let word := fun k => getUInt32LE data (4 * k)
  let r := firstRound.foldl (stepP functionF word) state
  let r := secondRound.foldl (stepP functionG word) r
  let r := thirdRound.foldl (stepP functionH word) r
  let r := fourthRound.foldl (stepP functionI word) r
  { a := state.a + r.a, b := state.b + r.b, c := state.c + r.c, d := state.d + r.d }

/-! ## Streams -/

/-- `utils_md5_update` -/
def utilsMd5Update (ctx : Md5Context) (input : List UInt8) : Md5Context :=
  if input.length = 0 then ctx
  else
    let left := (ctx.total0 &&& 0x3F).toNat
    let fill := 64 - left
    let ilen := UInt32.ofNat input.length
    let total0 := ctx.total0 + ilen
    let total1 := if total0 < ilen then ctx.total1 + 1 else ctx.total1
    let ctx := { ctx with total0 := total0, total1 := total1 }
    let filled := left ≠ 0 ∧ fill ≤ input.length
    let buffer := if filled then overwrite ctx.buffer left (input.take fill) else ctx.buffer
    let state := if filled then utilsMd5Process ctx.state buffer else ctx.state
    let input := if filled then input.drop fill else input
    let left := if filled then 0 else left
    -- the loop over whole blocks
    let (state, rest) := BlockHash.absorb 64 utilsMd5Process state input
    let buffer := if rest = [] then buffer else overwrite buffer left rest
    { ctx with state := state, buffer := buffer }

/-- `iot_md5_padding` -/
def iotMd5Padding : List UInt8 := 0x80 :: List.replicate 63 0

/-- `utils_md5_finish`: the context goes on behind the padding. -/
def utilsMd5Finish (ctx : Md5Context) : List UInt8 × Md5Context :=
  let high := ctx.total0 >>> 29 ||| ctx.total1 <<< 3
  let low := ctx.total0 <<< 3
  let msglen := putUInt32LE low ++ putUInt32LE high
  let last := (ctx.total0 &&& 0x3F).toNat
  let padn := if last < 56 then 56 - last else 120 - last
  let ctx := utilsMd5Update ctx (iotMd5Padding.take padn)
  let ctx := utilsMd5Update ctx msglen
  (putUInt32LE ctx.state.a ++ putUInt32LE ctx.state.b ++ putUInt32LE ctx.state.c ++
    putUInt32LE ctx.state.d, ctx)

/-- `utils_hb2hex` -/
def utilsHb2Hex (hb : UInt8) : UInt8 :=
  let hb := hb &&& 0xF
  if hb < 10 then 0x30 + hb else hb - 10 + 0x61

/-- `utils_md5_finish_hb2hex` -/
def utilsMd5FinishHb2Hex (ctx : Md5Context) : List UInt8 × Md5Context :=
  let (output, ctx) := utilsMd5Finish ctx
  (output.flatMap fun (byte : UInt8) => [utilsHb2Hex (byte >>> 4), utilsHb2Hex byte], ctx)

/-! ## The digest of a stream -/

/-- The length of a stream in bits, the low word first. -/
def bitLength (bytes : List UInt8) : List UInt8 :=
  putUInt32LE (UInt32.ofNat (8 * bytes.length)) ++
    putUInt32LE (UInt32.ofNat (8 * bytes.length / 2 ^ 32))

/-- The bytes of the padding that end a stream 8 bytes short of a block. -/
def paddingLength (bytes : List UInt8) : Nat :=
  if bytes.length % 64 < 56 then 56 - bytes.length % 64 else 120 - bytes.length % 64

/-- A padded stream. -/
def padded (bytes : List UInt8) : List UInt8 :=
  bytes ++ iotMd5Padding.take (paddingLength bytes) ++ bitLength bytes

def hexDigits (bytes : List UInt8) : List UInt8 :=
  bytes.flatMap fun (byte : UInt8) => [utilsHb2Hex (byte >>> 4), utilsHb2Hex byte]

def Md5State.digest (state : Md5State) : List UInt8 :=
  putUInt32LE state.a ++ putUInt32LE state.b ++ putUInt32LE state.c ++ putUInt32LE state.d

/-- The MD5 of a stream in hexadecimal. -/
def md5Hex (bytes : List UInt8) : List UInt8 :=
  hexDigits (BlockHash.absorb 64 utilsMd5Process utilsMd5Starts.state (padded bytes)).1.digest

example : md5Hex (literal "abc") = literal "900150983cd24fb0d6963f7d28e17f72" := by decide +kernel

/-! ## A context stands for a stream -/

/-- The context is the one of a stream, but for the bytes of its buffer that are
behind those left. -/
structure Holds (ctx : Md5Context) (bytes : List UInt8) : Prop where
  total : ctx.total0.toNat + 2 ^ 32 * ctx.total1.toNat = bytes.length % 2 ^ 64
  buffer : ctx.buffer.length = 64
  absorbed : BlockHash.absorb 64 utilsMd5Process utilsMd5Starts.state bytes =
    (ctx.state, ctx.buffer.take (bytes.length % 64))

theorem utilsMd5Starts_holds : Holds utilsMd5Starts [] := ⟨rfl, rfl, rfl⟩

variable {ctx : Md5Context} {bytes : List UInt8}

theorem Holds.left (holds : Holds ctx bytes) :
    (ctx.total0 &&& 0x3F).toNat = bytes.length % 64 := by
  have total := holds.total
  have small := ctx.total0.toNat_lt
  have mask : (ctx.total0 &&& 0x3F).toNat = ctx.total0.toNat % 64 :=
    Nat.and_two_pow_sub_one_eq_mod ctx.total0.toNat 6
  omega

/-- The length after an update. -/
theorem Holds.total_update (holds : Holds ctx bytes) {piece : List UInt8}
    (short : piece.length < 2 ^ 32) :
    let ilen := UInt32.ofNat piece.length
    (ctx.total0 + ilen).toNat +
        2 ^ 32 * (if ctx.total0 + ilen < ilen then ctx.total1 + 1 else ctx.total1).toNat =
      (bytes ++ piece).length % 2 ^ 64 := by
  intro ilen
  have total := holds.total
  have low := ctx.total0.toNat_lt
  have high := ctx.total1.toNat_lt
  have isLength : ilen.toNat = piece.length := Nat.mod_eq_of_lt short
  have sum : (ctx.total0 + ilen).toNat = (ctx.total0.toNat + piece.length) % 2 ^ 32 := by
    rw [UInt32.toNat_add, isLength]
  have next : (ctx.total1 + 1).toNat = (ctx.total1.toNat + 1) % 2 ^ 32 := UInt32.toNat_add _ _
  have carries : ctx.total0 + ilen < ilen ↔ 2 ^ 32 ≤ ctx.total0.toNat + piece.length := by
    rw [UInt32.lt_iff_toNat_lt, sum, isLength]
    omega
  rw [List.length_append]
  split
  · rename_i carry
    have passed := carries.mp carry
    rw [sum, next]
    omega
  · rename_i noCarry
    have below := mt carries.mpr noCarry
    rw [sum]
    omega

/-- Bytes behind those left in a buffer. -/
theorem buffer_take {buf rest : List UInt8} {left : Nat} (fits : left + rest.length ≤ buf.length) :
    (if rest = [] then buf else overwrite buf left rest).take (left + rest.length) =
      buf.take left ++ rest := by
  split
  · rename_i empty
    rw [empty, List.length_nil, Nat.add_zero, List.append_nil]
  · exact overwrite_take fits

theorem buffer_length {buf rest : List UInt8} {left : Nat} (fits : left + rest.length ≤ buf.length) :
    (if rest = [] then buf else overwrite buf left rest).length = buf.length := by
  split
  · rfl
  · exact overwrite_length fits

/-- The bytes left in the buffer and the first ones of a piece make a block. -/
theorem utilsMd5Process_filled {buf piece : List UInt8} {left : Nat} (state : Md5State)
    (room : left < 64) (length : buf.length = 64) (filled : 64 - left ≤ piece.length) :
    BlockHash.absorb 64 utilsMd5Process state (buf.take left ++ piece) =
      BlockHash.absorb 64 utilsMd5Process
        (utilsMd5Process state (overwrite buf left (piece.take (64 - left))))
        (piece.drop (64 - left)) := by
  have front : (buf.take left).length = left := by
    rw [List.length_take]
    omega
  have joined : 64 = (buf.take left).length + (64 - left) := by omega
  have block : (buf.take left ++ piece).take 64 = overwrite buf left (piece.take (64 - left)) := by
    rw [overwrite, List.drop_of_length_le, List.append_nil]
    · rw [joined, List.take_length_add_append, front, Nat.add_sub_cancel_left]
    · rw [List.length_take]
      omega
  have behind : (buf.take left ++ piece).drop 64 = piece.drop (64 - left) := by
    rw [joined, List.drop_length_add_append, front, Nat.add_sub_cancel_left]
  rw [BlockHash.absorb_block (by decide), block, behind]
  rw [List.length_append, front]
  omega

theorem buffer_start {buf rest : List UInt8} (fits : rest.length ≤ buf.length) :
    (if rest = [] then buf else overwrite buf 0 rest).take rest.length = rest := by
  have kept := @buffer_take buf rest 0 (by omega)
  rwa [Nat.zero_add, List.take_zero, List.nil_append] at kept

/-- An update extends the stream. -/
theorem utilsMd5Update_holds (holds : Holds ctx bytes) {piece : List UInt8}
    (short : piece.length < 2 ^ 32) : Holds (utilsMd5Update ctx piece) (bytes ++ piece) := by
  have positive : 0 < 64 := by decide
  by_cases empty : piece.length = 0
  · rw [utilsMd5Update, if_pos empty, List.length_eq_zero_iff.mp empty, List.append_nil]
    exact holds
  have total := holds.total_update short
  have isLeft := holds.left
  have bufferLength := holds.buffer
  have remainder := Nat.mod_lt bytes.length positive
  have whole : BlockHash.absorb 64 utilsMd5Process utilsMd5Starts.state (bytes ++ piece) =
      BlockHash.absorb 64 utilsMd5Process ctx.state
        (ctx.buffer.take (bytes.length % 64) ++ piece) := by
    rw [BlockHash.absorb_append positive, holds.absorbed]
  have restLength : (BlockHash.absorb 64 utilsMd5Process utilsMd5Starts.state
      (bytes ++ piece)).2.length = (bytes ++ piece).length % 64 :=
    BlockHash.absorb_rest positive _ _
  have restShort := Nat.mod_lt (bytes ++ piece).length positive
  rw [utilsMd5Update, if_neg empty]
  dsimp only
  rw [isLeft]
  generalize bytes.length % 64 = left at *
  by_cases filled : left ≠ 0 ∧ 64 - left ≤ piece.length
  · rw [utilsMd5Process_filled ctx.state remainder bufferLength filled.2] at whole
    have overwritten : (overwrite ctx.buffer left (piece.take (64 - left))).length = 64 := by
      rw [overwrite_length, bufferLength]
      rw [bufferLength, List.length_take]
      omega
    simp only [filled, if_true, ne_eq, not_false_eq_true, and_self]
    rw [whole] at restLength
    rw [← restLength] at restShort
    refine ⟨total, ?_, ?_⟩
    · rw [buffer_length, overwritten]
      omega
    · rw [whole, ← restLength, buffer_start]
      rw [overwritten]
      exact Nat.le_of_lt restShort
  · by_cases start : left = 0
    · subst start
      rw [List.take_zero, List.nil_append] at whole
      rw [whole] at restLength
      rw [← restLength] at restShort
      simp only [filled, if_false]
      refine ⟨total, ?_, ?_⟩
      · rw [buffer_length, bufferLength]
        omega
      · rw [whole, ← restLength, buffer_start]
        rw [bufferLength]
        exact Nat.le_of_lt restShort
    · -- The piece stays behind the bytes that are left.
      have small : left + piece.length < 64 := by omega
      have front : (ctx.buffer.take left ++ piece).length = left + piece.length := by
        rw [List.length_append, List.length_take]
        omega
      have kept : BlockHash.absorb 64 utilsMd5Process ctx.state (ctx.buffer.take left ++ piece) =
          (ctx.state, ctx.buffer.take left ++ piece) := by
        apply BlockHash.absorb_short
        rw [front]
        exact small
      have alone : BlockHash.absorb 64 utilsMd5Process ctx.state piece = (ctx.state, piece) := by
        apply BlockHash.absorb_short
        omega
      rw [kept] at whole
      rw [whole, front] at restLength
      simp only [filled, if_false, alone]
      refine ⟨total, ?_, ?_⟩
      · rw [buffer_length, bufferLength]
        omega
      · rw [whole, ← restLength, buffer_take (by omega)]

/-- The words that count the bits. -/
theorem Holds.bitLength_eq (holds : Holds ctx bytes) :
    putUInt32LE (ctx.total0 <<< 3) ++ putUInt32LE (ctx.total0 >>> 29 ||| ctx.total1 <<< 3) =
      bitLength bytes := by
  have total := holds.total
  have low := ctx.total0.toNat_lt
  have high := ctx.total1.toNat_lt
  have lowWord : ctx.total0 <<< 3 = UInt32.ofNat (8 * bytes.length) := by
    apply UInt32.toNat_inj.mp
    have shifted : (ctx.total0 <<< 3).toNat = ctx.total0.toNat * 2 ^ 3 % 2 ^ 32 := by
      rw [UInt32.toNat_shiftLeft, Nat.shiftLeft_eq]
      rfl
    rw [shifted, UInt32.toNat_ofNat']
    omega
  have highWord : ctx.total0 >>> 29 ||| ctx.total1 <<< 3 =
      UInt32.ofNat (8 * bytes.length / 2 ^ 32) := by
    apply UInt32.toNat_inj.mp
    have right : (ctx.total0 >>> 29).toNat = ctx.total0.toNat / 2 ^ 29 := by
      rw [UInt32.toNat_shiftRight, Nat.shiftRight_eq_div_pow]
      rfl
    have shifted : (ctx.total1 <<< 3).toNat = 2 ^ 3 * (ctx.total1.toNat % 2 ^ 29) := by
      rw [UInt32.toNat_shiftLeft, Nat.shiftLeft_eq]
      have three : UInt32.toNat 3 % 32 = 3 := rfl
      rw [three]
      omega
    rw [UInt32.toNat_or, right, shifted, Nat.or_comm, ← Nat.two_pow_add_eq_or_of_lt (by omega),
      UInt32.toNat_ofNat']
    omega
  rw [lowWord, highWord, bitLength]

/-- The digest is that of the stream, whatever its pieces were. -/
theorem utilsMd5Finish_eq (holds : Holds ctx bytes) :
    (utilsMd5Finish ctx).1 =
      (BlockHash.absorb 64 utilsMd5Process utilsMd5Starts.state (padded bytes)).1.digest := by
  have isLeft := holds.left
  have counted := holds.bitLength_eq
  have padding : (if (ctx.total0 &&& 0x3F).toNat < 56 then 56 - (ctx.total0 &&& 0x3F).toNat
      else 120 - (ctx.total0 &&& 0x3F).toNat) = paddingLength bytes := by
    rw [isLeft, paddingLength]
  have shortPadding : (iotMd5Padding.take (paddingLength bytes)).length < 2 ^ 32 := by
    have whole := List.length_take_le' (paddingLength bytes) iotMd5Padding
    exact Nat.lt_of_le_of_lt whole (by decide)
  have shortLength : (bitLength bytes).length < 2 ^ 32 := by
    have eight : (bitLength bytes).length = 8 := rfl
    omega
  have ends := utilsMd5Update_holds (utilsMd5Update_holds holds shortPadding) shortLength
  have last := congrArg Prod.fst ends.absorbed
  rw [padded, last, utilsMd5Finish, Md5State.digest]
  dsimp only
  rw [padding, counted]

theorem utilsMd5FinishHb2Hex_eq (holds : Holds ctx bytes) :
    (utilsMd5FinishHb2Hex ctx).1 = md5Hex bytes := by
  rw [md5Hex, ← utilsMd5Finish_eq holds, utilsMd5FinishHb2Hex, hexDigits]

/-! ## Streams in chunks -/

/-- Chunks one after the other extend the stream by all of them. -/
theorem foldl_utilsMd5Update_holds {chunks : List (List UInt8)} (holds : Holds ctx bytes)
    (short : chunks.flatten.length < 2 ^ 32) :
    Holds (chunks.foldl utilsMd5Update ctx) (bytes ++ chunks.flatten) := by
  induction chunks generalizing ctx bytes with
  | nil =>
      rw [List.flatten_nil, List.append_nil]
      exact holds
  | cons chunk chunks inductionHypothesis =>
      rw [List.flatten_cons, List.length_append] at short
      have first := utilsMd5Update_holds holds (Nat.lt_of_le_of_lt (Nat.le_add_right _ _) short)
      rw [List.foldl_cons, List.flatten_cons, ← List.append_assoc]
      apply inductionHypothesis first
      exact Nat.lt_of_le_of_lt (Nat.le_add_left _ _) short

/-- However a message is split, its chunks have the digest that it has at once. -/
theorem utilsMd5Update_chunks (chunks : List (List UInt8)) (short : chunks.flatten.length < 2 ^ 32) :
    (utilsMd5Finish (chunks.foldl utilsMd5Update utilsMd5Starts)).1 =
        (utilsMd5Finish (utilsMd5Update utilsMd5Starts chunks.flatten)).1 ∧
      (utilsMd5FinishHb2Hex (chunks.foldl utilsMd5Update utilsMd5Starts)).1 =
        (utilsMd5FinishHb2Hex (utilsMd5Update utilsMd5Starts chunks.flatten)).1 := by
  have split := foldl_utilsMd5Update_holds utilsMd5Starts_holds short
  have whole := utilsMd5Update_holds utilsMd5Starts_holds short
  constructor
  · rw [utilsMd5Finish_eq split, utilsMd5Finish_eq whole]
  · rw [utilsMd5FinishHb2Hex_eq split, utilsMd5FinishHb2Hex_eq whole]

/-- Two chunks and an empty one. -/
theorem utilsMd5Update_abc :
    (utilsMd5Finish ([literal "ab", [], literal "c"].foldl utilsMd5Update utilsMd5Starts)).1 =
      (utilsMd5Finish (utilsMd5Update utilsMd5Starts (literal "abc"))).1 :=
  (utilsMd5Update_chunks [literal "ab", [], literal "c"] (by decide)).1

end UIoT.Utils
