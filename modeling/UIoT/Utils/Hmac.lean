import UIoT.Utils.Sha2

/-!
# Digests and keyed digests

A context of `utils_sha2.c` stands for the stream that it was given, whatever the pieces were
(`utilsSha256Update_holds`), so the digest is the SHA-256 of the stream (`utilsSha256Finish_chunks`).
`utils_hmac_sha256` is the keyed hash for keys of at most a block; for a longer key, which would have
to be hashed first, it leaves the output as it was (`utilsHmacSha256_eq`).
-/

set_option autoImplicit false

namespace UIoT.Utils

open Sha2 BlockHash

/-! ## A context stands for a stream -/

/-- The context is the one of a stream, but for the bytes of its buffer that are behind those left. -/
structure Sha256Context.Holds (ctx : Sha256Context) (bytes : List UInt8) : Prop where
  counts : Counts ctx.total0 ctx.total1 bytes.length
  buffered : Buffered 64 utilsSha256Process (registers Sha256.initial) ctx.state ctx.buffer bytes
  is224 : ctx.is224 = 0

variable {ctx : Sha256Context} {bytes output : List UInt8}

theorem utilsSha256Starts_holds (ctx : Sha256Context) (buffer : ctx.buffer.length = 64) :
    (utilsSha256Starts ctx).Holds [] where
  counts := rfl
  buffered := ⟨buffer, rfl⟩
  is224 := rfl

/-- The update is that of a buffered stream, with its length. -/
theorem utilsSha256Update_eq (ctx : Sha256Context) {input : List UInt8} (some : input.length ≠ 0) :
    utilsSha256Update ctx input =
      let sum := ctx.total0 + UInt32.ofNat input.length
      let updated := update 64 utilsSha256Process ctx.state ctx.buffer (ctx.total0 &&& 0x3F).toNat input
      { total0 := sum
        total1 := if sum < UInt32.ofNat input.length then ctx.total1 + 1 else ctx.total1
        state := updated.1
        buffer := updated.2
        is224 := ctx.is224 } := by
  have mask : ∀ x : UInt32, x &&& 0xFFFFFFFF = x := fun x =>
    UInt32.toBitVec_inj.mp BitVec.and_allOnes
  simp only [utilsSha256Update, if_neg some, mask]
  rfl

/-- An update extends the stream. -/
theorem utilsSha256Update_holds (holds : ctx.Holds bytes) {piece : List UInt8}
    (short : piece.length < 2 ^ 32) : (utilsSha256Update ctx piece).Holds (bytes ++ piece) := by
  by_cases empty : piece.length = 0
  · rw [utilsSha256Update, if_pos empty, List.length_eq_zero_iff.mp empty, List.append_nil]
    exact holds
  · rw [utilsSha256Update_eq ctx empty]
    refine ⟨?_, ?_, holds.is224⟩
    · rw [List.length_append]
      exact holds.counts.add short
    · rw [holds.counts.left]
      exact holds.buffered.update (by decide) piece

/-- Chunks one after the other extend the stream by all of them. -/
theorem foldl_utilsSha256Update_holds {chunks : List (List UInt8)} (holds : ctx.Holds bytes)
    (short : ∀ chunk ∈ chunks, chunk.length < 2 ^ 32) :
    (chunks.foldl utilsSha256Update ctx).Holds (bytes ++ chunks.flatten) := by
  induction chunks generalizing ctx bytes with
  | nil =>
      rw [List.flatten_nil, List.append_nil]
      exact holds
  | cons chunk chunks inductionHypothesis =>
      have first := utilsSha256Update_holds holds (short chunk List.mem_cons_self)
      rw [List.foldl_cons, List.flatten_cons, ← List.append_assoc]
      exact inductionHypothesis first fun other among => short other (List.mem_cons_of_mem _ among)

/-! ## The digest -/

/-- The digest of a state is stored over the output. -/
theorem utilsSha256Finish_eq (holds : ctx.Holds bytes) (room : output.length = 32) :
    (utilsSha256Finish ctx output).1 = Sha256.hash bytes := by
  have padding : sha256Padding.take (if bytes.length % 64 < 56 then 56 - bytes.length % 64
      else 120 - bytes.length % 64) = closing bytes.length := take_closing bytes.length
  have shortPadding : (closing bytes.length).length < 2 ^ 32 := by
    rw [← padding]
    exact Nat.lt_of_le_of_lt (List.length_take_le' _ _) (by decide)
  have shortLength : (Sha256.bitLength bytes.length).length < 2 ^ 32 := by
    have eight : (Sha256.bitLength bytes.length).length = 8 := rfl
    omega
  have ends := utilsSha256Update_holds (utilsSha256Update_holds holds shortPadding) shortLength
  have padded : bytes ++ closing bytes.length ++ Sha256.bitLength bytes.length =
      bytes ++ Sha256.padding bytes.length := by
    rw [List.append_assoc, Sha256.padding]
  have counted : putUInt32BE (ctx.total0 >>> 29 ||| ctx.total1 <<< 3) ++ putUInt32BE (ctx.total0 <<< 3) =
      Sha256.bitLength bytes.length := by
    rw [holds.counts.high_bits, holds.counts.low_bits]
    rfl
  have state := congrArg Prod.fst (padded ▸ ends.buffered).absorbed
  rw [absorb_map registers utilsSha256Process_eq] at state
  dsimp only at state
  rw [utilsSha256Finish]
  dsimp only
  rw [holds.counts.left, padding, counted, if_pos ends.is224, ← state, overwrite_zero, List.drop_of_length_le]
  · rw [List.append_nil]
    rfl
  · exact Nat.le_of_eq room

theorem utilsSha256_eq {input : List UInt8} (short : input.length < 2 ^ 32) (room : output.length = 32) :
    utilsSha256 input output = Sha256.hash input :=
  utilsSha256Finish_eq
    (utilsSha256Update_holds (utilsSha256Starts_holds utilsSha256Init (by decide)) short) room

/-- However a message is split, its digest is its SHA-256. -/
theorem utilsSha256Finish_chunks (ctx : Sha256Context) (buffer : ctx.buffer.length = 64)
    (chunks : List (List UInt8)) (short : ∀ chunk ∈ chunks, chunk.length < 2 ^ 32)
    (room : output.length = 32) :
    (utilsSha256Finish (chunks.foldl utilsSha256Update (utilsSha256Starts ctx)) output).1 =
      Sha256.hash chunks.flatten :=
  utilsSha256Finish_eq (foldl_utilsSha256Update_holds (utilsSha256Starts_holds ctx buffer) short) room

/-- A message in three pieces. -/
theorem utilsSha256Finish_abc :
    (utilsSha256Finish ([literal "ab", [], literal "c"].foldl utilsSha256Update
      (utilsSha256Starts utilsSha256Init)) (List.replicate 32 0)).1 = Sha256.hash (literal "abc") :=
  utilsSha256Finish_chunks utilsSha256Init (by decide) [literal "ab", [], literal "c"] (by decide)
    (by decide)

example : (utilsSha256 (literal "abc") (List.replicate 32 0)).take 4 = [0xba, 0x78, 0x16, 0xbf] := by
  decide +kernel

/-! ## The keyed digest -/

/-- `utils_hmac_sha256`: what is in `output` afterwards. -/
def utilsHmacSha256 (msg key : Option (List UInt8)) (output : List UInt8) : List UInt8 :=
  match msg, key with
  | some msg, some key =>
      if 64 < key.length then output
      else
        let kIpad := (overwrite (List.replicate 64 0) 0 key).map (· ^^^ 0x36)
        let kOpad := (overwrite (List.replicate 64 0) 0 key).map (· ^^^ 0x5c)
        -- the inner digest
        let context := utilsSha256Starts utilsSha256Init
        let context := utilsSha256Update context kIpad
        let context := utilsSha256Update context msg
        let output := (utilsSha256Finish context output).1
        -- the outer digest
        let context := utilsSha256Starts utilsSha256Init
        let context := utilsSha256Update context kOpad
        let context := utilsSha256Update context (output.take 32)
        (utilsSha256Finish context output).1
  | _, _ => output

/-- Two pieces behind a new context. -/
theorem utilsSha256Finish_pair {first second : List UInt8} (shortFirst : first.length < 2 ^ 32)
    (shortSecond : second.length < 2 ^ 32) (room : output.length = 32) :
    (utilsSha256Finish (utilsSha256Update (utilsSha256Update (utilsSha256Starts utilsSha256Init) first)
      second) output).1 = Sha256.hash (first ++ second) :=
  utilsSha256Finish_eq (utilsSha256Update_holds
    (utilsSha256Update_holds (utilsSha256Starts_holds utilsSha256Init (by decide)) shortFirst)
    shortSecond) room

/-- The digest is the HMAC-SHA-256 of the message under a key of at most a block. -/
theorem utilsHmacSha256_eq (msg key : List UInt8) (short : msg.length < 2 ^ 32)
    (room : output.length = 32) :
    utilsHmacSha256 (some msg) (some key) output =
      if key.length ≤ 64 then Sha256.hmac Sha256.hash 64 key msg else output := by
  by_cases fits : key.length ≤ 64
  · have block : overwrite (List.replicate 64 0) 0 key = Sha256.blockKey Sha256.hash 64 key := by
      rw [overwrite_zero, List.drop_replicate, Sha256.blockKey, if_pos fits]
    have blockLength : (Sha256.blockKey Sha256.hash 64 key).length = 64 := by
      rw [Sha256.blockKey, if_pos fits, List.length_append, List.length_replicate]
      omega
    have shortKey : ∀ pad : UInt8, ((Sha256.blockKey Sha256.hash 64 key).map (· ^^^ pad)).length < 2 ^ 32 := by
      intro pad
      rw [List.length_map, blockLength]
      decide
    have inner := utilsSha256Finish_pair (shortKey 0x36) short room
    have shortInner : ∀ message, ((Sha256.hash message).take 32).length < 2 ^ 32 := by
      intro message
      rw [List.length_take, Sha256.hash_length]
      decide
    rw [utilsHmacSha256, if_neg (Nat.not_lt.mpr fits), if_pos fits, block, Sha256.hmac]
    dsimp only
    rw [inner, utilsSha256Finish_pair (shortKey 0x5c) (shortInner _) (Sha256.hash_length _),
      List.take_of_length_le (Nat.le_of_eq (Sha256.hash_length _))]
  · rw [utilsHmacSha256, if_pos (Nat.not_le.mp fits), if_neg fits]

/-- A key and a message. -/
theorem utilsHmacSha256_key :
    utilsHmacSha256 (some (literal "body")) (some (literal "key")) (List.replicate 32 0) =
      Sha256.hmac Sha256.hash 64 (literal "key") (literal "body") :=
  utilsHmacSha256_eq (literal "body") (literal "key") (by decide) (by decide)

end UIoT.Utils
