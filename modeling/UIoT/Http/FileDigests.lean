import UIoT.Http.Client
import UIoT.Lib.Md5

/-!
# Digests of files

`http_client_file_md5` reads a file through a buffer of 1024 bytes until a read brings nothing. Whatever
the other reads bring, what it writes is the MD5 of all of it in hexadecimal, so a file has the digest
that `http_client_buffer_md5` makes of a buffer with its contents (`httpClientFileMd5_digest`). A file
that cannot be opened leaves the output as it was.
-/

set_option autoImplicit false

namespace UIoT.Http

open Utils

/-! ## The hash function -/

theorem functionF_eq (x y z : UInt32) : functionF x y z = Md5.funF x y z := by
  apply UInt32.toBitVec_inj.mp
  simp only [functionF, Md5.funF, UInt32.toBitVec_not, UInt32.toBitVec_and, UInt32.toBitVec_xor,
    UInt32.toBitVec_or]
  ext i
  simp only [BitVec.getElem_not, BitVec.getElem_and, BitVec.getElem_xor, BitVec.getElem_or]
  cases x.toBitVec[i] <;> cases y.toBitVec[i] <;> cases z.toBitVec[i] <;> rfl

theorem functionG_eq (x y z : UInt32) : functionG x y z = Md5.funG x y z := by
  apply UInt32.toBitVec_inj.mp
  simp only [functionG, Md5.funG, UInt32.toBitVec_not, UInt32.toBitVec_and, UInt32.toBitVec_xor,
    UInt32.toBitVec_or]
  ext i
  simp only [BitVec.getElem_not, BitVec.getElem_and, BitVec.getElem_xor, BitVec.getElem_or]
  cases x.toBitVec[i] <;> cases y.toBitVec[i] <;> cases z.toBitVec[i] <;> rfl

/-- The state that holds these words. -/
def md5State (v : Md5.Words) : Md5State := ⟨v.a, v.b, v.c, v.d⟩

/-- The row of a step. -/
def row (step : Nat) : Nat × UInt32 × UInt32 :=
  (Md5.index step, Md5.amount step, Md5.sines.getD step 0)

theorem stepP_row {f : UInt32 → UInt32 → UInt32 → UInt32} {step : Nat} (data : List UInt8) (v : Md5.Words)
    (function : ∀ x y z, f x y z = Md5.function step x y z) :
    stepP f (fun k => getUInt32LE data (4 * k)) (md5State v) (row step) =
      md5State (Md5.stepOn data v step) := by
  simp only [stepP, row, md5State, Md5.stepOn, function, Md5State.mk.injEq, true_and, and_true]
  rw [UInt32.add_comm]
  rfl

/-- The rows of steps with one function. -/
theorem foldl_stepP {f : UInt32 → UInt32 → UInt32 → UInt32} (data : List UInt8) {steps : List Nat}
    (function : ∀ step ∈ steps, ∀ x y z, f x y z = Md5.function step x y z) (v : Md5.Words) :
    (steps.map row).foldl (stepP f fun k => getUInt32LE data (4 * k)) (md5State v) =
      md5State (steps.foldl (Md5.stepOn data) v) := by
  induction steps generalizing v with
  | nil => rfl
  | cons step steps inductionHypothesis =>
      rw [List.map_cons, List.foldl_cons, List.foldl_cons,
        stepP_row data v (function step List.mem_cons_self)]
      exact inductionHypothesis (fun other among => function other (List.mem_cons_of_mem _ among)) _

theorem mem_round {start step : Nat} (among : step ∈ List.range' start 16) :
    start ≤ step ∧ step < start + 16 :=
  List.mem_range'_1.mp among

theorem utilsMd5Process_eq (v : Md5.Words) (data : List UInt8) :
    utilsMd5Process (md5State v) data = md5State (Md5.compress v data) := by
  have rows : firstRound = (List.range' 0 16).map row ∧ secondRound = (List.range' 16 16).map row ∧
      thirdRound = (List.range' 32 16).map row ∧ fourthRound = (List.range' 48 16).map row :=
    ⟨rfl, rfl, rfl, rfl⟩
  have steps : List.range 64 =
      List.range' 0 16 ++ List.range' 16 16 ++ List.range' 32 16 ++ List.range' 48 16 := rfl
  have first : ∀ step ∈ List.range' 0 16, ∀ x y z, functionF x y z = Md5.function step x y z := by
    intro step among x y z
    obtain ⟨-, early⟩ := mem_round among
    rw [functionF_eq, Md5.function, if_pos early]
  have second : ∀ step ∈ List.range' 16 16, ∀ x y z, functionG x y z = Md5.function step x y z := by
    intro step among x y z
    obtain ⟨late, early⟩ := mem_round among
    rw [functionG_eq, Md5.function, if_neg (Nat.not_lt.mpr late), if_pos early]
  have third : ∀ step ∈ List.range' 32 16, ∀ x y z, functionH x y z = Md5.function step x y z := by
    intro step among x y z
    obtain ⟨late, early⟩ := mem_round among
    rw [Md5.function, if_neg (by omega), if_neg (by omega), if_pos early]
    rfl
  have fourth : ∀ step ∈ List.range' 48 16, ∀ x y z, functionI x y z = Md5.function step x y z := by
    intro step among x y z
    obtain ⟨late, -⟩ := mem_round among
    rw [Md5.function, if_neg (by omega), if_neg (by omega), if_neg (by omega)]
    rfl
  simp only [utilsMd5Process, rows]
  rw [foldl_stepP data first, foldl_stepP data second, foldl_stepP data third, foldl_stepP data fourth,
    Md5.compress, steps, List.foldl_append, List.foldl_append, List.foldl_append]
  rfl

/-- The digest of a stream is its MD5. -/
theorem md5Hex_eq (bytes : List UInt8) : md5Hex bytes = hexDigits (Md5.hash bytes) := by
  have start : utilsMd5Starts.state = md5State Md5.initial := rfl
  have padded : padded bytes = bytes ++ Md5.padding bytes.length := by
    rw [UIoT.Utils.padded, Md5.padding, paddingLength, iotMd5Padding, BlockHash.take_closing,
      List.append_assoc]
    rfl
  rw [md5Hex, padded, start, BlockHash.absorb_map md5State utilsMd5Process_eq, Md5.hash]
  rfl

/-! ## Files -/

/-- The loop of `http_client_file_md5` over what the calls of `fread` store: the first one that stores
nothing ends it. -/
def readLoop : List UInt8 → Md5Context → List (List UInt8) → Md5Context
  | _, ctx, [] => ctx
  | buffer, ctx, read :: reads =>
      let buffer := overwrite buffer 0 read
      let count := read.length
      if count = 0 then ctx else readLoop buffer (utilsMd5Update ctx (buffer.take count)) reads

/-- `http_client_file_md5`: what is in `output` afterwards. `malloc` says whether the buffer is allocated;
a file that is opened is what the calls of `fread` on it store. -/
def httpClientFileMd5 (malloc : Bool) (file : Option (List (List UInt8))) (output : List UInt8) :
    List UInt8 :=
  let ctx := utilsMd5Starts
  if ¬malloc then output
  else
    let buffer := List.replicate 1024 0
    match file with
    | none => output
    | some reads => overwrite output 0 ((utilsMd5FinishHb2Hex (readLoop buffer ctx reads)).1 ++ [0])

/-- What the reads bring in front of the first one that brings nothing. -/
def contents (reads : List (List UInt8)) : List UInt8 := (reads.takeWhile (· ≠ [])).flatten

/-- The loop extends a stream by what the reads bring. -/
theorem readLoop_holds {ctx : Md5Context} {bytes : List UInt8} {reads : List (List UInt8)}
    (holds : Holds ctx bytes) (short : ∀ read ∈ reads, read.length ≤ 1024) (buffer : List UInt8) :
    Holds (readLoop buffer ctx reads) (bytes ++ contents reads) := by
  induction reads generalizing ctx bytes buffer with
  | nil =>
      rw [contents, List.takeWhile_nil, List.flatten_nil, List.append_nil]
      exact holds
  | cons read reads inductionHypothesis =>
      rw [readLoop]
      by_cases last : read = []
      · rw [last, if_pos List.length_nil, contents, List.takeWhile_cons, if_neg (by decide),
          List.flatten_nil, List.append_nil]
        exact holds
      · have stored : (overwrite buffer 0 read).take read.length = read := by
          rw [overwrite_zero, List.take_left]
        have more : contents (read :: reads) = read ++ contents reads := by
          rw [contents, List.takeWhile_cons, if_pos (decide_eq_true last), List.flatten_cons, contents]
        have small : read.length < 2 ^ 32 :=
          Nat.lt_of_le_of_lt (short read List.mem_cons_self) (by decide)
        rw [if_neg (mt List.length_eq_zero_iff.mp last), stored, more, ← List.append_assoc]
        exact inductionHypothesis (utilsMd5Update_holds holds small)
          (fun other among => short other (List.mem_cons_of_mem _ among)) _

theorem digest_length (bytes : List UInt8) : (hexDigits (Md5.hash bytes)).length = 32 := rfl

/-- The MD5 of a file in hexadecimal, and a terminator. -/
theorem httpClientFileMd5_digest (reads : List (List UInt8)) (output : List UInt8)
    (short : ∀ read ∈ reads, read.length ≤ 1024) (room : 33 ≤ output.length) :
    httpClientFileMd5 true (some reads) output =
        hexDigits (Md5.hash (contents reads)) ++ 0 :: output.drop 33 ∧
      (∀ (buffer : Nat → UInt8) (bufferLen : UInt32), bytesOf buffer bufferLen = contents reads →
        (httpClientFileMd5 true (some reads) output).take 32 = httpClientBufferMd5 buffer bufferLen) ∧
      httpClientFileMd5 true none output = output ∧ httpClientFileMd5 false (some reads) output = output := by
  have holds := readLoop_holds utilsMd5Starts_holds short (List.replicate 1024 0)
  rw [List.nil_append] at holds
  have digest : httpClientFileMd5 true (some reads) output =
      hexDigits (Md5.hash (contents reads)) ++ 0 :: output.drop 33 := by
    rw [httpClientFileMd5, if_neg (by decide)]
    dsimp only
    rw [utilsMd5FinishHb2Hex_eq holds, md5Hex_eq, overwrite_zero, List.length_append, digest_length,
      List.append_assoc]
    rfl
  refine ⟨digest, ?_, rfl, rfl⟩
  intro buffer bufferLen same
  have whole : (bytesOf buffer bufferLen).length < 2 ^ 32 := by
    rw [bytesOf, List.length_map, List.length_range]
    exact bufferLen.toNat_lt
  have held := utilsMd5Update_holds utilsMd5Starts_holds whole
  rw [digest, httpClientBufferMd5, utilsMd5FinishHb2Hex_eq held, List.nil_append, same, md5Hex_eq,
    List.take_append_of_le_length (Nat.le_of_eq (digest_length _).symm),
    List.take_of_length_le (Nat.le_of_eq (digest_length _))]

/-- A file that is read in two parts. -/
theorem httpClientFileMd5_abc :
    httpClientFileMd5 true (some [literal "ab", literal "c", []]) (List.replicate 33 0) =
      hexDigits (Md5.hash (contents [literal "ab", literal "c", []])) ++ [0] :=
  (httpClientFileMd5_digest [literal "ab", literal "c", []] (List.replicate 33 0) (by decide)
    (by decide)).1

end UIoT.Http
