import UIoT.Lib.Sha256
import UIoT.Net
import UIoT.Utils.JsonParser

/-!
# SHA-256 in pieces

`utils_sha2.c` comes with two ways to run the rounds of a block. One turns the registers after each
round, the other leaves them where they are and turns the arguments of the macro, eight rounds at a time.
-/

set_option autoImplicit false

namespace UIoT.Utils

namespace Sha2

/-! ## Macros -/

/-- `GET_UINT32_BE` -/
def getUInt32BE (bytes : List UInt8) (i : Nat) : UInt32 :=
  (bytes.getD i 0).toUInt32 <<< 24 ||| (bytes.getD (i + 1) 0).toUInt32 <<< 16 |||
    (bytes.getD (i + 2) 0).toUInt32 <<< 8 ||| (bytes.getD (i + 3) 0).toUInt32

/-- `PUT_UINT32_BE` -/
def putUInt32BE (n : UInt32) : List UInt8 :=
  [(n >>> 24).toUInt8, (n >>> 16).toUInt8, (n >>> 8).toUInt8, n.toUInt8]

def shr (x n : UInt32) : UInt32 := (x &&& 0xFFFFFFFF) >>> n
def rotr (x n : UInt32) : UInt32 := shr x n ||| x <<< (32 - n)

def s0 (x : UInt32) : UInt32 := rotr x 7 ^^^ rotr x 18 ^^^ shr x 3
def s1 (x : UInt32) : UInt32 := rotr x 17 ^^^ rotr x 19 ^^^ shr x 10
def s2 (x : UInt32) : UInt32 := rotr x 2 ^^^ rotr x 13 ^^^ rotr x 22
def s3 (x : UInt32) : UInt32 := rotr x 6 ^^^ rotr x 11 ^^^ rotr x 25

def f0 (x y z : UInt32) : UInt32 := (x &&& y) ||| (z &&& (x ||| y))
def f1 (x y z : UInt32) : UInt32 := z ^^^ (x &&& (y ^^^ z))

/-- `K` -/
def k : List UInt32 :=
  [ 0x428A2F98, 0x71374491, 0xB5C0FBCF, 0xE9B5DBA5,
    0x3956C25B, 0x59F111F1, 0x923F82A4, 0xAB1C5ED5,
    0xD807AA98, 0x12835B01, 0x243185BE, 0x550C7DC3,
    0x72BE5D74, 0x80DEB1FE, 0x9BDC06A7, 0xC19BF174,
    0xE49B69C1, 0xEFBE4786, 0x0FC19DC6, 0x240CA1CC,
    0x2DE92C6F, 0x4A7484AA, 0x5CB0A9DC, 0x76F988DA,
    0x983E5152, 0xA831C66D, 0xB00327C8, 0xBF597FC7,
    0xC6E00BF3, 0xD5A79147, 0x06CA6351, 0x14292967,
    0x27B70A85, 0x2E1B2138, 0x4D2C6DFC, 0x53380D13,
    0x650A7354, 0x766A0ABB, 0x81C2C92E, 0x92722C85,
    0xA2BFE8A1, 0xA81A664B, 0xC24B8B70, 0xC76C51A3,
    0xD192E819, 0xD6990624, 0xF40E3585, 0x106AA070,
    0x19A4C116, 0x1E376C08, 0x2748774C, 0x34B0BCB5,
    0x391C0CB3, 0x4ED8AA4A, 0x5B9CCA4F, 0x682E6FF3,
    0x748F82EE, 0x78A5636F, 0x84C87814, 0x8CC70208,
    0x90BEFFFA, 0xA4506CEB, 0xBEF9A3F7, 0xC67178F2 ]

/-- `R`: the word that is stored behind those of `W`. -/
def r (W : List UInt32) (t : Nat) : UInt32 :=
  s1 (W.getD (t - 2) 0) + W.getD (t - 7) 0 + s0 (W.getD (t - 15) 0) + W.getD (t - 16) 0

/-- `P` on the registers with these indices. -/
def p (A : Vector UInt32 8) (a b c d e f g h : Fin 8) (x k : UInt32) : Vector UInt32 8 :=
  let temp1 := A.get h + s3 (A.get e) + f1 (A.get e) (A.get f) (A.get g) + k + x
  let temp2 := s2 (A.get a) + f0 (A.get a) (A.get b) (A.get c)
  (A.set d.val (A.get d + temp1) d.isLt).set h.val (temp1 + temp2) h.isLt

/-! ## One block -/

/-- The registers, each moved to the next one. -/
def turned (A : Vector UInt32 8) : Vector UInt32 8 := #v[A.get 7, A.get 0, A.get 1, A.get 2, A.get 3,
  A.get 4, A.get 5, A.get 6]

/-- A turn of the loop of `INFRA_SHA256_SMALLER`. -/
def smallerTurn (data : List UInt8) (loop : List UInt32 × Vector UInt32 8) (i : Nat) :
    List UInt32 × Vector UInt32 8 :=
  let W := if i < 16 then loop.1 ++ [getUInt32BE data (4 * i)] else loop.1 ++ [r loop.1 i]
  (W, turned (p loop.2 0 1 2 3 4 5 6 7 (W.getD i 0) (k.getD i 0)))

/-- A turn of a loop over eight rounds. `load` stores the word of a round, if it is not there. -/
def eightTurn (load : List UInt32 → Nat → List UInt32) (loop : List UInt32 × Vector UInt32 8) (i : Nat) :
    List UInt32 × Vector UInt32 8 :=
  let (W, A) := loop
  let W := load W (i + 0)
  let A := p A 0 1 2 3 4 5 6 7 (W.getD (i + 0) 0) (k.getD (i + 0) 0)
  let W := load W (i + 1)
  let A := p A 7 0 1 2 3 4 5 6 (W.getD (i + 1) 0) (k.getD (i + 1) 0)
  let W := load W (i + 2)
  let A := p A 6 7 0 1 2 3 4 5 (W.getD (i + 2) 0) (k.getD (i + 2) 0)
  let W := load W (i + 3)
  let A := p A 5 6 7 0 1 2 3 4 (W.getD (i + 3) 0) (k.getD (i + 3) 0)
  let W := load W (i + 4)
  let A := p A 4 5 6 7 0 1 2 3 (W.getD (i + 4) 0) (k.getD (i + 4) 0)
  let W := load W (i + 5)
  let A := p A 3 4 5 6 7 0 1 2 (W.getD (i + 5) 0) (k.getD (i + 5) 0)
  let W := load W (i + 6)
  let A := p A 2 3 4 5 6 7 0 1 (W.getD (i + 6) 0) (k.getD (i + 6) 0)
  let W := load W (i + 7)
  let A := p A 1 2 3 4 5 6 7 0 (W.getD (i + 7) 0) (k.getD (i + 7) 0)
  (W, A)

/-- The registers after the rounds, with `INFRA_SHA256_SMALLER`. -/
def smallerRounds (data : List UInt8) (A : Vector UInt32 8) : Vector UInt32 8 :=
  ((List.range 64).foldl (smallerTurn data) ([], A)).2

/-- The registers after the rounds, without it: sixteen words are loaded, the others are made in their
rounds. -/
def unrolledRounds (data : List UInt8) (A : Vector UInt32 8) : Vector UInt32 8 :=
  let W := (List.range 16).map fun i => getUInt32BE data (4 * i)
  let first := [0, 8].foldl (eightTurn fun W _ => W) (W, A)
  ([16, 24, 32, 40, 48, 56].foldl (eightTurn fun W t => W ++ [r W t]) first).2

end Sha2

open Sha2

/-- `iot_sha256_context` -/
structure Sha256Context where
  total0 : UInt32
  total1 : UInt32
  state : Vector UInt32 8
  buffer : List UInt8
  is224 : Int

/-- `utils_sha256_init` -/
def utilsSha256Init : Sha256Context where
  total0 := 0
  total1 := 0
  state := #v[0, 0, 0, 0, 0, 0, 0, 0]
  buffer := List.replicate 64 0
  is224 := 0

/-- `utils_sha256_starts` -/
def utilsSha256Starts (ctx : Sha256Context) : Sha256Context :=
  { ctx with
    total0 := 0
    total1 := 0
    state := #v[0x6A09E667, 0xBB67AE85, 0x3C6EF372, 0xA54FF53A, 0x510E527F, 0x9B05688C, 0x1F83D9AB,
      0x5BE0CD19]
    is224 := 0 }

/-- `utils_sha256_process`: the state after a block. -/
def utilsSha256Process (state : Vector UInt32 8) (data : List UInt8) : Vector UInt32 8 :=
  Vector.ofFn fun i => state.get i + (smallerRounds data state).get i

/-- `utils_sha256_process` without `INFRA_SHA256_SMALLER`. -/
def utilsSha256ProcessUnrolled (state : Vector UInt32 8) (data : List UInt8) : Vector UInt32 8 :=
  Vector.ofFn fun i => state.get i + (unrolledRounds data state).get i

/-- `utils_sha256_update` -/
def utilsSha256Update (ctx : Sha256Context) (input : List UInt8) : Sha256Context :=
  if input.length = 0 then ctx
  else
    let left := (ctx.total0 &&& 0x3F).toNat
    let fill := 64 - left
    let ilen := UInt32.ofNat input.length
    let total0 := (ctx.total0 + ilen) &&& 0xFFFFFFFF
    let total1 := if total0 < ilen then ctx.total1 + 1 else ctx.total1
    let filled := left ≠ 0 ∧ fill ≤ input.length
    let buffer := if filled then overwrite ctx.buffer left (input.take fill) else ctx.buffer
    let state := if filled then utilsSha256Process ctx.state buffer else ctx.state
    let input := if filled then input.drop fill else input
    let left := if filled then 0 else left
    -- the loop over whole blocks
    let (state, rest) := BlockHash.absorb 64 utilsSha256Process state input
    let buffer := if rest = [] then buffer else overwrite buffer left rest
    { ctx with total0 := total0, total1 := total1, state := state, buffer := buffer }

/-- `sha256_padding` -/
def sha256Padding : List UInt8 := 0x80 :: List.replicate 63 0

/-- `utils_sha256_finish`: what is written to `output`, and the context. -/
def utilsSha256Finish (ctx : Sha256Context) (output : List UInt8) : List UInt8 × Sha256Context :=
  let high := ctx.total0 >>> 29 ||| ctx.total1 <<< 3
  let low := ctx.total0 <<< 3
  let msglen := putUInt32BE high ++ putUInt32BE low
  let last := (ctx.total0 &&& 0x3F).toNat
  let padn := if last < 56 then 56 - last else 120 - last
  let ctx := utilsSha256Update ctx (sha256Padding.take padn)
  let ctx := utilsSha256Update ctx msglen
  let words := if ctx.is224 = 0 then ctx.state.toList else ctx.state.toList.take 7
  (overwrite output 0 (words.flatMap putUInt32BE), ctx)

/-- `utils_sha256` -/
def utilsSha256 (input output : List UInt8) : List UInt8 :=
  (utilsSha256Finish (utilsSha256Update (utilsSha256Starts utilsSha256Init) input) output).1

namespace Sha2

/-! ## The functions on words -/

theorem f0_eq (x y z : UInt32) : f0 x y z = Sha256.maj x y z := by
  apply UInt32.toBitVec_inj.mp
  simp only [f0, Sha256.maj, UInt32.toBitVec_or, UInt32.toBitVec_and, UInt32.toBitVec_xor]
  ext i
  simp only [BitVec.getElem_or, BitVec.getElem_and, BitVec.getElem_xor]
  cases x.toBitVec[i] <;> cases y.toBitVec[i] <;> cases z.toBitVec[i] <;> rfl

theorem f1_eq (x y z : UInt32) : f1 x y z = Sha256.ch x y z := by
  apply UInt32.toBitVec_inj.mp
  simp only [f1, Sha256.ch, UInt32.toBitVec_not, UInt32.toBitVec_and, UInt32.toBitVec_xor]
  ext i
  simp only [BitVec.getElem_not, BitVec.getElem_and, BitVec.getElem_xor]
  cases x.toBitVec[i] <;> cases y.toBitVec[i] <;> cases z.toBitVec[i] <;> rfl

theorem shr_eq (x n : UInt32) : shr x n = x >>> n := by
  have mask : x &&& 0xFFFFFFFF = x := by
    apply UInt32.toBitVec_inj.mp
    exact BitVec.and_allOnes
  rw [shr, mask]
theorem s0_eq (x : UInt32) : s0 x = Sha256.smallSigma0 x := by
  simp only [s0, rotr, shr_eq, Sha256.smallSigma0, Sha256.rotr]
theorem s1_eq (x : UInt32) : s1 x = Sha256.smallSigma1 x := by
  simp only [s1, rotr, shr_eq, Sha256.smallSigma1, Sha256.rotr]
theorem s2_eq (x : UInt32) : s2 x = Sha256.bigSigma0 x := by
  simp only [s2, rotr, shr_eq, Sha256.bigSigma0, Sha256.rotr]
theorem s3_eq (x : UInt32) : s3 x = Sha256.bigSigma1 x := by
  simp only [s3, rotr, shr_eq, Sha256.bigSigma1, Sha256.rotr]

theorem get_eq (A : Vector UInt32 8) (i : Fin 8) : A.get i = A[i.val] := rfl

theorem p_get (A : Vector UInt32 8) (a b c d e f g h i : Fin 8) (x k : UInt32) :
    (p A a b c d e f g h x k).get i =
      if h = i then A.get h + s3 (A.get e) + f1 (A.get e) (A.get f) (A.get g) + k + x +
          (s2 (A.get a) + f0 (A.get a) (A.get b) (A.get c))
      else if d = i then A.get d + (A.get h + s3 (A.get e) + f1 (A.get e) (A.get f) (A.get g) + k + x)
      else A.get i := by
  simp only [p, get_eq, Vector.getElem_set, Fin.val_inj]

/-- The registers as a rotation names them. -/
def view (turns : Fin 8) (A : Vector UInt32 8) : Vector UInt32 8 := Vector.ofFn fun i => A.get (i - turns)

theorem view_get (turns i : Fin 8) (A : Vector UInt32 8) : (view turns A).get i = A.get (i - turns) := by
  rw [view, get_eq, Vector.getElem_ofFn]
theorem turned_get (A : Vector UInt32 8) (i : Fin 8) : (turned A).get i = A.get (i - 1) := by
  match i with
  | 0 | 1 | 2 | 3 | 4 | 5 | 6 | 7 => rfl

theorem ext_get {A B : Vector UInt32 8} (same : ∀ i : Fin 8, A.get i = B.get i) : A = B := by
  apply Vector.ext
  intro i hi
  exact same ⟨i, hi⟩

theorem view_turned (turns : Fin 8) (A : Vector UInt32 8) (x k : UInt32) :
    turned (p (view turns A) 0 1 2 3 4 5 6 7 x k) =
      view (turns + 1) (p A (0 - turns) (1 - turns) (2 - turns) (3 - turns) (4 - turns) (5 - turns)
        (6 - turns) (7 - turns) x k) := by
  apply ext_get
  intro i
  rw [turned_get, view_get]
  simp only [p_get, view_get]
  have last : 7 = i - 1 ↔ 7 - turns = i - (turns + 1) := by revert i turns; decide
  have fourth : 3 = i - 1 ↔ 3 - turns = i - (turns + 1) := by revert i turns; decide
  have others : i - 1 - turns = i - (turns + 1) := by revert i turns; decide
  simp only [last, fourth, others]

/-! ## The schedule -/

theorem getUInt32BE_eq (data : List UInt8) (t : Nat) :
    getUInt32BE data (4 * t) = Sha256.wordAt data t := rfl

/-- The words of the first rounds. -/
def words (data : List UInt8) (n : Nat) : List UInt32 := (List.range n).map (Sha256.schedule data)

theorem words_getD (data : List UInt8) {t n : Nat} (stored : t < n) :
    (words data n).getD t 0 = Sha256.schedule data t := by
  have within : t < (words data n).length := by
    rw [words, List.length_map, List.length_range]
    exact stored
  rw [List.getD_eq_getElem?_getD, List.getElem?_eq_getElem within, Option.getD_some]
  simp only [words, List.getElem_map, List.getElem_range]

theorem words_succ (data : List UInt8) (n : Nat) :
    words data (n + 1) = words data n ++ [Sha256.schedule data n] := by
  rw [words, List.range_succ, List.map_append, List.map_singleton, ← words]

/-- The word of a round behind the sixteenth is made of four earlier ones. -/
theorem r_words (data : List UInt8) {t : Nat} (late : 16 ≤ t) :
    r (words data t) t = Sha256.schedule data t := by
  rw [Sha256.schedule, if_neg (Nat.not_lt.mpr late), r, words_getD data (by omega),
    words_getD data (by omega), words_getD data (by omega), words_getD data (by omega), s0_eq, s1_eq]

theorem load_words (data : List UInt8) (t : Nat) :
    (if t < 16 then words data t ++ [getUInt32BE data (4 * t)] else words data t ++ [r (words data t) t]) =
      words data (t + 1) := by
  rw [words_succ]
  split
  · rename_i early
    rw [getUInt32BE_eq, Sha256.schedule, if_pos early]
  · rename_i late
    rw [r_words data (Nat.not_lt.mp late)]

/-! ## Rounds -/

/-- The registers that hold working variables. -/
def registers (v : Sha256.Words) : Vector UInt32 8 := #v[v.a, v.b, v.c, v.d, v.e, v.f, v.g, v.h]

theorem turned_p (v : Sha256.Words) (x k : UInt32) :
    turned (p (registers v) 0 1 2 3 4 5 6 7 x k) = registers (Sha256.round v k x) := by
  simp only [turned, p_get, Fin.reduceEq, if_true, if_false, registers, Sha256.round, f0_eq, f1_eq, s2_eq,
    s3_eq]
  rfl

theorem k_eq : k = Sha256.constants := rfl

/-- The loop of `INFRA_SHA256_SMALLER` after some of its turns. -/
theorem smallerTurn_foldl (data : List UInt8) (v : Sha256.Words) (n : Nat) :
    (List.range n).foldl (smallerTurn data) ([], registers v) =
      (words data n, registers (Sha256.rounds data v n)) := by
  induction n with
  | zero => rfl
  | succ n inductionHypothesis =>
      rw [List.range_succ, List.foldl_append, inductionHypothesis, List.foldl_cons, List.foldl_nil,
        smallerTurn]
      dsimp only
      rw [load_words, words_getD data (Nat.lt_succ_self n), turned_p, Sha256.rounds, k_eq]

theorem view_zero (A : Vector UInt32 8) : view 0 A = A := by
  apply ext_get
  intro i
  have same : i - 0 = i := by
    revert i
    decide
  rw [view_get, same]

variable {data : List UInt8} {v : Sha256.Words}

/-- A round whose registers have been turned. -/
theorem p_rounds {A : Vector UInt32 8} {turns : Fin 8} {t : Nat}
    (stands : view turns A = registers (Sha256.rounds data v t)) :
    view (turns + 1) (p A (0 - turns) (1 - turns) (2 - turns) (3 - turns) (4 - turns) (5 - turns)
        (6 - turns) (7 - turns) (Sha256.schedule data t) (k.getD t 0)) =
      registers (Sha256.rounds data v (t + 1)) := by
  rw [← view_turned, stands, turned_p, Sha256.rounds, k_eq]

/-- Eight rounds turn the registers once around. `stored` is the number of words in front of each. -/
theorem eightTurn_rounds {load : List UInt32 → Nat → List UInt32} (stored : Nat → Nat) {i : Nat}
    (loads : ∀ j, load (words data (stored j)) (i + j) = words data (stored (j + 1)))
    (enough : ∀ j, j < 8 → i + j < stored (j + 1)) :
    eightTurn load (words data (stored 0), registers (Sha256.rounds data v i)) i =
      (words data (stored 8), registers (Sha256.rounds data v (i + 8))) := by
  have word : ∀ j, j < 8 → (words data (stored (j + 1))).getD (i + j) 0 = Sha256.schedule data (i + j) :=
    fun j small => words_getD data (enough j small)
  simp only [eightTurn, loads, word, Nat.reduceLT]
  rw [Prod.mk.injEq]
  refine ⟨rfl, ?_⟩
  have first := p_rounds (view_zero (registers (Sha256.rounds data v i)))
  have second := p_rounds first
  have third := p_rounds second
  have fourth := p_rounds third
  have fifth := p_rounds fourth
  have sixth := p_rounds fifth
  have seventh := p_rounds sixth
  have eighth := p_rounds seventh
  exact (view_zero _).symm.trans eighth

theorem smallerRounds_eq (data : List UInt8) (v : Sha256.Words) :
    smallerRounds data (registers v) = registers (Sha256.rounds data v 64) := by
  rw [smallerRounds, smallerTurn_foldl]

/-- The words that are loaded first. -/
theorem loaded_words (data : List UInt8) :
    ((List.range 16).map fun i => getUInt32BE data (4 * i)) = words data 16 := by
  apply List.map_congr_left
  intro t early
  rw [getUInt32BE_eq, Sha256.schedule, if_pos (List.mem_range.mp early)]

theorem eightTurn_loaded {i : Nat} (early : i + 8 ≤ 16) :
    eightTurn (fun W _ => W) (words data 16, registers (Sha256.rounds data v i)) i =
      (words data 16, registers (Sha256.rounds data v (i + 8))) := by
  have all : ∀ j, (fun (W : List UInt32) (_ : Nat) => W) (words data 16) (i + j) = words data 16 :=
    fun _ => rfl
  have enough : ∀ j, j < 8 → i + j < 16 := by omega
  exact eightTurn_rounds (fun _ => 16) all enough

theorem eightTurn_made {i : Nat} (late : 16 ≤ i) :
    eightTurn (fun W t => W ++ [r W t]) (words data i, registers (Sha256.rounds data v i)) i =
      (words data (i + 8), registers (Sha256.rounds data v (i + 8))) := by
  refine eightTurn_rounds (fun j => i + j) ?_ ?_
  · intro j
    rw [r_words data (by omega), ← words_succ]
    rfl
  · intro j _
    omega

theorem unrolledRounds_eq (data : List UInt8) (v : Sha256.Words) :
    unrolledRounds data (registers v) = registers (Sha256.rounds data v 64) := by
  have start : registers v = registers (Sha256.rounds data v 0) := rfl
  rw [unrolledRounds, loaded_words, start]
  simp only [List.foldl_cons, List.foldl_nil]
  rw [eightTurn_loaded (by decide), eightTurn_loaded (by decide), eightTurn_made (by decide),
    eightTurn_made (by decide), eightTurn_made (by decide), eightTurn_made (by decide),
    eightTurn_made (by decide), eightTurn_made (by decide)]

theorem exists_registers (A : Vector UInt32 8) : ∃ v, registers v = A := by
  refine ⟨⟨A.get 0, A.get 1, A.get 2, A.get 3, A.get 4, A.get 5, A.get 6, A.get 7⟩, ?_⟩
  apply ext_get
  intro i
  match i with
  | 0 | 1 | 2 | 3 | 4 | 5 | 6 | 7 => rfl

end Sha2

open Sha2

theorem utilsSha256Process_eq (v : Sha256.Words) (data : List UInt8) :
    utilsSha256Process (registers v) data = registers (Sha256.compress v data) := by
  rw [utilsSha256Process, smallerRounds_eq]
  apply ext_get
  intro i
  rw [get_eq, Vector.getElem_ofFn]
  match i with
  | 0 | 1 | 2 | 3 | 4 | 5 | 6 | 7 => rfl

/-- The unrolled loops make of a block what the small one does. -/
theorem utilsSha256ProcessUnrolled_eq (state : Vector UInt32 8) (data : List UInt8) :
    utilsSha256ProcessUnrolled state data = utilsSha256Process state data := by
  obtain ⟨v, rfl⟩ := exists_registers state
  rw [utilsSha256ProcessUnrolled, utilsSha256Process, unrolledRounds_eq, smallerRounds_eq]

end UIoT.Utils
