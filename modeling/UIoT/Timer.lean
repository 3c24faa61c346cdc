import Mathlib.Algebra.Group.Int.Defs
import Mathlib.Algebra.Group.Nat.Defs
import UIoT.Defs

/-!
# Timers

A timer holds the tick at which it ends. Ticks count up in 32 bits and wrap.
The tick of a reading and the conversion from milliseconds come from RT-Thread,
so both are arguments.

There are two ways to ask a timer: `has_expired` compares ticks, and `left_ms`
takes their difference. The difference survives the wrap and the comparison does
not, so a timer tells the time by both of them exactly when its end and the
reading are on the same side of the wrap (`countdownMs_tellsTime_iff`).
-/

set_option autoImplicit false

namespace UIoT

/-- `Timer` -/
structure Timer where
  endTime : UInt32

deriving instance DecidableEq, Repr for Timer

/-- `HAL_Timer_Init` -/
def initTimer : Timer := ⟨0⟩

/-- `HAL_Timer_Expired` -/
def hasExpired (timer : Timer) (now : UInt32) : Bool := timer.endTime < now

/-- `HAL_Timer_Countdown_ms` -/
def countdownMs (rtTickFromMillisecond : UInt32 → UInt32) (now timeoutMs : UInt32) : Timer :=
  ⟨now + rtTickFromMillisecond timeoutMs⟩

/-- `HAL_Timer_Countdown` -/
def countdown (rtTickFromMillisecond : UInt32 → UInt32) (now timeout : UInt32) : Timer :=
  ⟨now + rtTickFromMillisecond (timeout * 1000)⟩

/-- `left_ms`: the difference of the ticks, read as a signed number. -/
def leftMs (timer : Timer) (now : UInt32) : Int := (timer.endTime - now).toInt32.toInt

/-! ## Asking a timer -/

theorem toInt32_toInt (n : UInt32) :
    n.toInt32.toInt = if n.toNat < 2 ^ 31 then (n.toNat : Int) else n.toNat - 2 ^ 32 := by
  have bits : n.toInt32.toInt = n.toBitVec.toInt := rfl
  have nat : n.toBitVec.toNat = n.toNat := rfl
  rw [bits, BitVec.toInt_eq_toNat_cond, nat]
  split <;> split <;> omega

theorem toInt32_of_small {n : UInt32} (small : n.toNat < 2 ^ 31) : n.toInt32.toInt = n.toNat := by
  rw [toInt32_toInt, if_pos small]

theorem toInt32_of_large {n : UInt32} (large : 2 ^ 31 ≤ n.toNat) : n.toInt32.toInt < 0 := by
  have inside := n.toNat_lt
  rw [toInt32_toInt, if_neg (Nat.not_lt.mpr large)]
  omega

/-- A timer started with `timeout` ticks is asked after `elapsed` ticks, and says
how much of its time is left. -/
structure TellsTime (timer : Timer) (now : UInt32) (timeout elapsed : Nat) : Prop where
  expired : timeout < elapsed → hasExpired timer now = true
  running : elapsed < timeout → hasExpired timer now = false
  hasLeft : 0 < leftMs timer now ↔ elapsed < timeout
  left : elapsed < timeout → leftMs timer now = (timeout : Int) - elapsed

/-- Ticks that lie `timeout` and `elapsed` behind a start are as far apart as
these, on either side of the wrap. -/
theorem leftMs_countdown {start timeout elapsed : UInt32} (short : timeout.toNat < 2 ^ 31)
    (soon : elapsed.toNat < 2 ^ 31) :
    leftMs ⟨start + timeout⟩ (start + elapsed) = (timeout.toNat : Int) - elapsed.toNat := by
  have small := start.toNat_lt
  have difference : (start + timeout - (start + elapsed)).toNat =
      (2 ^ 32 - (start.toNat + elapsed.toNat) % 2 ^ 32 + (start.toNat + timeout.toNat) % 2 ^ 32) %
        2 ^ 32 := by
    rw [UInt32.toNat_sub, UInt32.toNat_add, UInt32.toNat_add]
  rw [leftMs, toInt32_toInt, difference]
  split <;> omega

/-- A timer that counts down from less than `2 ^ 31` ticks tells the time less than
`2 ^ 31` ticks after its start exactly when the counter has wrapped in front of
both its end and the reading, or of neither. -/
theorem countdownMs_tellsTime_iff (rtTickFromMillisecond : UInt32 → UInt32)
    (start timeoutMs elapsed : UInt32) (short : (rtTickFromMillisecond timeoutMs).toNat < 2 ^ 31)
    (soon : elapsed.toNat < 2 ^ 31) :
    TellsTime (countdownMs rtTickFromMillisecond start timeoutMs) (start + elapsed)
        (rtTickFromMillisecond timeoutMs).toNat elapsed.toNat ↔
      (start.toNat + (rtTickFromMillisecond timeoutMs).toNat < 2 ^ 32 ↔
        start.toNat + elapsed.toNat < 2 ^ 32) := by
  have small := start.toNat_lt
  rw [countdownMs]
  generalize rtTickFromMillisecond timeoutMs = timeout at short ⊢
  have left := @leftMs_countdown start timeout elapsed short soon
  have expires : hasExpired ⟨start + timeout⟩ (start + elapsed) = true ↔
      (start.toNat + timeout.toNat) % 2 ^ 32 < (start.toNat + elapsed.toNat) % 2 ^ 32 := by
    rw [hasExpired, decide_eq_true_iff, UInt32.lt_iff_toNat_lt, UInt32.toNat_add, UInt32.toNat_add]
  constructor
  · intro tells
    rcases Nat.lt_trichotomy timeout.toNat elapsed.toNat with late | same | early
    · have order := expires.mp (tells.expired late)
      omega
    · rw [same]
    · have order := (Bool.eq_false_iff.mp (tells.running early))
      rw [Ne, expires] at order
      omega
  · intro sameSide
    refine ⟨fun late => ?_, fun early => ?_, ?_, fun _ => left⟩
    · apply expires.mpr
      omega
    · apply Bool.eq_false_iff.mpr
      rw [Ne, expires]
      omega
    · rw [left]
      omega

/-- A timer of five seconds, ten seconds in front of the wrap. -/
theorem countdownMs_tellsTime_seconds :
    TellsTime (countdownMs id 0xFFFFD8F0 5000) (0xFFFFD8F0 + 3000) 5000 3000 ↔
      (4294957296 + 5000 < 2 ^ 32 ↔ 4294957296 + 3000 < 2 ^ 32) :=
  countdownMs_tellsTime_iff id 0xFFFFD8F0 5000 3000 (by decide) (by decide)

/-- A timer of one minute, ten seconds in front of the wrap: a second after the
start it has expired, and 59 seconds are left. -/
theorem expired_with_time_left :
    hasExpired (countdownMs id 0xFFFFD8F0 60000) (0xFFFFD8F0 + 1000) = true ∧
      leftMs (countdownMs id 0xFFFFD8F0 60000) (0xFFFFD8F0 + 1000) = 59000 ∧
      ¬TellsTime (countdownMs id 0xFFFFD8F0 60000) (0xFFFFD8F0 + 1000) 60000 1000 := by
  refine ⟨by decide, by decide, fun tells => ?_⟩
  have running := tells.running (by decide)
  exact absurd running (by decide)

end UIoT
