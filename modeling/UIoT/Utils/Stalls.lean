import UIoT.Utils.HeaderBounds

/-!
# Stalled servers

A read that brings nothing takes its time. The loop that moves a body counts such reads and gives up:
it returns within a number of turns that is known from what is left of the body
(`responseBodyLoop_returns`). The loop that reads a header takes them for reads that bring something,
and goes on. So a call returns just where its header comes to an end, the connection fails, or there is
no header to be read (`ends_iff`), and a server that stalls in the middle of a header holds the caller
for as long as the connection is open (`not_ends`).
-/

set_option autoImplicit false

namespace UIoT.Utils

open FirstMatch Json

variable {ν : Type} {transport : Transport ν} {s : ν}

/-! ## Time -/

/-- A network with a clock. A read returns how many bytes it has stored, 0 when its time is up, or an
error. The tick is what 32 bits show of the clock, and the time of a read is less than what they show
at once. -/
structure TimedNetwork (transport : Transport ν) where
  clock : ν → Nat
  within : ∀ s n, (transport.read s n).1 ≤ n
  stores : ∀ s n, (transport.read s n).2.1.length = (transport.read s n).1.toNat
  passes : ∀ s n, (transport.read s n).1 = 0 → clock s < clock (transport.read s n).2.2 ∧
    clock (transport.read s n).2.2 < clock s + 2 ^ 31
  shows : ∀ s, (transport.tick s).1 = UInt32.ofNat (clock s)
  instant : ∀ s, clock (transport.tick s).2 = clock s

variable (timed : TimedNetwork transport)

/-- What is left of a timer. -/
def TimedNetwork.left (timer : Timer) (s : ν) : Int := leftMs timer (UInt32.ofNat (timed.clock s))

/-- For how many ticks a timer that has enough left is not extended. -/
def TimedNetwork.patience (timer : Timer) (s : ν) : Nat :=
  if minTimeout ≤ timed.left timer s then (timed.left timer s).toNat else 2 ^ 31

theorem TimedNetwork.left_lt (timer : Timer) (s : ν) : timed.left timer s < 2 ^ 31 := by
  rw [left, leftMs, toInt32_toInt]
  have small := (timer.endTime - UInt32.ofNat (timed.clock s)).toNat_lt
  split <;> omega

theorem TimedNetwork.patience_le (timer : Timer) (s : ν) : timed.patience timer s ≤ 2 ^ 31 := by
  have small := timed.left_lt timer s
  rw [patience]
  split <;> omega

/-- While time passes, a timer that has enough left has less of it. -/
theorem TimedNetwork.patience_lt {timer : Timer} {s' : ν} (later : timed.clock s < timed.clock s')
    (soon : timed.clock s' < timed.clock s + 2 ^ 31) (enough : minTimeout ≤ timed.left timer s') :
    timed.patience timer s' < timed.patience timer s := by
  have positive : (0 : Int) < minTimeout := by decide
  have before := timer.endTime.toNat_lt
  -- What is left of a timer that runs is the difference of the ticks.
  have running : ∀ {s}, minTimeout ≤ timed.left timer s → ∃ ticks < 2 ^ 31,
      timed.left timer s = (ticks : Nat) ∧
        ticks = (2 ^ 32 - timed.clock s % 2 ^ 32 + timer.endTime.toNat) % 2 ^ 32 := by
    intro s enough
    have ticks : (timer.endTime - UInt32.ofNat (timed.clock s)).toNat =
        (2 ^ 32 - timed.clock s % 2 ^ 32 + timer.endTime.toNat) % 2 ^ 32 := by
      rw [UInt32.toNat_sub, UInt32.toNat_ofNat']
    rw [left, leftMs, toInt32_toInt] at enough ⊢
    split at enough
    · rename_i short
      rw [if_pos short]
      exact ⟨_, short, rfl, ticks⟩
    · omega
  obtain ⟨ticks, short, isLeft, isTicks⟩ := running enough
  rw [patience, patience, if_pos enough, isLeft]
  split
  · rename_i had
    obtain ⟨ticks', short', isLeft', isTicks'⟩ := running had
    omega
  · omega

/-- A read brings some bytes, waits for its time, or fails. -/
theorem httpRecv_timed (s : ν) (maxLen : Nat) :
    ∃ ret bytes s', httpRecv transport maxLen s = (ret, bytes.length, bytes, s') ∧
      transport.read s maxLen = ((transport.read s maxLen).1, bytes, s') ∧ bytes.length ≤ maxLen ∧
      (ret = 0 ∧ bytes ≠ [] ∧ 0 ≤ (transport.read s maxLen).1 ∨
        ret = failureRet ∧ bytes = [] ∧ 0 ≤ (transport.read s maxLen).1 ∧
          timed.clock s < timed.clock s' ∧ timed.clock s' < timed.clock s + 2 ^ 31 ∨
        ret = errHttpConnError ∧ bytes = [] ∧ (transport.read s maxLen).1 < 0) := by
  have within := timed.within s maxLen
  have stores := timed.stores s maxLen
  have passes := timed.passes s maxLen
  rw [httpRecv]
  generalize transport.read s maxLen = delivered at within stores passes ⊢
  obtain ⟨ret, bytes, s'⟩ := delivered
  dsimp only at within stores passes ⊢
  rcases Int.lt_trichotomy ret 0 with negative | isZero | positive
  · have none : bytes = [] := by
      rw [← List.length_eq_zero_iff]
      omega
    rw [if_neg (by omega), if_neg (by omega), none]
    exact ⟨_, _, _, rfl, rfl, Nat.zero_le _, .inr (.inr ⟨rfl, rfl, negative⟩)⟩
  · have none : bytes = [] := by
      rw [← List.length_eq_zero_iff]
      omega
    rw [if_neg (by omega), if_pos isZero, none]
    exact ⟨_, _, _, rfl, rfl, Nat.zero_le _, .inr (.inl ⟨rfl, rfl, by omega, passes isZero⟩)⟩
  · have some : bytes ≠ [] := by
      rw [← List.length_pos_iff]
      omega
    rw [if_pos positive, ← stores]
    exact ⟨_, _, _, rfl, rfl, by omega, .inl ⟨rfl, some, by omega⟩⟩

/-- The look at the timer takes no time. It ends the loop, or it extends the timer where too little is
left of it, and not more often than is allowed where nothing has come. -/
theorem utilsCheckDeadloop_timed (len : Nat) (ret : Int) (counts : DeadloopCounts) (s : ν) :
    ∃ rc counts' s', utilsCheckDeadloop transport len ret counts s = (rc, counts', s') ∧
      timed.clock s' = timed.clock s ∧
      (rc = errHttpConnError ∨ rc = successRet ∧ counts.extendCount ≤ counts'.extendCount ∧
        (len = 0 → ret = failureRet → counts'.extendCount ≤ 2 * maxRetryCount ∧
          (counts.extendCount < counts'.extendCount ∨
            counts'.timer = counts.timer ∧ minTimeout ≤ timed.left counts.timer s))) := by
  have clock : ∀ s, timed.clock (transport.tick s).2 = timed.clock s := timed.instant
  rw [utilsCheckDeadloop, TimedNetwork.left, ← timed.shows]
  dsimp only
  generalize isRenewed : (if leftMs counts.timer (transport.tick s).1 < minTimeout then
    (DeadloopCounts.mk (countdownMs transport.rtTickFromMillisecond
      (transport.tick (transport.tick s).2).1 100) counts.deadLoopCount (counts.extendCount + 1),
      (transport.tick (transport.tick s).2).2)
    else (counts, (transport.tick s).2)) = renewed
  have same : timed.clock renewed.2 = timed.clock s ∧ (counts.extendCount < renewed.1.extendCount ∨
      renewed.1 = counts ∧ minTimeout ≤ leftMs counts.timer (transport.tick s).1) := by
    split at isRenewed <;> subst isRenewed
    · exact ⟨(clock _).trans (clock s), .inl (Nat.lt_succ_self _)⟩
    · rename_i enough
      exact ⟨clock s, .inr ⟨rfl, Int.not_lt.mp enough⟩⟩
  obtain ⟨counts', s'⟩ := renewed
  obtain ⟨sameClock, grows⟩ := same
  generalize isLooked : (if len = 0 then
    (decide (leftMs counts'.timer (transport.tick s').1 = 0), (transport.tick s').2)
    else (false, s')) = looked
  have looks : timed.clock looked.2 = timed.clock s := by
    rw [← sameClock]
    split at isLooked <;> subst isLooked
    · exact clock s'
    · rfl
  obtain ⟨out, s''⟩ := looked
  have atLeast : counts.extendCount ≤ counts'.extendCount := by
    rcases grows with more | ⟨same, _⟩
    · exact Nat.le_of_lt more
    · exact same ▸ Nat.le_refl _
  have renews : counts.extendCount < counts'.extendCount ∨ counts'.timer = counts.timer ∧
      minTimeout ≤ leftMs counts.timer (transport.tick s).1 := by
    rcases grows with more | ⟨same, enough⟩
    · exact .inl more
    · exact .inr ⟨congrArg DeadloopCounts.timer same, enough⟩
  dsimp only at looks ⊢
  split
  · split
    · exact ⟨_, _, _, rfl, looks, .inl rfl⟩
    · split
      · exact ⟨_, _, _, rfl, looks, .inl rfl⟩
      · rename_i few
        exact ⟨_, _, _, rfl, looks, .inr ⟨rfl, atLeast, fun _ _ => ⟨Nat.not_lt.mp few, renews⟩⟩⟩
  · split
    · exact ⟨_, _, _, rfl, looks, .inl rfl⟩
    · rename_i few
      refine ⟨_, _, _, rfl, looks, .inr ⟨rfl, atLeast, fun none failed => ⟨?_, renews⟩⟩⟩
      exact Nat.not_lt.mp fun many => few ⟨none, many, failed⟩

/-! ## The body -/

/-- How many turns the loop takes at most that moves a body, with so many bytes of it to be read. -/
def TimedNetwork.turnsFor (rem : Nat) (counts : DeadloopCounts) (s : ν) : Nat :=
  (rem + (2 * maxRetryCount + 1 - counts.extendCount)) * (2 ^ 31 + 1) + timed.patience counts.timer s

theorem TimedNetwork.turnsFor_waits {rem : Nat} {counts counts' : DeadloopCounts} {s₁ s' : ν}
    (later : timed.clock s < timed.clock s₁) (soon : timed.clock s₁ < timed.clock s + 2 ^ 31)
    (same : timed.clock s' = timed.clock s₁) (few : counts'.extendCount ≤ 2 * maxRetryCount)
    (renews : counts.extendCount < counts'.extendCount ∨
      counts'.timer = counts.timer ∧ minTimeout ≤ timed.left counts.timer s₁)
    (atLeast : counts.extendCount ≤ counts'.extendCount) :
    timed.turnsFor rem counts' s' < timed.turnsFor rem counts s := by
  have bound := timed.patience_le counts'.timer s'
  have retries : maxRetryCount = 600 := rfl
  rw [turnsFor, turnsFor]
  rcases renews with more | ⟨sameTimer, enough⟩
  · omega
  · have sameLeft : timed.left counts.timer s₁ = timed.left counts.timer s' := by
      rw [left, left, same]
    have sooner : timed.patience counts.timer s' < timed.patience counts.timer s :=
      timed.patience_lt (by omega) (by omega) (sameLeft ▸ enough)
    rw [sameTimer]
    omega

theorem TimedNetwork.turnsFor_reads {rem rem' : Nat} {counts counts' : DeadloopCounts} {s' : ν}
    (atLeast : counts.extendCount ≤ counts'.extendCount) (less : rem' < rem) :
    timed.turnsFor rem' counts' s' < timed.turnsFor rem counts s := by
  have bound := timed.patience_le counts'.timer s'
  rw [turnsFor, turnsFor]
  omega

/-- The loop that moves a body returns. It says that it has failed, or it has moved what there is room
for. -/
theorem responseBodyLoop_returns {turns : Nat} {data : List UInt8} {dataLen written room rem : Nat}
    {counts : DeadloopCounts} {clientData : HttpClientData} {responseBuf : List UInt8}
    (hasBuffer : HasBuffer clientData responseBuf) (isRoom : responseBuf.length = written + room + 1)
    (isLeft : clientData.retrieveLen = rem) (isData : data.length = httpClientReadBufSize)
    (known : dataLen ≤ data.length) (inTime : timed.turnsFor (rem - dataLen) counts s < turns) :
    ∃ rc after s', responseBodyLoop transport turns data dataLen written counts clientData s =
        .ok (rc, after, s') ∧ after.responseContentLen = clientData.responseContentLen ∧
      (rc = errHttpConnError ∨ 0 ≤ rc ∧ after.retrieveLen = (rem - room : Nat)) := by
  induction turns generalizing data dataLen written room rem counts clientData responseBuf s with
  | zero => exact absurd inTime (Nat.not_lt_zero _)
  | succ turns inductionHypothesis =>
      have isMin : min (dataLen : Int) clientData.retrieveLen = (min dataLen rem : Nat) := by omega
      obtain ⟨responseBuf', length, _, fills⟩ :=
        @utilsFillRxBuf_eq clientData responseBuf data written room (min dataLen rem) hasBuffer isRoom
          (by omega)
      rw [responseBodyLoop, isMin, fills]
      dsimp only [bind, Except.bind]
      by_cases full : room ≤ min dataLen rem
      · rw [if_neg (Nat.not_lt.mpr full), if_pos rfl]
        exact ⟨_, _, _, rfl, rfl, .inr ⟨by decide, by dsimp only; omega⟩⟩
      · rw [if_pos (Nat.not_le.mp full)]
        dsimp only
        rw [if_neg (by decide)]
        by_cases ends : rem ≤ dataLen
        · rw [if_pos (by omega)]
          exact ⟨_, _, _, rfl, rfl, .inr ⟨by decide, by dsimp only; omega⟩⟩
        · have all : min dataLen rem = dataLen := by omega
          have chunk : httpClientChunkSize - 1 = 1023 := rfl
          have least : min (min ((httpClientChunkSize - 1 : Nat) : Int)
              (clientData.responseBufLen - 1 - (written + dataLen : Nat)))
              (clientData.retrieveLen - dataLen) =
                (min (min 1023 (room - dataLen)) (rem - dataLen) : Nat) := by
            rw [hasBuffer.2]
            omega
          rw [all, if_neg (by omega), least, if_neg (by omega), Int.toNat_natCast]
          obtain ⟨ret, bytes, s₁, recv, _, within, outcome⟩ := httpRecv_timed timed s
            (min (min 1023 (room - dataLen)) (rem - dataLen))
          have size : httpClientReadBufSize = 1024 := rfl
          have stores := @store_eq data bytes 0 (by omega)
          have isBuffer : (overwrite data 0 bytes).length = data.length := overwrite_length (by omega)
          rw [recv]
          dsimp only
          rw [stores]
          dsimp only
          by_cases failed : ret = errHttpConnError
          · rw [if_pos failed]
            exact ⟨_, _, _, rfl, rfl, .inl failed⟩
          · obtain ⟨rc, counts', s', checks, same, bound⟩ :=
              utilsCheckDeadloop_timed timed bytes.length ret counts s₁
            rw [if_neg failed, checks]
            dsimp only
            rcases bound with gaveUp | ⟨isSuccess, atLeast, waited⟩
            · rw [if_pos gaveUp]
              exact ⟨_, _, _, rfl, rfl, .inl gaveUp⟩
            · have fewer : timed.turnsFor (rem - dataLen - bytes.length) counts' s' <
                  timed.turnsFor (rem - dataLen) counts s := by
                rcases outcome with ⟨_, some, _⟩ | ⟨isFailure, none, _, later, soon⟩ | ⟨isError, _⟩
                · have positive := List.length_pos_iff.mpr some
                  exact timed.turnsFor_reads atLeast (by omega)
                · obtain ⟨few, renews⟩ := waited (List.length_eq_zero_iff.mpr none) isFailure
                  rw [List.length_eq_zero_iff.mpr none]
                  exact timed.turnsFor_waits later soon same few renews atLeast
                · exact absurd isError failed
              have hasBuffer' : HasBuffer { clientData with
                  responseBuf := some responseBuf'
                  retrieveLen := clientData.retrieveLen - dataLen } responseBuf' :=
                ⟨rfl, hasBuffer.2.trans (congrArg _ length.symm)⟩
              obtain ⟨rc', after, s'', loops, announced, result⟩ := @inductionHypothesis s'
                (overwrite data 0 bytes) bytes.length (written + dataLen) (room - dataLen)
                (rem - dataLen) counts' _ responseBuf' hasBuffer' (by omega) (by dsimp only; omega)
                (isBuffer.trans isData) (by omega) (by omega)
              rw [if_neg (isSuccess ▸ by decide), loops]
              refine ⟨rc', after, s'', rfl, announced, ?_⟩
              have isRest : rem - dataLen - (room - dataLen) = rem - room := by omega
              rwa [isRest] at result

variable {client : HttpClient} {timeoutMs : UInt32} {clientData : HttpClientData}
  {responseBuf : List UInt8}

theorem httpGetResponseBody_returns (timed : TimedNetwork transport) {data : List UInt8}
    {dataLen rem : Nat} (hasBuffer : HasBuffer clientData responseBuf) (notEmpty : responseBuf ≠ [])
    (isLeft : clientData.retrieveLen = rem) (isData : data.length = httpClientReadBufSize)
    (known : dataLen ≤ data.length) :
    ∃ least, ∀ turns, least < turns → ∃ rc after s',
      httpGetResponseBody transport turns data dataLen timeoutMs clientData s = .ok (rc, after, s') ∧
        after.responseContentLen = clientData.responseContentLen ∧
        (rc < 0 ∨ 0 ≤ rc ∧ after.retrieveLen = (rem - (responseBuf.length - 1) : Nat)) := by
  have positive := List.length_pos_iff.mpr notEmpty
  refine ⟨timed.turnsFor (rem - dataLen) ⟨countdownMs transport.rtTickFromMillisecond (transport.tick s).1
    timeoutMs, 0, 0⟩ (transport.tick s).2, ?_⟩
  intro turns inTime
  rw [httpGetResponseBody]
  dsimp only
  split
  · exact ⟨_, _, _, rfl, rfl, .inl (by decide)⟩
  · have hasBuffer' : HasBuffer { clientData with isMore := true } responseBuf := hasBuffer
    obtain ⟨rc, after, s', loops, announced, result⟩ := @responseBodyLoop_returns _ transport
      (transport.tick s).2 timed turns data dataLen 0 (responseBuf.length - 1) rem
      ⟨countdownMs transport.rtTickFromMillisecond (transport.tick s).1 timeoutMs, 0, 0⟩ _ responseBuf
      hasBuffer' (by omega) isLeft isData known inTime
    refine ⟨rc, after, s', loops, announced, ?_⟩
    rcases result with failed | moved
    · exact .inl (failed ▸ by decide)
    · exact .inr moved

/-! ## The header -/

/-- The number behind the first name of the length, if there is one, is a length or the one that stands
for none. -/
def Announces (data : List UInt8) : Prop :=
  ∀ i, strstr contentLength (visible data) = some i →
    ∃ number, cStringAt data (i + (literal "Content-Length: ").length) = .ok number ∧ -1 ≤ atoi number

/-- The loop comes to an end: that of the header is in the buffer, or the connection fails, and until
then there is room for what is read. The bytes that have come have a terminator and other bytes behind
them. -/
inductive HeaderEnds (transport : Transport ν) : List UInt8 → List UInt8 → ν → Prop where
  | come {text behind : List UInt8} {s : ν} {bodyEnd : Nat} :
      strstr headerEnd (visible text) = some bodyEnd → Announces (text ++ 0 :: behind) →
      HeaderEnds transport text behind s
  | fails {text behind : List UInt8} {s : ν} : strstr headerEnd (visible text) = none →
      (transport.read s httpClientReadHeadSize).1 < 0 → HeaderEnds transport text behind s
  | reads {text behind bytes : List UInt8} {ret : Int} {s s' : ν} :
      strstr headerEnd (visible text) = none →
      transport.read s httpClientReadHeadSize = (ret, bytes, s') → 0 ≤ ret →
      bytes.length ≤ behind.length →
      HeaderEnds transport (text ++ bytes) (behind.drop bytes.length) s' →
      HeaderEnds transport text behind s

theorem filled_text {data text : List UInt8} (filled : Filled data text) :
    cStringAt data 0 = .ok (visible text) := filled.cString_zero

theorem visible_filled (text behind : List UInt8) : visible (text ++ 0 :: behind) = visible text := by
  induction text with
  | nil => rfl
  | cons byte text inductionHypothesis =>
      rw [List.cons_append, visible, visible, List.takeWhile_cons, List.takeWhile_cons]
      split
      · exact congrArg _ inductionHypothesis
      · rfl

/-- The end of a header is in the bytes that are searched for it. -/
theorem bodyEnd_within {text : List UInt8} {bodyEnd : Nat}
    (ends : strstr headerEnd (visible text) = some bodyEnd) : bodyEnd + 4 ≤ text.length := by
  have fits := (strstr_iff.mp ends).fits
  have shorter := (List.takeWhile_prefix (l := text) (fun byte => decide (byte ≠ 0))).length_le
  change bodyEnd + 4 ≤ (visible text).length at fits
  change (visible text).length ≤ text.length at shorter
  omega

/-- A turn of the loop, as long as the end of the header has not come. -/
theorem headerLoop_turn (timed : TimedNetwork transport) {turns : Nat} {text behind bytes : List UInt8}
    {ret : Int} {s' : ν} (missing : strstr headerEnd (visible text) = none)
    (reads : transport.read s httpClientReadHeadSize = (ret, bytes, s')) :
    headerLoop transport (turns + 1) (text ++ 0 :: behind) text.length s =
      if ret < 0 then .ok (errHttpConnError, 0, text ++ 0 :: behind, text.length, s')
      else if bytes.length ≤ behind.length then
        headerLoop transport turns (text ++ bytes ++ 0 :: behind.drop bytes.length)
          (text ++ bytes).length s'
      else .error .outside := by
  obtain ⟨code, bytes', s₁, recv, isRead, _, outcome⟩ :=
    httpRecv_timed timed s httpClientReadHeadSize
  rw [reads] at isRead outcome
  dsimp only at isRead outcome
  cases isRead
  rw [headerLoop, filled_text ⟨behind, rfl⟩]
  dsimp only [bind, Except.bind]
  rw [missing, recv]
  dsimp only
  by_cases room : bytes.length ≤ behind.length
  · obtain ⟨data, stored, terminated⟩ := stores_behind text room
    rw [stored]
    dsimp only
    rcases outcome with ⟨isCode, _, notNegative⟩ | ⟨isCode, _, notNegative, _⟩ | ⟨isCode, none, negative⟩
    · rw [if_neg (isCode ▸ by decide), if_neg (Int.not_lt.mpr notNegative), if_pos room, terminated,
        List.length_append]
    · rw [if_neg (isCode ▸ by decide), if_neg (Int.not_lt.mpr notNegative), if_pos room, terminated,
        List.length_append]
    · subst none
      have same : store (text ++ 0 :: behind) text.length [] = .ok (text ++ 0 :: behind) := by
        rw [@store_eq (text ++ 0 :: behind) [] text.length
          (by rw [List.length_append, List.length_nil]; omega), overwrite_append]
        simp
      cases same.symm.trans stored
      rw [if_pos isCode, if_pos negative, isCode]
      rfl
  · rcases outcome with ⟨isCode, _, notNegative⟩ | ⟨_, none, _⟩ | ⟨_, none, _⟩
    · rw [if_neg (Int.not_lt.mpr notNegative), if_neg room]
      have outside := stores_outside text (Nat.not_le.mp room)
      cases stores : store (text ++ 0 :: behind) text.length bytes with
      | error fault =>
          rw [stores] at outside
          cases outside
          rfl
      | ok data =>
          rw [stores] at outside
          dsimp only [Except.bind] at outside ⊢
          rw [if_neg (isCode ▸ by decide), outside]
    · exact absurd (none ▸ Nat.zero_le _) room
    · exact absurd (none ▸ Nat.zero_le _) room

/-- A loop that comes to an end returns. -/
theorem HeaderEnds.loop (timed : TimedNetwork transport) {text behind : List UInt8}
    (ends : HeaderEnds transport text behind s) :
    ∃ least ret bodyEnd text' behind' s', (∀ turns, least < turns →
        headerLoop transport turns (text ++ 0 :: behind) text.length s =
          .ok (ret, bodyEnd, text' ++ 0 :: behind', text'.length, s')) ∧
      text'.length + behind'.length = text.length + behind.length ∧
      (ret = errHttpConnError ∨ ret = successRet ∧ strstr headerEnd (visible text') = some bodyEnd ∧
        Announces (text' ++ 0 :: behind')) := by
  induction ends with
  | @come text behind s bodyEnd found announces =>
      refine ⟨0, successRet, bodyEnd, text, behind, s, fun turns positive => ?_, rfl,
        .inr ⟨rfl, found, announces⟩⟩
      obtain ⟨turns, rfl⟩ : ∃ turns', turns = turns' + 1 := ⟨turns - 1, by omega⟩
      rw [headerLoop, filled_text ⟨behind, rfl⟩]
      dsimp only [bind, Except.bind]
      rw [found]
      rfl
  | @fails text behind s missing failed =>
      refine ⟨0, errHttpConnError, 0, text, behind, (transport.read s httpClientReadHeadSize).2.2,
        fun turns positive => ?_, rfl, .inl rfl⟩
      obtain ⟨turns, rfl⟩ : ∃ turns', turns = turns' + 1 := ⟨turns - 1, by omega⟩
      rw [headerLoop_turn timed missing rfl, if_pos failed]
  | @reads text behind bytes ret s s' missing reads notNegative room _ inductionHypothesis =>
      obtain ⟨least, ret', bodyEnd, text', behind', s'', loops, sizes, result⟩ := inductionHypothesis
      refine ⟨least + 1, ret', bodyEnd, text', behind', s'', fun turns inTime => ?_, ?_, result⟩
      · obtain ⟨turns, rfl⟩ : ∃ turns', turns = turns' + 1 := ⟨turns - 1, by omega⟩
        rw [headerLoop_turn timed missing reads, if_neg (Int.not_lt.mpr notNegative), if_pos room]
        exact loops turns (by omega)
      · rw [sizes, List.length_append, List.length_drop]
        omega

/-- A loop that returns has come to an end. -/
theorem headerEnds_of_loop (timed : TimedNetwork transport) {turns len : Nat}
    {text behind data : List UInt8} {ret : Int} {bodyEnd : Nat} {s' : ν}
    (loops : headerLoop transport turns (text ++ 0 :: behind) text.length s =
      .ok (ret, bodyEnd, data, len, s'))
    (announces : ∀ text' behind', data = text' ++ 0 :: behind' → len = text'.length →
      ret = successRet → strstr headerEnd (visible text') = some bodyEnd → Announces data) :
    HeaderEnds transport text behind s := by
  induction turns generalizing text behind s with
  | zero => cases loops
  | succ turns inductionHypothesis =>
      cases found : strstr headerEnd (visible text) with
      | some i =>
          rw [headerLoop, filled_text ⟨behind, rfl⟩] at loops
          dsimp only [bind, Except.bind] at loops
          rw [found] at loops
          cases loops
          exact .come found (announces text behind rfl rfl rfl found)
      | none =>
          rcases reads : transport.read s httpClientReadHeadSize with ⟨code, bytes, s₁⟩
          rw [headerLoop_turn timed found reads] at loops
          split at loops
          · rename_i negative
            exact .fails found (by rw [reads]; exact negative)
          · rename_i notNegative
            split at loops
            · rename_i room
              exact .reads found reads (Int.not_lt.mp notNegative) room (inductionHypothesis loops)
            · cases loops

/-! ### The content -/

/-- A length below -1 is the number of bytes to be copied, so the body is not read. -/
theorem httpGetResponseBody_negative {turns dataLen : Nat} {data : List UInt8}
    (hasBuffer : HasBuffer clientData responseBuf) (notEmpty : responseBuf ≠ [])
    (negative : clientData.retrieveLen < -1) (same : clientData.responseContentLen = clientData.retrieveLen)
    (result : Int × HttpClientData × ν) :
    httpGetResponseBody transport turns data dataLen timeoutMs clientData s ≠ .ok result := by
  intro returns
  have positive := List.length_pos_iff.mpr notEmpty
  have isMin : min (dataLen : Int) clientData.retrieveLen = clientData.retrieveLen := by omega
  rw [httpGetResponseBody] at returns
  dsimp only at returns
  rw [if_neg fun unknown => by omega] at returns
  cases turns with
  | zero => cases returns
  | succ turns =>
      rw [responseBodyLoop] at returns
      obtain ⟨moved, fills, _⟩ := bind_ok returns
      dsimp only at fills
      rw [isMin, utilsFillRxBuf, if_pos (by dsimp only; rw [hasBuffer.2]; omega), copyToResponse,
        if_pos (.inl (by omega))] at fills
      cases fills

/-- Behind its header a response is read as far as there is room for it, where its length is known. -/
theorem parseContent_returns (timed : TimedNetwork transport) {bodyEnd : Nat} {text behind : List UInt8}
    (hasBuffer : HasBuffer clientData responseBuf) (notEmpty : responseBuf ≠ [])
    (isMore : clientData.isMore = true) (notChunked : clientData.isChunked = false)
    (size : text.length + behind.length + 1 = httpClientReadBufSize)
    (ends : strstr headerEnd (visible text) = some bodyEnd)
    (announces : Announces (text ++ 0 :: behind)) :
    ∃ least, ∀ turns, least < turns → ∃ rc after s',
      parseContent transport turns bodyEnd (text ++ 0 :: behind) text.length timeoutMs clientData s =
        .ok (rc, after, s') ∧
      (rc < 0 ∨ after.retrieveLen =
        max 0 (after.responseContentLen - (clientData.responseBufLen - 1))) := by
  have filled : Filled (text ++ 0 :: behind) text := ⟨behind, rfl⟩
  have isData : (text ++ 0 :: behind).length = httpClientReadBufSize := by
    rw [List.length_append, List.length_cons]
    omega
  have positive := List.length_pos_iff.mpr notEmpty
  cases named : strstr contentLength (visible text) with
  | none =>
      refine ⟨0, fun turns _ => ⟨errHttpConnError, clientData, s, ?_, .inl (by decide)⟩⟩
      rw [parseContent, filled_text filled]
      dsimp only [bind, Except.bind]
      rw [named]
      rfl
  | some i =>
      obtain ⟨number, isNumber, notNegative⟩ := announces i (by rw [visible_filled]; exact named)
      have hasBuffer' : HasBuffer (clientData.announce (atoi number) (text.length - (bodyEnd + 4)))
          responseBuf := hasBuffer
      obtain ⟨data', _, length, parses⟩ := @parseContent_number _ transport s bodyEnd i _ text number
        timeoutMs clientData filled (bodyEnd_within ends) named isNumber isMore notChunked
      have known : text.length - (bodyEnd + 4) ≤ data'.length := by
        rw [length, isData]
        omega
      by_cases unknown : atoi number = -1
      · refine ⟨0, fun turns _ => ?_⟩
        rw [parses, httpGetResponseBody]
        dsimp only
        rw [if_pos ⟨unknown, Bool.false_ne_true⟩]
        exact ⟨_, _, _, rfl, .inl (by decide)⟩
      · obtain ⟨rem, isRem⟩ := Int.eq_ofNat_of_zero_le (show 0 ≤ atoi number by omega)
        obtain ⟨least, moves⟩ := @httpGetResponseBody_returns _ transport s timeoutMs _ responseBuf timed
          data' _ rem hasBuffer' notEmpty isRem (length.trans isData) known
        refine ⟨least, fun turns inTime => ?_⟩
        obtain ⟨rc, after, s', gets, announced, result⟩ := moves turns inTime
        refine ⟨rc, after, s', (parses turns).trans gets, ?_⟩
        rcases result with failed | ⟨_, left⟩
        · exact .inl failed
        · right
          rw [left, announced, hasBuffer.2]
          dsimp only [HttpClientData.announce]
          omega

/-- Where it returns, its length is known. -/
theorem announces_of_returns {turns bodyEnd : Nat} {text behind : List UInt8}
    (hasBuffer : HasBuffer clientData responseBuf) (notEmpty : responseBuf ≠ [])
    (isMore : clientData.isMore = true) (notChunked : clientData.isChunked = false)
    (ends : strstr headerEnd (visible text) = some bodyEnd) {result : Int × HttpClientData × ν}
    (returns : parseContent transport turns bodyEnd (text ++ 0 :: behind) text.length timeoutMs clientData s =
      .ok result) : Announces (text ++ 0 :: behind) := by
  have filled : Filled (text ++ 0 :: behind) text := ⟨behind, rfl⟩
  intro i named
  rw [visible_filled] at named
  have reads := returns
  rw [parseContent, filled_text filled] at reads
  dsimp only [bind, Except.bind] at reads
  rw [named] at reads
  obtain ⟨number, isNumber, _⟩ := bind_ok reads
  refine ⟨number, isNumber, ?_⟩
  by_contra negative
  obtain ⟨data', _, _, parses⟩ := @parseContent_number _ transport s bodyEnd i _ text number
    timeoutMs clientData filled (bodyEnd_within ends) named isNumber isMore notChunked
  rw [parses] at returns
  have hasBuffer' : HasBuffer (clientData.announce (atoi number) (text.length - (bodyEnd + 4)))
      responseBuf := hasBuffer
  exact httpGetResponseBody_negative hasBuffer' notEmpty (by dsimp only [HttpClientData.announce]; omega)
    rfl result returns

/-! ### The first read -/

/-- A call whose first read brings no status line has failed. -/
theorem httpClientRecvResponse_stops {turns : Nat} (timed : TimedNetwork transport)
    (connected : client.net.handle ≠ .zero) (fresh : clientData.isMore = false)
    (stops : headerStart transport s = .ok none) :
    ∃ rc after s', httpClientRecvResponse transport turns client timeoutMs clientData s =
      .ok (rc, client, after, s') ∧ rc < 0 := by
  obtain ⟨ret, bytes, s', recv, _, _, outcome⟩ := httpRecv_timed timed s httpClientReadHeadSize
  rw [headerStart, recv] at stops
  obtain ⟨buf, stores, received⟩ := bind_ok stops
  clear stops
  rw [httpClientRecvResponse, if_neg connected, fresh, if_neg Bool.false_ne_true, recv]
  dsimp only [bind, Except.bind]
  rw [stores]
  dsimp only
  by_cases success : ret = 0
  · rw [if_neg (not_not.mpr success)] at received ⊢
    have some : bytes.length ≠ 0 := httpRecv_some recv success
    obtain ⟨data₁, stores₁, searched⟩ := bind_ok received
    obtain ⟨text, isText, found⟩ := bind_ok searched
    clear received searched
    rw [stores₁]
    dsimp only
    rw [if_pos some, httpParseResponseHeader]
    dsimp only [bind, Except.bind]
    rw [isText]
    dsimp only
    split at found
    · rename_i missing
      rw [missing]
      exact ⟨_, _, _, rfl, by decide⟩
    · obtain ⟨data₂, _, checked⟩ := bind_ok found
      obtain ⟨status, _, moves⟩ := bind_ok checked
      obtain ⟨data₃, _, impossible⟩ := bind_ok moves
      cases impossible
  · rw [if_pos success]
    refine ⟨_, _, _, rfl, ?_⟩
    rcases outcome with ⟨isZero, _⟩ | ⟨isFailure, _⟩ | ⟨isError, _⟩
    · exact absurd isZero success
    · exact isFailure ▸ by decide
    · exact isError ▸ by decide

/-- The first read ends in the buffer. It brings no status line, or the loop begins with what is behind
it. -/
theorem headerStart_timed (timed : TimedNetwork transport) (s : ν) :
    headerStart transport s = .ok none ∨ ∃ text behind s',
      headerStart transport s = .ok (some (text ++ 0 :: behind, text.length, s')) ∧
        text.length + behind.length + 1 = httpClientReadBufSize := by
  obtain ⟨ret, bytes, s', recv, _, within, outcome⟩ := httpRecv_timed timed s httpClientReadHeadSize
  have size : httpClientReadHeadSize = 32 := rfl
  have bufSize : httpClientReadBufSize = 1024 := rfl
  have stores := @store_eq (List.replicate httpClientReadBufSize 0) bytes 0
    (by rw [List.length_replicate]; omega)
  have isBuf : (overwrite (List.replicate httpClientReadBufSize 0) 0 bytes).length =
      httpClientReadBufSize := by
    rw [overwrite_length, List.length_replicate]
    rw [List.length_replicate]
    omega
  by_cases success : ret = 0
  · subst success
    cases found : strstr crlf (visible bytes) with
    | some crlfPos =>
        obtain ⟨data, starts, ⟨behind, rfl⟩, isData⟩ := headerStart_eq recv within found
        refine .inr ⟨bytes.drop (crlfPos + 2), behind, s', ?_, ?_⟩
        · rw [List.length_drop]
          exact starts
        · rw [← isData, List.length_append, List.length_cons]
          omega
    | none =>
        left
        have terminates := @store_eq (overwrite (List.replicate httpClientReadBufSize 0) 0 bytes) [0]
          bytes.length (by rw [isBuf, List.length_singleton]; omega)
        rw [overwrite_zero] at stores terminates
        have string := filled_text (filled_of_store terminates)
        rw [headerStart, recv]
        dsimp only [bind, Except.bind]
        rw [stores]
        dsimp only
        rw [if_neg (not_not.mpr rfl), terminates]
        dsimp only
        rw [string]
        dsimp only
        rw [found]
        rfl
  · left
    rw [headerStart, recv]
    dsimp only [bind, Except.bind]
    rw [stores]
    dsimp only
    rw [if_pos success]
    rfl

/-! ## Calls -/

/-- What a call is to move: all of a body, or what is left of it. -/
def toMove (before after : HttpClientData) : Int :=
  if before.isMore then before.retrieveLen else after.responseContentLen

/-- A call returns, and with an error unless it has moved all that the buffer has room for. -/
def Ends (transport : Transport ν) (client : HttpClient) (timeoutMs : UInt32)
    (clientData : HttpClientData) (s : ν) : Prop :=
  ∃ turns rc client' after s', httpClientRecvData transport turns client timeoutMs clientData s =
      .ok (rc, client', after, s') ∧
    (rc < 0 ∨ after.retrieveLen = max 0 (toMove clientData after - (clientData.responseBufLen - 1)))

/-- The call of a caller ends where the response does. -/
theorem ends_iff_response (hasBuffer : HasBuffer clientData responseBuf) (notEmpty : responseBuf ≠ []) :
    Ends transport client timeoutMs clientData s ↔ ∃ turns rc client' after s',
      httpClientRecvResponse transport turns client timeoutMs clientData s =
          .ok (rc, client', after, s') ∧
        (rc < 0 ∨
          after.retrieveLen = max 0 (toMove clientData after - (clientData.responseBufLen - 1))) := by
  have positive := List.length_pos_iff.mpr notEmpty
  have hasRoom : clientData.responseBuf.isSome ∧ clientData.responseBufLen ≠ 0 := by
    rw [hasBuffer.1, hasBuffer.2]
    exact ⟨rfl, by omega⟩
  constructor
  · rintro ⟨turns, rc, client', after, s', receives, result⟩
    rw [httpClientRecvData, if_pos hasRoom] at receives
    obtain ⟨⟨rc', client₁, after', s₁⟩, responds, closes⟩ := bind_ok receives
    dsimp only at closes
    refine ⟨turns, rc', client₁, after', s₁, responds, ?_⟩
    split at closes
    · rename_i failed
      exact .inl failed
    · cases closes
      exact .inr (result.resolve_left (by decide))
  · rintro ⟨turns, rc, client', after, s', responds, result⟩
    refine ⟨turns, ?_⟩
    rw [httpClientRecvData, if_pos hasRoom, responds]
    dsimp only [bind, Except.bind]
    split
    · rename_i failed
      exact ⟨_, _, _, _, rfl, .inl failed⟩
    · rename_i notFailed
      exact ⟨_, _, _, _, rfl, .inr (result.resolve_left notFailed)⟩

/-- A call for more ends. -/
theorem ends_more (timed : TimedNetwork transport) (hasBuffer : HasBuffer clientData responseBuf)
    (notEmpty : responseBuf ≠ []) (connected : client.net.handle ≠ .zero)
    (isMore : clientData.isMore = true) (left : 0 ≤ clientData.retrieveLen) :
    Ends transport client timeoutMs clientData s := by
  have positive := List.length_pos_iff.mpr notEmpty
  obtain ⟨rem, isRem⟩ := Int.eq_ofNat_of_zero_le left
  have stores := @store_eq responseBuf [0] 0 (by rw [List.length_singleton]; omega)
  have length : (overwrite responseBuf 0 [0]).length = responseBuf.length :=
    overwrite_length (by rw [List.length_singleton]; omega)
  generalize overwrite responseBuf 0 [0] = cleared at stores length
  have notEmpty' : cleared ≠ [] := by
    rw [← List.length_pos_iff]
    omega
  have hasBuffer' : HasBuffer { clientData with responseBuf := some cleared } cleared :=
    ⟨rfl, hasBuffer.2.trans (congrArg _ length.symm)⟩
  obtain ⟨least, moves⟩ := @httpGetResponseBody_returns _ _ s timeoutMs _ _ timed
    (List.replicate httpClientReadBufSize 0) 0 _ hasBuffer' notEmpty' isRem List.length_replicate
    (Nat.zero_le _)
  obtain ⟨rc, after, s', gets, announced, result⟩ := moves (least + 1) (Nat.lt_succ_self _)
  rw [ends_iff_response hasBuffer notEmpty]
  refine ⟨least + 1, rc, client, after, s', ?_, ?_⟩
  · rw [httpClientRecvResponse, if_neg connected, if_pos isMore, hasBuffer.1, Option.getD_some, stores]
    dsimp only [bind, Except.bind]
    rw [gets]
    rfl
  · rcases result with failed | ⟨_, isLeft⟩
    · exact .inl failed
    · right
      rw [isLeft, toMove, if_pos isMore, hasBuffer.2, length, isRem]
      omega

/-- A call that reads a header ends where the loop does that reads it. -/
theorem ends_header_iff (timed : TimedNetwork transport) (hasBuffer : HasBuffer clientData responseBuf)
    (notEmpty : responseBuf ≠ []) (connected : client.net.handle ≠ .zero)
    (fresh : clientData.isMore = false) {text behind : List UInt8} {s' : ν}
    (starts : headerStart transport s = .ok (some (text ++ 0 :: behind, text.length, s')))
    (size : text.length + behind.length + 1 = httpClientReadBufSize) :
    Ends transport client timeoutMs clientData s ↔ HeaderEnds transport text behind s' := by
  have hasBuffer' : HasBuffer { clientData with isMore := true, responseContentLen := -1, isChunked := false }
      responseBuf := hasBuffer
  rw [ends_iff_response hasBuffer notEmpty]
  constructor
  · rintro ⟨turns, rc, client', after, s'', responds, -⟩
    obtain ⟨code, isResponse⟩ := @httpClientRecvResponse_starts _ _ _ turns _ timeoutMs _ _ _ _
      connected fresh starts
    rw [isResponse] at responds
    obtain ⟨⟨ret, bodyEnd, data, len, s₁⟩, loops, parses⟩ := bind_ok responds
    apply headerEnds_of_loop timed loops
    rintro text' behind' rfl rfl success found
    dsimp only at parses
    rw [if_neg (not_not.mpr success)] at parses
    obtain ⟨result, returns, _⟩ := bind_ok parses
    exact announces_of_returns hasBuffer' notEmpty rfl rfl found returns
  · intro ends
    obtain ⟨least, ret, bodyEnd, text', behind', s₁, loops, sizes, result⟩ := ends.loop timed
    rcases result with isError | ⟨success, found, announces⟩
    · obtain ⟨code, isResponse⟩ := @httpClientRecvResponse_starts _ _ _ (least + 1) _ timeoutMs _
        _ _ _ connected fresh starts
      rw [loops (least + 1) (Nat.lt_succ_self _)] at isResponse
      dsimp only [Except.bind] at isResponse
      rw [if_pos (isError ▸ by decide)] at isResponse
      exact ⟨least + 1, _, _, _, _, isResponse, .inl (isError ▸ by decide)⟩
    · obtain ⟨least', parses⟩ := @parseContent_returns _ _ s₁ timeoutMs _ _ timed _ _ _ hasBuffer'
        notEmpty rfl rfl (by omega) found announces
      obtain ⟨code, isResponse⟩ := @httpClientRecvResponse_starts _ _ _ (least + least' + 1) _
        timeoutMs _ _ _ _ connected fresh starts
      obtain ⟨rc, after, s'', gets, moved⟩ := parses (least + least' + 1) (by omega)
      rw [loops (least + least' + 1) (by omega)] at isResponse
      dsimp only [Except.bind] at isResponse
      rw [if_neg (not_not.mpr success), gets] at isResponse
      refine ⟨least + least' + 1, _, _, _, _, isResponse, ?_⟩
      rw [toMove, fresh]
      exact moved

/-- A call ends just where the loop does that reads its header, if it has one to read. -/
theorem ends_iff (timed : TimedNetwork transport) (client : HttpClient) (timeoutMs : UInt32) (s : ν)
    (hasBuffer : HasBuffer clientData responseBuf) (notEmpty : responseBuf ≠ [])
    (left : clientData.isMore = true → 0 ≤ clientData.retrieveLen) :
    Ends transport client timeoutMs clientData s ↔
      (client.net.handle ≠ .zero → clientData.isMore = false → ∀ data len s',
        headerStart transport s = .ok (some (data, len, s')) →
          HeaderEnds transport (data.take len) (data.drop (len + 1)) s') := by
  by_cases connected : client.net.handle = .zero
  · refine iff_of_true ?_ fun notZero => absurd connected notZero
    rw [ends_iff_response hasBuffer notEmpty]
    refine ⟨0, errHttpConnError, client, clientData, s, ?_, .inl (by decide)⟩
    rw [httpClientRecvResponse, if_pos connected]
    rfl
  · cases more : clientData.isMore with
    | true =>
        have ends : Ends transport client timeoutMs clientData s :=
          ends_more timed hasBuffer notEmpty connected more (left more)
        exact iff_of_true ends fun _ isFirst => Bool.noConfusion isFirst
    | false =>
        rcases headerStart_timed timed s with stops | ⟨text, behind, s', starts, size⟩
        · refine iff_of_true ?_ fun _ _ data len s' starts => by cases stops.symm.trans starts
          rw [ends_iff_response hasBuffer notEmpty]
          obtain ⟨rc, after, s', responds, failed⟩ :=
            @httpClientRecvResponse_stops _ _ _ _ timeoutMs _ 0 timed connected more stops
          exact ⟨0, rc, client, after, s', responds, .inl failed⟩
        · rw [ends_header_iff timed hasBuffer notEmpty connected more starts size]
          have isText : (text ++ 0 :: behind).take text.length = text := List.take_left
          have isBehind : (text ++ 0 :: behind).drop (text.length + 1) = behind := by
            rw [← List.drop_drop, List.drop_left]
            rfl
          constructor
          · intro ends _ _ data len s'' again
            cases starts.symm.trans again
            rw [isText, isBehind]
            exact ends
          · intro ends
            have header := ends connected rfl _ _ _ starts
            rwa [isText, isBehind] at header

/-! ## A server that stalls -/

/-- States in which nothing comes any more. -/
structure Stalled (transport : Transport ν) (stalled : ν → Prop) : Prop where
  reads : ∀ s n, stalled s → ∃ s', transport.read s n = (0, [], s') ∧ stalled s'
  ticks : ∀ s, stalled s → stalled (transport.tick s).2

/-- In the middle of a header the loop goes on. -/
theorem Stalled.not_headerEnds {stalled : ν → Prop} (quiet : Stalled transport stalled)
    {text behind : List UInt8} (isStalled : stalled s)
    (missing : strstr headerEnd (visible text) = none) : ¬HeaderEnds transport text behind s := by
  intro ends
  induction ends with
  | come found _ => exact absurd (missing.symm.trans found) (Option.some_ne_none _).symm
  | @fails text behind s _ failed =>
      obtain ⟨s', reads, _⟩ := quiet.reads s httpClientReadHeadSize isStalled
      rw [reads] at failed
      exact absurd failed (Int.lt_irrefl 0)
  | @reads text behind bytes ret s s' _ reads _ _ _ inductionHypothesis =>
      obtain ⟨s₁, again, isStalled'⟩ := quiet.reads s httpClientReadHeadSize isStalled
      cases reads.symm.trans again
      rw [List.append_nil] at inductionHypothesis
      exact inductionHypothesis isStalled' missing

theorem Stalled.check {stalled : ν → Prop} (quiet : Stalled transport stalled) (isStalled : stalled s)
    (len : Nat) (ret : Int) (counts : DeadloopCounts) :
    stalled (utilsCheckDeadloop transport len ret counts s).2.2 := by
  have ticks := quiet.ticks
  rw [utilsCheckDeadloop]
  dsimp only
  split_ifs <;> (repeat apply ticks) <;> exact isStalled

/-- In the middle of a body, with less of it there than is to be moved, the loop fails. -/
theorem Stalled.responseBodyLoop {stalled : ν → Prop} (quiet : Stalled transport stalled) {turns : Nat}
    {data : List UInt8} {dataLen written room rem : Nat} {counts : DeadloopCounts} {rc : Int}
    {after : HttpClientData} {s' : ν} (hasBuffer : HasBuffer clientData responseBuf)
    (isRoom : responseBuf.length = written + room + 1) (isLeft : clientData.retrieveLen = rem)
    (known : dataLen ≤ data.length) (hasRoom : dataLen < room) (more : dataLen < rem)
    (isStalled : stalled s)
    (loops : Utils.responseBodyLoop transport turns data dataLen written counts clientData s =
      .ok (rc, after, s')) : rc = errHttpConnError := by
  induction turns generalizing data dataLen written room rem counts clientData responseBuf s with
  | zero => cases loops
  | succ turns inductionHypothesis =>
      have isMin : min (dataLen : Int) clientData.retrieveLen = dataLen := by omega
      obtain ⟨responseBuf', length, _, fills⟩ :=
        @utilsFillRxBuf_eq clientData responseBuf data written room dataLen hasBuffer isRoom known
      rw [if_pos hasRoom] at fills
      rw [Utils.responseBodyLoop, isMin, fills] at loops
      dsimp only [bind, Except.bind] at loops
      rw [if_neg (by decide), if_neg (by omega)] at loops
      split at loops
      · cases loops
      · generalize (min (min ((httpClientChunkSize - 1 : Nat) : Int)
          (clientData.responseBufLen - 1 - (written + dataLen : Nat)))
          (clientData.retrieveLen - dataLen)).toNat = maxLen at loops
        obtain ⟨s₁, reads, isStalled'⟩ := quiet.reads s maxLen isStalled
        have recv : httpRecv transport maxLen s = (failureRet, 0, [], s₁) := by
          rw [httpRecv, reads]
          rfl
        have stores := @store_eq data [] 0 (Nat.zero_le _)
        rw [recv] at loops
        dsimp only at loops
        rw [stores] at loops
        dsimp only at loops
        rw [if_neg (by decide)] at loops
        have stays := quiet.check isStalled' 0 failureRet counts
        generalize utilsCheckDeadloop transport 0 failureRet counts s₁ = checked at loops stays
        split at loops
        · rename_i gaveUp
          cases loops
          exact gaveUp
        · have hasBuffer' : HasBuffer { clientData with
              responseBuf := some responseBuf'
              retrieveLen := clientData.retrieveLen - dataLen } responseBuf' :=
            ⟨rfl, hasBuffer.2.trans (congrArg _ length.symm)⟩
          exact @inductionHypothesis checked.2.2 _ responseBuf' (overwrite data 0 []) 0
            (written + dataLen) (room - dataLen) (rem - dataLen) checked.2.1 hasBuffer' (by omega)
            (by dsimp only; omega) (Nat.zero_le _) (by omega) (by omega) stays loops

/-- A server that has sent some bytes and stalls behind them, at some time. -/
structure StallingServer where
  pending : List UInt8
  clock : Nat

/-- A read delivers what there is, or takes a second. -/
def stalling : Transport StallingServer where
  read s n :=
    let bytes := s.pending.take n
    (bytes.length, bytes, ⟨s.pending.drop n, if bytes = [] then s.clock + 1000 else s.clock⟩)
  write s bytes := (bytes.length, s)
  connect s _ _ := (.connection, s)
  disconnect s _ := s
  tick s := (UInt32.ofNat s.clock, s)
  rtTickFromMillisecond := id
  usingTls := false

def stallingNetwork : TimedNetwork stalling where
  clock := StallingServer.clock
  within s n := by
    have short := List.length_take_le n s.pending
    dsimp only [stalling]
    omega
  stores s n := rfl
  passes s n none := by
    have isEmpty : s.pending.take n = [] := by
      rw [← List.length_eq_zero_iff]
      exact Int.natCast_eq_zero.mp none
    dsimp only [stalling]
    rw [if_pos isEmpty]
    omega
  shows _ := rfl
  instant _ := rfl

theorem stalled_stalling : Stalled stalling fun s => s.pending = [] where
  reads s n none := by
    refine ⟨⟨[], s.clock + 1000⟩, ?_, rfl⟩
    dsimp only [stalling]
    rw [none, List.take_nil, List.drop_nil]
    rfl
  ticks _ none := none

/-- A client that has sent its request, and a buffer for 15 bytes. -/
def waitingClient : HttpClient where
  net := { hostAddress := [], port := 80, handle := .connection }
  responseCode := 0
  header := none

def waitingData : HttpClientData where
  isMore := false
  isChunked := false
  retrieveLen := 0
  responseContentLen := 0
  responseReceivedLen := 0
  postBufLen := 0
  responseBufLen := 16
  postContentType := none
  postBuf := none
  responseBuf := some (List.replicate 16 0)

/-- A server that sends nothing at all. -/
theorem ends_silent : Ends stalling waitingClient 1000 waitingData ⟨[], 0⟩ := by
  have stops : headerStart stalling ⟨[], 0⟩ = .ok none := by
    have recv : httpRecv stalling httpClientReadHeadSize ⟨[], 0⟩ = (failureRet, 0, [], ⟨[], 1000⟩) := rfl
    rw [headerStart, recv]
    dsimp only [bind, Except.bind]
    rw [store_eq (Nat.zero_le _)]
    rfl
  refine (@ends_iff _ stalling waitingData (List.replicate 16 0) stallingNetwork waitingClient 1000 ⟨[], 0⟩
    ⟨rfl, rfl⟩ (by decide) fun more => absurd more (by decide)).mpr ?_
  intro _ _ data len s' starts
  cases stops.symm.trans starts

/-- A server that stalls behind the line of its status. -/
theorem not_ends : ¬Ends stalling waitingClient 1000 waitingData ⟨literal "HTTP/1.1 200 OK\r\n", 0⟩ := by
  intro ends
  have recv : httpRecv stalling httpClientReadHeadSize ⟨literal "HTTP/1.1 200 OK\r\n", 0⟩ =
      (0, (literal "HTTP/1.1 200 OK\r\n").length, literal "HTTP/1.1 200 OK\r\n", ⟨[], 0⟩) := by
    rfl
  have line : strstr crlf (visible (literal "HTTP/1.1 200 OK\r\n")) = some 15 := by decide
  obtain ⟨data, starts, ⟨behind, rfl⟩, isData⟩ := headerStart_eq recv (by decide) line
  have nothing : (literal "HTTP/1.1 200 OK\r\n").drop (15 + 2) = [] := by decide
  rw [nothing] at starts isData
  have hasBuffer : HasBuffer waitingData (List.replicate 16 0) := ⟨rfl, rfl⟩
  have header := (ends_header_iff stallingNetwork hasBuffer (by decide) (by decide) rfl starts
    (by rw [← isData]; simp)).mp ends
  exact stalled_stalling.not_headerEnds rfl rfl header

end UIoT.Utils
