import UIoT.Mqtt.Yield

/-!
# What a read of the socket tells

`recv` answers with a count, with 0 when the peer has closed, or with an error. The loop of
`HAL_TCP_Read` treats a closed peer like an error that is to be tried again. When nothing else comes
until the time is up, it returns 0, as for a peer that is only silent (`tellsApart_iff`), and the yield
loop takes that for a pass without a packet (`cycleForRead_silent`). The codes that it looks for do end
the connection (`afterCycle_disconnects`).
-/

set_option autoImplicit false

namespace UIoT.Mqtt

/-! ## Answers of the socket -/

/-- `errno`, as far as the loop tells its values apart. -/
inductive Errno where
  | eintr
  | eagain
  | other (code : Nat)
  deriving DecidableEq, Repr

/-- What `recv` returns. -/
inductive RecvResult where
  | received (count : Nat) (positive : 0 < count)
  | closed
  | error (errno : Errno)
  deriving DecidableEq

/-- An error that is not to be tried again. -/
def RecvResult.isFatal : RecvResult → Bool
  | .error (.other _) => true
  | _ => false

/-- The bytes that are stored in a buffer with this much room. -/
def RecvResult.stored (room : Nat) : RecvResult → Nat
  | .received count _ => min count room
  | _ => 0

/-- Nothing came, and nothing failed for good. -/
def RecvResult.Idle (result : RecvResult) : Prop :=
  match result with
  | .received _ _ => False
  | .closed => True
  | .error errno => errno = .eintr ∨ errno = .eagain

instance (result : RecvResult) : Decidable result.Idle :=
  match result with
  | .received _ _ => inferInstanceAs (Decidable False)
  | .closed => inferInstanceAs (Decidable True)
  | .error errno => inferInstanceAs (Decidable (errno = .eintr ∨ errno = .eagain))

/-- The next bytes of a stream. -/
def bytesFrom (stream : Nat → UInt8) (start count : Nat) : List UInt8 :=
  (List.range count).map fun i => stream (start + i)

/-- The calls of `recv` behind `n` bytes of the stream, while the time is not up. -/
def recvsOf (len : Nat) (stream : Nat → UInt8) : Nat → List RecvResult → List Recv
  | _, [] => []
  | n, result :: results =>
      (if result.isFatal then .failed else .got (bytesFrom stream n (result.stored (len - n)))) ::
        recvsOf len stream (n + result.stored (len - n)) results

/-- `HAL_TCP_Read` behind `n` bytes of the stream -/
def readFrom (len : Nat) (stream : Nat → UInt8) (n : Nat) (results : List RecvResult) :
    Int × List UInt8 :=
  halTcpRead len (bytesFrom stream 0 n) (recvsOf len stream n results)

/-- What ends the loop. -/
inductive LoopEnd where
  | time | full | error
  deriving DecidableEq

/-- The calls that the loop makes, and what ends it. -/
def readCalls (len : Nat) : Nat → List RecvResult → List RecvResult × LoopEnd
  | _, [] => ([], .time)
  | n, result :: results =>
      if result.isFatal then ([result], .error)
      else if n + result.stored (len - n) < len then
        let (calls, ended) := readCalls len (n + result.stored (len - n)) results
        (result :: calls, ended)
      else ([result], .full)

/-! ## The loop -/

section Loop

variable {len n : Nat} {stream : Nat → UInt8} {result : RecvResult} {results : List RecvResult}

theorem bytesFrom_length (start count : Nat) : (bytesFrom stream start count).length = count := by
  rw [bytesFrom, List.length_map, List.length_range]

theorem bytesFrom_append (first second : Nat) :
    bytesFrom stream 0 first ++ bytesFrom stream first second = bytesFrom stream 0 (first + second) := by
  rw [bytesFrom, bytesFrom, bytesFrom, List.range_add, List.map_append, List.map_map]
  congr 2
  funext i
  rw [Function.comp_apply, Nat.zero_add]

theorem bytesFrom_eq_nil (start count : Nat) : bytesFrom stream start count = [] ↔ count = 0 := by
  rw [← List.length_eq_zero_iff, bytesFrom_length]

theorem readFrom_nil : readFrom len stream n [] = ((n : Int), bytesFrom stream 0 n) := by
  rw [readFrom, recvsOf, halTcpRead, bytesFrom_length]

theorem readFrom_fatal (fatal : result.isFatal = true) :
    readFrom len stream n (result :: results) =
      if n = 0 then (errTcpReadFailed, []) else ((n : Int), bytesFrom stream 0 n) := by
  rw [readFrom, recvsOf, if_pos fatal, halTcpRead, bytesFrom_length]
  simp only [bytesFrom_eq_nil]

theorem readFrom_cons (goesOn : result.isFatal = false) :
    readFrom len stream n (result :: results) =
      if n + result.stored (len - n) < len then
        readFrom len stream (n + result.stored (len - n)) results
      else (((n + result.stored (len - n) : Nat) : Int),
        bytesFrom stream 0 (n + result.stored (len - n))) := by
  have within : result.stored (len - n) ≤ len - n := by
    cases result with
    | received count positive => exact Nat.min_le_right count (len - n)
    | closed => exact Nat.zero_le _
    | error errno => exact Nat.zero_le _
  have whole : (bytesFrom stream n (result.stored (len - n))).take (len - (bytesFrom stream 0 n).length) =
      bytesFrom stream n (result.stored (len - n)) := by
    apply List.take_of_length_le
    rw [bytesFrom_length, bytesFrom_length]
    exact within
  rw [readFrom, recvsOf, if_neg (ne_true_of_eq_false goesOn), halTcpRead, whole, bytesFrom_append,
    bytesFrom_length]
  rfl

/-- What is stored are the next bytes of the stream; the value returned is their number, or the code of
an error in front of the first of them. -/
theorem readFrom_stores (len : Nat) (stream : Nat → UInt8) (n : Nat) (results : List RecvResult) :
    ∃ stored, n ≤ stored ∧ (readFrom len stream n results).2 = bytesFrom stream 0 stored ∧
      ((readFrom len stream n results).1 = stored ∨
        stored = 0 ∧ (readFrom len stream n results).1 = errTcpReadFailed) := by
  induction results generalizing n with
  | nil =>
      rw [readFrom_nil]
      exact ⟨n, Nat.le_refl n, rfl, .inl rfl⟩
  | cons result results inductionHypothesis =>
      by_cases fatal : result.isFatal = true
      · rw [readFrom_fatal fatal]
        split
        · rename_i nothing
          exact ⟨0, Nat.le_of_eq nothing, rfl, .inr ⟨rfl, rfl⟩⟩
        · exact ⟨n, Nat.le_refl n, rfl, .inl rfl⟩
      · rw [readFrom_cons (Bool.eq_false_iff.mpr fatal)]
        split
        · obtain ⟨stored, more, isStored, ret⟩ := inductionHypothesis (n + result.stored (len - n))
          exact ⟨stored, Nat.le_trans (Nat.le_add_right _ _) more, isStored, ret⟩
        · exact ⟨_, Nat.le_add_right _ _, rfl, .inl rfl⟩

theorem RecvResult.Idle.notFatal (idle : result.Idle) : result.isFatal = false := by
  cases result with
  | received count positive => exact idle.elim
  | closed => rfl
  | error errno =>
      rcases idle with rfl | rfl
      · rfl
      · rfl

theorem RecvResult.Idle.stored_eq (idle : result.Idle) (room : Nat) : result.stored room = 0 := by
  cases result with
  | received count positive => exact idle.elim
  | closed => rfl
  | error errno => rfl

/-- A call that brings nothing is made again. -/
theorem readFrom_idle (idle : result.Idle) (room : n < len) :
    readFrom len stream n (result :: results) = readFrom len stream n results := by
  rw [readFrom_cons idle.notFatal, idle.stored_eq, Nat.add_zero, if_pos room]

theorem readCalls_idle (idle : result.Idle) (room : n < len) :
    readCalls len n (result :: results) =
      (result :: (readCalls len n results).1, (readCalls len n results).2) := by
  rw [readCalls, if_neg (ne_true_of_eq_false idle.notFatal), idle.stored_eq, Nat.add_zero, if_pos room]

/-- Calls that all bring nothing are made until the time is up. -/
theorem readFrom_allIdle (room : 0 < len) (idle : ∀ result ∈ results, result.Idle) :
    readFrom len stream 0 results = (0, []) ∧ readCalls len 0 results = (results, .time) := by
  induction results with
  | nil => exact ⟨readFrom_nil, rfl⟩
  | cons result results inductionHypothesis =>
      obtain ⟨ret, calls⟩ := inductionHypothesis fun other among => idle other (List.mem_cons_of_mem _ among)
      have first := idle result List.mem_cons_self
      rw [readFrom_idle first room, readCalls_idle first room, ret, calls]
      exact ⟨rfl, rfl⟩

/-- The first call that brings something, or fails, decides. -/
theorem readFrom_notIdle (room : 0 < len) (some : ∃ result ∈ results, ¬result.Idle) :
    0 < (readFrom len stream 0 results).1 ∨ (readFrom len stream 0 results).1 = errTcpReadFailed := by
  induction results with
  | nil =>
      obtain ⟨result, among, -⟩ := some
      exact absurd among List.not_mem_nil
  | cons result results inductionHypothesis =>
      by_cases idle : result.Idle
      · rw [readFrom_idle idle room]
        apply inductionHypothesis
        obtain ⟨other, among, notIdle⟩ := some
        rcases List.mem_cons.mp among with rfl | later
        · exact absurd idle notIdle
        · exact ⟨other, later, notIdle⟩
      · cases result with
        | closed => exact absurd trivial idle
        | error errno =>
            cases errno with
            | eintr => exact absurd (.inl rfl) idle
            | eagain => exact absurd (.inr rfl) idle
            | other code =>
                rw [readFrom_fatal rfl]
                exact .inr rfl
        | received count positive =>
            have first : 0 < 0 + (RecvResult.received count positive).stored (len - 0) := by
              rw [Nat.zero_add, Nat.sub_zero]
              exact lt_min positive room
            obtain ⟨stored, more, -, ret⟩ :=
              readFrom_stores len stream (0 + (RecvResult.received count positive).stored (len - 0)) results
            rw [readFrom_cons rfl]
            split
            · rcases ret with ret | ⟨nothing, -⟩
              · rw [ret]
                exact .inl (Int.natCast_pos.mpr (Nat.lt_of_lt_of_le first more))
              · exact absurd (nothing ▸ more) (Nat.not_le.mpr first)
            · exact .inl (Int.natCast_pos.mpr first)

end Loop

/-! ## What the value returned tells -/

/-- The codes of the network for which the yield loop disconnects. -/
def TellsOfDisconnection (ret : Int) : Prop :=
  ret = errSslReadTimeout ∨ ret = errSslReadFailed ∨ ret = errTcpPeerShutdown ∨ ret = errTcpReadFailed

instance (ret : Int) : Decidable (TellsOfDisconnection ret) :=
  inferInstanceAs (Decidable (ret = errSslReadTimeout ∨ ret = errSslReadFailed ∨
    ret = errTcpPeerShutdown ∨ ret = errTcpReadFailed))

/-- The value returned tells bytes, a silent peer and a lost one apart. -/
structure TellsApart (len : Nat) (stream : Nat → UInt8) (results : List RecvResult) : Prop where
  bytes : 0 < (readFrom len stream 0 results).1 →
    (readFrom len stream 0 results).2 = bytesFrom stream 0 (readFrom len stream 0 results).1.toNat
  silent : (readFrom len stream 0 results).1 = 0 →
    (readCalls len 0 results).2 = .time ∧ .closed ∉ (readCalls len 0 results).1
  lost : (readFrom len stream 0 results).2 = [] →
    (∃ result ∈ (readCalls len 0 results).1, result = .closed ∨ result.isFatal = true) →
      TellsOfDisconnection (readFrom len stream 0 results).1

/-- No call meets a closed peer, or another one brings something or fails. A read of nothing makes no
call, or its first one fails. -/
def SpeaksUp (len : Nat) (results : List RecvResult) : Prop :=
  if len = 0 then ∀ result ∈ results.head?, result.isFatal = true
  else .closed ∉ results ∨ ∃ result ∈ results, ¬result.Idle

theorem tellsApart_of_failed {len : Nat} {stream : Nat → UInt8} {results : List RecvResult}
    (failed : (readFrom len stream 0 results).1 = errTcpReadFailed) :
    TellsApart len stream results where
  bytes positive := by
    rw [failed] at positive
    exact absurd positive (by decide)
  silent zero := by
    rw [failed] at zero
    exact absurd zero (by decide)
  lost _ _ := .inr (.inr (.inr failed))

theorem tellsApart_of_positive {len : Nat} {stream : Nat → UInt8} {results : List RecvResult}
    (positive : 0 < (readFrom len stream 0 results).1) : TellsApart len stream results := by
  obtain ⟨stored, -, isStored, ret | ⟨-, failed⟩⟩ := readFrom_stores len stream 0 results
  · refine ⟨fun _ => ?_, fun zero => ?_, fun nothing _ => ?_⟩
    · rw [isStored, ret]
      rfl
    · exact absurd zero (Int.ne_of_gt positive)
    · rw [isStored, bytesFrom_eq_nil] at nothing
      rw [ret, nothing] at positive
      exact absurd positive (Int.lt_irrefl 0)
  · exact tellsApart_of_failed failed

/-- A read of nothing tells them apart when it makes no call, or its first one fails. -/
theorem tellsApart_nothing_iff {stream : Nat → UInt8} {results : List RecvResult} :
    TellsApart 0 stream results ↔ ∀ result ∈ results.head?, result.isFatal = true := by
  cases results with
  | nil =>
      refine iff_of_true ?_ fun result isFirst => nomatch isFirst
      refine ⟨fun positive => ?_, fun _ => ⟨rfl, List.not_mem_nil⟩, ?_⟩
      · rw [readFrom_nil] at positive
        exact absurd positive (Int.lt_irrefl 0)
      · rintro - ⟨result, among, -⟩
        exact absurd among List.not_mem_nil
  | cons result results =>
      constructor
      · intro tells other isFirst
        cases isFirst
        by_contra goesOn
        rw [Bool.not_eq_true] at goesOn
        -- The loop ends behind this call, as there is no room, and not because of the time.
        have none : ∀ room, 0 + result.stored (0 - room) = 0 := by
          intro room
          rw [Nat.zero_sub, Nat.zero_add]
          cases result with
          | received count positive => exact Nat.min_zero count
          | closed => rfl
          | error errno => rfl
        have zero : (readFrom 0 stream 0 (result :: results)).1 = 0 := by
          rw [readFrom_cons goesOn, none]
          rfl
        have ended := (tells.silent zero).1
        rw [readCalls, if_neg (ne_true_of_eq_false goesOn), none, if_neg (Nat.lt_irrefl 0)] at ended
        exact nomatch ended
      · intro fatal
        apply tellsApart_of_failed
        rw [readFrom_fatal (fatal result rfl)]
        rfl

/-- Where no call brings anything or fails, only closed peers are not told. -/
theorem tellsApart_idle_iff {len : Nat} {stream : Nat → UInt8} {results : List RecvResult}
    (room : 0 < len) (idle : ∀ result ∈ results, result.Idle) :
    TellsApart len stream results ↔ .closed ∉ results := by
  obtain ⟨isRet, isCalls⟩ := @readFrom_allIdle len stream results room idle
  constructor
  · intro tells
    have silent := (tells.silent (congrArg Prod.fst isRet)).2
    rwa [isCalls] at silent
  · intro noneClosed
    refine ⟨?_, fun _ => ?_, ?_⟩
    · rw [isRet]
      exact fun positive => absurd positive (Int.lt_irrefl 0)
    · rw [isCalls]
      exact ⟨rfl, noneClosed⟩
    · rw [isCalls]
      rintro - ⟨result, among, rfl | fatal⟩
      · exact absurd among noneClosed
      · rw [(idle result among).notFatal] at fatal
        exact nomatch fatal

/-- When the value returned tells them apart. -/
theorem tellsApart_iff (len : Nat) (stream : Nat → UInt8) (results : List RecvResult) :
    TellsApart len stream results ↔ SpeaksUp len results := by
  by_cases nothing : len = 0
  · subst nothing
    rw [SpeaksUp, if_pos rfl]
    exact tellsApart_nothing_iff
  · have room := Nat.pos_of_ne_zero nothing
    rw [SpeaksUp, if_neg nothing]
    by_cases idle : ∀ result ∈ results, result.Idle
    · rw [tellsApart_idle_iff room idle, or_iff_left]
      rintro ⟨result, among, notIdle⟩
      exact notIdle (idle result among)
    · simp only [not_forall] at idle
      obtain ⟨result, among, notIdle⟩ := idle
      refine iff_of_true ?_ (.inr ⟨result, among, notIdle⟩)
      rcases @readFrom_notIdle len stream results room ⟨result, among, notIdle⟩ with positive | failed
      · exact tellsApart_of_positive positive
      · exact tellsApart_of_failed failed

/-- A peer that has closed, until the time is up. -/
theorem not_tellsApart_closed : ¬TellsApart 1 (fun _ => 0) [.closed, .closed] := by
  intro tells
  have silent := tells.silent (by decide)
  exact silent.2 (by decide)

/-! ## What the yield loop makes of it -/

/-- A pass in which the first read only meets a closed or a silent peer succeeds. -/
theorem cycleForRead_silent {σ : Type} {recvs : σ → Nat → List Recv × σ} {s : σ}
    {stream : Nat → UInt8} {results : List RecvResult} (idle : ∀ result ∈ results, result.Idle)
    (isRecvs : (recvs s 1).1 = recvsOf 1 stream 0 results) (client : Client) (env : Env) :
    (cycleForRead (tcpNetwork recvs) client s env).1.ret = successRet := by
  have ret : ((tcpNetwork recvs).read s 1).1 = 0 := by
    have silent := (@readFrom_allIdle 1 stream results Nat.zero_lt_one idle).1
    rw [tcpNetwork]
    dsimp only
    rw [isRecvs]
    exact congrArg Prod.fst silent
  have read : (readMqttPacket (tcpNetwork recvs) client.readBufSize client.readBuf s).1.ret =
      errMqttNothingToRead := by
    rw [readMqttPacket]
    dsimp only
    rw [ret, if_neg (by decide), if_pos rfl]
  rw [cycleForRead]
  dsimp only
  rw [cycleForReadWith, read]
  rfl

/-- The codes that tell of it end the connection. -/
theorem afterCycle_disconnects {ret : Int} (tells : TellsOfDisconnection ret) (client : Client)
    (world : PassEnv) : afterCycle client ret world = handleDisconnect client world.disconnect 0 := by
  have failed : ret ≠ successRet := by
    rcases tells with rfl | rfl | rfl | rfl <;> decide
  rw [TellsOfDisconnection] at tells
  rw [afterCycle, if_neg failed, if_pos tells]

end UIoT.Mqtt
