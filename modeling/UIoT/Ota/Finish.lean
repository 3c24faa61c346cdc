import UIoT.Ota.Moves

/-!
# What a finished fetch says

The application may call the API of the handle whenever messages are waited for. The
state `OTA_STATE_FETCHED`, which `IOT_OTA_IsFetchFinish` reports, is to say that the
whole file is fetched. `IOT_OTA_FetchYield` also sets it where an attempt fails
(`silence_finishes`), and an update message that comes then may change the size of
the file. Where neither happens, a fetch that is finished is complete
(`finished_complete`).
-/

set_option autoImplicit false

namespace UIoT.Ota

open Utils Runs

/-! ## The calls of the application -/

/-- A call of the API. -/
inductive Call where
  | reportVersion (module : Option (List UInt8)) (version : List UInt8)
  | requestFirmware (module : Option (List UInt8)) (version : List UInt8)
  | reportProgress (progress : Int) (burning : Bool)
  | reportSuccess (version : List UInt8)
  | reportFail (errCode : UpstreamMsgType)
  | isFetching
  | isFetchFinish
  | fetchYield (buf : List UInt8) (rangeLen timeoutS : UInt32) (turns : Nat)
  | ioctl (type : CmdType) (bufLen : Nat) (aligned : Bool)
  | getLastError
  | fwDownload
  | clear
  | destroy
  deriving DecidableEq, Repr

inductive ApiInput where
  | run (input : Input)
  | call (call : Call)
  deriving DecidableEq, Repr

variable {ν : Type} (platform : Platform ν)

/-- `IOT_OTA_IsFetching` -/
def iotOtaIsFetching (ota : OtaStruct) : Bool × OtaStruct :=
  if ota.state = .uninited then (false, { ota with err := errOtaInvalidState })
  else (ota.state = .fetching, ota)

/-- The device behind a call. A handle that is destroyed is not used any more. -/
def Device.call (device : Device ν) (call : Call) : Outcome (Device ν) := do
  let ota := device.ota
  let s := device.world
  match call with
  | .reportVersion module version =>
      let (_, ota, s) := sendUpstreamMsgWithVersion platform ota module version .reportVersion s
      return { device with ota := ota, world := s }
  | .requestFirmware module version =>
      let (_, ota, s) := sendUpstreamMsgWithVersion platform ota module version .requestFirmware s
      return { device with ota := ota, world := s }
  | .reportProgress progress burning =>
      let (_, ota, s) :=
        iotOtaReportProgress platform ota progress (if burning then .burning else .downloading) s
      return { device with ota := ota, world := s }
  | .reportSuccess version =>
      let (_, ota, s) := iotOtaReportSuccess platform ota version s
      return { device with ota := ota, world := s }
  | .reportFail errCode =>
      let (_, ota, s) := iotOtaReportFail platform ota errCode s
      return { device with ota := ota, world := s }
  | .isFetching => return { device with ota := (iotOtaIsFetching ota).2 }
  | .isFetchFinish => return { device with ota := (iotOtaIsFetchFinish ota).2 }
  | .fetchYield buf rangeLen timeoutS turns =>
      let (_, ota, _, s) ← iotOtaFetchYield platform turns ota buf rangeLen timeoutS s
      return { device with ota := ota, world := s }
  | .ioctl type bufLen aligned =>
      let (_, _, ota, s) ← iotOtaIoctl platform ota type bufLen aligned s
      return { device with ota := ota, world := s }
  | .getLastError => return device
  | .fwDownload => startDownload platform none device.downloads ota s
  | .clear =>
      let (ota, s) ← iotOtaClear platform ota s
      return { device with ota := ota, world := s }
  | .destroy => if ota.state = .uninited then return device else throw .pointer

/-- Calls come where messages are waited for. -/
def Device.apiStep (device : Device ν) (input : ApiInput) : Device ν × List Event :=
  match input with
  | .run input => device.step platform input
  | .call call =>
      if device.control = .waiting then device.settle ((device.call platform call).map (·, []))
      else (device, [])

/-! ## The property -/

/-- What is finished is complete. -/
structure Complete (ota : OtaStruct) : Prop where
  fetched : ota.state = .fetched → ota.params.sizeFile ≤ ota.sizeFetched
  finish : (iotOtaIsFetchFinish ota).1 → ota.params.sizeFile ≤ ota.sizeFetched

theorem complete_of_fetched {ota : OtaStruct}
    (fetched : ota.state = .fetched → ota.params.sizeFile ≤ ota.sizeFetched) : Complete ota where
  fetched := fetched
  finish := by
    rw [iotOtaIsFetchFinish]
    split
    · exact fun finish => absurd finish Bool.false_ne_true
    · exact fun finish => fetched (of_decide_eq_true finish)

/-! ## The condition -/

/-- The attempts of `IOT_OTA_FetchYield` that are left do not fail, but for the
connection. -/
def attemptsReach (turns : Nat) (rangeLen timeoutS : UInt32) :
    Nat → OtaStruct → List UInt8 → ν → Bool
  | 0, _, _, _ => true
  | left + 1, ota, buf, s =>
      match ota.chFetch.ofc with
      | .error _ => true
      | .ok ofc =>
          match ofcFetch platform turns ofc ota.sizeFetched buf rangeLen timeoutS s with
          | .error _ => true
          | .ok (ret, ofc, buf, s) =>
              let ota := { ota with chFetch := .live ofc }
              if ret = errHttpConnError ∧ ota.state ≠ .disconnected then
                match reconnect platform ota ofc s with
                | .error _ => true
                | .ok (ota, s) => attemptsReach turns rangeLen timeoutS left ota buf s
              else 0 ≤ ret

/-- A fetch of a file that is not empty does not fail, but for the connection. -/
def fetchReaches (turns : Nat) (rangeLen timeoutS : UInt32) (ota : OtaStruct) (buf : List UInt8)
    (s : ν) : Bool :=
  buf.length = 0 || ota.state ≠ .fetching || ota.params.sizeFile = 0 ||
    attemptsReach platform turns rangeLen timeoutS 5 ota buf s

/-- An update message that comes when all is fetched does not announce more than that
and then fail for want of memory. -/
def keepsSize (ota : OtaStruct) (msg : List UInt8) (s : ν) : Bool :=
  let (_, s) := platform.malloc s
  let (ret, params, s) := otaLibGetParams platform msg ota.params s
  otaLibGetMsgType msg ≠ some updateFirmwareMethod || ota.state ≠ .fetched || ret ≠ successRet ||
    params.sizeFile ≤ ota.sizeFetched || (ofcInit platform (params.url.getD []) s).1.isSome

/-- The step does what a finished fetch relies on. -/
def reliable (device : Device ν) (input : ApiInput) : Bool :=
  match input, device.control with
  | .run (.proceed turns), .fetching =>
      device.downloads.head?.all fun download =>
        fetchReaches platform turns httpOtaRangeLen 10 device.ota download.bufferRead device.world
  | .run _, .received msg => keepsSize platform device.ota msg device.world
  | .call (.fetchYield buf rangeLen timeoutS turns), .waiting =>
      fetchReaches platform turns rangeLen timeoutS device.ota buf device.world
  | _, _ => true

/-! ## Fetching -/

variable {platform} {device after : Device ν} {ota ota' : OtaStruct} {s s' : ν} {turns : Nat}
  {rangeLen timeoutS : UInt32} {buf buf' : List UInt8} {ret : Int}

/-- Attempts that do not fail leave the handle fetching. -/
theorem attemptsReach_state :
    ∀ {left : Nat} {ret : Int} {ota : OtaStruct} {buf : List UInt8} {s : ν} {ret' : Int}
      {after : OtaStruct} {buf' : List UInt8} {s' : ν}, ota.state = .fetching →
      attemptsReach platform turns rangeLen timeoutS left ota buf s →
      fetchAttempts platform turns rangeLen timeoutS left ret ota buf s = .ok (ret', after, buf', s') →
        after.state = .fetching
  | 0, ret, ota, buf, s, ret', after, buf', s', isFetching, reach, attempts => by
      cases attempts
      exact isFetching
  | left + 1, ret, ota, buf, s, ret', after, buf', s', isFetching, reach, attempts => by
      rw [fetchAttempts] at attempts
      obtain ⟨ofc, live, attempts⟩ := bind_ok attempts
      obtain ⟨⟨ret, ofc, buf, s⟩, fetched, attempts⟩ := bind_ok attempts
      rw [attemptsReach, live] at reach
      dsimp only at reach attempts
      rw [fetched] at reach
      dsimp only at reach
      split at attempts
      · rename_i lost
        rw [if_pos lost] at reach
        obtain ⟨⟨middle, s⟩, connected, attempts⟩ := bind_ok attempts
        rw [connected] at reach
        exact attemptsReach_state (reconnect_ok connected).2 reach attempts
      · rename_i notLost
        rw [if_neg notLost] at reach
        rw [if_neg (Int.not_lt.mpr (of_decide_eq_true reach))] at attempts
        cases attempts
        exact reportFirst_reported.state.trans isFetching

/-- A fetch that does not fail leaves what is fetched complete. -/
theorem fetchYield_complete (complete : Complete ota)
    (reach : fetchReaches platform turns rangeLen timeoutS ota buf s)
    (returns : iotOtaFetchYield platform turns ota buf rangeLen timeoutS s =
      .ok (ret, ota', buf', s')) : Complete ota' := by
  rw [iotOtaFetchYield] at returns
  split at returns
  · cases returns
    exact complete
  · rename_i notEmpty
    split at returns
    · cases returns
      exact complete_of_fetched complete.fetched
    · rename_i isFetching
      have isFetching := not_not.mp isFetching
      obtain ⟨⟨ret, middle, buf, s⟩, attempts, returns⟩ := bind_ok returns
      obtain ⟨kept, _⟩ := fetchAttempts_ok attempts
      have still : ota.params.sizeFile ≠ 0 → middle.state = .fetching := by
        intro notEmptyFile
        apply attemptsReach_state isFetching ?_ attempts
        simpa [fetchReaches, notEmpty, isFetching, notEmptyFile] using reach
      dsimp only at returns
      split at returns
      · rename_i positive
        obtain ⟨⟨final, s⟩, accounted, returns⟩ := bind_ok returns
        cases returns
        obtain ⟨took, finalState⟩ := accountFetched_ok positive accounted
        apply complete_of_fetched
        intro isFetched
        by_cases all : final.params.sizeFile ≤ final.sizeFetched
        · exact all
        · -- A file that is not all there is not empty, and is still fetched.
          rw [if_neg all, still ?_] at finalState
          · rw [finalState] at isFetched
            cases isFetched
          · intro emptyFile
            rw [took.params, kept.params, emptyFile] at all
            exact all UInt32.zero_le
      · cases returns
        apply complete_of_fetched
        intro isFetched
        by_cases emptyFile : ota.params.sizeFile = 0
        · rw [kept.params, emptyFile]
          exact UInt32.zero_le
        · rw [still emptyFile] at isFetched
          cases isFetched

/-! ## Steps -/

variable {device after : Device ν} {input : Input} {events : List Event} {msg : List UInt8}

/-- What keeps the counters and the state keeps what is finished complete. -/
theorem Complete.of_same (complete : Complete ota) (state : ota'.state = ota.state)
    (sizeFile : ota'.params.sizeFile = ota.params.sizeFile)
    (sizeFetched : ota'.sizeFetched = ota.sizeFetched) : Complete ota' := by
  apply complete_of_fetched
  intro isFetched
  rw [sizeFile, sizeFetched]
  exact complete.fetched (state.symm.trans isFetched)

/-- What is not finished need not be complete. -/
theorem complete_of_unfinished (notFetched : ota.state ≠ .fetched) : Complete ota :=
  complete_of_fetched fun isFetched => absurd isFetched notFetched

theorem Cleared.complete (cleared : Cleared ota ota') : Complete ota' := by
  apply complete_of_unfinished
  rw [cleared.state]
  exact OtaState.noConfusion

/-- The size of the file is what is read last. -/
theorem otaLibGetParams_sizeFile {params params' : Params}
    (read : otaLibGetParams platform msg params s = (ret, params', s')) (failed : ret ≠ successRet) :
    params'.sizeFile = params.sizeFile := by
  rw [otaLibGetParams] at read
  split at read
  · cases read
    rfl
  · dsimp only at read
    split at read
    · cases read
      rfl
    · split at read
      · cases read
        rfl
      · split at read
        · cases read
          rfl
        · split at read
          · cases read
            rfl
          · cases read
            exact absurd rfl failed

theorem refuses_complete (complete : Complete ota)
    (isUpdate : otaLibGetMsgType msg = some updateFirmwareMethod)
    (keeps : keepsSize platform ota msg s)
    (refused : Refuses platform ota msg (platform.malloc s).2 ota') : Complete ota' := by
  cases refused with
  | params ret params s' read failed =>
      exact complete.of_same rfl (otaLibGetParams_sizeFile read failed) rfl
  | memory params url s' s'' read isUrl failed =>
      apply complete_of_fetched
      intro isFetched
      dsimp only at isFetched
      rw [keepsSize] at keeps
      dsimp only at keeps
      rw [read] at keeps
      simpa [isUpdate, isFetched, isUrl, failed] using keeps
  | connection => exact complete_of_unfinished OtaState.noConfusion

theorem moves_complete (complete : Complete device.ota)
    (isReliable : reliable platform device (.run input))
    (moves : Moves platform device input after events) : Complete after.ota := by
  have states : ∀ {state : OtaState} {msgList : List (List UInt8)},
      state = device.ota.state ∨ state = .disconnected →
      Complete { device.ota with state := state, msgList := msgList } := by
    rintro state msgList (same | disconnected)
    · exact complete.of_same same rfl rfl
    · apply complete_of_unfinished
      rw [disconnected]
      exact OtaState.noConfusion
  cases moves with
  | stays | faults | delivers | dismisses | writes => exact complete
  | queues => exact complete.of_same rfl rfl rfl
  | refuses msg ota s isReceived isUpdate notFetching refused =>
      refine refuses_complete complete isUpdate ?_ refused
      simpa [reliable, isReceived] using isReliable
  | cancels => exact complete_of_unfinished OtaState.noConfusion
  | starts => exact complete_of_unfinished OtaState.noConfusion
  | startFails msg params download ota s _ _ _ _ _ _ cleared => exact cleared.complete
  | fetches turns download others length ota buf s isTurn isFetching top fetched =>
      refine fetchYield_complete complete ?_ fetched
      simpa [reliable, isTurn, isFetching, top] using isReliable
  | ends download others ret ota s top ended =>
      cases ended with
      | writing _ _ _ _ cleared => exact cleared.complete
      | finishing _ _ _ _ _ cleared => exact cleared.complete
  | goesOn download others ota isWaiting top notFetched kept state =>
      refine complete.of_same state ?_ kept.sizeFetched
      rw [kept.params]
  | returns download ret state isReturned isState => exact states isState
  | pops download ret state msg msgList isReturned isState => exact states isState

/-! ## Calls -/

theorem Reported.complete (complete : Complete ota) (reported : Reported ota ota') : Complete ota' := by
  refine complete.of_same reported.state ?_ reported.sizeFetched
  rw [reported.params]

theorem Asked.complete (complete : Complete ota) (asked : Asked ota ota') : Complete ota' := by
  refine complete.of_same asked.state ?_ asked.sizeFetched
  rw [asked.params]

theorem startDownload_complete {message : Option (List UInt8)} {others : List Download}
    (complete : Complete ota) (started : startDownload platform message others ota s = .ok after) :
    Complete after.ota := by
  have ends : ∀ {download : Download} {ret : Int} {ota : OtaStruct} {s : ν},
      endDownload platform download ret others ota s = .ok after → Complete after.ota := by
    intro download ret ota s ended
    obtain ⟨cleared, s', clears, rfl⟩ := endDownload_ok ended
    exact clears.complete
  rw [startDownload] at started
  obtain ⟨⟨code, stored, asked, s⟩, query, started⟩ := bind_ok started
  dsimp only at started
  split at started
  · exact ends started
  · split at started
    · exact ends started
    · cases started
      exact (iotOtaIoctl_ok query).complete complete

theorem call_complete {call : Call} (complete : Complete device.ota)
    (isWaiting : device.control = .waiting) (isReliable : reliable platform device (.call call))
    (returns : device.call platform call = .ok after) : Complete after.ota := by
  rw [Device.call.eq_def] at returns
  dsimp only at returns
  cases call with
  | reportVersion module version =>
      cases returns
      exact (sendUpstreamMsgWithVersion_reported _ _ _).complete complete
  | requestFirmware module version =>
      cases returns
      exact (sendUpstreamMsgWithVersion_reported _ _ _).complete complete
  | reportProgress progress burning =>
      cases returns
      exact (iotOtaReportProgress_reported _ _).complete complete
  | reportSuccess version =>
      cases returns
      exact (iotOtaReportSuccess_reported _).complete complete
  | reportFail errCode =>
      cases returns
      exact (iotOtaReportFail_reported _).complete complete
  | isFetching =>
      cases returns
      rw [iotOtaIsFetching]
      split
      · exact complete.of_same rfl rfl rfl
      · exact complete
  | isFetchFinish =>
      cases returns
      rw [iotOtaIsFetchFinish]
      split
      · exact complete.of_same rfl rfl rfl
      · exact complete
  | fetchYield buf rangeLen timeoutS turns =>
      obtain ⟨⟨ret, ota, buf', s⟩, fetched, returns⟩ := bind_ok returns
      cases returns
      refine fetchYield_complete complete ?_ fetched
      simpa [reliable, isWaiting] using isReliable
  | ioctl type bufLen aligned =>
      obtain ⟨⟨ret, stored, ota, s⟩, query, returns⟩ := bind_ok returns
      cases returns
      exact (iotOtaIoctl_ok query).complete complete
  | getLastError =>
      cases returns
      exact complete
  | fwDownload => exact startDownload_complete complete returns
  | clear =>
      obtain ⟨⟨ota, s⟩, cleared, returns⟩ := bind_ok returns
      cases returns
      exact (iotOtaClear_ok cleared).complete
  | destroy =>
      change (if device.ota.state = .uninited then Except.ok device else .error Fault.pointer) = _ at returns
      split at returns
      · cases returns
        exact complete
      · cases returns

theorem apiStep_complete {input : ApiInput} (complete : Complete device.ota)
    (isReliable : reliable platform device input) :
    Complete (device.apiStep platform input).1.ota := by
  cases input with
  | run input => exact moves_complete complete isReliable (step_moves device input)
  | call call =>
      rw [Device.apiStep]
      split
      · rename_i isWaiting
        cases result : device.call platform call with
        | ok after => exact call_complete complete isWaiting isReliable result
        | error fault => cases fault <;> exact complete
      · exact complete

/-! ## Runs -/

/-- In every run of messages, network outcomes and calls whose fetches do not fail
but for the connection, a fetch that is finished is complete. -/
theorem finished_complete (platform : Platform ν) (productSn deviceSn : List UInt8) (s : ν)
    (inputs : List ApiInput)
    (isReliable : Along (Device.apiStep platform) (fun device input => reliable platform device input)
      (deviceInit productSn deviceSn s) inputs) :
    Complete (run (Device.apiStep platform) (deviceInit productSn deviceSn s) inputs).1.ota := by
  have start : Complete (deviceInit productSn deviceSn s).ota :=
    complete_of_unfinished OtaState.noConfusion
  exact (isReliable.invariant (fun device => Complete device.ota) start
    fun device input complete isReliable => apiStep_complete complete isReliable).2

/-- A fetch in two pieces, with queries between them. -/
def pieceInputs : List ApiInput :=
  [.run (.deliver (updateMessage "0" "10")), .run (.proceed 0), .run (.proceed 50), .run (.proceed 0),
    .call .isFetchFinish, .run .yieldEnds, .run (.proceed 50), .run (.proceed 0), .call .isFetchFinish]

theorem finished_complete_pieces :
    Complete (run (Device.apiStep scripted) (deviceInit (literal "product") (literal "device")
      ⟨[], [okResponse "4" "abcd", okResponse "6" "efghij"]⟩) pieceInputs).1.ota :=
  finished_complete scripted (literal "product") (literal "device")
    ⟨[], [okResponse "4" "abcd", okResponse "6" "efghij"]⟩ pieceInputs (by decide +kernel)

/-- The server does not answer. -/
def silentInputs : List ApiInput :=
  [.run (.deliver (updateMessage "0" "10")), .run (.proceed 0), .run (.proceed 50)]

/-- A fetch that times out is finished. -/
theorem silence_finishes :
    ¬Complete (run (Device.apiStep scripted) (scriptedDevice [[]]) silentInputs).1.ota := by
  intro complete
  have isFetched :
      (run (Device.apiStep scripted) (scriptedDevice [[]]) silentInputs).1.ota.state = .fetched := by
    decide +kernel
  have short :
      ¬(run (Device.apiStep scripted) (scriptedDevice [[]]) silentInputs).1.ota.params.sizeFile ≤
        (run (Device.apiStep scripted) (scriptedDevice [[]]) silentInputs).1.ota.sizeFetched := by
    decide +kernel
  exact short (complete.fetched isFetched)

end UIoT.Ota
