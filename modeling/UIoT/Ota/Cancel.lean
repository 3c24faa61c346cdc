import UIoT.Ota.Integrity

/-!
# Cancelled downloads

A cancel message sets the state to `OTA_STATE_DISCONNECTED` when it names what the handle
names. Whatever comes then, the state is neither `OTA_STATE_FETCHING` nor
`OTA_STATE_FETCHED` when the loop of the download that was cancelled goes on, so that it
fetches nothing, writes nothing and fails (`cancelled_download_stops`). But an update
message that is refused behind the last piece overwrites the names in the handle, so that
the cancel message is ignored and the download succeeds (`cancelled_download_succeeds`).
And when another download has freed the client meanwhile, the cancelled one frees it again
(`cancelled_download_frees_twice`).
-/

set_option autoImplicit false

namespace UIoT.Ota

open Utils Runs

variable {ν : Type}

/-! ## The property -/

/-- A download is on the stack above these others, and has not written since. -/
def Unwritten (cancelled : Download) (others : List Download) (device : Device ν) : Prop :=
  ∃ upper held, device.downloads = upper ++ held :: others ∧ held.pieces = cancelled.pieces

/-- A download has returned a negative code, and has not written since. -/
def Abandoned (cancelled : Download) (others : List Download) (device : Device ν) : Prop :=
  ∃ held ret, device.downloads = others ∧ device.control = .returned held ret ∧
    held.pieces = cancelled.pieces ∧ ret < 0

/-- The download returns in its turns behind its yield, when there is a client to free. -/
def Returns (platform : Platform ν) (cancelled : Download) (others : List Download)
    (device : Device ν) : Prop :=
  ∀ held ofc turns turns', device.downloads = held :: others → device.control = .waiting →
    device.ota.chFetch = .live ofc →
    Abandoned cancelled others
      (run (Device.step platform) device [.yieldEnds, .proceed turns, .proceed turns']).1

/-- In a run, a download writes nothing any more and returns a negative code. -/
def Stops (platform : Platform ν) (cancelled : Download) (others : List Download) :
    Device ν → List Input → Prop
  | device, [] => Returns platform cancelled others device
  | device, input :: inputs =>
      Returns platform cancelled others device ∧
        let after := (device.step platform input).1
        Abandoned cancelled others after ∨
          Unwritten cancelled others after ∧ Stops platform cancelled others after inputs

/-! ## The condition -/

/-- The handle names what a message names, and has a client. -/
structure StillNames (ota : OtaStruct) (msg : List UInt8) : Prop where
  named : ∃ module version, otaLibGetMsgModuleVer msg = some (module, version) ∧
    ota.params.module = some module ∧ ota.params.version = some version
  client : ∃ ofc, ota.chFetch = .live ofc

/-! ## Once it is cancelled -/

/-- The loop neither fetches nor writes nor ends well from here. -/
structure Doomed (ota : OtaStruct) (control : Control) : Prop where
  notFetching : ota.state ≠ .fetching
  notFetched : ota.state ≠ .fetched
  nothing : ∀ length, control = .fetched length → length ≤ 0

/-- The cancelled download is on the stack, and doomed when it is on top. -/
def IsCancelled (cancelled : Download) (others : List Download) (device : Device ν) : Prop :=
  ∃ upper held, device.downloads = upper ++ held :: others ∧ held.pieces = cancelled.pieces ∧
    (upper = [] → Doomed device.ota device.control)

variable {platform : Platform ν} {device after : Device ν} {input : Input} {events : List Event}
  {cancelled : Download} {others : List Download} {ota : OtaStruct} {s : ν} {control : Control}

theorem IsCancelled.unwritten (inv : IsCancelled cancelled others device) :
    Unwritten cancelled others device := by
  obtain ⟨upper, held, isStack, pieces, _⟩ := inv
  exact ⟨upper, held, isStack, pieces⟩

/-- A step that leaves the stack. -/
theorem IsCancelled.of_same (inv : IsCancelled cancelled others device)
    (doomed : Doomed device.ota device.control → Doomed ota control) :
    IsCancelled cancelled others ⟨ota, s, device.downloads, control⟩ := by
  obtain ⟨upper, held, isStack, pieces, isDoomed⟩ := inv
  exact ⟨upper, held, isStack, pieces, fun top => doomed (isDoomed top)⟩

theorem doomed_of_cleared {before : OtaStruct} (cleared : Cleared before ota)
    (nothing : ∀ length, control = .fetched length → length ≤ 0) : Doomed ota control where
  notFetching := by
    rw [cleared.state]
    exact OtaState.noConfusion
  notFetched := by
    rw [cleared.state]
    exact OtaState.noConfusion
  nothing := nothing

/-- A state that is as before or disconnected is as bad. -/
theorem Doomed.of_state {state : OtaState} (doomed : Doomed device.ota device.control)
    (states : state = device.ota.state ∨ state = .disconnected)
    (nothing : ∀ length, control = .fetched length → length ≤ 0) (isState : ota.state = state) :
    Doomed ota control := by
  subst isState
  rcases states with same | disconnected
  · exact ⟨same ▸ doomed.notFetching, same ▸ doomed.notFetched, nothing⟩
  · refine ⟨?_, ?_, nothing⟩ <;> rw [disconnected] <;> exact OtaState.noConfusion

/-- Without the state for it, a fetch only sets the last error. -/
theorem iotOtaFetchYield_notFetching {turns : Nat} {buf : List UInt8} {rangeLen timeoutS : UInt32}
    (notFetching : ota.state ≠ .fetching) :
    ∃ ret after, iotOtaFetchYield platform turns ota buf rangeLen timeoutS s =
        .ok (ret, after, buf, s) ∧ ret < 0 ∧ after.state = ota.state ∧ after.chFetch = ota.chFetch := by
  rw [iotOtaFetchYield]
  split
  · exact ⟨_, _, rfl, by decide, rfl, rfl⟩
  · exact ⟨_, _, rfl, by decide, rfl, rfl⟩

/-- The top of the stack is the cancelled download, or is above it. -/
theorem IsCancelled.top {download : Download} {rest : List Download}
    (inv : IsCancelled cancelled others device) (top : device.downloads = download :: rest) :
    (rest = others ∧ download.pieces = cancelled.pieces ∧ Doomed device.ota device.control) ∨
      ∃ upper held, rest = upper ++ held :: others ∧ held.pieces = cancelled.pieces := by
  obtain ⟨upper, held, isStack, pieces, doomed⟩ := inv
  rw [top] at isStack
  cases upper with
  | nil =>
      obtain ⟨rfl, rfl⟩ := List.cons.inj isStack
      exact .inl ⟨rfl, pieces, doomed rfl⟩
  | cons first upper =>
      obtain ⟨_, isRest⟩ := List.cons.inj isStack
      exact .inr ⟨upper, held, isRest, pieces⟩

/-- A stack with another download on top. -/
theorem isCancelled_cons {download : Download} {rest upper : List Download} {held : Download}
    (isRest : rest = upper ++ held :: others) (pieces : held.pieces = cancelled.pieces) :
    IsCancelled cancelled others (⟨ota, s, download :: rest, control⟩ : Device ν) := by
  refine ⟨download :: upper, held, ?_, pieces, fun none => absurd none (List.cons_ne_nil _ _)⟩
  rw [isRest]
  rfl

/-- A step leaves the download cancelled, or is its return. -/
theorem moves_isCancelled (inv : IsCancelled cancelled others device)
    (moves : Moves platform device input after events) :
    Abandoned cancelled others after ∨ IsCancelled cancelled others after := by
  cases moves with
  | stays => exact .inr inv
  | faults fault =>
      refine .inr (inv.of_same fun doomed => ?_)
      exact ⟨doomed.notFetching, doomed.notFetched, fun _ => Control.noConfusion⟩
  | delivers msg isWaiting =>
      refine .inr (inv.of_same fun doomed => ?_)
      exact ⟨doomed.notFetching, doomed.notFetched, fun _ => Control.noConfusion⟩
  | dismisses msg s isReceived =>
      refine .inr (inv.of_same fun doomed => ?_)
      exact ⟨doomed.notFetching, doomed.notFetched, fun _ => Control.noConfusion⟩
  | queues msg s isReceived isUpdate isFetching =>
      exact .inr (inv.of_same fun doomed => absurd isFetching doomed.notFetching)
  | refuses msg ota s isReceived isUpdate notFetching refused =>
      refine .inr (inv.of_same fun doomed => ?_)
      refine doomed.of_state ?_ (fun _ => Control.noConfusion) rfl
      cases refused with
      | params => exact .inl rfl
      | memory => exact .inl rfl
      | connection => exact .inr rfl
  | cancels msg ofc s isReceived closed =>
      refine .inr (inv.of_same fun doomed => ?_)
      exact doomed.of_state (.inr rfl) (fun _ => Control.noConfusion) rfl
  | starts msg params ofc download s isReceived isUpdate notFetching names announces begins =>
      obtain ⟨upper, held, isStack, pieces, _⟩ := inv
      exact .inr (isCancelled_cons isStack pieces)
  | startFails msg params download ota s isReceived isUpdate notFetching names announces begins
      cleared =>
      refine .inr (inv.of_same fun _ => ?_)
      exact doomed_of_cleared cleared fun _ => Control.noConfusion
  | fetches turns download rest length ota buf s isTurn isFetching top fetched =>
      rcases inv.top top with ⟨rfl, pieces, doomed⟩ | ⟨upper, held, isRest, pieces⟩
      · obtain ⟨ret, failed, returns, negative, state, _⟩ :=
          @iotOtaFetchYield_notFetching _ platform device.ota device.world turns download.bufferRead
            httpOtaRangeLen 10 doomed.notFetching
        rw [returns] at fetched
        cases fetched
        refine .inr ⟨[], { download with bufferRead := download.bufferRead }, rfl, pieces, fun _ => ?_⟩
        refine doomed.of_state (.inl state) (fun length isFetched => ?_) rfl
        cases isFetched
        exact Int.le_of_lt negative
      · exact .inr (isCancelled_cons isRest pieces)
  | writes download rest length s isFetched top positive fits inRange =>
      rcases inv.top top with ⟨rfl, pieces, doomed⟩ | ⟨upper, held, isRest, pieces⟩
      · exact absurd positive (Int.not_lt.mpr (doomed.nothing length isFetched))
      · exact .inr (isCancelled_cons isRest pieces)
  | ends download rest ret ota s top ended =>
      have cleared : Cleared device.ota ota := by
        cases ended with
        | writing _ _ _ _ cleared => exact cleared
        | finishing _ _ _ _ _ cleared => exact cleared
      rcases inv.top top with ⟨rfl, pieces, doomed⟩ | ⟨upper, held, isRest, pieces⟩
      · refine .inl ⟨download, ret, rfl, rfl, pieces, ?_⟩
        cases ended with
        | writing length ota isFetched failed cleared =>
            rcases failed with rfl | rfl <;> decide
        | finishing ota s isWaiting isFetched => exact absurd isFetched doomed.notFetched
      · refine .inr ⟨upper, held, isRest, pieces, fun _ => ?_⟩
        exact doomed_of_cleared cleared fun _ => Control.noConfusion
  | goesOn download rest ota isWaiting top notFetched kept state =>
      refine .inr (inv.of_same fun doomed => ?_)
      exact doomed.of_state (.inl state) (fun _ => Control.noConfusion) rfl
  | returns download ret state isReturned states empty =>
      refine .inr (inv.of_same fun doomed => ?_)
      exact doomed.of_state states (fun _ => Control.noConfusion) rfl
  | pops download ret state msg msgList isReturned states first =>
      refine .inr (inv.of_same fun doomed => ?_)
      exact doomed.of_state states (fun _ => Control.noConfusion) rfl

/-! ## The return -/

/-- The yield of a download whose file is not fetched ends, and the loop goes on. -/
theorem step_yieldEnd {download : Download} (notFetched : ota.state ≠ .fetched) :
    ∃ ota' : OtaStruct, ota'.state = ota.state ∧ ota'.chFetch = ota.chFetch ∧
      (Device.step platform ⟨ota, s, download :: others, .waiting⟩ .yieldEnds).1 =
        ⟨ota', s, download :: others, .fetching⟩ := by
  rw [Device.step, if_pos rfl, Device.inLoop]
  dsimp only
  by_cases isUninited : ota.state = .uninited
  · rw [yieldEnd, iotOtaIsFetchFinish, if_pos isUninited]
    exact ⟨{ ota with err := errOtaInvalidState }, rfl, rfl, rfl⟩
  · rw [yieldEnd, iotOtaIsFetchFinish, if_neg isUninited]
    dsimp only
    rw [if_neg (by rw [decide_eq_true_iff]; exact notFetched)]
    exact ⟨_, rfl, rfl, rfl⟩

/-- Without the state for it, the fetch of a download fails. -/
theorem step_fetch {download : Download} (turns : Nat) (notFetching : ota.state ≠ .fetching) :
    ∃ (ota' : OtaStruct) (ret : Int), ret < 0 ∧ ota'.chFetch = ota.chFetch ∧
      (Device.step platform ⟨ota, s, download :: others, .fetching⟩ (.proceed turns)).1 =
        ⟨ota', s, download :: others, .fetched ret⟩ := by
  obtain ⟨ret, ota', returns, negative, _, chFetch⟩ :=
    @iotOtaFetchYield_notFetching _ platform ota s turns download.bufferRead httpOtaRangeLen 10
      notFetching
  refine ⟨ota', ret, negative, chFetch, ?_⟩
  rw [Device.step, Device.goOn, Device.inLoop]
  dsimp only
  rw [fetchPiece, returns]
  rfl

/-- A fetch that has failed ends its download, and the client is freed. -/
theorem step_fails {download : Download} {ofc : OtaHttpClient} {ret : Int} (turns : Nat)
    (negative : ret < 0) (isLive : ota.chFetch = .live ofc) :
    ∃ (ota' : OtaStruct) (s' : ν),
      (Device.step platform ⟨ota, s, download :: others, .fetched ret⟩ (.proceed turns)).1 =
        ⟨ota', s', others, .returned download errOtaFetchFailed⟩ := by
  have failed : writePiece platform ret download others ota s =
      endDownload platform download errOtaFetchFailed others ota s := by
    rw [writePiece, if_neg (by omega), if_neg (by omega)]
  rw [Device.step, Device.goOn]
  dsimp only
  rw [Device.inLoop]
  dsimp only
  rw [failed, endDownload, iotOtaClear, isLive]
  exact ⟨_, _, rfl⟩

/-- A doomed download returns once its yield has ended. -/
theorem IsCancelled.returns (inv : IsCancelled cancelled others device) :
    Returns platform cancelled others device := by
  intro held ofc turns turns' top isWaiting isLive
  rcases inv.top top with ⟨_, pieces, doomed⟩ | ⟨upper, lower, isRest, _⟩
  · obtain ⟨ota, s, downloads, control⟩ := device
    dsimp only at top isWaiting isLive
    subst top isWaiting
    obtain ⟨ota', state', chFetch', ended⟩ :=
      @step_yieldEnd _ platform others ota s held doomed.notFetched
    obtain ⟨ota'', ret, negative, chFetch'', fetched⟩ :=
      @step_fetch _ platform others ota' s held turns (state' ▸ doomed.notFetching)
    obtain ⟨last, s', failed⟩ := @step_fails _ platform others ota'' s held ofc ret turns' negative
      (chFetch''.trans (chFetch'.trans isLive))
    rw [run_cons_fst, ended, run_cons_fst, fetched, run_cons_fst, failed]
    exact ⟨held, errOtaFetchFailed, rfl, rfl, pieces, by decide⟩
  · -- The others are not above themselves.
    have length := congrArg List.length isRest
    rw [List.length_append, List.length_cons] at length
    omega

/-- Once it is cancelled, a download stops. -/
theorem IsCancelled.stops (inv : IsCancelled cancelled others device) (inputs : List Input) :
    Stops platform cancelled others device inputs := by
  induction inputs generalizing device with
  | nil => exact inv.returns
  | cons input inputs inductionHypothesis =>
      refine ⟨inv.returns, ?_⟩
      rcases moves_isCancelled inv (step_moves device input) with abandoned | still
      · exact .inl abandoned
      · exact .inr ⟨still.unwritten, inductionHypothesis still⟩

/-! ## The cancel message -/

/-- The callback with a cancel message that names what the handle names. -/
theorem step_cancel {msg : List UInt8} {turns : Nat} (isReceived : device.control = .received msg)
    (isCancel : otaLibGetMsgType msg = some cancelUpdateMethod)
    (copied : (platform.malloc device.world).1 = true) (names : StillNames device.ota msg) :
    ∃ ofc s', (device.step platform (.proceed turns)).1 =
      { device with
        ota := { device.ota with chFetch := .live ofc, state := .disconnected }
        world := s'
        control := .waiting } := by
  obtain ⟨⟨module, version, isNamed, isModule, isVersion⟩, ofc, isLive⟩ := names
  have notNull : ¬(device.ota.chFetch = .null ∧ cancelUpdateMethod = cancelUpdateMethod) := by
    rw [isLive]
    exact fun isNull => FetchChannel.noConfusion isNull.1
  have notUpdate : cancelUpdateMethod ≠ updateFirmwareMethod := by decide
  rw [Device.step, Device.goOn, isReceived]
  dsimp only
  rw [otaCallback]
  dsimp only
  rw [if_neg (not_not.mpr copied), isCancel]
  dsimp only
  rw [if_neg notNull, if_neg notUpdate, if_pos rfl, cancelUpdate, isNamed]
  dsimp only
  rw [isModule, isVersion, isLive]
  simp only [used, FetchChannel.ofc, bind, Except.bind, pure, Except.pure, ne_eq, not_true_eq_false,
    if_false]
  exact ⟨_, _, rfl⟩

/-! ## While a file is fetched -/

/-- While the state is `OTA_STATE_FETCHING`, the handle names what the message of the top
download names. -/
def NamesTop (device : Device ν) : Prop :=
  device.ota.state = .fetching →
    ∃ download rest msg, device.downloads = download :: rest ∧ download.message = some msg ∧
      StillNames device.ota msg

/-- The fields that are read first are kept. -/
theorem otaLibGetParams_named {msg : List UInt8} {params params' : Params} {s' : ν}
    (read : otaLibGetParams platform msg params s = (successRet, params', s')) :
    ∃ module version, otaLibGetMsgModuleVer msg = some (module, version) ∧
      params'.module = some module ∧ params'.version = some version := by
  rw [otaLibGetParams] at read
  split at read
  · cases read
  · rename_i module isModule
    dsimp only at read
    split at read
    · cases read
    · rename_i version isVersion
      split at read
      · cases read
      · split at read
        · cases read
        · split at read
          · cases read
          · cases read
            refine ⟨module, version, ?_, rfl, rfl⟩
            rw [otaLibGetMsgModuleVer, isModule, isVersion]

theorem fetchFailed_chFetch (ret : Int) :
    (fetchFailed platform ota ret s).1.chFetch = ota.chFetch := by
  rw [fetchFailed]
  split
  · exact (iotOtaReportFail_reported _).chFetch
  · split
    · exact (iotOtaReportFail_reported _).chFetch
    · split
      · exact (iotOtaReportFail_reported _).chFetch
      · rfl

theorem reconnect_client {ofc : OtaHttpClient} {after : OtaStruct} {s' : ν}
    (connected : reconnect platform ota ofc s = .ok (after, s')) : ∃ ofc, after.chFetch = .live ofc := by
  rw [reconnect] at connected
  obtain ⟨url, _, connected⟩ := bind_ok connected
  obtain ⟨ofc, _, connected⟩ := bind_ok connected
  obtain ⟨⟨ret, ofc, s⟩, _, connected⟩ := bind_ok connected
  cases connected
  exact ⟨ofc, rfl⟩

/-- The attempts leave a client. -/
theorem fetchAttempts_client {turns : Nat} {rangeLen timeoutS : UInt32} :
    ∀ {left : Nat} {ret : Int} {ota : OtaStruct} {buf : List UInt8} {s : ν}
      {ret' : Int} {after : OtaStruct} {buf' : List UInt8} {s' : ν},
      (∃ ofc, ota.chFetch = .live ofc) →
      fetchAttempts platform turns rangeLen timeoutS left ret ota buf s = .ok (ret', after, buf', s') →
        ∃ ofc, after.chFetch = .live ofc
  | 0, ret, ota, buf, s, ret', after, buf', s', client, attempts => by
      cases attempts
      exact client
  | left + 1, ret, ota, buf, s, ret', after, buf', s', client, attempts => by
      rw [fetchAttempts] at attempts
      obtain ⟨ofc, live, attempts⟩ := bind_ok attempts
      obtain ⟨⟨ret, ofc, buf, s⟩, fetched, attempts⟩ := bind_ok attempts
      dsimp only at attempts
      split at attempts
      · obtain ⟨⟨middle, s⟩, connected, attempts⟩ := bind_ok attempts
        exact fetchAttempts_client (reconnect_client connected) attempts
      · split at attempts
        · exact fetchAttempts_client ⟨ofc, fetchFailed_chFetch ret⟩ attempts
        · cases attempts
          exact ⟨ofc, reportFirst_reported.chFetch⟩

theorem accountFetched_chFetch {ret : Int} {buf : List UInt8} {after : OtaStruct} {s' : ν}
    (accounted : accountFetched platform ret ota buf s = .ok (after, s')) :
    after.chFetch = ota.chFetch := by
  rw [accountFetched] at accounted
  obtain ⟨md5, _, accounted⟩ := bind_ok accounted
  dsimp only at accounted
  split at accounted
  · cases accounted
  · split at accounted
    · cases accounted
    · cases accounted
      rw [OtaStruct.checkFetched]
      split <;> exact (reportPercent_reported _).chFetch

/-- `IOT_OTA_FetchYield` leaves a client. -/
theorem iotOtaFetchYield_client {turns : Nat} {buf buf' : List UInt8} {rangeLen timeoutS : UInt32}
    {ret : Int} {after : OtaStruct} {s' : ν} (client : ∃ ofc, ota.chFetch = .live ofc)
    (returns : iotOtaFetchYield platform turns ota buf rangeLen timeoutS s =
      .ok (ret, after, buf', s')) : ∃ ofc, after.chFetch = .live ofc := by
  rw [iotOtaFetchYield] at returns
  split at returns
  · cases returns
    exact client
  · split at returns
    · cases returns
      exact client
    · obtain ⟨⟨ret, middle, buf, s⟩, attempts, returns⟩ := bind_ok returns
      have client := fetchAttempts_client client attempts
      dsimp only at returns
      split at returns
      · obtain ⟨⟨final, s⟩, accounted, returns⟩ := bind_ok returns
        cases returns
        rw [accountFetched_chFetch accounted]
        exact client
      · cases returns
        exact client

theorem StillNames.of_same {ota' : OtaStruct} {msg : List UInt8} (names : StillNames ota msg)
    (params : ota'.params = ota.params) (client : ∃ ofc, ota'.chFetch = .live ofc) :
    StillNames ota' msg := by
  obtain ⟨named, _⟩ := names
  rw [← params] at named
  exact ⟨named, client⟩

/-- A step of the top download to another state of it. -/
theorem NamesTop.of_top {download download' : Download} {rest : List Download}
    (names : NamesTop device) (top : device.downloads = download :: rest)
    (message : download'.message = download.message) (params : ota.params = device.ota.params)
    (state : ota.state = .fetching → device.ota.state = .fetching)
    (client : (∃ ofc, device.ota.chFetch = .live ofc) → ∃ ofc, ota.chFetch = .live ofc) :
    NamesTop ⟨ota, s, download' :: rest, control⟩ := by
  intro isFetching
  obtain ⟨first, others, msg, isStack, isMessage, stillNames⟩ := names (state isFetching)
  rw [top] at isStack
  obtain ⟨rfl, rfl⟩ := List.cons.inj isStack
  exact ⟨download', rest, msg, rfl, message.trans isMessage,
    stillNames.of_same params (client stillNames.client)⟩

theorem namesTop_of_cleared {before : OtaStruct} (cleared : Cleared before ota)
    (downloads : List Download) : NamesTop (⟨ota, s, downloads, control⟩ : Device ν) := by
  intro isFetching
  exact absurd (cleared.state.symm.trans isFetching) OtaState.noConfusion

/-- Only what runs changes. -/
theorem NamesTop.of_control (names : NamesTop device) :
    NamesTop ({ device with world := s, control := control } : Device ν) := names

theorem updateFirmware_namesTop {msg : List UInt8} (notFetching : ota.state ≠ .fetching)
    (returns : updateFirmware platform others ota msg s = .ok after) : NamesTop after := by
  rw [updateFirmware] at returns
  cases read : otaLibGetParams platform msg ota.params s with
  | mk ret rest =>
      obtain ⟨params, s⟩ := rest
      rw [read] at returns
      dsimp only at returns
      split at returns
      · cases returns
        exact fun isFetching => absurd isFetching notFetching
      · rename_i success
        have success := not_not.mp success
        subst success
        obtain ⟨url, isUrl, returns⟩ := bind_ok returns
        cases initialised : ofcInit platform url s with
        | mk client s' =>
            rw [initialised] at returns
            cases client with
            | none =>
                cases returns
                exact fun isFetching => absurd isFetching notFetching
            | some ofc =>
                obtain ⟨⟨ret, ofc, s'⟩, connected, returns⟩ := bind_ok returns
                dsimp only at returns
                split at returns
                · cases returns
                  exact fun isFetching => OtaState.noConfusion isFetching
                · obtain ⟨download, begins, ⟨s', rfl⟩ | ⟨cleared, s', clears, rfl⟩⟩ :=
                    startDownload_ok rfl returns
                  · exact fun _ => ⟨download, others, msg, rfl, begins.message,
                      otaLibGetParams_named read, ofc, rfl⟩
                  · exact namesTop_of_cleared clears others

theorem otaCallback_namesTop {msg : List UInt8} (names : NamesTop device)
    (returns : otaCallback platform device.downloads device.ota msg device.world =
      .ok (after, events)) : NamesTop after := by
  rw [otaCallback] at returns
  dsimp only at returns
  split at returns
  · cases returns
    exact names.of_control
  · split at returns
    · cases returns
      exact names.of_control
    · split at returns
      · cases returns
        exact names.of_control
      · split at returns
        · split at returns
          · obtain ⟨⟨ota, pushed, s⟩, pushes, returns⟩ := bind_ok returns
            cases returns
            rw [otaPushUploadMsg] at pushes
            dsimp only at pushes
            split at pushes
            · cases pushes
            · split at pushes
              · cases pushes
                exact names.of_control
              · split at pushes
                · cases pushes
                  exact names.of_control
                · cases pushes
                  intro isFetching
                  obtain ⟨download, rest, other, top, isMessage, stillNames⟩ := names isFetching
                  exact ⟨download, rest, other, top, isMessage,
                    stillNames.of_same rfl stillNames.client⟩
          · rename_i notFetching
            obtain ⟨updated, updates, returns⟩ := bind_ok returns
            cases returns
            exact updateFirmware_namesTop notFetching updates
        · split at returns
          · obtain ⟨⟨ota, s⟩, cancels, returns⟩ := bind_ok returns
            cases returns
            obtain rfl | ⟨ofc, _, rfl⟩ := cancelUpdate_ok cancels
            · exact names.of_control
            · exact fun isFetching => OtaState.noConfusion isFetching
          · cases returns
            exact names.of_control

theorem fetchPiece_namesTop {download : Download} {rest : List Download} {turns : Nat}
    (names : NamesTop device) (top : device.downloads = download :: rest)
    (returns : fetchPiece platform turns download rest device.ota device.world = .ok after) :
    NamesTop after := by
  rw [fetchPiece] at returns
  obtain ⟨⟨length, ota, buf, s⟩, fetched, returns⟩ := bind_ok returns
  cases returns
  have params : ota.params = device.ota.params := by
    rcases iotOtaFetchYield_ok fetched with ⟨_, kept, _⟩ | ⟨took, _⟩
    · exact kept.params
    · exact took.params
  refine names.of_top top rfl params (fun isFetching => ?_) fun client =>
    iotOtaFetchYield_client client fetched
  by_contra notFetching
  obtain ⟨_, _, returns, _, state, _⟩ := iotOtaFetchYield_notFetching notFetching
  rw [returns] at fetched
  cases fetched
  exact notFetching (state.symm.trans isFetching)

theorem writePiece_namesTop {download : Download} {rest : List Download} {length : Int}
    (names : NamesTop device) (top : device.downloads = download :: rest)
    (returns : writePiece platform length download rest device.ota device.world = .ok after) :
    NamesTop after := by
  have ends : ∀ {ret : Int} {s : ν}, endDownload platform download ret rest device.ota s = .ok after →
      NamesTop after := by
    intro ret s ended
    obtain ⟨cleared, s', clears, rfl⟩ := endDownload_ok ended
    exact namesTop_of_cleared clears rest
  rw [writePiece] at returns
  split at returns
  · cases returns
  · split at returns
    · dsimp only at returns
      split at returns
      · exact ends returns
      · split at returns
        · cases returns
        · cases returns
          exact names.of_top top rfl rfl id id
    · exact ends returns

theorem yieldEnd_namesTop {download : Download} {rest : List Download} (names : NamesTop device)
    (top : device.downloads = download :: rest)
    (returns : yieldEnd platform download rest device.ota device.world = .ok after) :
    NamesTop after := by
  by_cases isUninited : device.ota.state = .uninited
  · rw [yieldEnd, iotOtaIsFetchFinish, if_pos isUninited] at returns
    cases returns
    exact names.of_top top rfl rfl id id
  · rw [yieldEnd, iotOtaIsFetchFinish, if_neg isUninited] at returns
    dsimp only at returns
    split at returns
    · obtain ⟨ret, cleared, s', clears, rfl⟩ := finishDownload_ok returns
      exact namesTop_of_cleared clears rest
    · cases returns
      exact names.of_top top rfl rfl id id

theorem callerGoesOn_namesTop {download : Download} {ret : Int} (names : NamesTop device) :
    NamesTop (callerGoesOn device download ret).1 := by
  have popped : ∀ device : Device ν, NamesTop device → NamesTop (otaPopUploadMsg device).1 := by
    intro device names isFetching
    rw [otaPopUploadMsg] at isFetching ⊢
    split at isFetching
    · exact names isFetching
    · obtain ⟨download, rest, msg, top, isMessage, stillNames⟩ := names isFetching
      exact ⟨download, rest, msg, top, isMessage, stillNames.of_same rfl stillNames.client⟩
  rw [callerGoesOn]
  split
  · exact names.of_control
  · apply popped
    split
    · exact fun isFetching => OtaState.noConfusion isFetching
    · exact names

/-- Every step keeps what the handle names. -/
theorem step_namesTop (names : NamesTop device) (input : Input) :
    NamesTop (device.step platform input).1 := by
  cases input with
  | deliver payload =>
      rw [Device.step]
      split <;> exact names
  | yieldEnds =>
      rw [Device.step]
      split
      · refine inLoop_of (fun after _ => NamesTop after) names (fun _ => names) ?_
        intro download rest after top returns
        exact yieldEnd_namesTop names top returns
      · exact names
  | proceed turns =>
      rw [Device.step, Device.goOn]
      split
      · refine settle_of (fun after _ => NamesTop after) names (fun _ => names) ?_
        intro after events returns
        exact otaCallback_namesTop names returns
      · refine inLoop_of (fun after _ => NamesTop after) names (fun _ => names) ?_
        intro download rest after top returns
        exact fetchPiece_namesTop names top returns
      · refine inLoop_of (fun after _ => NamesTop after) names (fun _ => names) ?_
        intro download rest after top returns
        exact writePiece_namesTop names top returns
      · exact callerGoesOn_namesTop names
      · exact names
      · exact names

theorem run_namesTop (platform : Platform ν) (productSn deviceSn : List UInt8) (s : ν)
    (inputs : List Input) :
    NamesTop (run (Device.step platform) (deviceInit productSn deviceSn s) inputs).1 := by
  have start : NamesTop (deviceInit productSn deviceSn s) :=
    fun isFetching => OtaState.noConfusion isFetching
  exact ((along_true _ _ inputs).invariant NamesTop start fun _ input names _ =>
    step_namesTop names input).2

/-! ## Runs -/

/-- **Cancelled downloads.** Let a cancel message come that names what the message of the
top download names, and let there be memory for its copy. Unless the file is fetched and
the handle has lost these names or its client, the download writes nothing from then on,
whatever comes, and its return code is negative. -/
theorem cancelled_download_stops (platform : Platform ν) (productSn deviceSn : List UInt8) (s : ν)
    (before inputs : List Input) (turns : Nat) (device : Device ν)
    (reached : (run (Device.step platform) (deviceInit productSn deviceSn s) before).1 = device)
    (msg update : List UInt8) (cancelled : Download) (others : List Download)
    (isReceived : device.control = .received msg)
    (isCancel : otaLibGetMsgType msg = some cancelUpdateMethod)
    (active : device.downloads = cancelled :: others) (isUpdate : cancelled.message = some update)
    (sameNames : otaLibGetMsgModuleVer msg = otaLibGetMsgModuleVer update)
    (copied : (platform.malloc device.world).1 = true)
    (stillNames : device.ota.state = .fetched → StillNames device.ota msg) :
    Stops platform cancelled others device (.proceed turns :: inputs) := by
  have notWaiting : device.control ≠ .waiting := by
    rw [isReceived]
    exact Control.noConfusion
  have heeded : StillNames device.ota msg →
      Stops platform cancelled others device (.proceed turns :: inputs) := by
    intro names
    obtain ⟨ofc, s', isAfter⟩ := @step_cancel _ platform _ _ turns isReceived isCancel copied names
    have inv : IsCancelled cancelled others (device.step platform (.proceed turns)).1 := by
      rw [isAfter]
      refine ⟨[], cancelled, active, rfl, fun _ => ?_⟩
      exact ⟨OtaState.noConfusion, OtaState.noConfusion, fun _ => Control.noConfusion⟩
    refine ⟨fun held ofc turns turns' _ isWaiting => absurd isWaiting notWaiting, .inr ?_⟩
    exact ⟨inv.unwritten, inv.stops inputs⟩
  by_cases isFetching : device.ota.state = .fetching
  · have namesTop : NamesTop device := reached ▸ run_namesTop platform productSn deviceSn s before
    obtain ⟨download, rest, other, top, isMessage, names⟩ := namesTop isFetching
    rw [active] at top
    obtain ⟨rfl, rfl⟩ := List.cons.inj top
    obtain rfl := Option.some.inj (isUpdate.symm.trans isMessage)
    apply heeded
    exact ⟨sameNames ▸ names.named, names.client⟩
  · by_cases isFetched : device.ota.state = .fetched
    · exact heeded (stillNames isFetched)
    · have inv : IsCancelled cancelled others device := by
        refine ⟨[], cancelled, active, rfl, fun _ => ⟨isFetching, isFetched, fun length => ?_⟩⟩
        rw [isReceived]
        exact Control.noConfusion
      exact inv.stops _

/-! ## Two runs -/

/-- A cancel message for the file of `updateMessage`. -/
def cancelMessage : List UInt8 :=
  literal "\x7b\"Method\":\"cancel_update\",\"Payload\":\x7b\"Module\":\"app\",\"Version\":\"2\"\x7d\x7d"

/-- An update message for another file, without a URL. -/
def otherUpdate : List UInt8 :=
  literal "\x7b\"Method\":\"update_firmware\",\"Payload\":\x7b\"Module\":\"other\",\"Version\":\"9\"\x7d\x7d"

/-- A device that has fetched this answer for its file, when others and a cancel message have
come. -/
def cancelledDevice (md5 size : String) (response : List UInt8) (others : List Input) :
    Device Script :=
  play [response] ([.deliver (updateMessage md5 size), .proceed 0, .proceed 50, .proceed 0] ++
    others ++ [.deliver cancelMessage])

/-- The download of four bytes of ten. -/
def tenBytes : Device Script := cancelledDevice "0" "10" (okResponse "4" "abcd") []

theorem tenBytes_facts :
    tenBytes.control = .received cancelMessage ∧ tenBytes.downloads.length = 1 ∧
      tenBytes.downloads.map (·.message) = [some (updateMessage "0" "10")] ∧
        tenBytes.ota.state ≠ .fetched := by
  decide +kernel

theorem cancelled_download_stops_tenBytes :
    Stops scripted (tenBytes.downloads.headD (newDownload 0 none)) [] tenBytes
      [.proceed 0, .yieldEnds, .proceed 0, .proceed 0] := by
  obtain ⟨isReceived, single, messages, notFetched⟩ := tenBytes_facts
  obtain ⟨download, isSingle⟩ := List.length_eq_one_iff.mp single
  rw [isSingle] at messages ⊢
  exact cancelled_download_stops scripted (literal "product") (literal "device")
    ⟨[], [okResponse "4" "abcd"]⟩
    [.deliver (updateMessage "0" "10"), .proceed 0, .proceed 50, .proceed 0, .deliver cancelMessage]
    [.yieldEnds, .proceed 0, .proceed 0] 0 tenBytes rfl cancelMessage (updateMessage "0" "10") _ []
    isReceived (by decide +kernel) isSingle (List.cons.inj messages).1 (by decide +kernel) rfl
    fun isFetched => absurd isFetched notFetched

/-- The download of the file `abc`, of which all is fetched when an update message for
another file comes that has no URL. -/
def threeBytes : Device Script :=
  cancelledDevice "900150983cd24fb0d6963f7d28e17f72" "3" (okResponse "3" "abc")
    [.deliver otherUpdate, .proceed 0]

/-- The device behind the cancel message, and when the yield of the download has ended. -/
theorem threeBytes_facts :
    (threeBytes.control = .received cancelMessage ∧ threeBytes.downloads.map (·.message) =
        [some (updateMessage "900150983cd24fb0d6963f7d28e17f72" "3")]) ∧
      (threeBytes.step scripted (.proceed 0)).1.downloads.length = 1 ∧
        ((threeBytes.step scripted (.proceed 0)).1.step scripted .yieldEnds).1.downloads = [] ∧
        ((threeBytes.step scripted (.proceed 0)).1.step scripted .yieldEnds).1.control.report =
          some (successRet, some 3, 3) := by
  decide +kernel

/-- The cancel message is ignored, and the download succeeds. -/
theorem cancelled_download_succeeds :
    (threeBytes.control = .received cancelMessage ∧
        otaLibGetMsgType cancelMessage = some cancelUpdateMethod ∧
        threeBytes.downloads.map (·.message) =
          [some (updateMessage "900150983cd24fb0d6963f7d28e17f72" "3")] ∧
        otaLibGetMsgModuleVer cancelMessage =
          otaLibGetMsgModuleVer (updateMessage "900150983cd24fb0d6963f7d28e17f72" "3") ∧
        (scripted.malloc threeBytes.world).1 = true) ∧
      ∀ cancelled, ¬Stops scripted cancelled [] threeBytes [.proceed 0, .yieldEnds] := by
  obtain ⟨⟨isReceived, messages⟩, isHeld, isOver, report⟩ := threeBytes_facts
  refine ⟨⟨isReceived, by decide +kernel, messages, by decide +kernel, rfl⟩,
    fun cancelled stops => ?_⟩
  obtain ⟨_, ⟨_, _, isEmpty, _⟩ | ⟨_, _, ⟨held, ret, _, isReturned, _, negative⟩ | ⟨above, _⟩⟩⟩ := stops
  · rw [isEmpty] at isHeld
    cases isHeld
  · rw [isReturned] at report
    simp only [Control.report, Option.some.injEq, Prod.mk.injEq] at report
    rw [report.1] at negative
    exact absurd negative (by decide)
  · obtain ⟨upper, held, isStack, _⟩ := above
    rw [isOver] at isStack
    exact absurd isStack.symm (List.append_ne_nil_of_right_ne_nil _ (List.cons_ne_nil _ _))

/-- A download inside of the cancelled one frees the client that the cancelled one frees
again at its end. -/
theorem cancelled_download_frees_twice :
    (play [okResponse "4" "abcd", okResponse "3" "abc"]
      [.deliver (updateMessage "0" "10"), .proceed 0, .proceed 50, .proceed 0,
        .deliver cancelMessage, .proceed 0,
        .deliver (updateMessage "900150983cd24fb0d6963f7d28e17f72" "3"), .proceed 0, .proceed 50,
        .proceed 0, .yieldEnds, .proceed 0, .yieldEnds, .proceed 0, .proceed 0]).control =
      .faulted .pointer := by
  decide +kernel

end UIoT.Ota
