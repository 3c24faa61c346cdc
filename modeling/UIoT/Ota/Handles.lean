import UIoT.Lib.Handles
import UIoT.Ota.Cancel
import UIoT.Ota.Finish

/-!
# The fetch handle

`ch_fetch` is a variable that holds a handle. It is made in the callback and on every
reconnection, and released on a reconnection, in `IOT_OTA_Clear` and in
`IOT_OTA_Destroy`. `IOT_OTA_Clear` leaves the released handle there, so that every
download leaves one behind, and `IOT_OTA_Destroy` releases it again, or NULL where there
has been no download (`released_handle_left`). As long as `IOT_OTA_Clear` does not run and
there is a handle when `IOT_OTA_Destroy` is called, the handles are sound, and not longer
(`handles_sound_iff`).
-/

set_option autoImplicit false

namespace UIoT.Ota

open Utils Runs Handles

variable {ν : Type} (platform : Platform ν)

/-! ## The calls -/

/-- What is done to `ch_fetch`, or through it. -/
inductive FetchCall where
  /-- `ofc_init`, which returns a handle or NULL, is stored in `ch_fetch`. -/
  | ofcInit (made : Bool)
  | ofcDeinit
  | httpClientClose
  /-- The `ofc_deinit` of `IOT_OTA_Clear` -/
  | clear
  /-- The `ofc_deinit` of `IOT_OTA_Destroy`, which then frees the struct with `ch_fetch`. -/
  | destroy
  deriving DecidableEq, Repr

def FetchCall.handleCalls : FetchCall → List HandleCall
  | ofcInit made => [.make made]
  | ofcDeinit => [.release]
  | httpClientClose => [.use]
  | clear => [.release]
  | destroy => [.release, .forget]

/-- The calls of `reconnect` -/
def reconnectCalls (ofc : OtaHttpClient) (s : ν) : List FetchCall :=
  [.ofcDeinit, .ofcInit (platform.malloc (ofcDeinit platform ofc s)).1]

/-- The calls of `fetchAttempts` -/
def attemptsCalls (turns : Nat) (rangeLen timeoutS : UInt32) :
    Nat → OtaStruct → List UInt8 → ν → List FetchCall
  | 0, _, _, _ => []
  | left + 1, ota, buf, s =>
      match ota.chFetch.ofc with
      | .error _ => []
      | .ok ofc =>
          match ofcFetch platform turns ofc ota.sizeFetched buf rangeLen timeoutS s with
          | .error _ => []
          | .ok (ret, ofc, buf, s) =>
              let ota := { ota with chFetch := .live ofc }
              if ret = errHttpConnError ∧ ota.state ≠ .disconnected then
                reconnectCalls platform ofc s ++
                  match reconnect platform ota ofc s with
                  | .error _ => []
                  | .ok (ota, s) => attemptsCalls turns rangeLen timeoutS left ota buf s
              else if ret < 0 then
                let (ota, s) := fetchFailed platform ota ret s
                attemptsCalls turns rangeLen timeoutS left ota buf s
              else []

/-- The calls of `IOT_OTA_FetchYield` -/
def fetchYieldCalls (turns : Nat) (ota : OtaStruct) (buf : List UInt8) (rangeLen timeoutS : UInt32)
    (s : ν) : List FetchCall :=
  if buf.length = 0 ∨ ota.state ≠ .fetching then []
  else attemptsCalls platform turns rangeLen timeoutS 5 ota buf s

/-- The calls of `IOT_OTA_fw_download` up to its loop -/
def startCalls (ota : OtaStruct) (s : ν) : List FetchCall :=
  match iotOtaIoctl platform ota .fileSize 4 true s with
  | .error _ => []
  | .ok (_, _, ota, s) =>
      let (opened, s) := platform.downloadInit s ota.params.downloadName
      if ¬opened then [.clear] else if ¬(platform.malloc s).1 then [.clear] else []

/-- The calls of `IOT_OTA_fw_download` behind a fetch -/
def writeCalls (length : Int) (download : Download) (s : ν) : List FetchCall :=
  if (download.bufferRead.length : Int) < length then []
  else if 0 < length then
    let offset := UInt32.ofInt download.totalLength
    let piece := download.bufferRead.take length.toNat
    if (platform.downloadWrite s offset piece).1 = failureRet then [.clear] else []
  else [.clear]

/-- The calls of `IOT_OTA_fw_download` behind its loop -/
def finishCalls (download : Download) (ota : OtaStruct) (s : ν) : List FetchCall :=
  if download.totalLength = download.fileSize then
    match iotOtaIoctl platform ota .checkFirmware 4 true s with
    | .error _ => []
    | .ok (_, stored, ota, s) =>
        match stored.value with
        | .error _ => []
        | .ok firmwareValid =>
            if firmwareValid = 0 then [.clear]
            else
              match iotOtaIoctl platform ota .version 33 true s with
              | .error _ => []
              | .ok (_, stored, _, _) =>
                  match stored.string with
                  | .error _ => []
                  | .ok _ => [.clear]
  else [.clear]

/-- The calls at the end of the yield of a download -/
def yieldEndCalls (download : Download) (ota : OtaStruct) (s : ν) : List FetchCall :=
  let (finish, ota) := iotOtaIsFetchFinish ota
  if finish then finishCalls platform download ota s else []

/-- The calls of `_ota_callback` with an update message -/
def updateCalls (ota : OtaStruct) (msg : List UInt8) (s : ν) : List FetchCall :=
  let (ret, params, s) := otaLibGetParams platform msg ota.params s
  if ret ≠ successRet then []
  else
    match params.url with
    | none => []
    | some url =>
        match ofcInit platform url s with
        | (none, _) => [.ofcInit false]
        | (some ofc, s) =>
            .ofcInit true ::
              match ofcConnect platform ofc s with
              | .error _ => []
              | .ok (ret, ofc, s) =>
                  if ret ≠ successRet then []
                  else
                    startCalls platform
                      { ota with params := params, chFetch := .live ofc, state := .fetching } s

/-- The calls of `_ota_callback` with a cancel message -/
def cancelCalls (ota : OtaStruct) (msg : List UInt8) : List FetchCall :=
  match otaLibGetMsgModuleVer msg with
  | none => []
  | some (msgModule, msgVer) =>
      if some msgModule = ota.params.module ∧ some msgVer = ota.params.version then
        [.httpClientClose]
      else []

/-- The calls of `_ota_callback` -/
def callbackCalls (ota : OtaStruct) (msg : List UInt8) (s : ν) : List FetchCall :=
  let (allocated, s) := platform.malloc s
  if ¬allocated then []
  else
    match otaLibGetMsgType msg with
    | none => []
    | some msgMethod =>
        if ota.chFetch = .null ∧ msgMethod = cancelUpdateMethod then []
        else if msgMethod = updateFirmwareMethod then
          if ota.state = .fetching then [] else updateCalls platform ota msg s
        else if msgMethod = cancelUpdateMethod then cancelCalls ota msg
        else []

/-- The calls of the API -/
def apiCalls (ota : OtaStruct) (s : ν) : Call → List FetchCall
  | .fetchYield buf rangeLen timeoutS turns =>
      fetchYieldCalls platform turns ota buf rangeLen timeoutS s
  | .fwDownload => startCalls platform ota s
  | .clear => [.clear]
  | .destroy => if ota.state = .uninited then [] else [.destroy]
  | _ => []

/-- A call that has not returned is counted when it does. -/
def counted {α : Type} (result : Outcome α) (calls : List FetchCall) : List FetchCall :=
  match result with
  | .error .unfinished => []
  | _ => calls

/-- The calls of the loop of the top download. -/
def Device.loopCalls (device : Device ν)
    (next : Download → List Download → OtaStruct → ν → Outcome (Device ν))
    (calls : Download → List FetchCall) : List FetchCall :=
  match device.downloads with
  | [] => []
  | download :: others => counted (next download others device.ota device.world) (calls download)

/-- The calls of a step. -/
def Device.calls (device : Device ν) (input : ApiInput) : List FetchCall :=
  match input, device.control with
  | .run (.proceed _), .received msg =>
      counted (otaCallback platform device.downloads device.ota msg device.world)
        (callbackCalls platform device.ota msg device.world)
  | .run (.proceed turns), .fetching =>
      device.loopCalls (fetchPiece platform turns) fun download =>
        fetchYieldCalls platform turns device.ota download.bufferRead httpOtaRangeLen 10
          device.world
  | .run (.proceed _), .fetched length =>
      device.loopCalls (writePiece platform length) fun download =>
        writeCalls platform length download device.world
  | .run .yieldEnds, .waiting =>
      device.loopCalls (yieldEnd platform) fun download =>
        yieldEndCalls platform download device.ota device.world
  | .call call, .waiting =>
      counted (device.call platform call) (apiCalls platform device.ota device.world call)
  | _, _ => []

/-- A step of the device with its ledger. -/
def ledgerStep (state : Device ν × Ledger) (input : ApiInput) : (Device ν × Ledger) × List Event :=
  let (device, ledger) := state
  let (after, events) := device.apiStep platform input
  ((after, ledger.acts ((device.calls platform input).flatMap FetchCall.handleCalls)), events)

/-- The handles are sound behind a step. -/
def LeavesSound (state : Device ν × Ledger) (input : ApiInput) : Prop :=
  (ledgerStep platform state input).1.2.Sound

/-- A step that does not run `IOT_OTA_Clear`, and destroys no handle that has no client. -/
def Keeps (device : Device ν) (input : ApiInput) : Prop :=
  .clear ∉ device.calls platform input ∧
    (.destroy ∈ device.calls platform input → device.ota.chFetch ≠ .null)

/-! ## What the calls do -/

/-- Where `ch_fetch` stands. -/
def FetchChannel.standing : FetchChannel → Standing
  | null => .null
  | live _ => .held
  | released => .freed

/-- Calls, none of which is for good, that are allowed and lead from where `ch_fetch` stands
to where it is left. Behind a fault there is none. -/
structure Leads (before : Standing) (calls : List FetchCall) (after : Option FetchChannel) :
    Prop where
  notCleared : .clear ∉ calls
  notDestroyed : .destroy ∉ calls
  allows : before.AllowsAll (calls.flatMap FetchCall.handleCalls)
  notFreed : before.afterAll (calls.flatMap FetchCall.handleCalls) ≠ .freed
  stands : ∀ chFetch ∈ after,
    chFetch.standing = before.afterAll (calls.flatMap FetchCall.handleCalls)

/-- The calls of a function: they lead to where `ch_fetch` is left, or end with
`IOT_OTA_Clear`, or are those of `IOT_OTA_Destroy`. -/
inductive Follows (before : Standing) (calls : List FetchCall) (after : Option FetchChannel) :
    Prop where
  | keeps (leads : Leads before calls after)
  | clears (front : List FetchCall) (isClear : calls = front ++ [.clear])
  | destroys (isDestroy : calls = [.destroy]) (faults : after = none)

variable {platform : Platform ν} {device : Device ν} {ota : OtaStruct} {s : ν} {before : Standing}
  {calls : List FetchCall} {after : Option FetchChannel}

theorem Leads.nil (notFreed : before ≠ .freed) (stands : ∀ chFetch ∈ after, chFetch.standing = before) :
    Leads before [] after where
  notCleared := List.not_mem_nil
  notDestroyed := List.not_mem_nil
  allows := trivial
  notFreed := notFreed
  stands := stands

theorem leads_fault (notFreed : before ≠ .freed) : Leads before [] none :=
  .nil notFreed fun _ among => nomatch among

theorem leads_same {chFetch : FetchChannel} (notFreed : chFetch.standing ≠ .freed) :
    Leads chFetch.standing [] (some chFetch) := by
  apply Leads.nil notFreed
  intro other among
  cases among
  rfl

theorem Leads.weaken {after' : Option FetchChannel} (leads : Leads before calls after)
    (stands : ∀ chFetch' ∈ after', ∃ chFetch ∈ after, chFetch'.standing = chFetch.standing) :
    Leads before calls after' where
  notCleared := leads.notCleared
  notDestroyed := leads.notDestroyed
  allows := leads.allows
  notFreed := leads.notFreed
  stands := by
    intro chFetch' among'
    obtain ⟨chFetch, among, same⟩ := stands chFetch' among'
    rw [same, leads.stands chFetch among]

/-- Allowed calls in front of others. -/
theorem Leads.behind (front : List FetchCall) (notCleared : .clear ∉ front)
    (notDestroyed : .destroy ∉ front)
    (allows : before.AllowsAll (front.flatMap FetchCall.handleCalls))
    (leads : Leads (before.afterAll (front.flatMap FetchCall.handleCalls)) calls after) :
    Leads before (front ++ calls) after where
  notCleared := fun among => (List.mem_append.mp among).elim notCleared leads.notCleared
  notDestroyed := fun among => (List.mem_append.mp among).elim notDestroyed leads.notDestroyed
  allows := by
    rw [List.flatMap_append, Standing.allowsAll_append]
    exact ⟨allows, leads.allows⟩
  notFreed := by
    rw [List.flatMap_append, Standing.afterAll_append]
    exact leads.notFreed
  stands := by
    rw [List.flatMap_append, Standing.afterAll_append]
    exact leads.stands

/-- A client is made, or there is no memory for it. -/
theorem Leads.init (made : Bool) (leads : Leads (if made then .held else .null) calls after) :
    Leads before (.ofcInit made :: calls) after := by
  have isAfter : before.afterAll ([.ofcInit made].flatMap FetchCall.handleCalls) =
      if made then .held else .null := by
    cases made <;> rfl
  exact .behind [.ofcInit made] (by simp) (by simp) ⟨trivial, trivial⟩ (isAfter ▸ leads)

/-- A client is released. -/
theorem Leads.deinit_init (made : Bool) (leads : Leads (if made then .held else .null) calls after) :
    Leads .held (.ofcDeinit :: .ofcInit made :: calls) after := by
  have isAfter : Standing.afterAll .held ([.ofcDeinit, .ofcInit made].flatMap FetchCall.handleCalls) =
      if made then .held else .null := by
    cases made <;> rfl
  exact .behind [.ofcDeinit, .ofcInit made] (by simp) (by simp) ⟨rfl, trivial, trivial⟩
    (isAfter ▸ leads)

/-! ## What the functions do -/

/-- A result, and the channel that it leaves. -/
def leftBy {α : Type} (chFetch : α → FetchChannel) (result : Outcome α) : Option FetchChannel :=
  result.toOption.map chFetch

theorem ofcInit_isSome (url : List UInt8) :
    (ofcInit platform url s).1.isSome = (platform.malloc s).1 := by
  rw [ofcInit]
  dsimp only
  split
  · rename_i allocated
    exact allocated.symm
  · rename_i failed
    exact (Bool.eq_false_of_not_eq_true failed).symm

theorem reconnect_allocates {ofc : OtaHttpClient} {middle : OtaStruct} {s' : ν}
    (connected : reconnect platform ota ofc s = .ok (middle, s')) :
    (platform.malloc (ofcDeinit platform ofc s)).1 = true := by
  rw [reconnect] at connected
  obtain ⟨url, _, connected⟩ := bind_ok connected
  dsimp only at connected
  obtain ⟨ofc', isAllocated, _⟩ := bind_ok connected
  rw [← ofcInit_isSome url, used_ok isAllocated]
  rfl

/-- The attempts lead to where they leave the channel. -/
theorem fetchAttempts_leads {turns : Nat} {rangeLen timeoutS : UInt32} :
    ∀ {left : Nat} {ret : Int} {ota : OtaStruct} {buf : List UInt8} {s : ν},
      ota.chFetch.standing ≠ .freed →
        Leads ota.chFetch.standing (attemptsCalls platform turns rangeLen timeoutS left ota buf s)
          (leftBy (·.2.1.chFetch) (fetchAttempts platform turns rangeLen timeoutS left ret ota buf s))
  | 0, ret, ota, buf, s, notFreed => leads_same notFreed
  | left + 1, ret, ota, buf, s, notFreed => by
      rw [fetchAttempts, attemptsCalls]
      cases isClient : ota.chFetch with
      | null => exact leads_fault Standing.null_ne_freed
      | released => exact absurd (congrArg FetchChannel.standing isClient) notFreed
      | live ofc =>
          simp only [FetchChannel.ofc, pure, Except.pure, bind, Except.bind]
          cases fetched : ofcFetch platform turns ofc ota.sizeFetched buf rangeLen timeoutS s with
          | error fault => exact leads_fault Standing.held_ne_freed
          | ok result =>
              obtain ⟨ret, ofc, buf, s⟩ := result
              dsimp only
              split
              · cases connected : reconnect platform { ota with chFetch := .live ofc } ofc s with
                | error fault => exact .deinit_init _ (leads_fault (Standing.made_ne_freed _))
                | ok result =>
                    obtain ⟨middle, s'⟩ := result
                    obtain ⟨made, isMade⟩ := reconnect_client connected
                    rw [reconnectCalls, reconnect_allocates connected]
                    apply Leads.deinit_init
                    have leads := @fetchAttempts_leads turns rangeLen timeoutS left ret middle buf s'
                    rw [isMade] at leads
                    exact leads Standing.held_ne_freed
              · split
                · have chFetch := @fetchFailed_chFetch _ platform
                    { ota with chFetch := .live ofc } s ret
                  have leads := @fetchAttempts_leads turns rangeLen timeoutS left ret
                    (fetchFailed platform { ota with chFetch := .live ofc } ret s).1 buf
                    (fetchFailed platform { ota with chFetch := .live ofc } ret s).2
                  rw [chFetch] at leads
                  exact leads Standing.held_ne_freed
                · refine .nil Standing.held_ne_freed fun chFetch among => ?_
                  cases among
                  have standing := congrArg FetchChannel.standing (@reportFirst_reported _ platform
                    { ota with chFetch := .live ofc } s).chFetch
                  exact standing

theorem leftBy_ok {α : Type} {left : α → FetchChannel} {result : Outcome α}
    (stands : ∀ value, result = .ok value → (left value).standing = before) (notFreed : before ≠ .freed) :
    Leads before [] (leftBy left result) := by
  refine .nil notFreed fun chFetch among => ?_
  cases result with
  | error fault => cases among
  | ok value =>
      cases among
      exact stands value rfl

/-- `IOT_OTA_FetchYield` leads to where it leaves the channel. -/
theorem iotOtaFetchYield_leads {turns : Nat} {buf : List UInt8} {rangeLen timeoutS : UInt32}
    (notFreed : ota.chFetch.standing ≠ .freed) :
    Leads ota.chFetch.standing (fetchYieldCalls platform turns ota buf rangeLen timeoutS s)
      (leftBy (·.2.1.chFetch) (iotOtaFetchYield platform turns ota buf rangeLen timeoutS s)) := by
  rw [iotOtaFetchYield, fetchYieldCalls]
  by_cases isEmpty : buf.length = 0
  · rw [if_pos isEmpty, if_pos (.inl isEmpty)]
    exact leads_same notFreed
  · by_cases notFetching : ota.state ≠ .fetching
    · rw [if_neg isEmpty, if_pos notFetching, if_pos (.inr notFetching)]
      exact leads_same notFreed
    · rw [if_neg isEmpty, if_neg notFetching, if_neg (not_or.mpr ⟨isEmpty, notFetching⟩)]
      have leads := @fetchAttempts_leads _ platform turns rangeLen timeoutS 5 0 ota buf s notFreed
      cases attempts : fetchAttempts platform turns rangeLen timeoutS 5 0 ota buf s with
      | error fault =>
          rw [attempts] at leads
          exact leads
      | ok result =>
          obtain ⟨ret, ota', buf', s'⟩ := result
          rw [attempts] at leads
          refine leads.weaken fun chFetch among => ⟨ota'.chFetch, rfl, ?_⟩
          dsimp only [bind, Except.bind] at among
          split at among
          · cases accounted : accountFetched platform ret ota' buf' s' with
            | error fault =>
                rw [accounted] at among
                cases among
            | ok result =>
                rw [accounted] at among
                cases among
                exact congrArg FetchChannel.standing (accountFetched_chFetch accounted)
          · cases among
            rfl

theorem compareMd5_chFetch (md5sum md5Str : List UInt8) :
    (compareMd5 platform ota md5sum md5Str s).2.2.1.chFetch = ota.chFetch := by
  rw [compareMd5]
  split
  · rfl
  · exact (@iotOtaReportFail_reported _ platform { ota with err := errOtaMd5Mismatch } s
      .md5Mismatch).chFetch

/-- A query leaves the channel. -/
theorem iotOtaIoctl_chFetch {type : CmdType} {bufLen : Nat} {aligned : Bool} {ret : Int}
    {stored : Stored} {after : OtaStruct} {s' : ν}
    (returns : iotOtaIoctl platform ota type bufLen aligned s = .ok (ret, stored, after, s')) :
    after.chFetch = ota.chFetch := by
  rw [iotOtaIoctl.eq_def] at returns
  dsimp only at returns
  split at returns
  · cases returns
    rfl
  · split at returns
    · cases returns
      rfl
    · split at returns
      · split at returns <;> cases returns <;> rfl
      · split at returns <;> cases returns <;> rfl
      · obtain ⟨version, _, returns⟩ := bind_ok returns
        cases returns
        rfl
      · obtain ⟨md5sum, _, returns⟩ := bind_ok returns
        cases returns
        rfl
      · split at returns
        · cases returns
          rfl
        · split at returns
          · cases returns
            rfl
          · obtain ⟨md5, md5sum, _, _, isResult⟩ := checkFirmware_ok returns
            have kept := @compareMd5_chFetch _ platform
              { ota with md5 := some (utilsMd5FinishHb2Hex md5).2 } s md5sum
              (utilsMd5FinishHb2Hex md5).1
            rw [← isResult] at kept
            exact kept

/-- The start of a download leaves the channel, or clears it. -/
theorem startDownload_leads {message : Option (List UInt8)} {others : List Download}
    (notFreed : ota.chFetch.standing ≠ .freed) :
    Leads ota.chFetch.standing (startCalls platform ota s)
        (leftBy (·.ota.chFetch) (startDownload platform message others ota s)) ∨
      startCalls platform ota s = [.clear] := by
  rw [startCalls, startDownload]
  cases query : iotOtaIoctl platform ota .fileSize 4 true s with
  | error fault => exact .inl (leads_fault notFreed)
  | ok result =>
      obtain ⟨ret, stored, asked, s'⟩ := result
      dsimp only [bind, Except.bind]
      split
      · exact .inr rfl
      · split
        · exact .inr rfl
        · refine .inl (.nil notFreed fun chFetch among => ?_)
          cases among
          exact congrArg FetchChannel.standing (iotOtaIoctl_chFetch query)

theorem updateFirmware_follows {others : List Download} {msg : List UInt8}
    (notFreed : ota.chFetch.standing ≠ .freed) :
    Follows ota.chFetch.standing (updateCalls platform ota msg s)
      (leftBy (·.ota.chFetch) (updateFirmware platform others ota msg s)) := by
  rw [updateCalls, updateFirmware]
  dsimp only
  split
  · exact .keeps (leads_same notFreed)
  · cases isUrl : (otaLibGetParams platform msg ota.params s).2.1.url with
    | none => exact .keeps (leads_fault notFreed)
    | some url =>
        dsimp only [used, pure, Except.pure, bind, Except.bind]
        cases initialised : ofcInit platform url (otaLibGetParams platform msg ota.params s).2.2 with
        | mk client s' =>
            cases client with
            | none =>
                exact .keeps (.init false (.nil Standing.null_ne_freed fun _ among => by cases among; rfl))
            | some ofc =>
                dsimp only
                cases connected : ofcConnect platform ofc s' with
                | error fault => exact .keeps (.init true (leads_fault Standing.held_ne_freed))
                | ok result =>
                    obtain ⟨ret, ofc, s''⟩ := result
                    dsimp only
                    split
                    · refine .keeps (.init true (.nil Standing.held_ne_freed fun chFetch among => ?_))
                      cases among
                      rfl
                    · rcases @startDownload_leads _ platform
                        { ota with
                          params := (otaLibGetParams platform msg ota.params s).2.1
                          chFetch := .live ofc
                          state := .fetching } s'' (some msg) others Standing.held_ne_freed with
                        leads | isClear
                      · exact .keeps (.init true leads)
                      · rw [isClear]
                        exact .clears [.ofcInit true] rfl

theorem writePiece_follows {length : Int} {download : Download} {others : List Download}
    (notFreed : ota.chFetch.standing ≠ .freed) :
    Follows ota.chFetch.standing (writeCalls platform length download s)
      (leftBy (·.ota.chFetch) (writePiece platform length download others ota s)) := by
  rw [writeCalls, writePiece]
  split
  · exact .keeps (leads_fault notFreed)
  · split
    · dsimp only
      split
      · exact .clears [] rfl
      · split
        · exact .keeps (leads_fault notFreed)
        · exact .keeps (leads_same notFreed)
    · exact .clears [] rfl

theorem finishDownload_follows {download : Download} {others : List Download}
    (notFreed : ota.chFetch.standing ≠ .freed) :
    Follows ota.chFetch.standing (finishCalls platform download ota s)
      (leftBy (·.ota.chFetch) (finishDownload platform download others ota s)) := by
  rw [finishCalls, finishDownload]
  split
  · cases query : iotOtaIoctl platform ota .checkFirmware 4 true s with
    | error fault => exact .keeps (leads_fault notFreed)
    | ok result =>
        obtain ⟨ret, stored, checked, s'⟩ := result
        dsimp only [bind, Except.bind]
        cases stored.value with
        | error fault => exact .keeps (leads_fault notFreed)
        | ok firmwareValid =>
            dsimp only
            split
            · exact .clears [] rfl
            · cases iotOtaIoctl platform checked .version 33 true s' with
              | error fault => exact .keeps (leads_fault notFreed)
              | ok result =>
                  obtain ⟨ret, stored, asked, s''⟩ := result
                  dsimp only
                  cases stored.string with
                  | error fault => exact .keeps (leads_fault notFreed)
                  | ok msgVersion => exact .clears [] rfl
  · exact .clears [] rfl

theorem yieldEnd_follows {download : Download} {others : List Download}
    (notFreed : ota.chFetch.standing ≠ .freed) :
    Follows ota.chFetch.standing (yieldEndCalls platform download ota s)
      (leftBy (·.ota.chFetch) (yieldEnd platform download others ota s)) := by
  have same : (iotOtaIsFetchFinish ota).2.chFetch = ota.chFetch := by
    rw [iotOtaIsFetchFinish]
    split <;> rfl
  rw [yieldEndCalls, yieldEnd]
  dsimp only
  rw [← same]
  split
  · exact finishDownload_follows (same ▸ notFreed)
  · exact .keeps (leads_same (same ▸ notFreed))

/-- A cancel message closes the connection of the client at most. -/
theorem cancelUpdate_leads {msg : List UInt8} (isHeld : ota.chFetch.standing = .held) :
    Leads .held (cancelCalls ota msg) (leftBy (·.1.chFetch) (cancelUpdate platform ota msg s)) := by
  have same : Leads .held [] (some ota.chFetch) :=
    isHeld ▸ leads_same (isHeld ▸ Standing.noConfusion)
  have fault : Leads .held [] none := leads_fault Standing.held_ne_freed
  rw [cancelCalls, cancelUpdate]
  cases otaLibGetMsgModuleVer msg with
  | none => exact same
  | some names =>
      obtain ⟨msgModule, msgVer⟩ := names
      dsimp only
      cases ota.params.module with
      | none => exact fault
      | some module =>
          dsimp only [used, pure, Except.pure, bind, Except.bind]
          by_cases isModule : msgModule = module
          · rw [if_neg (not_not.mpr isModule)]
            cases ota.params.version with
            | none =>
                rw [if_neg fun named => Option.some_ne_none _ named.2]
                exact fault
            | some version =>
                dsimp only
                by_cases isVersion : msgVer = version
                · rw [if_pos ⟨congrArg some isModule, congrArg some isVersion⟩,
                    if_neg (not_not.mpr isVersion)]
                  cases isClient : ota.chFetch with
                  | null => rw [isClient] at isHeld; cases isHeld
                  | released => rw [isClient] at isHeld; cases isHeld
                  | live ofc =>
                      refine .behind [.httpClientClose] (by simp) (by simp) ⟨rfl, trivial⟩
                        (.nil Standing.held_ne_freed fun chFetch among => ?_)
                      cases among
                      rfl
                · rw [if_pos isVersion, if_neg]
                  · exact same
                  · exact fun named => isVersion (Option.some.inj named.2)
          · rw [if_pos isModule, if_neg]
            · exact same
            · exact fun named => isModule (Option.some.inj named.1)

theorem leftBy_map {α β : Type} (left : β → FetchChannel) (next : α → β) (result : Outcome α) :
    leftBy left (result >>= fun value => pure (next value)) = leftBy (left ∘ next) result := by
  cases result <;> rfl

theorem otaPushUploadMsg_chFetch {msg : List UInt8} {result : OtaStruct × List Event × ν}
    (pushes : otaPushUploadMsg platform ota msg s = .ok result) : result.1.chFetch = ota.chFetch := by
  rw [otaPushUploadMsg] at pushes
  dsimp only at pushes
  split at pushes
  · cases pushes
  · split at pushes
    · cases pushes
      rfl
    · split at pushes <;> cases pushes <;> rfl

/-- The callback. -/
theorem otaCallback_follows {others : List Download} {msg : List UInt8}
    (notFreed : ota.chFetch.standing ≠ .freed) :
    Follows ota.chFetch.standing (callbackCalls platform ota msg s)
      (leftBy (·.1.ota.chFetch) (otaCallback platform others ota msg s)) := by
  rw [callbackCalls, otaCallback]
  dsimp only
  split
  · exact .keeps (leads_same notFreed)
  · cases otaLibGetMsgType msg with
    | none => exact .keeps (leads_same notFreed)
    | some msgMethod =>
        dsimp only
        by_cases ignored : ota.chFetch = .null ∧ msgMethod = cancelUpdateMethod
        · rw [if_pos ignored, if_pos ignored]
          exact .keeps (leads_same notFreed)
        · rw [if_neg ignored, if_neg ignored]
          by_cases isUpdate : msgMethod = updateFirmwareMethod
          · rw [if_pos isUpdate, if_pos isUpdate]
            split
            · rw [leftBy_map]
              refine .keeps (leftBy_ok (fun value pushes => ?_) notFreed)
              exact congrArg FetchChannel.standing (otaPushUploadMsg_chFetch pushes)
            · rw [leftBy_map]
              exact updateFirmware_follows notFreed
          · rw [if_neg isUpdate, if_neg isUpdate]
            split
            · rename_i isCancel
              rw [leftBy_map]
              have isHeld : ota.chFetch.standing = .held := by
                cases isClient : ota.chFetch with
                | null => exact absurd ⟨isClient, isCancel⟩ ignored
                | live ofc => rfl
                | released => exact absurd (congrArg FetchChannel.standing isClient) notFreed
              rw [isHeld]
              exact .keeps (cancelUpdate_leads isHeld)
            · exact .keeps (leads_same notFreed)

/-! ## The steps -/

/-- The channel of a device that has not faulted. -/
def Device.channel (device : Device ν) : Option FetchChannel :=
  match device.control with
  | .faulted _ => none
  | _ => some device.ota.chFetch

theorem mem_channel {chFetch : FetchChannel} (among : chFetch ∈ device.channel) :
    chFetch = device.ota.chFetch := by
  rw [Device.channel] at among
  split at among
  · cases among
  · cases among
    rfl

theorem leads_channel (notFreed : device.ota.chFetch.standing ≠ .freed) :
    Leads device.ota.chFetch.standing [] device.channel :=
  .nil notFreed fun _ among => congrArg FetchChannel.standing (mem_channel among)

theorem Follows.channel (follows : Follows before calls (some device.ota.chFetch)) :
    Follows before calls device.channel := by
  cases follows with
  | keeps leads =>
      refine .keeps (leads.weaken fun chFetch among => ⟨device.ota.chFetch, rfl, ?_⟩)
      exact congrArg FetchChannel.standing (mem_channel among)
  | clears front isClear => exact .clears front isClear
  | destroys isDestroy faults => cases faults

theorem settle_follows {result : Outcome (Device ν × List Event)}
    (notFreed : device.ota.chFetch.standing ≠ .freed)
    (follows : Follows device.ota.chFetch.standing calls (leftBy (·.1.ota.chFetch) result)) :
    Follows device.ota.chFetch.standing (counted result calls) (device.settle result).1.channel := by
  cases result with
  | ok result => exact follows.channel
  | error fault =>
      cases fault with
      | unfinished => exact .keeps (leads_channel notFreed)
      | _ => exact follows

theorem counted_map {result : Outcome (Device ν)} :
    counted (result.map fun device => (device, ([] : List Event))) calls = counted result calls := by
  cases result with
  | ok _ => rfl
  | error fault => cases fault <;> rfl

theorem settle_follows_of_map {result : Outcome (Device ν)}
    (notFreed : device.ota.chFetch.standing ≠ .freed)
    (follows : Follows device.ota.chFetch.standing calls (leftBy (·.ota.chFetch) result)) :
    Follows device.ota.chFetch.standing (counted result calls)
      (device.settle (result.map (·, []))).1.channel := by
  rw [← counted_map]
  apply settle_follows notFreed
  cases result <;> exact follows

theorem inLoop_follows {next : Download → List Download → OtaStruct → ν → Outcome (Device ν)}
    {loopCalls : Download → List FetchCall} (notFreed : device.ota.chFetch.standing ≠ .freed)
    (follows : ∀ download others, Follows device.ota.chFetch.standing (loopCalls download)
      (leftBy (·.ota.chFetch) (next download others device.ota device.world))) :
    Follows device.ota.chFetch.standing (device.loopCalls next loopCalls)
      (device.inLoop next).1.channel := by
  rw [Device.loopCalls, Device.inLoop]
  cases device.downloads with
  | nil => exact .keeps (leads_channel notFreed)
  | cons download others => exact settle_follows_of_map notFreed (follows download others)

theorem fetchPiece_leads {turns : Nat} {download : Download} {others : List Download}
    (notFreed : ota.chFetch.standing ≠ .freed) :
    Leads ota.chFetch.standing
      (fetchYieldCalls platform turns ota download.bufferRead httpOtaRangeLen 10 s)
      (leftBy (·.ota.chFetch) (fetchPiece platform turns download others ota s)) := by
  have leads := @iotOtaFetchYield_leads _ platform ota s turns download.bufferRead httpOtaRangeLen 10
    notFreed
  rw [fetchPiece, leftBy_map]
  exact leads

/-- A call that leaves the channel. -/
theorem leads_of_kept (notFreed : device.ota.chFetch.standing ≠ .freed)
    (kept : ota.chFetch = device.ota.chFetch) :
    Leads device.ota.chFetch.standing [] (some ota.chFetch) :=
  kept ▸ leads_same (kept.symm ▸ notFreed)

/-- A call of the API. -/
theorem call_follows {call : Call} (notFreed : device.ota.chFetch.standing ≠ .freed) :
    Follows device.ota.chFetch.standing (apiCalls platform device.ota device.world call)
      (leftBy (·.ota.chFetch) (device.call platform call)) := by
  rw [Device.call.eq_def]
  dsimp only
  cases call with
  | reportVersion module version =>
      exact .keeps (leads_of_kept notFreed (sendUpstreamMsgWithVersion_reported _ _ _).chFetch)
  | requestFirmware module version =>
      exact .keeps (leads_of_kept notFreed (sendUpstreamMsgWithVersion_reported _ _ _).chFetch)
  | reportProgress progress burning =>
      exact .keeps (leads_of_kept notFreed (iotOtaReportProgress_reported _ _).chFetch)
  | reportSuccess version =>
      exact .keeps (leads_of_kept notFreed (iotOtaReportSuccess_reported _).chFetch)
  | reportFail errCode =>
      exact .keeps (leads_of_kept notFreed (iotOtaReportFail_reported _).chFetch)
  | isFetching =>
      refine .keeps (leads_of_kept notFreed ?_)
      rw [iotOtaIsFetching]
      split <;> rfl
  | isFetchFinish =>
      refine .keeps (leads_of_kept notFreed ?_)
      rw [iotOtaIsFetchFinish]
      split <;> rfl
  | fetchYield buf rangeLen timeoutS turns =>
      dsimp only
      rw [leftBy_map]
      exact .keeps (iotOtaFetchYield_leads notFreed)
  | ioctl type bufLen aligned =>
      dsimp only
      rw [leftBy_map]
      refine .keeps (leftBy_ok (fun result returns => ?_) notFreed)
      exact congrArg FetchChannel.standing (iotOtaIoctl_chFetch returns)
  | getLastError => exact .keeps (leads_same notFreed)
  | fwDownload =>
      rcases @startDownload_leads _ platform device.ota device.world none device.downloads notFreed
        with leads | isClear
      · exact .keeps leads
      · exact .clears [] isClear
  | clear => exact .clears [] rfl
  | destroy =>
      dsimp only [apiCalls]
      split
      · exact .keeps (leads_same notFreed)
      · exact .destroys rfl rfl

theorem callerGoesOn_chFetch {download : Download} {ret : Int} :
    (callerGoesOn device download ret).1.ota.chFetch = device.ota.chFetch := by
  have popped : ∀ device : Device ν, (otaPopUploadMsg device).1.ota.chFetch = device.ota.chFetch := by
    intro device
    rw [otaPopUploadMsg]
    split <;> rfl
  rw [callerGoesOn]
  split
  · rfl
  · rw [popped]
    split <;> rfl

/-- A step. -/
theorem apiStep_follows (notFreed : device.ota.chFetch.standing ≠ .freed) (input : ApiInput) :
    Follows device.ota.chFetch.standing (device.calls platform input)
      (device.apiStep platform input).1.channel := by
  have same : ∀ {control : Control}, Leads device.ota.chFetch.standing []
      (Device.channel { device with control := control }) := fun {control} =>
    @leads_channel _ { device with control := control } notFreed
  obtain ⟨ota, s, downloads, control⟩ := device
  cases input with
  | call call =>
      cases control with
      | waiting => exact settle_follows_of_map notFreed (call_follows notFreed)
      | _ => exact .keeps same
  | run input =>
      rw [Device.apiStep]
      cases input with
      | deliver payload =>
          rw [Device.step]
          split <;> exact .keeps same
      | yieldEnds =>
          cases control with
          | waiting => exact inLoop_follows notFreed fun download others => yieldEnd_follows notFreed
          | _ => exact .keeps same
      | proceed turns =>
          cases control with
          | received msg => exact settle_follows notFreed (otaCallback_follows notFreed)
          | fetching =>
              exact inLoop_follows notFreed fun download others => .keeps (fetchPiece_leads notFreed)
          | fetched length =>
              exact inLoop_follows notFreed fun download others => writePiece_follows notFreed
          | returned download ret =>
              have kept := @callerGoesOn_chFetch _ ⟨ota, s, downloads, .returned download ret⟩
                download ret
              have leads := @leads_channel _ (callerGoesOn ⟨ota, s, downloads, .returned download ret⟩
                download ret).1 (kept.symm ▸ notFreed)
              rw [kept] at leads
              exact .keeps leads
          | _ => exact .keeps same

/-! ## Runs -/

/-- The ledger is in order, and `ch_fetch` holds no released client. When the device has
faulted, there are no more calls. -/
def InOrder (state : Device ν × Ledger) : Prop :=
  match state.1.channel with
  | some chFetch => chFetch.standing ≠ .freed ∧ Orderly state.2 chFetch.standing
  | none => state.2.Sound

theorem inOrder_start (productSn deviceSn : List UInt8) (s : ν) :
    InOrder (deviceInit productSn deviceSn s, .empty) :=
  ⟨nofun, orderly_empty⟩

/-- Calls that lead on leave the ledger in order. -/
theorem Leads.inOrder {ledger : Ledger} (orderly : Orderly ledger before)
    (leads : Leads before calls device.channel) :
    InOrder (device, ledger.acts (calls.flatMap FetchCall.handleCalls)) := by
  rw [InOrder]
  have stands := leads.stands
  split
  · rename_i chFetch isChannel
    rw [stands chFetch isChannel]
    exact ⟨leads.notFreed, orderly.acts leads.allows⟩
  · exact orderly.sound_iff.mpr ⟨leads.allows, leads.notFreed⟩

/-- A device that has faulted makes no calls. -/
theorem calls_faulted (isFaulted : device.channel = none) (input : ApiInput) :
    device.calls platform input = [] ∧ (device.apiStep platform input).1 = device := by
  obtain ⟨ota, s, downloads, control⟩ := device
  cases control with
  | faulted fault =>
      refine ⟨?_, ?_⟩
      · rcases input with (_ | _ | _) | _ <;> rfl
      · rcases input with (_ | _ | _) | _ <;> rfl
  | _ => cases isFaulted

/-- A step leaves the handles sound just when it keeps the client, and then all is in order
behind it. -/
theorem ledgerStep_inOrder {state : Device ν × Ledger} (inOrder : InOrder state) (input : ApiInput) :
    (LeavesSound platform state input ↔ Keeps platform state.1 input) ∧
      (Keeps platform state.1 input → InOrder (ledgerStep platform state input).1) := by
  obtain ⟨device, ledger⟩ := state
  rw [InOrder] at inOrder
  dsimp only at inOrder ⊢
  rw [LeavesSound, ledgerStep]
  dsimp only
  split at inOrder
  · rename_i chFetch isChannel
    obtain rfl := mem_channel isChannel
    obtain ⟨notFreed, orderly⟩ := inOrder
    cases @apiStep_follows _ platform device notFreed input with
    | keeps leads =>
        have sound := orderly.sound_iff.mpr ⟨leads.allows, leads.notFreed⟩
        have keeps : Keeps platform device input :=
          ⟨leads.notCleared, fun among => absurd among leads.notDestroyed⟩
        exact ⟨iff_of_true sound keeps, fun _ => leads.inOrder orderly⟩
    | clears front isClear =>
        have notKept : ¬Keeps platform device input := by
          intro keeps
          apply keeps.1
          rw [isClear]
          exact List.mem_append_right _ (List.mem_singleton_self _)
        refine ⟨iff_of_false (fun sound => ?_) notKept, fun keeps => absurd keeps notKept⟩
        obtain ⟨_, isFreed⟩ := orderly.sound_iff.mp sound
        rw [isClear, List.flatMap_append, Standing.afterAll_append] at isFreed
        exact isFreed rfl
    | destroys isDestroy faults =>
        rw [Keeps, isDestroy, InOrder, faults]
        cases isClient : device.ota.chFetch with
        | null =>
            have notKept : ¬(FetchCall.clear ∉ [FetchCall.destroy] ∧
                (FetchCall.destroy ∈ [FetchCall.destroy] → FetchChannel.null ≠ FetchChannel.null)) :=
              fun keeps => keeps.2 (List.mem_singleton_self _) rfl
            refine ⟨iff_of_false (fun sound => ?_) notKept, fun keeps => absurd keeps notKept⟩
            rw [isClient] at orderly
            obtain ⟨⟨isHeld, _⟩, _⟩ := orderly.sound_iff.mp sound
            cases isHeld
        | live ofc =>
            rw [isClient] at orderly
            have sound : (ledger.acts [.release, .forget]).Sound :=
              orderly.sound_iff.mpr ⟨⟨rfl, trivial, trivial⟩, nofun⟩
            exact ⟨iff_of_true sound ⟨by simp, fun _ => nofun⟩, fun _ => sound⟩
        | released => exact absurd (congrArg FetchChannel.standing isClient) notFreed
  · rename_i isFaulted
    obtain ⟨noCalls, isAfter⟩ := @calls_faulted _ platform device isFaulted input
    have keeps : Keeps platform device input := by
      rw [Keeps, noCalls]
      exact ⟨List.not_mem_nil, fun among => absurd among List.not_mem_nil⟩
    rw [noCalls, isAfter]
    refine ⟨iff_of_true inOrder keeps, fun _ => ?_⟩
    rw [InOrder, isFaulted]
    exact inOrder

/-- **Fetch handles.** In every run of messages, network outcomes and calls, the handles are
sound all along just when no step runs `IOT_OTA_Clear` and `IOT_OTA_Destroy` is called only
where `ch_fetch` is not NULL. -/
theorem handles_sound_iff (platform : Platform ν) (productSn deviceSn : List UInt8) (s : ν)
    (inputs : List ApiInput) :
    Along (ledgerStep platform) (LeavesSound platform) (deviceInit productSn deviceSn s, .empty)
        inputs ↔
      Along (ledgerStep platform) (fun state input => Keeps platform state.1 input)
        (deviceInit productSn deviceSn s, .empty) inputs := by
  apply along_iff InOrder (inOrder_start productSn deviceSn s)
  · exact fun state input inOrder => (ledgerStep_inOrder inOrder input).1
  · exact fun state input inOrder keeps => (ledgerStep_inOrder inOrder input).2 keeps

/-- A download up to the end of its last yield. -/
def downloadFront : List ApiInput :=
  [.run (.deliver (updateMessage "900150983cd24fb0d6963f7d28e17f72" "3")), .run (.proceed 0),
    .run (.proceed 50), .run (.proceed 0)]

/-- The ledger of a device behind a run. -/
def ledgerOf (responses : List (List UInt8)) (inputs : List ApiInput) : Ledger :=
  (run (ledgerStep scripted) (scriptedDevice responses, .empty) inputs).1.2

/-- A handle that is destroyed at once, a download, and a handle that is destroyed behind it. -/
theorem ledgers_left :
    ledgerOf [] [.call .destroy] = ⟨none, 0, [], true⟩ ∧
      ledgerOf [okResponse "3" "abc"] (downloadFront ++ [.run .yieldEnds]) =
        ⟨some 0, 1, [0], false⟩ ∧
      ledgerOf [okResponse "3" "abc"]
          (downloadFront ++ [.run .yieldEnds, .run (.proceed 0), .call .destroy]) =
        ⟨none, 1, [0, 0], true⟩ := by
  decide +kernel

/-- NULL is released where there has been no download, a download leaves a released handle
behind, and that is released once more. -/
theorem released_handle_left :
    ¬Along (ledgerStep scripted) (LeavesSound scripted) (scriptedDevice [], .empty)
        [.call .destroy] ∧
      ¬Along (ledgerStep scripted) (LeavesSound scripted)
        (scriptedDevice [okResponse "3" "abc"], .empty) (downloadFront ++ [.run .yieldEnds]) ∧
      ¬(ledgerOf [okResponse "3" "abc"]
        (downloadFront ++ [.run .yieldEnds, .run (.proceed 0), .call .destroy])).released.Nodup := by
  obtain ⟨destroyed, downloaded, both⟩ := ledgers_left
  refine ⟨fun along => ?_, fun along => ?_, ?_⟩
  · have sound : (ledgerOf [] [.call .destroy]).Sound := along.1
    rw [destroyed] at sound
    exact Bool.noConfusion sound.wellUsed
  · have sound := along.at
    have isLedger : (ledgerStep scripted (run (ledgerStep scripted)
        (scriptedDevice [okResponse "3" "abc"], .empty) downloadFront).1 (.run .yieldEnds)).1.2 =
        ledgerOf [okResponse "3" "abc"] (downloadFront ++ [.run .yieldEnds]) := by
      rw [ledgerOf, run_append_fst, run_cons_fst, run_nil]
    rw [LeavesSound, isLedger, downloaded] at sound
    exact sound.holds 0 rfl (List.mem_singleton_self 0)
  · rw [both]
    decide

end UIoT.Ota
