import UIoT.Ota.Lib
import UIoT.Utils.Md5

/-!
# The OTA client

The handle and the functions on it, but for the download and the message callback,
between whose steps other messages may come. They are in the next module.
-/

set_option autoImplicit false

namespace UIoT.Ota

open Utils

/-! ## The handle -/

/-- `IOT_OTA_State` -/
inductive OtaState where
  | uninited
  | inited
  | fetching
  | fetched
  | disconnected
  deriving DecidableEq, Repr

/-- The order of the enumeration. -/
def OtaState.index : OtaState → Nat
  | uninited => 0
  | inited => 1
  | fetching => 2
  | fetched => 3
  | disconnected => 4

/-- `ch_fetch`: no client, one, or one that is freed. -/
inductive FetchChannel where
  | null
  | live (ofc : OtaHttpClient)
  | released
  deriving DecidableEq, Repr

/-- `OTA_Struct_t` with the parts of `OTA_MQTT_Struct_t` that are used. -/
structure OtaStruct where
  state : OtaState
  sizeLastFetched : UInt32
  sizeFetched : UInt32
  params : Params
  md5 : Option Md5Context
  chFetch : FetchChannel
  err : Int
  reportTimer : Timer
  productSn : List UInt8
  deviceSn : List UInt8
  msgList : List (List UInt8)
  deriving DecidableEq, Repr

def noParams : Params :=
  { url := none, module := none, downloadName := none, version := none, md5sum := none, sizeFile := 0 }

/-- The handle that `IOT_OTA_Init` returns. -/
def otaInit (productSn deviceSn : List UInt8) : OtaStruct where
  state := .inited
  sizeLastFetched := 0
  sizeFetched := 0
  params := noParams
  md5 := some utilsMd5Starts
  chFetch := .null
  err := 0
  reportTimer := ⟨0⟩
  productSn := productSn
  deviceSn := deviceSn
  msgList := []

/-- The client behind `ch_fetch`. -/
def FetchChannel.ofc : FetchChannel → Outcome OtaHttpClient
  | live ofc => return ofc
  | null | released => throw .pointer

/-- A pointer that is used. -/
def used {α : Type} : Option α → Outcome α
  | some value => return value
  | none => throw .pointer

variable {ν : Type} (platform : Platform ν)

/-! ## Reports -/

abbrev otaTopicBufLen : Nat := 129

/-- `_ota_mqtt_publish` to the upstream topic -/
def otaMqttPublish (ota : OtaStruct) (qos1 : Bool) (msg : List UInt8) (s : ν) : Int × ν :=
  let topicName :=
    literal "/$system/" ++ ota.productSn ++ literal "/" ++ ota.deviceSn ++ literal "/ota/upstream"
  if otaTopicBufLen ≤ topicName.length then (errOtaGeneralFailure, s)
  else
    let (ret, s) := platform.publish s qos1 topicName msg
    (if ret < 0 then errOtaOscFailed else ret, s)

/-- What the reports have in common: a message is built in a buffer and published. -/
def sendReport (ota : OtaStruct) (module version : List UInt8) (progress : Int)
    (reportType : UpstreamMsgType) (qos1 : Bool) (s : ν) : Int × OtaStruct × ν :=
  let (allocated, s) := platform.malloc s
  if ¬allocated then (errOtaNoMemory, { ota with err := errOtaNoMemory }, s)
  else
    let (ret, msg, s) :=
      otaLibGenUpstreamMsg platform otaUpstreamMsgBufLen module version progress reportType s
    if ret ≠ successRet then (ret, { ota with err := ret }, s)
    else
      let (ret, s) := otaMqttPublish platform ota qos1 msg s
      if ret < 0 then (ret, { ota with err := ret }, s) else (ret, ota, s)

/-- `IOT_OTA_ReportProgress` -/
def iotOtaReportProgress (ota : OtaStruct) (progress : Int) (state : UpstreamMsgType) (s : ν) :
    Int × OtaStruct × ν :=
  if ota.state = .uninited then (errOtaInvalidState, { ota with err := errOtaInvalidState }, s)
  else if progress < 0 ∨ 100 < progress then
    (errOtaInvalidParam, { ota with err := errOtaInvalidParam }, s)
  else
    sendReport platform ota (formatPointer ota.params.module) (formatPointer ota.params.version)
      progress state false s

/-- `send_upstream_msg_with_version` -/
def sendUpstreamMsgWithVersion (ota : OtaStruct) (module : Option (List UInt8)) (version : List UInt8)
    (reportType : UpstreamMsgType) (s : ν) : Int × OtaStruct × ν :=
  if ota.state = .uninited then (errOtaInvalidState, { ota with err := errOtaInvalidState }, s)
  else if version.length < 1 ∨ 32 < version.length then
    (errOtaInvalidParam, { ota with err := errOtaInvalidParam }, s)
  else sendReport platform ota (formatPointer module) version 0 reportType true s

/-- The call of `fetch_callback_func`, which does not touch the handle. -/
def callFetchCallback (state : UpstreamMsgType) (s : ν) : ν :=
  match platform.fetchCallback with
  | some fetchCallback => fetchCallback s state.code
  | none => s

/-- `IOT_OTA_ReportSuccess` -/
def iotOtaReportSuccess (ota : OtaStruct) (version : List UInt8) (s : ν) : Int × OtaStruct × ν :=
  sendUpstreamMsgWithVersion platform ota ota.params.module version .success
    (callFetchCallback platform .success s)

/-- `IOT_OTA_ReportFail` -/
def iotOtaReportFail (ota : OtaStruct) (errCode : UpstreamMsgType) (s : ν) : Int × OtaStruct × ν :=
  if ota.state = .uninited then (errOtaInvalidState, { ota with err := errOtaInvalidState }, s)
  else
    let (ret, ota, s) :=
      sendReport platform ota (formatPointer ota.params.module) [] 0 errCode true s
    (ret, ota, if ret < 0 then s else callFetchCallback platform errCode s)

/-! ## Fetching -/

/-- `init_timer` and `countdown` of the report timer. -/
def startReportTimer (ota : OtaStruct) (s : ν) : OtaStruct × ν :=
  let (now, s) := platform.tick s
  ({ ota with reportTimer := countdown platform.rtTickFromMillisecond now 5 }, s)

/-- The new connection of `IOT_OTA_FetchYield`; the code of `ofc_connect` is not
looked at. -/
def reconnect (ota : OtaStruct) (ofc : OtaHttpClient) (s : ν) : Outcome (OtaStruct × ν) := do
  let s := ofcDeinit platform ofc s
  let url ← used ota.params.url
  let (allocated, s) := ofcInit platform url s
  let ofc ← used allocated
  let (_, ofc, s) ← ofcConnect platform ofc s
  return ({ ota with chFetch := .live ofc, state := .fetching }, s)

/-- The end of an attempt that failed. -/
def fetchFailed (ota : OtaStruct) (ret : Int) (s : ν) : OtaStruct × ν :=
  let ota := { ota with state := .fetched, err := ret }
  if ret = errOtaFetchAuthFail then (iotOtaReportFail platform ota .signatureExpired s).2
  else if ret = errOtaFileNotExist then (iotOtaReportFail platform ota .firmwareNotExist s).2
  else if ret = errOtaFetchTimeout then (iotOtaReportFail platform ota .downloadTimeout s).2
  else ({ ota with err := errOtaFetchFailed }, s)

/-- The end of an attempt that succeeded: the first one is reported. -/
def reportFirst (ota : OtaStruct) (s : ν) : OtaStruct × ν :=
  if ota.sizeFetched = 0 then
    let (_, ota, s) := iotOtaReportProgress platform ota 0 .downloading s
    startReportTimer platform ota s
  else (ota, s)

/-- The attempts of `IOT_OTA_FetchYield` that are left, behind one that returned
`ret`. -/
def fetchAttempts (turns : Nat) (rangeLen timeoutS : UInt32) :
    Nat → Int → OtaStruct → List UInt8 → ν → Outcome (Int × OtaStruct × List UInt8 × ν)
  | 0, ret, ota, buf, s => return (ret, ota, buf, s)
  | left + 1, _, ota, buf, s => do
      let ofc ← ota.chFetch.ofc
      let (ret, ofc, buf, s) ← ofcFetch platform turns ofc ota.sizeFetched buf rangeLen timeoutS s
      let ota := { ota with chFetch := .live ofc }
      if ret = errHttpConnError ∧ ota.state ≠ .disconnected then
        let (ota, s) ← reconnect platform ota ofc s
        fetchAttempts turns rangeLen timeoutS left ret ota buf s
      else if ret < 0 then
        let (ota, s) := fetchFailed platform ota ret s
        fetchAttempts turns rangeLen timeoutS left ret ota buf s
      else
        let (ota, s) := reportFirst platform ota s
        return (ret, ota, buf, s)

/-- The reports of `IOT_OTA_FetchYield` on its way. -/
def reportPercent (ota : OtaStruct) (percent : UInt32) (s : ν) : OtaStruct × ν :=
  if percent = 100 then (iotOtaReportProgress platform ota percent.toInt32.toInt .downloading s).2
  else if 0 < ota.sizeLastFetched then
    let (now, s) := platform.tick s
    if hasExpired ota.reportTimer now then
      let (_, ota, s) := iotOtaReportProgress platform ota percent.toInt32.toInt .downloading s
      startReportTimer platform ota s
    else (ota, s)
  else (ota, s)

/-- `ret` bytes, the first ones of a buffer, are added. -/
def OtaStruct.addFetched (ota : OtaStruct) (md5 : Md5Context) (ret : Int) (buf : List UInt8) :
    OtaStruct :=
  { ota with
    md5 := some (utilsMd5Update md5 (buf.take ret.toNat))
    sizeLastFetched := UInt32.ofNat ret.toNat
    sizeFetched := ota.sizeFetched + UInt32.ofNat ret.toNat }

/-- The state at the end of `IOT_OTA_FetchYield` -/
def OtaStruct.checkFetched (ota : OtaStruct) : OtaStruct :=
  if ota.params.sizeFile ≤ ota.sizeFetched then { ota with state := .fetched } else ota

/-- What `IOT_OTA_FetchYield` does with `ret` bytes fetched. -/
def accountFetched (ret : Int) (ota : OtaStruct) (buf : List UInt8) (s : ν) :
    Outcome (OtaStruct × ν) := do
  let md5 ← used ota.md5
  let ota := ota.addFetched md5 ret buf
  if (buf.length : Int) < ret then throw .outside
  else if ota.params.sizeFile = 0 then throw .arithmetic
  else
    let (ota, s) := reportPercent platform ota (ota.sizeFetched * 100 / ota.params.sizeFile) s
    return (ota.checkFetched, s)

/-- `IOT_OTA_FetchYield` into a buffer: the code or the number of bytes, the handle,
the buffer and the platform. -/
def iotOtaFetchYield (turns : Nat) (ota : OtaStruct) (buf : List UInt8) (rangeLen timeoutS : UInt32)
    (s : ν) : Outcome (Int × OtaStruct × List UInt8 × ν) := do
  if buf.length = 0 then return (errOtaInvalidParam, ota, buf, s)
  else if ota.state ≠ .fetching then
    return (errOtaInvalidState, { ota with err := errOtaInvalidState }, buf, s)
  else
    let (ret, ota, buf, s) ← fetchAttempts platform turns rangeLen timeoutS 5 0 ota buf s
    if 0 < ret then
      let (ota, s) ← accountFetched platform ret ota buf s
      return (ret, ota, buf, s)
    else return (ret, ota, buf, s)

/-- `IOT_OTA_IsFetchFinish` -/
def iotOtaIsFetchFinish (ota : OtaStruct) : Bool × OtaStruct :=
  if ota.state = .uninited then (false, { ota with err := errOtaInvalidState })
  else (ota.state = .fetched, ota)

/-! ## Queries -/

/-- `IOT_OTA_CmdType` -/
inductive CmdType where
  | fetchedSize
  | fileSize
  | md5sum
  | version
  | checkFirmware
  deriving DecidableEq, Repr

/-- What a query stores. -/
inductive Stored where
  | nothing
  | number (n : UInt32)
  | text (bytes : List UInt8)
  deriving DecidableEq, Repr

/-- The number in a variable that a query is to store into. -/
def Stored.value : Stored → Outcome UInt32
  | number n => return n
  | nothing | text _ => throw .indeterminate

/-- The text in a buffer that a query is to store into. -/
def Stored.string : Stored → Outcome (List UInt8)
  | text bytes => return bytes
  | nothing | number _ => throw .indeterminate

/-- The comparison of `OTA_IOCTL_CHECK_FIRMWARE`; a mismatch is reported. -/
def compareMd5 (ota : OtaStruct) (md5sum md5Str : List UInt8) (s : ν) :
    Int × Stored × OtaStruct × ν :=
  if md5sum = md5Str then (successRet, .number 1, ota, s)
  else
    let (_, ota, s) :=
      iotOtaReportFail platform { ota with err := errOtaMd5Mismatch } .md5Mismatch s
    (successRet, .number 0, ota, s)

/-- `OTA_IOCTL_CHECK_FIRMWARE` -/
def checkFirmware (ota : OtaStruct) (s : ν) : Outcome (Int × Stored × OtaStruct × ν) := do
  let md5 ← used ota.md5
  let md5sum ← used ota.params.md5sum
  let (md5Str, md5) := utilsMd5FinishHb2Hex md5
  return compareMd5 platform { ota with md5 := some md5 } md5sum md5Str s

/-- `IOT_OTA_Ioctl` with a buffer of `bufLen` bytes, on a word or not. -/
def iotOtaIoctl (ota : OtaStruct) (type : CmdType) (bufLen : Nat) (aligned : Bool) (s : ν) :
    Outcome (Int × Stored × OtaStruct × ν) := do
  let invalid : Outcome (Int × Stored × OtaStruct × ν) :=
    return (failureRet, .nothing, { ota with err := errOtaInvalidParam }, s)
  if bufLen = 0 then return (errOtaInvalidParam, .nothing, ota, s)
  else if ota.state.index < OtaState.fetching.index then
    return (errOtaInvalidState, .nothing, { ota with err := errOtaInvalidState }, s)
  else
    match type with
    | .fetchedSize =>
        if 4 ≠ bufLen ∨ ¬aligned then invalid
        else return (successRet, .number ota.sizeFetched, ota, s)
    | .fileSize =>
        if 4 ≠ bufLen ∨ ¬aligned then invalid
        else return (successRet, .number ota.params.sizeFile, ota, s)
    | .version =>
        let version ← used ota.params.version
        return (successRet, .text (version.take (bufLen - 1)), ota, s)
    | .md5sum =>
        let md5sum ← used ota.params.md5sum
        return (successRet, .text (md5sum.take (bufLen - 1)), ota, s)
    | .checkFirmware =>
        if 4 ≠ bufLen ∨ ¬aligned then invalid
        else if ota.state ≠ .fetched then
          return (failureRet, .nothing, { ota with err := errOtaInvalidState }, s)
        else checkFirmware platform ota s

/-! ## Clearing -/

/-- The text of a pointer that is not null is zeroed. -/
def zeroed (text : Option (List UInt8)) : Option (List UInt8) := text.map fun _ => []

/-- `IOT_OTA_Clear`: `ch_fetch` keeps pointing to the client that is freed. -/
def iotOtaClear (ota : OtaStruct) (s : ν) : Outcome (OtaStruct × ν) := do
  let ofc ← ota.chFetch.ofc
  let s := ofcDeinit platform ofc s
  let (allocated, s) := platform.malloc s
  return ({ ota with
    chFetch := .released
    params :=
      { url := zeroed ota.params.url
        module := zeroed ota.params.module
        downloadName := zeroed ota.params.downloadName
        version := zeroed ota.params.version
        md5sum := zeroed ota.params.md5sum
        sizeFile := 0 }
    sizeLastFetched := 0
    sizeFetched := 0
    md5 := if allocated then some utilsMd5Starts else none
    state := .inited }, s)

/-! ## What the functions leave alone -/

/-- What is told of the firmware and of the queue is as before. -/
structure Kept (before after : OtaStruct) : Prop where
  params : after.params = before.params
  sizeFetched : after.sizeFetched = before.sizeFetched
  md5 : after.md5 = before.md5
  msgList : after.msgList = before.msgList

/-- A report changes the last error and the report timer at most. -/
structure Reported (before after : OtaStruct) : Prop extends Kept before after where
  state : after.state = before.state
  chFetch : after.chFetch = before.chFetch
  err : after.err = before.err ∨ after.err < 0

variable {platform} {ota middle after : OtaStruct} {s : ν}

theorem Kept.refl (ota : OtaStruct) : Kept ota ota := ⟨rfl, rfl, rfl, rfl⟩

theorem Kept.trans (first : Kept ota middle) (second : Kept middle after) : Kept ota after where
  params := second.params.trans first.params
  sizeFetched := second.sizeFetched.trans first.sizeFetched
  md5 := second.md5.trans first.md5
  msgList := second.msgList.trans first.msgList

theorem Reported.refl (ota : OtaStruct) : Reported ota ota := ⟨.refl ota, rfl, rfl, .inl rfl⟩

theorem Reported.trans (first : Reported ota middle) (second : Reported middle after) :
    Reported ota after where
  toKept := first.toKept.trans second.toKept
  state := second.state.trans first.state
  chFetch := second.chFetch.trans first.chFetch
  err := by
    rcases second.err with same | negative
    · rw [same]
      exact first.err
    · exact .inr negative

theorem reported_err {err : Int} (negative : err < 0) : Reported ota { ota with err := err } :=
  ⟨⟨rfl, rfl, rfl, rfl⟩, rfl, rfl, .inr negative⟩

theorem otaLibGenUpstreamMsg_ret (bufLen : Nat) (module version : List UInt8) (progress : Int)
    (reportType : UpstreamMsgType) :
    (otaLibGenUpstreamMsg platform bufLen module version progress reportType s).1 ≤ 0 := by
  rw [otaLibGenUpstreamMsg]
  split
  · show errOtaGeneralFailure ≤ 0
    decide
  · dsimp only
    split
    · show errOtaStrTooLong ≤ 0
      decide
    · exact Int.le_refl _

theorem sendReport_reported (module version : List UInt8) (progress : Int)
    (reportType : UpstreamMsgType) (qos1 : Bool) :
    Reported ota (sendReport platform ota module version progress reportType qos1 s).2.1 := by
  rw [sendReport]
  dsimp only
  split
  · exact reported_err (by decide)
  · split
    · rename_i failed
      exact reported_err (lt_of_le_of_ne (otaLibGenUpstreamMsg_ret _ _ _ _ _) failed)
    · split
      · rename_i negative
        exact reported_err negative
      · exact .refl ota

theorem iotOtaReportProgress_reported (progress : Int) (state : UpstreamMsgType) :
    Reported ota (iotOtaReportProgress platform ota progress state s).2.1 := by
  rw [iotOtaReportProgress]
  split
  · exact reported_err (by decide)
  · split
    · exact reported_err (by decide)
    · exact sendReport_reported _ _ _ _ _

theorem sendUpstreamMsgWithVersion_reported (module : Option (List UInt8)) (version : List UInt8)
    (reportType : UpstreamMsgType) :
    Reported ota (sendUpstreamMsgWithVersion platform ota module version reportType s).2.1 := by
  rw [sendUpstreamMsgWithVersion]
  split
  · exact reported_err (by decide)
  · split
    · exact reported_err (by decide)
    · exact sendReport_reported _ _ _ _ _

theorem iotOtaReportSuccess_reported (version : List UInt8) :
    Reported ota (iotOtaReportSuccess platform ota version s).2.1 := by
  rw [iotOtaReportSuccess]
  exact sendUpstreamMsgWithVersion_reported _ _ _

theorem iotOtaReportFail_reported (errCode : UpstreamMsgType) :
    Reported ota (iotOtaReportFail platform ota errCode s).2.1 := by
  rw [iotOtaReportFail]
  split
  · exact reported_err (by decide)
  · exact sendReport_reported _ _ _ _ _

theorem startReportTimer_reported : Reported ota (startReportTimer platform ota s).1 :=
  ⟨⟨rfl, rfl, rfl, rfl⟩, rfl, rfl, .inl rfl⟩

theorem reportFirst_reported : Reported ota (reportFirst platform ota s).1 := by
  rw [reportFirst]
  split
  · exact (iotOtaReportProgress_reported _ _).trans startReportTimer_reported
  · exact .refl ota

theorem reportPercent_reported (percent : UInt32) :
    Reported ota (reportPercent platform ota percent s).1 := by
  rw [reportPercent]
  split
  · exact iotOtaReportProgress_reported _ _
  · split
    · dsimp only
      split
      · exact (iotOtaReportProgress_reported _ _).trans startReportTimer_reported
      · exact .refl ota
    · exact .refl ota

theorem fetchFailed_kept (ret : Int) : Kept ota (fetchFailed platform ota ret s).1 := by
  have set : Kept ota { ota with state := .fetched, err := ret } := ⟨rfl, rfl, rfl, rfl⟩
  rw [fetchFailed]
  split
  · exact set.trans (iotOtaReportFail_reported _).toKept
  · split
    · exact set.trans (iotOtaReportFail_reported _).toKept
    · split
      · exact set.trans (iotOtaReportFail_reported _).toKept
      · exact ⟨rfl, rfl, rfl, rfl⟩

theorem fetchFailed_state (ret : Int) : (fetchFailed platform ota ret s).1.state = .fetched := by
  rw [fetchFailed]
  split
  · exact (iotOtaReportFail_reported _).state
  · split
    · exact (iotOtaReportFail_reported _).state
    · split
      · exact (iotOtaReportFail_reported _).state
      · rfl

theorem reconnect_ok {ofc : OtaHttpClient} {s' : ν}
    (connected : reconnect platform ota ofc s = .ok (after, s')) :
    Kept ota after ∧ after.state = .fetching := by
  rw [reconnect] at connected
  obtain ⟨url, _, connected⟩ := bind_ok connected
  obtain ⟨ofc, _, connected⟩ := bind_ok connected
  obtain ⟨⟨ret, ofc, s⟩, _, connected⟩ := bind_ok connected
  cases connected
  exact ⟨⟨rfl, rfl, rfl, rfl⟩, rfl⟩

/-- The attempts leave what is told of the firmware, and end fetching or fetched. -/
theorem fetchAttempts_ok {turns : Nat} {rangeLen timeoutS : UInt32} :
    ∀ {left : Nat} {ret : Int} {ota : OtaStruct} {buf : List UInt8} {s : ν}
      {ret' : Int} {after : OtaStruct} {buf' : List UInt8} {s' : ν},
      fetchAttempts platform turns rangeLen timeoutS left ret ota buf s = .ok (ret', after, buf', s') →
        Kept ota after ∧ (after.state = ota.state ∨ after.state = .fetching ∨ after.state = .fetched)
  | 0, ret, ota, buf, s, ret', after, buf', s', attempts => by
      cases attempts
      exact ⟨.refl ota, .inl rfl⟩
  | left + 1, ret, ota, buf, s, ret', after, buf', s', attempts => by
      rw [fetchAttempts] at attempts
      obtain ⟨ofc, live, attempts⟩ := bind_ok attempts
      obtain ⟨⟨ret, ofc, buf, s⟩, fetched, attempts⟩ := bind_ok attempts
      dsimp only at attempts
      have put : Kept ota { ota with chFetch := .live ofc } := ⟨rfl, rfl, rfl, rfl⟩
      split at attempts
      · obtain ⟨⟨middle, s⟩, connected, attempts⟩ := bind_ok attempts
        obtain ⟨kept, state⟩ := fetchAttempts_ok attempts
        obtain ⟨again, isFetching⟩ := reconnect_ok connected
        refine ⟨(put.trans again).trans kept, ?_⟩
        rw [isFetching] at state
        exact .inr (state.elim .inl id)
      · split at attempts
        · obtain ⟨kept, state⟩ := fetchAttempts_ok attempts
          refine ⟨(put.trans (fetchFailed_kept ret)).trans kept, ?_⟩
          rw [fetchFailed_state] at state
          exact .inr (state.elim .inr id)
        · cases attempts
          exact ⟨put.trans reportFirst_reported.toKept, .inl reportFirst_reported.state⟩

/-- `ret` bytes, the first ones of a buffer, are accounted for. -/
structure Took (before : OtaStruct) (ret : Int) (buf : List UInt8) (after : OtaStruct) : Prop where
  positive : 0 < ret
  fits : ret ≤ buf.length
  params : after.params = before.params
  msgList : after.msgList = before.msgList
  sizeFetched : after.sizeFetched = before.sizeFetched + UInt32.ofNat ret.toNat
  md5 : ∃ md5, before.md5 = some md5 ∧ after.md5 = some (utilsMd5Update md5 (buf.take ret.toNat))

theorem used_ok {α : Type} {pointer : Option α} {value : α} (isUsed : used pointer = .ok value) :
    pointer = some value := by
  cases pointer with
  | none => cases isUsed
  | some _ => cases isUsed; rfl

theorem checkFetched_kept (ota : OtaStruct) : Kept ota ota.checkFetched := by
  rw [OtaStruct.checkFetched]
  split <;> exact ⟨rfl, rfl, rfl, rfl⟩

theorem checkFetched_state (ota : OtaStruct) :
    ota.checkFetched.state =
      if ota.params.sizeFile ≤ ota.sizeFetched then .fetched else ota.state := by
  rw [OtaStruct.checkFetched]
  split <;> rfl

theorem accountFetched_ok {ret : Int} {buf : List UInt8} {s' : ν} (positive : 0 < ret)
    (accounted : accountFetched platform ret ota buf s = .ok (after, s')) :
    Took ota ret buf after ∧
      after.state = if after.params.sizeFile ≤ after.sizeFetched then .fetched else ota.state := by
  rw [accountFetched] at accounted
  obtain ⟨md5, isMd5, accounted⟩ := bind_ok accounted
  dsimp only at accounted
  split at accounted
  · cases accounted
  rename_i fits
  split at accounted
  · cases accounted
  · cases accounted
    have reported := @reportPercent_reported _ platform (ota.addFetched md5 ret buf) s
      ((ota.addFetched md5 ret buf).sizeFetched * 100 / (ota.addFetched md5 ret buf).params.sizeFile)
    have kept := reported.toKept.trans (checkFetched_kept _)
    refine ⟨⟨positive, Int.not_lt.mp fits, kept.params, kept.msgList, kept.sizeFetched, md5, used_ok isMd5,
      kept.md5⟩, ?_⟩
    rw [checkFetched_state, (checkFetched_kept _).params, (checkFetched_kept _).sizeFetched,
      reported.state]
    rfl

/-- `IOT_OTA_FetchYield` adds what it returns, and nothing where it returns a code. -/
theorem iotOtaFetchYield_ok {turns : Nat} {buf buf' : List UInt8} {rangeLen timeoutS : UInt32}
    {ret : Int} {s' : ν}
    (returns : iotOtaFetchYield platform turns ota buf rangeLen timeoutS s =
      .ok (ret, after, buf', s')) :
    (ret ≤ 0 ∧ Kept ota after ∧
        (after.state = ota.state ∨ after.state = .fetching ∨ after.state = .fetched)) ∨
      (Took ota ret buf' after ∧ ota.state = .fetching ∧
        (after.state = .fetching ∨ after.state = .fetched)) := by
  rw [iotOtaFetchYield] at returns
  split at returns
  · cases returns
    exact .inl ⟨by decide, .refl ota, .inl rfl⟩
  · split at returns
    · cases returns
      exact .inl ⟨by decide, ⟨rfl, rfl, rfl, rfl⟩, .inl rfl⟩
    · rename_i isFetching
      have isFetching := not_not.mp isFetching
      obtain ⟨⟨ret, middle, buf, s⟩, attempts, returns⟩ := bind_ok returns
      obtain ⟨kept, state⟩ := fetchAttempts_ok attempts
      dsimp only at returns
      split at returns
      · rename_i positive
        obtain ⟨⟨final, s⟩, accounted, returns⟩ := bind_ok returns
        cases returns
        obtain ⟨took, finalState⟩ := accountFetched_ok positive accounted
        obtain ⟨md5, before, updated⟩ := took.md5
        refine .inr ⟨⟨positive, took.fits, took.params.trans kept.params,
          took.msgList.trans kept.msgList, ?_, md5, kept.md5.symm.trans before, updated⟩,
          isFetching, ?_⟩
        · rw [took.sizeFetched, kept.sizeFetched]
        · rw [finalState]
          rw [isFetching] at state
          split
          · exact .inr rfl
          · exact state.elim .inl id
      · rename_i notPositive
        cases returns
        exact .inl ⟨Int.not_lt.mp notPositive, kept, state⟩

/-! ## Clearing and queries -/

/-- A handle that is cleared. -/
structure Cleared (before after : OtaStruct) : Prop where
  state : after.state = .inited
  sizeFetched : after.sizeFetched = 0
  sizeFile : after.params.sizeFile = 0
  md5 : after.md5 = none ∨ after.md5 = some utilsMd5Starts
  msgList : after.msgList = before.msgList
  chFetch : after.chFetch = .released

theorem iotOtaClear_ok {s' : ν} (returns : iotOtaClear platform ota s = .ok (after, s')) :
    Cleared ota after := by
  rw [iotOtaClear] at returns
  obtain ⟨ofc, _, returns⟩ := bind_ok returns
  cases returns
  refine ⟨rfl, rfl, rfl, ?_, rfl, rfl⟩
  dsimp only
  split
  · exact .inr rfl
  · exact .inl rfl

/-- A query changes the MD5 context and the last error at most. -/
structure Asked (before after : OtaStruct) : Prop where
  params : after.params = before.params
  sizeFetched : after.sizeFetched = before.sizeFetched
  state : after.state = before.state
  msgList : after.msgList = before.msgList

theorem Asked.refl (ota : OtaStruct) : Asked ota ota := ⟨rfl, rfl, rfl, rfl⟩

theorem compareMd5_asked (md5sum md5Str : List UInt8) :
    Asked ota (compareMd5 platform ota md5sum md5Str s).2.2.1 := by
  rw [compareMd5]
  split
  · exact .refl ota
  · have reported := @iotOtaReportFail_reported _ platform { ota with err := errOtaMd5Mismatch } s
      .md5Mismatch
    exact ⟨reported.params, reported.sizeFetched, reported.state, reported.msgList⟩

theorem checkFirmware_ok {result : Int × Stored × OtaStruct × ν}
    (returns : checkFirmware platform ota s = .ok result) :
    ∃ md5 md5sum, ota.md5 = some md5 ∧ ota.params.md5sum = some md5sum ∧
      result = compareMd5 platform { ota with md5 := some (utilsMd5FinishHb2Hex md5).2 } md5sum
        (utilsMd5FinishHb2Hex md5).1 s := by
  rw [checkFirmware] at returns
  obtain ⟨md5, isMd5, returns⟩ := bind_ok returns
  obtain ⟨md5sum, isMd5sum, returns⟩ := bind_ok returns
  exact ⟨md5, md5sum, used_ok isMd5, used_ok isMd5sum, (Except.ok.inj returns).symm⟩

theorem iotOtaIoctl_ok {type : CmdType} {bufLen : Nat} {aligned : Bool} {ret : Int} {stored : Stored}
    {s' : ν} (returns : iotOtaIoctl platform ota type bufLen aligned s = .ok (ret, stored, after, s')) :
    Asked ota after := by
  have set : ∀ err, Asked ota { ota with err := err } := fun _ => ⟨rfl, rfl, rfl, rfl⟩
  rw [iotOtaIoctl.eq_def] at returns
  dsimp only at returns
  split at returns
  · cases returns
    exact .refl ota
  · split at returns
    · cases returns
      exact set _
    · split at returns
      · split at returns
        · cases returns
          exact set _
        · cases returns
          exact .refl ota
      · split at returns
        · cases returns
          exact set _
        · cases returns
          exact .refl ota
      · obtain ⟨version, _, returns⟩ := bind_ok returns
        cases returns
        exact .refl ota
      · obtain ⟨md5sum, _, returns⟩ := bind_ok returns
        cases returns
        exact .refl ota
      · split at returns
        · cases returns
          exact set _
        · split at returns
          · cases returns
            exact set _
          · obtain ⟨md5, md5sum, _, _, isResult⟩ := checkFirmware_ok returns
            have asked := @compareMd5_asked _ platform
              { ota with md5 := some (utilsMd5FinishHb2Hex md5).2 } s md5sum
              (utilsMd5FinishHb2Hex md5).1
            rw [← isResult] at asked
            exact ⟨asked.params, asked.sizeFetched, asked.state, asked.msgList⟩

end UIoT.Ota
