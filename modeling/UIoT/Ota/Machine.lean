import UIoT.Lib.Runs
import UIoT.Ota.Client

/-!
# Downloads and messages

A download yields to MQTT after each piece, and a message that comes then enters
the callback again, which may start another download. So the device holds a stack
of downloads, the last one started first, and what runs now: the yield of the top
download, or of the application where there is none, the callback, the loop of the
top download, or what follows its return. An input delivers a message, ends a
yield, or lets what runs go on to the next of these points.

A call that has not returned within the turns of an input leaves the device as it
is. After a fault there is nothing more to say of it.
-/

set_option autoImplicit false

namespace UIoT.Ota

open Utils

abbrev httpOtaBuffLen : Nat := 4100
abbrev httpOtaRangeLen : UInt32 := 4096

/-- The variables of `IOT_OTA_fw_download`. Two of them are no variables of the
code: the update message behind the call, of which the application's own calls
have none, and the pieces written. -/
structure Download where
  fileSize : Int
  totalLength : Int
  bufferRead : List UInt8
  message : Option (List UInt8)
  pieces : List (UInt32 × List UInt8)
  deriving DecidableEq, Repr

def newDownload (fileSize : Int) (message : Option (List UInt8)) : Download where
  fileSize := fileSize
  totalLength := 0
  bufferRead := List.replicate httpOtaBuffLen 0
  message := message
  pieces := []

/-- What runs now. -/
inductive Control where
  /-- The yield of the top download, or of the application. -/
  | waiting
  | received (msg : List UInt8)
  | fetching
  /-- `IOT_OTA_FetchYield` has returned to the loop. -/
  | fetched (length : Int)
  | returned (download : Download) (ret : Int)
  | faulted (fault : Fault)
  deriving DecidableEq, Repr

structure Device (ν : Type) where
  ota : OtaStruct
  world : ν
  downloads : List Download
  control : Control
  deriving DecidableEq, Repr

/-- What is told of the queue: an update message is put behind the others, and the
first one is handed to the callback. -/
inductive Event where
  | queued (msg : List UInt8)
  | handled (msg : List UInt8)
  deriving DecidableEq, Repr

inductive Input where
  | deliver (payload : List UInt8)
  | yieldEnds
  | proceed (turns : Nat)
  deriving DecidableEq, Repr

variable {ν : Type} (platform : Platform ν)

/-! ## The download -/

/-- The exit of `IOT_OTA_fw_download`. -/
def endDownload (download : Download) (ret : Int) (others : List Download) (ota : OtaStruct) (s : ν) :
    Outcome (Device ν) := do
  let (ota, s) ← iotOtaClear platform ota s
  return ⟨ota, s, others, .returned download ret⟩

/-- `IOT_OTA_fw_download` up to its loop -/
def startDownload (message : Option (List UInt8)) (others : List Download) (ota : OtaStruct) (s : ν) :
    Outcome (Device ν) := do
  let (_, stored, ota, s) ← iotOtaIoctl platform ota .fileSize 4 true s
  let fileSize : Int :=
    match stored with
    | .number n => n.toInt32.toInt
    | _ => 0
  let download := newDownload fileSize message
  let (opened, s) := platform.downloadInit s ota.params.downloadName
  if ¬opened then endDownload platform download failureRet others ota s
  else
    let (allocated, s) := platform.malloc s
    if ¬allocated then endDownload platform download failureRet others ota s
    else return ⟨ota, s, download :: others, .fetching⟩

/-- The call of `IOT_OTA_FetchYield` in the loop of `IOT_OTA_fw_download` -/
def fetchPiece (turns : Nat) (download : Download) (others : List Download) (ota : OtaStruct) (s : ν) :
    Outcome (Device ν) := do
  let (length, ota, buf, s) ←
    iotOtaFetchYield platform turns ota download.bufferRead httpOtaRangeLen 10 s
  return ⟨ota, s, { download with bufferRead := buf } :: others, .fetched length⟩

/-- The loop of `IOT_OTA_fw_download` from there up to its yield -/
def writePiece (length : Int) (download : Download) (others : List Download) (ota : OtaStruct)
    (s : ν) : Outcome (Device ν) := do
  if (download.bufferRead.length : Int) < length then throw .outside
  else if 0 < length then
    let offset := UInt32.ofInt download.totalLength
    let piece := download.bufferRead.take length.toNat
    let (ret, s) := platform.downloadWrite s offset piece
    if ret = failureRet then endDownload platform download failureRet others ota s
    else if 2 ^ 31 ≤ download.totalLength + length then throw .arithmetic
    else
      let download := { download with
        totalLength := download.totalLength + length
        pieces := download.pieces ++ [(offset, piece)] }
      return ⟨ota, s, download :: others, .waiting⟩
  else endDownload platform download errOtaFetchFailed others ota s

/-- `IOT_OTA_fw_download` behind its loop -/
def finishDownload (download : Download) (others : List Download) (ota : OtaStruct) (s : ν) :
    Outcome (Device ν) := do
  if download.totalLength = download.fileSize then
    let (_, stored, ota, s) ← iotOtaIoctl platform ota .checkFirmware 4 true s
    let firmwareValid ← stored.value
    if firmwareValid = 0 then endDownload platform download ota.err others ota s
    else
      let (_, stored, ota, s) ← iotOtaIoctl platform ota .version 33 true s
      let msgVersion ← stored.string
      let (_, ota, s) := iotOtaReportSuccess platform ota msgVersion s
      let (ended, s) := platform.downloadEnd s
      endDownload platform download (if ended ≠ 0 then failureRet else successRet) others ota s
  else endDownload platform download successRet others ota s

/-! ## The callback -/

/-- `_ota_push_upload_msg` -/
def otaPushUploadMsg (ota : OtaStruct) (msg : List UInt8) (s : ν) :
    Outcome (OtaStruct × List Event × ν) := do
  let (allocated, s) := platform.malloc s
  if ¬allocated then throw .pointer
  else
    let (allocated, s) := platform.malloc s
    if ¬allocated then return (ota, [], s)
    else
      let (allocated, s) := platform.malloc s
      if ¬allocated then return (ota, [], s)
      else return ({ ota with msgList := ota.msgList ++ [msg] }, [.queued msg], s)

/-- `_ota_callback` with a cancel message -/
def cancelUpdate (ota : OtaStruct) (msg : List UInt8) (s : ν) : Outcome (OtaStruct × ν) := do
  match otaLibGetMsgModuleVer msg with
  | none => return (ota, s)
  | some (msgModule, msgVer) =>
      let module ← used ota.params.module
      if msgModule ≠ module then return (ota, s)
      else
        let version ← used ota.params.version
        if msgVer ≠ version then return (ota, s)
        else
          let ofc ← ota.chFetch.ofc
          let (http, s) := httpClientClose platform.toTransport ofc.http s
          return ({ ota with chFetch := .live { ofc with http := http }, state := .disconnected }, s)

/-- `_ota_callback` with an update message, where no download is under way: the
download is started, or the handle is as it is left. -/
def updateFirmware (others : List Download) (ota : OtaStruct) (msg : List UInt8) (s : ν) :
    Outcome (Device ν) := do
  let (ret, params, s) := otaLibGetParams platform msg ota.params s
  let ota := { ota with params := params }
  let left := fun (ota : OtaStruct) (s : ν) => (⟨ota, s, others, .waiting⟩ : Device ν)
  if ret ≠ successRet then return left ota s
  else
    let url ← used ota.params.url
    match ofcInit platform url s with
    | (none, s) => return left { ota with chFetch := .null } s
    | (some ofc, s) =>
        let (ret, ofc, s) ← ofcConnect platform ofc s
        let ota := { ota with chFetch := .live ofc }
        if ret ≠ successRet then return left { ota with state := .disconnected } s
        else startDownload platform (some msg) others { ota with state := .fetching } s

/-- `_ota_callback`, up to the loop of a download that it starts -/
def otaCallback (others : List Download) (ota : OtaStruct) (msg : List UInt8) (s : ν) :
    Outcome (Device ν × List Event) := do
  let left := fun (ota : OtaStruct) (s : ν) => (⟨ota, s, others, .waiting⟩ : Device ν)
  let (allocated, s) := platform.malloc s
  if ¬allocated then return (left ota s, [])
  else
    match otaLibGetMsgType msg with
    | none => return (left ota s, [])
    | some msgMethod =>
        if ota.chFetch = .null ∧ msgMethod = cancelUpdateMethod then return (left ota s, [])
        else if msgMethod = updateFirmwareMethod then
          if ota.state = .fetching then
            let (ota, events, s) ← otaPushUploadMsg platform ota msg s
            return (left ota s, events)
          else
            let device ← updateFirmware platform others ota msg s
            return (device, [])
        else if msgMethod = cancelUpdateMethod then
          let (ota, s) ← cancelUpdate platform ota msg s
          return (left ota s, [])
        else return (left ota s, [])

/-- `_ota_pop_upload_msg`: the callback is entered with the first message. -/
def otaPopUploadMsg (device : Device ν) : Device ν × List Event :=
  match device.ota.msgList with
  | [] => ({ device with control := .waiting }, [])
  | msg :: msgList =>
      ({ device with ota := { device.ota with msgList := msgList }, control := .received msg },
        [.handled msg])

/-- The caller of `IOT_OTA_fw_download` behind the call -/
def callerGoesOn (device : Device ν) (download : Download) (ret : Int) : Device ν × List Event :=
  match download.message with
  | none => ({ device with control := .waiting }, [])
  | some _ =>
      otaPopUploadMsg
        (if ret ≠ successRet then { device with ota := { device.ota with state := .disconnected } }
        else device)

/-! ## Steps -/

/-- The device after a call, which may have faulted or not returned. -/
def Device.settle (device : Device ν) (result : Outcome (Device ν × List Event)) :
    Device ν × List Event :=
  match result with
  | .ok result => result
  | .error .unfinished => (device, [])
  | .error fault => ({ device with control := .faulted fault }, [])

/-- The end of the yield of the top download: the loop is left, or goes on. -/
def yieldEnd (download : Download) (others : List Download) (ota : OtaStruct) (s : ν) :
    Outcome (Device ν) :=
  let (finish, ota) := iotOtaIsFetchFinish ota
  if finish then finishDownload platform download others ota s
  else return ⟨ota, s, download :: others, .fetching⟩

/-- The top download takes its turn. -/
def Device.inLoop (device : Device ν)
    (next : Download → List Download → OtaStruct → ν → Outcome (Device ν)) : Device ν × List Event :=
  match device.downloads with
  | [] => (device, [])
  | download :: others =>
      device.settle ((next download others device.ota device.world).map (·, []))

/-- What runs goes on. -/
def Device.goOn (device : Device ν) (turns : Nat) : Device ν × List Event :=
  match device.control with
  | .received msg =>
      device.settle (otaCallback platform device.downloads device.ota msg device.world)
  | .fetching => device.inLoop (fetchPiece platform turns)
  | .fetched length => device.inLoop (writePiece platform length)
  | .returned download ret => callerGoesOn device download ret
  | .waiting | .faulted _ => (device, [])

def Device.step (device : Device ν) (input : Input) : Device ν × List Event :=
  match input with
  | .deliver payload =>
      if device.control = .waiting then
        ({ device with control := .received (payload.takeWhile (· ≠ 0)) }, [])
      else (device, [])
  | .yieldEnds =>
      if device.control = .waiting then device.inLoop (yieldEnd platform) else (device, [])
  | .proceed turns => device.goOn platform turns

/-- A device whose application waits for messages. -/
def deviceInit (productSn deviceSn : List UInt8) (s : ν) : Device ν where
  ota := otaInit productSn deviceSn
  world := s
  downloads := []
  control := .waiting

/-! ## A platform that plays a script -/

/-- What the server answers to the requests that come, and what of the answers has
not been read. -/
structure Script where
  incoming : List UInt8
  responses : List (List UInt8)
  deriving DecidableEq, Repr

/-- Writes and allocations succeed, and a read delivers what is asked for, as far as
it is there. -/
def scripted : Platform Script where
  read s n :=
    let bytes := s.incoming.take n
    (bytes.length, bytes, { s with incoming := s.incoming.drop n })
  write s bytes :=
    (bytes.length,
      { incoming := s.incoming ++ s.responses.headD [], responses := s.responses.tail })
  connect s _ _ := (.connection, { s with incoming := [] })
  disconnect s _ := { s with incoming := [] }
  tick s := (0, s)
  rtTickFromMillisecond n := n
  usingTls := false
  malloc s := (true, s)
  publish s _ _ _ := (0, s)
  downloadNameSet s _ := (some (literal "download"), s)
  downloadInit s _ := (true, s)
  downloadWrite s _ _ := (successRet, s)
  downloadEnd s := (0, s)
  fetchCallback := none
  missingArguments s := ([], [], s)

/-- An update message for a file. -/
def updateMessage (md5 size : String) : List UInt8 :=
  literal "\x7b\"Method\":\"update_firmware\",\"Payload\":\x7b\"Module\":\"app\",\"Version\":\"2\"," ++
    literal "\"URL\":\"http://host/app.bin\",\"MD5\":\"" ++ literal md5 ++ literal "\",\"Size\":" ++
    literal size ++ literal "\x7d\x7d"

def okResponse (length body : String) : List UInt8 :=
  literal "HTTP/1.1 200 OK\r\nContent-Length: " ++ literal length ++ literal "\r\n\r\n" ++ literal body

/-- A device whose server has these answers. -/
def scriptedDevice (responses : List (List UInt8)) : Device Script :=
  deviceInit (literal "product") (literal "device") ⟨[], responses⟩

/-- The device behind a run. -/
def play (responses : List (List UInt8)) (inputs : List Input) : Device Script :=
  (Runs.run (Device.step scripted) (scriptedDevice responses) inputs).1

end UIoT.Ota
