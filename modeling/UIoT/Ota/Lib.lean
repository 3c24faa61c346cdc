import UIoT.Ota.Fetch

/-!
# Messages of the OTA client

Reading the fields of a downstream message and building an upstream one. An
update message sets the fields of the handle one after the other, so that the
first ones are set also where a later one is missing.
-/

set_option autoImplicit false

namespace UIoT.Ota

open Utils

/-! ## Downstream messages -/

/-- `LITE_get_uint32`, which is `sscanf` with `%u`. -/
def liteGetUint32 (src : Cursor) : Option UInt32 :=
  let (negative, digits) := signedDigits src
  let n := digitsValue digits
  if digits = [] then none
  else if 2 ^ 32 ≤ n then some 0xFFFFFFFF
  else some (if negative then -UInt32.ofNat n else UInt32.ofNat n)

example : liteGetUint32 (literal "4097,") = some 4097 := by decide

abbrev typeField : List UInt8 := literal "Method"
abbrev md5Field : List UInt8 := literal "Payload.MD5"
abbrev moduleField : List UInt8 := literal "Payload.Module"
abbrev versionField : List UInt8 := literal "Payload.Version"
abbrev urlField : List UInt8 := literal "Payload.URL"
abbrev sizeField : List UInt8 := literal "Payload.Size"
abbrev updateFirmwareMethod : List UInt8 := literal "update_firmware"
abbrev cancelUpdateMethod : List UInt8 := literal "cancel_update"

/-- `ota_lib_get_msg_type` -/
def otaLibGetMsgType (json : Cursor) : Option (List UInt8) := liteJsonValueOf typeField json

/-- `ota_lib_get_msg_module_ver` -/
def otaLibGetMsgModuleVer (json : Cursor) : Option (List UInt8 × List UInt8) :=
  match liteJsonValueOf moduleField json, liteJsonValueOf versionField json with
  | some module, some ver => some (module, ver)
  | _, _ => none

/-- The fields of the handle that an update message sets. -/
structure Params where
  url : Option (List UInt8)
  module : Option (List UInt8)
  downloadName : Option (List UInt8)
  version : Option (List UInt8)
  md5sum : Option (List UInt8)
  sizeFile : UInt32
  deriving DecidableEq, Repr

variable {ν : Type} (platform : Platform ν)

/-- `ota_lib_get_params`: the code, the fields and the platform. -/
def otaLibGetParams (json : Cursor) (params : Params) (s : ν) : Int × Params × ν :=
  match liteJsonValueOf moduleField json with
  | none => (errOtaGeneralFailure, params, s)
  | some module =>
      let params := { params with module := some module }
      match liteJsonValueOf versionField json with
      | none => (errOtaGeneralFailure, params, s)
      | some version =>
          let params := { params with version := some version }
          match liteJsonValueOf urlField json with
          | none => (errOtaGeneralFailure, params, s)
          | some url =>
              let (downloadName, s) := platform.downloadNameSet s url
              let params := { params with url := some url, downloadName := downloadName }
              match liteJsonValueOf md5Field json with
              | none => (errOtaGeneralFailure, params, s)
              | some md5sum =>
                  let params := { params with md5sum := some md5sum }
                  match (liteJsonValueOf sizeField json).bind liteGetUint32 with
                  | none => (errOtaGeneralFailure, params, s)
                  | some sizeFile => (successRet, { params with sizeFile := sizeFile }, s)

/-! ## Upstream messages -/

/-- `IOT_OTA_UpstreamMsgType` -/
inductive UpstreamMsgType where
  | undefinedError
  | firmwareBurnFailed
  | md5Mismatch
  | downloadTimeout
  | signatureExpired
  | firmwareNotExist
  | none
  | downloading
  | burning
  | success
  | requestFirmware
  | reportVersion
  deriving DecidableEq, Repr

def UpstreamMsgType.code : UpstreamMsgType → Int
  | undefinedError => -6
  | firmwareBurnFailed => -5
  | md5Mismatch => -4
  | downloadTimeout => -3
  | signatureExpired => -2
  | firmwareNotExist => -1
  | none => 0
  | downloading => 1
  | burning => 2
  | success => 3
  | requestFirmware => 4
  | reportVersion => 5

abbrev otaUpstreamMsgBufLen : Nat := 129

/-- `%s`; a null pointer prints as the text that the port has for it. -/
def formatPointer : Option (List UInt8) → List UInt8
  | some text => text
  | none => literal "(NULL)"

/-- The templates with a module and a version. -/
def moduleMsg (start module version : List UInt8) (ending : List UInt8) : List UInt8 :=
  start ++ literal "\"Module\":\"" ++ module ++ literal "\", \"Version\":\"" ++ version ++ ending

/-- `REPORT_PROGRESS_MSG_TEMPLATE` -/
def progressMsg (state : List UInt8) (progress : Int) (module version : List UInt8) : List UInt8 :=
  moduleMsg
    (literal "\x7b\"Method\": \"report_progress\", \"Payload\": \x7b\"State\":\"" ++ state ++
      literal "\", \"Percent\":" ++ formatInt progress ++ literal ", ")
    module version (literal "\" \x7d\x7d")

/-- The text of `ota_lib_gen_upstream_msg`. A failure is reported with a template
that has two conversions more than there are arguments. -/
def upstreamText (module version : List UInt8) (progress : Int) (reportType : UpstreamMsgType)
    (s : ν) : Option (List UInt8) × ν :=
  match reportType with
  | .downloadTimeout | .firmwareNotExist | .md5Mismatch | .signatureExpired | .firmwareBurnFailed
  | .undefinedError =>
      let (first, second, s) := platform.missingArguments s
      (some (moduleMsg
        (literal "\x7b\"Method\": \"report_fail\", \"Payload\": \x7b\"ErrCode\": " ++
          formatInt reportType.code ++ literal ", ")
        first second (literal "\"\x7d\x7d")), s)
  | .downloading => (some (progressMsg (literal "downloading") progress module version), s)
  | .burning => (some (progressMsg (literal "burning") progress module version), s)
  | .success =>
      (some (moduleMsg (literal "\x7b\"Method\": \"report_success\", \"Payload\":\x7b")
        module version (literal "\"\x7d\x7d")), s)
  | .requestFirmware =>
      (some (moduleMsg (literal "\x7b\"Method\": \"request_firmware\", \"Payload\":\x7b")
        module version (literal "\"\x7d\x7d")), s)
  | .reportVersion =>
      (some (moduleMsg (literal "\x7b\"Method\": \"report_version\", \"Payload\":\x7b")
        module version (literal "\"\x7d\x7d")), s)
  | .none => (none, s)

/-- `ota_lib_gen_upstream_msg`: the code, the message in a buffer of `bufLen` bytes
and the platform. -/
def otaLibGenUpstreamMsg (bufLen : Nat) (module version : List UInt8) (progress : Int)
    (reportType : UpstreamMsgType) (s : ν) : Int × List UInt8 × ν :=
  match upstreamText platform module version progress reportType s with
  | (none, s) => (errOtaGeneralFailure, [], s)
  | (some text, s) =>
      (if bufLen ≤ text.length then errOtaStrTooLong else successRet, text.take (bufLen - 1), s)

end UIoT.Ota
