import UIoT.Shadow.Client

/-!
# The document of a request

`shadow_json_init`, `shadow_json_set_content` and `shadow_json_finalize` write
the JSON text of a request into a buffer, one piece after the other. The size
left for a property is computed twice, by the caller and by `put_json_node`,
whose return code is dropped.
-/

set_option autoImplicit false

namespace UIoT.Shadow

open Utils Json
open Mqtt (CString)

/-! ## One property -/

/-- The text of a property's value, with the comma behind it. -/
def valueText : Option PropertyData → List UInt8
  | none => literal "null,"
  | some (.int32 value) => formatInt value.toInt ++ [comma]
  | some (.int16 value) => formatInt value.toInt ++ [comma]
  | some (.int8 value) => formatInt value.toInt ++ [comma]
  | some (.uint32 value) => formatNat value.toNat ++ [comma]
  | some (.uint16 value) => formatNat value.toNat ++ [comma]
  | some (.uint8 value) => formatNat value.toNat ++ [comma]
  | some (.float value) => formatFloating value ++ [comma]
  | some (.double value) => formatFloating value ++ [comma]
  | some (.bool value) => formatNat (if value then 1 else 0) ++ [comma]
  | some (.string value) => quote :: value ++ [quote, comma]
  | some (.object value) => value ++ [comma]

/-- `"key":` -/
def keyText (key : CString) : List UInt8 := quote :: key ++ [quote, colon]

/-- `put_json_node` -/
def putJsonNode (jsonBuffer : Buffer) (sizeOfBuffer : Nat) (key : CString)
    (data : Option PropertyData) : Int × Buffer :=
  let (remainSize, jsonBuffer) := sizeLeft sizeOfBuffer jsonBuffer
  if remainSize ≤ 1 then (errJsonBufferTooSmall, jsonBuffer)
  else
    let (retOfSnprintf, jsonBuffer) :=
      snprintf jsonBuffer jsonBuffer.text.length remainSize (keyText key)
    let ret := checkSnprintfReturn retOfSnprintf remainSize
    if ret ≠ successRet then (ret, jsonBuffer)
    else
      let (remainSize, jsonBuffer) := sizeLeft sizeOfBuffer jsonBuffer
      if remainSize ≤ 1 then (errJsonBufferTooSmall, jsonBuffer)
      else
        let (retOfSnprintf, jsonBuffer) :=
          snprintf jsonBuffer jsonBuffer.text.length remainSize (valueText data)
        (checkSnprintfReturn retOfSnprintf remainSize, jsonBuffer)

/-! ## The three steps -/

def methodGet : List UInt8 := literal "get"
def methodUpdate : List UInt8 := literal "update"
def methodDelete : List UInt8 := literal "delete"

/-- The text `{"Method":"` with the method's name behind it. -/
def methodText (name : List UInt8) : List UInt8 := literal "\x7b\"Method\":\"" ++ name

/-- The text that `shadow_json_init` writes. -/
def openingText : Method → Bool → List UInt8
  | .get, _ => methodText methodGet ++ literal "\""
  | .update, _ => methodText methodUpdate ++ literal "\",\"State\":\x7b\"Reported\":\x7b"
  | .updateAndResetVer, _ => methodText methodUpdate ++ literal "\",\"State\":\x7b\"Reported\":\x7b"
  | .replyControlUpdate, true =>
      methodText methodUpdate ++ literal "\",\"State\":\x7b\"Reported\":\x7b"
  | .replyControlUpdate, false => methodText methodUpdate ++ literal "\",\"State\":\x7b"
  | .delete, true => methodText methodDelete ++ literal "\",\"State\":\x7b\"Reported\":\x7b"
  | .delete, false => methodText methodDelete ++ literal "\",\"State\":\x7b"
  | .replyControlDelete, true =>
      methodText methodDelete ++ literal "\",\"State\":\x7b\"Reported\":\x7b"
  | .replyControlDelete, false => methodText methodDelete ++ literal "\",\"State\":\x7b"
  | .deleteAll, _ => methodText methodDelete ++ literal "\",\"State\":\x7b\"Reported\":"

/-- Whether the list of a request holds a property. -/
def listed (params : RequestParams) : Bool := !params.propertyDeltaList.isEmpty

/-- `shadow_json_init`: what it writes is not checked. -/
def shadowJsonInit (jsonDoc : Buffer) (sizeOfBuffer : Nat) (params : RequestParams) :
    Int × Buffer :=
  (successRet, (snprintf jsonDoc 0 sizeOfBuffer (openingText params.method (listed params))).2)

/-- The property that `shadow_json_set_content` writes for one of the list: a
deletion writes null. -/
def reportedData (method : Method) (property : DeviceProperty) : Option PropertyData :=
  match method with
  | .delete | .replyControlDelete => none
  | _ => property.data

/-- The loop of `shadow_json_set_content` over the properties that are left. The
return code of `put_json_node` is dropped. -/
def setContentLoop (sizeOfBuffer : Nat) (method : Method) :
    List DeviceProperty → Nat → Buffer → Buffer
  | [], _, jsonDoc => jsonDoc
  | property :: rest, remainSize, jsonDoc =>
      let (_, jsonDoc) := putJsonNode jsonDoc remainSize property.key (reportedData method property)
      let (remainSize, jsonDoc) := sizeLeft sizeOfBuffer jsonDoc
      setContentLoop sizeOfBuffer method rest remainSize jsonDoc

/-- `shadow_json_set_content`: the iterator starts at the tail of the list. -/
def shadowJsonSetContent (jsonDoc : Buffer) (sizeOfBuffer : Nat) (params : RequestParams)
    (malloc : Bool) : Int × Buffer :=
  let (remainSize, jsonDoc) := sizeLeft sizeOfBuffer jsonDoc
  if params.method = .get then (successRet, jsonDoc)
  else if params.method = .deleteAll then
    let (retOfSnprintf, jsonDoc) :=
      snprintf jsonDoc jsonDoc.text.length remainSize (literal "null")
    (checkSnprintfReturn retOfSnprintf remainSize, jsonDoc)
  else if listed params then
    if ¬malloc then (errParamInvalid, jsonDoc)
    else
      (successRet,
        setContentLoop sizeOfBuffer params.method params.propertyDeltaList.reverse remainSize jsonDoc)
  else (successRet, jsonDoc)

/-- How many bytes of the text `shadow_json_finalize` overwrites: it takes the
last one for a comma. -/
def overwritten : Method → Bool → Nat
  | .get, _ => 0
  | .deleteAll, _ => 0
  | .replyControlUpdate, false => 0
  | .replyControlDelete, false => 0
  | _, _ => 1

/-- The version as `%d` prints it. -/
def versionText (version : UInt32) : List UInt8 := formatInt version.toInt32.toInt

/-- The text that `shadow_json_finalize` writes. -/
def closingText (version : UInt32) : Method → Bool → List UInt8
  | .get, _ => literal "\x7d"
  | .deleteAll, _ => literal "\x7d,\"Version\":" ++ versionText version ++ literal "\x7d"
  | .updateAndResetVer, _ => literal "\x7d\x7d,\"Version\":-1\x7d"
  | .replyControlUpdate, true =>
      literal "\x7d,\"Desired\":null\x7d,\"Version\":" ++ versionText version ++ literal "\x7d"
  | .replyControlDelete, true =>
      literal "\x7d,\"Desired\":null\x7d,\"Version\":" ++ versionText version ++ literal "\x7d"
  | .replyControlUpdate, false =>
      literal "\"Desired\":null\x7d,\"Version\":" ++ versionText version ++ literal "\x7d"
  | .replyControlDelete, false =>
      literal "\"Desired\":null\x7d,\"Version\":" ++ versionText version ++ literal "\x7d"
  | .update, _ => literal "\x7d\x7d,\"Version\":" ++ versionText version ++ literal "\x7d"
  | .delete, _ => literal "\x7d\x7d,\"Version\":" ++ versionText version ++ literal "\x7d"

/-- `shadow_json_finalize` -/
def shadowJsonFinalize (version : UInt32) (jsonDoc : Buffer) (sizeOfBuffer : Nat)
    (params : RequestParams) : Int × Buffer :=
  let (remainSize, jsonDoc) := sizeLeft sizeOfBuffer jsonDoc
  if remainSize ≤ 1 then (errJsonBufferTooSmall, jsonDoc)
  else
    let offset := jsonDoc.text.length - overwritten params.method (listed params)
    let (retOfSnprintf, jsonDoc) :=
      snprintf jsonDoc offset remainSize (closingText version params.method (listed params))
    (checkSnprintfReturn retOfSnprintf remainSize, jsonDoc)

/-- The three steps in sequence, as `uiot_shadow_make_request` takes them. -/
def buildDocument (version : UInt32) (jsonDoc : Buffer) (sizeOfBuffer : Nat)
    (params : RequestParams) (malloc : Bool) : Int × Buffer :=
  let (ret, jsonDoc) := shadowJsonInit jsonDoc sizeOfBuffer params
  if ret ≠ successRet then (ret, jsonDoc)
  else
    let (ret, jsonDoc) := shadowJsonSetContent jsonDoc sizeOfBuffer params malloc
    if ret ≠ successRet then (ret, jsonDoc)
    else shadowJsonFinalize version jsonDoc sizeOfBuffer params

end UIoT.Shadow
