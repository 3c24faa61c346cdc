import UIoT.Shadow.Document

/-!
# Requests and messages of the shadow client

`uiot_shadow_make_request` appends a request to the list, builds its document
and publishes it. The handlers of the two topics read a message and complete
the requests of the list; the sweep completes those whose timer has expired.
Both run over the whole list with `_traverse_list`.
-/

set_option autoImplicit false

namespace UIoT.Shadow

open Utils Json
open Mqtt (CString)

/-! ## Requests -/

/-- `shadow_add_request_to_list`. The allocations are the first two. -/
def shadowAddRequestToList (shadow : ShadowClient) (params : RequestParams) (env : Env) :
    Int × ShadowClient :=
  if maxAppendingRequestAtAnyGivenTime ≤ shadow.requestList.length then
    (errMaxAppendingRequest, shadow)
  else if ¬env.malloc 0 then (failureRet, shadow)
  else if ¬env.malloc 1 then (failureRet, shadow)
  else
    let request : Request :=
      { issue := shadow.issued + 1
        method := params.method
        userContext := params.userContext
        timer := countdown env.rtTickFromMillisecond (env.tick 0) params.timeoutSec
        callback := params.requestCallback }
    (successRet, { shadow with
      requestList := Mqtt.listRpush shadow.requestList request
      issued := shadow.issued + 1 })

/-- `SHADOW_PUBLISH_SYNC_TEMPLATE` and `SHADOW_PUBLISH_REQUEST_TEMPLATE` -/
def publishTopic (shadow : ShadowClient) (method : Method) : CString :=
  literal "/$system/" ++ shadow.productSn ++ literal "/" ++ shadow.deviceSn ++
    (if method = .get then literal "/shadow/get" else literal "/shadow/upstream")

/-- `uiot_shadow_publish_operation_to_cloud` -/
def uiotShadowPublishOperationToCloud (shadow : ShadowClient) (method : Method) (jsonDoc : CString)
    (env : Env) : Int × ShadowClient × List Output :=
  let topic := publishTopic shadow method
  if Mqtt.maxSizeOfCloudTopic - 1 < topic.length then (failureRet, shadow, [])
  else
    let pubParams : Mqtt.PublishParams :=
      { qos := .qos1, retained := 0, id := 0, payload := some jsonDoc }
    let published := Mqtt.uiotMqttPublish shadow.mqtt topic pubParams env.publish
    let shadow := { shadow with cloudSendMethod := method, mqtt := published.client }
    (if 0 ≤ published.ret then successRet else failureRet, shadow, published.outputs.map .mqtt)

/-- `shadow_common_check_property_match` -/
def shadowCommonCheckPropertyMatch (property : DeviceProperty) (handler : PropertyHandler) : Bool :=
  handler.property.key = property.key

/-- `shadow_common_update_property` with the data that the method gives: the
first registered property with the key takes it. -/
def shadowCommonUpdateProperty (list : List PropertyHandler) (property : DeviceProperty)
    (method : Method) : List PropertyHandler :=
  match list with
  | [] => []
  | handler :: rest =>
      if shadowCommonCheckPropertyMatch property handler then
        match method with
        | .update | .replyControlUpdate | .updateAndResetVer =>
            { handler with property := { handler.property with data := property.data } } :: rest
        | .delete | .replyControlDelete =>
            { handler with property := { handler.property with data := none } } :: rest
        | _ => handler :: rest
      else handler :: shadowCommonUpdateProperty rest property method

/-- The loop of `uiot_shadow_update_property`; `list_find` needs an iterator for
each property. -/
def updatePropertyLoop (method : Method) (malloc : Nat → Bool) :
    List DeviceProperty → Nat → List PropertyHandler → List PropertyHandler
  | [], _, list => list
  | property :: rest, alloc, list =>
      let list := if malloc alloc then shadowCommonUpdateProperty list property method else list
      updatePropertyLoop method malloc rest (alloc + 1) list

/-- `uiot_shadow_update_property` -/
def uiotShadowUpdateProperty (shadow : ShadowClient) (params : RequestParams) (env : Env) :
    Int × ShadowClient :=
  if listed params && params.method ≠ .deleteAll then
    if ¬env.malloc 0 then (errParamInvalid, shadow)
    else
      (successRet, { shadow with
        propertyList :=
          updatePropertyLoop params.method env.malloc params.propertyDeltaList.reverse 1
            shadow.propertyList })
  else if params.method = .deleteAll then
    if shadow.propertyList.isEmpty then (successRet, shadow)
    else if ¬env.malloc 0 then (errParamInvalid, shadow)
    else
      (successRet, { shadow with
        propertyList := shadow.propertyList.map fun handler =>
          { handler with property := { handler.property with data := none } } })
  else (successRet, shadow)

/-- The outcome of a call. The document is what the buffer holds at its end. -/
structure Outcome where
  ret : Int
  shadow : ShadowClient
  outputs : List Output
  jsonDoc : Buffer
  /-- The document handed to the publication, and the publication's code. -/
  published : Option (CString × Int)

/-- `uiot_shadow_make_request` after the request is added. -/
def publishRequest (shadow : ShadowClient) (jsonDoc : Buffer) (sizeOfBuffer : Nat)
    (params : RequestParams) (env : Env) : Outcome :=
  let (ret, jsonDoc) := buildDocument shadow.version jsonDoc sizeOfBuffer params (env.malloc 0)
  if ret ≠ successRet then ⟨ret, shadow, [], jsonDoc, none⟩
  else
    let (ret, shadow, outputs) :=
      uiotShadowPublishOperationToCloud shadow params.method jsonDoc.text env
    let published := some (jsonDoc.text, ret)
    if ret ≠ successRet then ⟨ret, shadow, outputs, jsonDoc, published⟩
    else
      let (ret, shadow) := uiotShadowUpdateProperty shadow params (env.after 1)
      ⟨ret, shadow, outputs, jsonDoc, published⟩

/-- `uiot_shadow_make_request`: the code of `shadow_add_request_to_list` is
overwritten by that of `shadow_json_init`. -/
def uiotShadowMakeRequest (shadow : ShadowClient) (jsonDoc : Buffer) (sizeOfBuffer : Nat)
    (params : RequestParams) (env : Env) : Outcome :=
  let (_, shadow) := shadowAddRequestToList shadow params env
  publishRequest shadow jsonDoc sizeOfBuffer params (env.after 2)

/-! ## Running over the list -/

/-- `_traverse_list`: from the tail to the head, each request is visited once;
a visit calls back and takes the request out, or leaves it. -/
def traverseList (list : List Request) (malloc : Bool) (visit : Request → Option (List Output)) :
    List Request × List Output :=
  if list.isEmpty || !malloc then (list, [])
  else
    (list.filter fun request => (visit request).isNone,
      list.reverse.flatMap fun request => (visit request).getD [])

/-- The callback of a request, if it is not null. -/
def callBack (request : Request) (ack : RequestAck) (document : CString) : List Output :=
  if request.callback.isSome then [.callback request ack document] else []

def methodControl : List UInt8 := literal "control"
def methodReply : List UInt8 := literal "reply"
def methodGetReply : List UInt8 := literal "get_reply"

def isSpace (byte : UInt8) : Bool := byte = 0x20 || (0x09 ≤ byte && byte ≤ 0x0D)

/-- The number that the digits at the start of a text denote. -/
def digitsOf (text : List UInt8) : Option Nat :=
  let digits := text.takeWhile isDigit
  if digits.isEmpty then none
  else some (digits.foldl (fun n digit => 10 * n + (digit.toNat - 0x30)) 0)

/-- `sscanf(text, "%" SCNu32, &number)`: an overflow saturates. -/
def scanUInt32 (text : CString) : Option UInt32 :=
  let saturated := fun (n : Nat) => UInt32.ofNat (min n (2 ^ 32 - 1))
  match text.dropWhile isSpace with
  | [] => none
  | sign :: rest =>
      if sign = minus then (digitsOf rest).map fun n => 0 - saturated n
      else if sign = 0x2B then (digitsOf rest).map saturated
      else (digitsOf (sign :: rest)).map saturated

/-- `parse_version_num` -/
def parseVersionNum (jsonDoc : CString) : Option UInt32 :=
  (liteJsonValueOf (literal "Version") jsonDoc).bind scanUInt32

/-- `parse_shadow_payload_retcode_type` -/
def parseShadowPayloadRetcodeType (jsonDoc : CString) : Option UInt32 :=
  (liteJsonValueOf (literal "Payload.RetCode") jsonDoc).bind scanUInt32

/-- The status of `_handle_request_callback`. -/
def requestStatus (type : List UInt8) (cloudRcvBuf : CString) : RequestAck :=
  if type = methodGetReply then .accepted
  else if type = methodReply ∨ type = methodControl then
    match parseShadowPayloadRetcodeType cloudRcvBuf with
    | some resultCode => if resultCode = 0 then .accepted else .rejected
    | none => .rejected
  else .none

/-- `_handle_request_callback`: whatever the request, it is completed. -/
def handleRequestCallback (type : List UInt8) (cloudRcvBuf : CString) (request : Request) :
    Option (List Output) :=
  some (callBack request (requestStatus type cloudRcvBuf) cloudRcvBuf)

/-- `_handle_expired_request_callback` -/
def handleExpiredRequestCallback (now : Request → UInt32) (cloudRcvBuf : CString)
    (request : Request) : Option (List Output) :=
  if hasExpired request.timer (now request) then some (callBack request .timeout cloudRcvBuf)
  else none

/-- `_handle_expired_request`: the clock is read for each request. -/
def handleExpiredRequest (shadow : ShadowClient) (now : Request → UInt32) (malloc : Bool) :
    ShadowClient × List Output :=
  let (list, outputs) :=
    traverseList shadow.requestList malloc (handleExpiredRequestCallback now shadow.cloudRcvBuf)
  ({ shadow with requestList := list }, outputs)

/-- `_traverse_list` with `_handle_request_callback`. -/
def completeRequests (shadow : ShadowClient) (type : List UInt8) (malloc : Bool) :
    ShadowClient × List Output :=
  let (list, outputs) :=
    traverseList shadow.requestList malloc (handleRequestCallback type shadow.cloudRcvBuf)
  ({ shadow with requestList := list }, outputs)

/-! ## Messages -/

/-- `find_value_if_key_match` -/
def findValueIfKeyMatch (jsonDoc : CString) (property : DeviceProperty) : Option CString :=
  match liteJsonValueOf property.key jsonDoc with
  | none => none
  | some value =>
      if (literal "null").isPrefixOf value || (literal "NULL").isPrefixOf value then none
      else some value

/-- The loop of `_handle_delta`: the callbacks called, and the properties they
add to the answer. -/
def deltaLoop (deltaStr : CString) (env : Env) :
    List PropertyHandler → List Output × List DeviceProperty
  | [] => ([], [])
  | handler :: rest =>
      let (outputs, properties) := deltaLoop deltaStr env rest
      match findValueIfKeyMatch deltaStr handler.property with
      | none => (outputs, properties)
      | some value =>
          if handler.callback.isSome then
            (.property handler value :: outputs, env.answer handler value ++ properties)
          else (outputs, properties)

/-- The method of the answer to the desired values of the cloud. -/
def answerMethod : Method → Method
  | .get | .update | .updateAndResetVer | .replyControlUpdate => .replyControlUpdate
  | .delete | .deleteAll | .replyControlDelete => .replyControlDelete

/-- `_handle_delta`. The parameters of the answer take the first two
allocations, the iterator the third. When the parameters could not be
allocated the answer is not made. -/
def handleDelta (shadow : ShadowClient) (deltaStr : CString) (env : Env) :
    ShadowClient × List Output :=
  let allocated := env.malloc 0 && env.malloc 1
  if !shadow.propertyList.isEmpty && !env.malloc 2 then (shadow, [])
  else
    let (outputs, properties) := deltaLoop deltaStr env shadow.propertyList.reverse
    if allocated then
      let params : RequestParams :=
        { method := answerMethod shadow.cloudSendMethod
          propertyDeltaList := properties
          timeoutSec := maxWaitTimeSec
          requestCallback := none
          userContext := 0 }
      let jsonDoc : Buffer := { text := [], reach := 0, wrapped := false }
      let made := uiotShadowMakeRequest shadow jsonDoc cloudIotJsonRxBufLen params (env.after 3)
      (made.shadow, outputs ++ made.outputs)
    else (shadow, outputs)

/-- The message as a C string in `cloud_rcv_buf`. -/
def received (payload : List UInt8) : CString :=
  Mqtt.cString (payload.take (cloudIotJsonRxBufLen - 1))

/-- `_handle_delta` is called for a desired part with a member. -/
def handleDesired (shadow : ShadowClient) (desiredStr : Option CString) (env : Env) :
    ShadowClient × List Output :=
  match desiredStr with
  | none => (shadow, [])
  | some desiredStr =>
      if 2 < desiredStr.length then handleDelta shadow desiredStr env else (shadow, [])

/-- `topic_request_result_handler`. The iterator of the traversal is the first
allocation. -/
def topicRequestResultHandler (shadow : ShadowClient) (message : Mqtt.Message) (env : Env) :
    ShadowClient × List Output :=
  if message.topic.isEmpty then (shadow, [])
  else if cloudIotJsonRxBufLen < message.payload.length then (shadow, [])
  else
    let cloudRcvBuf := received message.payload
    let shadow := { shadow with cloudRcvBuf := cloudRcvBuf }
    match liteJsonValueOf (literal "Method") cloudRcvBuf with
    | none => (shadow, [])
    | some methodStr =>
        match parseVersionNum cloudRcvBuf with
        | none => (shadow, [])
        | some versionNum =>
            let shadow := { shadow with version := versionNum }
            if methodStr = methodReply then
              match parseShadowPayloadRetcodeType cloudRcvBuf with
              | none => (shadow, [])
              | some retCode =>
                  if retCode ≠ 0 then (shadow, [])
                  else completeRequests shadow methodStr (env.malloc 0)
            else if methodStr = methodControl then
              let desiredStr := liteJsonValueOf (literal "Payload.State.Desired") cloudRcvBuf
              let (shadow, outputs) := handleDesired shadow desiredStr (env.after 1)
              let (shadow, completions) := completeRequests shadow methodStr (env.malloc 0)
              (shadow, outputs ++ completions)
            else (shadow, [])

/-- `topic_sync_handler` -/
def topicSyncHandler (shadow : ShadowClient) (message : Mqtt.Message) (env : Env) :
    ShadowClient × List Output :=
  if message.topic.isEmpty then (shadow, [])
  else if cloudIotJsonRxBufLen < message.payload.length then (shadow, [])
  else
    let cloudRcvBuf := received message.payload
    let shadow := { shadow with cloudRcvBuf := cloudRcvBuf }
    match parseVersionNum cloudRcvBuf with
    | none => (shadow, [])
    | some versionNum =>
        let shadow := { shadow with version := versionNum }
        let desiredStr := liteJsonValueOf (literal "State.Desired") cloudRcvBuf
        let (shadow, outputs) := handleDesired shadow desiredStr (env.after 1)
        let (shadow, completions) := completeRequests shadow methodGetReply (env.malloc 0)
        (shadow, outputs ++ completions)

/-! ## The machine -/

/-- What happens to a shadow client. -/
inductive Input where
  /-- A request of the application is made. -/
  | makeRequest (jsonDoc : Buffer) (sizeOfBuffer : Nat) (params : RequestParams) (env : Env)
  /-- `_handle_expired_request` -/
  | expire (now : Request → UInt32) (malloc : Bool)
  /-- A message on the downstream topic. -/
  | result (message : Mqtt.Message) (env : Env)
  /-- A message on the topic of the answers to a synchronisation. -/
  | sync (message : Mqtt.Message) (env : Env)
  /-- Properties are registered or removed. -/
  | register (propertyList : List PropertyHandler)
  /-- The MQTT client does something of its own. -/
  | mqtt (client : Mqtt.Client)

def step (shadow : ShadowClient) : Input → ShadowClient × List Output
  | .makeRequest jsonDoc sizeOfBuffer params env =>
      let made := uiotShadowMakeRequest shadow jsonDoc sizeOfBuffer params env
      (made.shadow, made.outputs)
  | .expire now malloc => handleExpiredRequest shadow now malloc
  | .result message env => topicRequestResultHandler shadow message env
  | .sync message env => topicSyncHandler shadow message env
  | .register propertyList => ({ shadow with propertyList := propertyList }, [])
  | .mqtt client => ({ shadow with mqtt := client }, [])

/-- `uiot_shadow_init` when it succeeds; the statics are zeroed. -/
def uiotShadowInit (mqtt : Mqtt.Client) (productSn deviceSn : CString) : ShadowClient where
  mqtt := mqtt
  productSn := productSn
  deviceSn := deviceSn
  version := 0
  requestList := []
  propertyList := []
  cloudRcvBuf := []
  cloudSendMethod := .get
  issued := 0

end UIoT.Shadow
