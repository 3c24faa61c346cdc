import UIoT.DevModel.Payload
import UIoT.Mqtt.Requests
import UIoT.Utils.Scanf

/-!
# The callbacks of the device model

A message on a topic of the device model is answered by a callback of its own,
which takes what it needs out of the message with `LITE_json_value_of` and calls
the application. Two of them publish a reply to the cloud, whose topic and payload
are first written into buffers; the others tell the application what the cloud
answered.

The application's callbacks that return something are given by the environment,
and a call of one of the others is the result of the function.
-/

set_option autoImplicit false

namespace UIoT.DevModel

open Utils
open Mqtt (CString)

/-! ## Constants -/

/-- `DM_TOPIC_BUF_LEN` -/
abbrev dmTopicBufLen : Nat := 128

/-- `DM_MSG_REPLY_BUF_LEN` -/
abbrev dmMsgReplyBufLen : Nat := 128

/-- `DM_CMD_REPLY_BUF_LEN` -/
abbrev dmCmdReplyBufLen : Nat := 2048

/-- `DM_MQTT_CB_t`, with a number for the callback. -/
structure DMMqttCb where
  upstreamTopicTemplate : List UInt8
  downstreamTopicTemplate : List UInt8
  callback : Nat

/-- `g_dm_mqtt_cb` -/
def gDmMqttCb : DMType → DMMqttCb
  | .propertyRestore =>
      ⟨literal "/$system/%s/%s/tmodel/property/restore",
        literal "/$system/%s/%s/tmodel/property/restore_reply", 0⟩
  | .propertyPost =>
      ⟨literal "/$system/%s/%s/tmodel/property/post",
        literal "/$system/%s/%s/tmodel/property/post_reply", 1⟩
  | .propertySet =>
      ⟨literal "/$system/%s/%s/tmodel/property/set_reply",
        literal "/$system/%s/%s/tmodel/property/set", 2⟩
  | .propertyDesiredGet =>
      ⟨literal "/$system/%s/%s/tmodel/property/desired/get",
        literal "/$system/%s/%s/tmodel/property/desired/get_reply", 3⟩
  | .propertyDesiredDelete =>
      ⟨literal "/$system/%s/%s/tmodel/property/desired/delete",
        literal "/$system/%s/%s/tmodel/property/desired/delete_reply", 4⟩
  | .eventPost =>
      ⟨literal "/$system/%s/%s/tmodel/event/post",
        literal "/$system/%s/%s/tmodel/event/post_reply", 5⟩
  | .command =>
      ⟨literal "/$system/%s/%s/tmodel/command_reply/%s",
        literal "/$system/%s/%s/tmodel/command", 6⟩

/-! ## The handle -/

/-- `DM_MQTT_Struct_t`. Of a callback only its presence matters, and a type that
has one has the topics of the table. -/
structure DMMqttStruct where
  mqtt : Mqtt.Client
  productSn : CString
  deviceSn : CString
  callbacks : DMType → Bool
  upstreamTopicTemplates : DMType → List UInt8
  downstreamTopicTemplates : DMType → List UInt8
  registered : ∀ type, callbacks type →
    upstreamTopicTemplates type = (gDmMqttCb type).upstreamTopicTemplate ∧
      downstreamTopicTemplates type = (gDmMqttCb type).downstreamTopicTemplate

/-- `dsc_init` -/
def dscInit (productSn deviceSn : CString) (channel : Mqtt.Client) : DMMqttStruct where
  mqtt := channel
  productSn := productSn
  deviceSn := deviceSn
  callbacks := fun _ => false
  upstreamTopicTemplates := fun _ => []
  downstreamTopicTemplates := fun _ => []
  registered := fun _ isSet => nomatch isSet

/-! ## Formatted text -/

/-- The text of a format whose conversions are `%s`. -/
def fillIn : List UInt8 → List CString → List UInt8
  | percent :: conversion :: format, argument :: arguments =>
      if percent = 0x25 ∧ conversion = 0x73 then argument ++ fillIn format arguments
      else percent :: fillIn (conversion :: format) (argument :: arguments)
  | format, _ => format
termination_by structural format => format

/-- `_dm_mqtt_gen_topic_name` -/
def dmMqttGenTopicName (buf : Buffer) (bufLen : Nat) (topicTemplate : List UInt8)
    (productSn deviceSn : CString) : Int × Buffer :=
  let (ret, buf) := halSnprintf buf 0 bufLen (fillIn topicTemplate [productSn, deviceSn])
  (if ret < 0 ∨ bufLen ≤ ret then failureRet else successRet, buf)

/-- The format of the reply to a `PROPERTY_SET` message. -/
def setReply (requestId : CString) (cbRet : Int32) : List UInt8 :=
  literal "\x7b\"RequestID\": \"" ++ requestId ++ literal "\", \"RetCode\": " ++
    formatInt cbRet.toInt ++ literal "\x7d"

/-- The format of the reply to a command. -/
def commandReply (requestId : CString) (cbRet : Int32) (identifier output : CString) : List UInt8 :=
  literal "\x7b\"RequestID\": \"" ++ requestId ++ literal "\", \"RetCode\": " ++
    formatInt cbRet.toInt ++ literal ", \"Identifier\": \"" ++ identifier ++
    literal "\", \"Output\": \x7b" ++ output ++ literal "\x7d\x7d"

/-! ## Registration -/

/-- What the callbacks get from outside: memory, what the application answers, and
what `IOT_MQTT_Publish` and `IOT_MQTT_Subscribe` get. The callback for a command is
given what the buffer for its output holds. -/
structure Env where
  malloc : Malloc
  library : CLibrary
  propertySet : CString → CString → Int32
  command : CString → CString → CString → CString → Int32 × CString
  mqtt : Mqtt.Env

/-- A callback and its topics are entered in the handle. -/
def DMMqttStruct.enter (handle : DMMqttStruct) (dmType : DMType) : DMMqttStruct :=
  { handle with
    callbacks := fun type => if type = dmType then true else handle.callbacks type
    upstreamTopicTemplates := fun type =>
      if type = dmType then (gDmMqttCb dmType).upstreamTopicTemplate
      else handle.upstreamTopicTemplates type
    downstreamTopicTemplates := fun type =>
      if type = dmType then (gDmMqttCb dmType).downstreamTopicTemplate
      else handle.downstreamTopicTemplates type
    registered := by
      intro type isSet
      by_cases same : type = dmType
      · subst same
        simp only [if_true, and_self]
      · rw [if_neg same] at isSet
        simp only [if_neg same]
        exact handle.registered type isSet }

/-- `_dsc_mqtt_register_callback`: `topic` is what the array of that name holds, and
`context` stands for the pointer to the handle. -/
def dscMqttRegisterCallback (handle : DMMqttStruct) (dmType : DMType) (callback : Bool)
    (topic : Buffer) (context : Nat) (env : Env) : Int × DMMqttStruct × List Mqtt.Output :=
  if ¬callback then (failureRet, handle, [])
  else
    let handle := handle.enter dmType
    let (ret, topic) := dmMqttGenTopicName topic dmTopicBufLen
      (handle.downstreamTopicTemplates dmType) handle.productSn handle.deviceSn
    if ret < 0 then (failureRet, handle, [])
    else
      let subParams : Mqtt.SubscribeParams :=
        { qos := .qos1, onMessageHandler := some (gDmMqttCb dmType).callback, userData := context }
      let subscribed := Mqtt.uiotMqttSubscribe handle.mqtt topic.text subParams env.mqtt
      (if subscribed.ret < 0 then failureRet else successRet,
        { handle with mqtt := subscribed.client }, subscribed.outputs)

/-! ## What the cloud answered -/

/-- `LITE_json_value_of`, whose result is allocated. -/
def valueOf (malloc : Malloc) (alloc : Nat) (key : String) (msg : CString) : Option CString :=
  (liteJsonValueOf (literal key) msg).bind fun value => (malloc alloc).map fun _ => value

/-- A call of a callback of the application. -/
structure ReplyCall where
  requestId : CString
  retCode : Int
  content : Option CString
  deriving DecidableEq, Repr

/-- `_dm_mqtt_common_reply_cb` -/
def dmMqttCommonReplyCb (message : Mqtt.Message) (env : Env) : Option ReplyCall := do
  let _ ← env.malloc 0
  let msg := Mqtt.cString message.payload
  let retCodeChar ← valueOf env.malloc 1 "RetCode" msg
  let retCode ← liteGetInt8 env.library retCodeChar
  let requestId ← valueOf env.malloc 2 "RequestID" msg
  return { requestId, retCode := retCode.toInt, content := none }

/-- The body of the callbacks that hand over some content as well. -/
def contentReplyCb (key : String) (message : Mqtt.Message) (env : Env) : Option ReplyCall := do
  let _ ← env.malloc 0
  let msg := Mqtt.cString message.payload
  let retCodeChar ← valueOf env.malloc 1 "RetCode" msg
  let retCode ← liteGetInt8 env.library retCodeChar
  let requestId ← valueOf env.malloc 2 "RequestID" msg
  let content ← valueOf env.malloc 3 key msg
  return { requestId, retCode := retCode.toInt, content := some content }

variable (handle : DMMqttStruct) (message : Mqtt.Message) (env : Env)

/-- `dm_mqtt_property_restore_cb` -/
def dmMqttPropertyRestoreCb : Option ReplyCall :=
  if ¬handle.callbacks .propertyRestore then none else contentReplyCb "Property" message env

/-- `dm_mqtt_property_post_cb` -/
def dmMqttPropertyPostCb : Option ReplyCall :=
  if ¬handle.callbacks .propertyPost then none else dmMqttCommonReplyCb message env

/-- `dm_mqtt_property_desired_get_cb` -/
def dmMqttPropertyDesiredGetCb : Option ReplyCall :=
  if ¬handle.callbacks .propertyDesiredGet then none else contentReplyCb "Desired" message env

/-- `dm_mqtt_property_desired_delete_cb` -/
def dmMqttPropertyDesiredDeleteCb : Option ReplyCall :=
  if ¬handle.callbacks .propertyDesiredDelete then none else dmMqttCommonReplyCb message env

/-- `dm_mqtt_event_post_cb` -/
def dmMqttEventPostCb : Option ReplyCall :=
  if ¬handle.callbacks .eventPost then none else dmMqttCommonReplyCb message env

/-! ## What is replied to the cloud -/

/-- A call of `IOT_MQTT_Publish` and its result. -/
structure Publication where
  topic : CString
  payload : CString
  result : Mqtt.Result

/-- `_dm_mqtt_publish` -/
def dmMqttPublish (topicName : CString) (qos : Nat) (msg : CString) : Publication where
  topic := topicName
  payload := msg
  result :=
    let pubParams : Mqtt.PublishParams :=
      { qos := if qos = 0 then .qos0 else .qos1, retained := 0, id := 0, payload := some msg }
    Mqtt.uiotMqttPublish handle.mqtt topicName pubParams env.mqtt

/-- The part of `dm_mqtt_property_set_cb` behind the callback of the application. -/
def replyToPropertySet (requestId : CString) (cbRet : Int32) : Option Publication := do
  let msgReply ← env.malloc 3
  let topic ← env.malloc 4
  let (ret, topic) := dmMqttGenTopicName topic dmTopicBufLen
    (handle.upstreamTopicTemplates .propertySet) handle.productSn handle.deviceSn
  if ret ≠ successRet then none
  else
    let (ret, msgReply) := halSnprintf msgReply 0 dmMsgReplyBufLen (setReply requestId cbRet)
    if ret < 0 ∨ dmMsgReplyBufLen ≤ ret then none
    else some (dmMqttPublish handle env topic.text 1 msgReply.text)

/-- `dm_mqtt_property_set_cb` -/
def dmMqttPropertySetCb : Option Publication := do
  if ¬handle.callbacks .propertySet then none
  else
    let _ ← env.malloc 0
    let msg := Mqtt.cString message.payload
    let requestId ← valueOf env.malloc 1 "RequestID" msg
    let property ← valueOf env.malloc 2 "Property" msg
    replyToPropertySet handle env requestId (env.propertySet requestId property)

/-- The part of `dm_mqtt_command_cb` behind the callback of the application. Its
tests let a text pass that has the length of the buffer, without room for the
terminator. -/
def replyToCommand (requestId identifier : CString) (cbRet : Int32) (output : CString) :
    Option Publication := do
  let cmdReply ← env.malloc 5
  let topic ← env.malloc 6
  let (ret, topic) := halSnprintf topic 0 dmTopicBufLen
    (fillIn (handle.upstreamTopicTemplates .command) [handle.productSn, handle.deviceSn, requestId])
  if ret < 0 ∨ dmTopicBufLen < ret then none
  else
    let (ret, cmdReply) := halSnprintf cmdReply 0 dmCmdReplyBufLen
      (commandReply requestId cbRet identifier output)
    if ret < 0 ∨ dmCmdReplyBufLen < ret then none
    else some (dmMqttPublish handle env topic.text 1 cmdReply.text)

/-- `dm_mqtt_command_cb` -/
def dmMqttCommandCb : Option Publication := do
  if ¬handle.callbacks .command then none
  else
    let _ ← env.malloc 0
    let msg := Mqtt.cString message.payload
    let requestId ← valueOf env.malloc 1 "RequestID" msg
    let identifier ← valueOf env.malloc 2 "Identifier" msg
    let input ← valueOf env.malloc 3 "Input" msg
    let output ← env.malloc 4
    let (cbRet, output) := env.command requestId identifier input output.text
    replyToCommand handle env requestId identifier cbRet output

end UIoT.DevModel
