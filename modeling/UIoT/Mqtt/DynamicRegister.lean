import UIoT.Mqtt.Recipients
import UIoT.Utils.MemberLookup
import UIoT.Utils.Scanf

/-!
# How a device gets its secret

`IOT_MQTT_Dynamic_Register` logs in with the secret of the product, subscribes to
the reply, asks for the secret of the device and yields until it should have come.
A reply goes to `on_message_callback_get_device_secret`, which hands the secret to
the port.

The payload in the read buffer has no end of its own, so a reply is read together
with what follows it there. Nothing but a message on the topic of the reply reaches
the callback, and the port has in the end the secret of the last reply that grants
one, whatever the read buffer holds behind the replies, and the secret it had when
there is none (`dynamic_register_secret`).
-/

set_option autoImplicit false

namespace UIoT.Mqtt

open Utils (literal liteJsonValueOf liteGetUInt32 CLibrary)
open Json (Document Members Value Number Str Blanks Blank)

/-! ## What the port keeps -/

/-- `IOT_PRODUCT_SN_LEN` -/
abbrev iotProductSnLen : Nat := 16

/-- `IOT_PRODUCT_SECRET_LEN` -/
abbrev iotProductSecretLen : Nat := 16

/-- `IOT_DEVICE_SN_LEN` -/
abbrev iotDeviceSnLen : Nat := 64

/-- `IOT_DEVICE_SECRET_LEN` -/
abbrev iotDeviceSecretLen : Nat := 16

/-- The arrays of the port that name the device. -/
structure DeviceInfo where
  sgProductSn : List UInt8
  sgProductSecret : List UInt8
  sgDeviceSn : List UInt8
  sgDeviceSecret : List UInt8
  deriving DecidableEq, Repr

/-- What a setter of the port does to its array: `memset`, then `strncpy`. -/
def setArray (len : Nat) (array : List UInt8) (value : CString) : Int × List UInt8 :=
  if len < value.length then (failureRet, array)
  else (successRet, value ++ List.replicate (len + 1 - value.length) 0)

/-- What a getter of the port stores in the array of its caller. -/
def getArray (len : Nat) (array : List UInt8) : List UInt8 :=
  cString array ++ List.replicate (len + 1 - (cString array).length) 0

variable (info : DeviceInfo) (value : CString)

/-- `HAL_SetProductSN` -/
def halSetProductSn : Int × DeviceInfo :=
  let (ret, array) := setArray iotProductSnLen info.sgProductSn value
  (ret, { info with sgProductSn := array })

/-- `HAL_SetProductSecret` -/
def halSetProductSecret : Int × DeviceInfo :=
  let (ret, array) := setArray iotProductSecretLen info.sgProductSecret value
  (ret, { info with sgProductSecret := array })

/-- `HAL_SetDeviceSN` -/
def halSetDeviceSn : Int × DeviceInfo :=
  let (ret, array) := setArray iotDeviceSnLen info.sgDeviceSn value
  (ret, { info with sgDeviceSn := array })

/-- `HAL_SetDeviceSecret` -/
def halSetDeviceSecret : Int × DeviceInfo :=
  let (ret, array) := setArray iotDeviceSecretLen info.sgDeviceSecret value
  (ret, { info with sgDeviceSecret := array })

/-- `HAL_GetProductSN` -/
def halGetProductSn : List UInt8 := getArray iotProductSnLen info.sgProductSn

/-- `HAL_GetProductSecret` -/
def halGetProductSecret : List UInt8 := getArray iotProductSecretLen info.sgProductSecret

/-- `HAL_GetDeviceSN` -/
def halGetDeviceSn : List UInt8 := getArray iotDeviceSnLen info.sgDeviceSn

/-- `HAL_GetDeviceSecret` -/
def halGetDeviceSecret : List UInt8 := getArray iotDeviceSecretLen info.sgDeviceSecret

/-! ## The callback -/

/-- `parse_mqtt_payload_retcode_type` -/
def parseMqttPayloadRetcodeType (library : CLibrary) (jsonDoc : CString) : Option UInt32 :=
  (liteJsonValueOf (literal "RetCode") jsonDoc).bind (liteGetUInt32 library)

/-- `parse_mqtt_state_request_id_type` -/
def parseMqttStateRequestIdType (jsonDoc : CString) : Option CString :=
  liteJsonValueOf (literal "RequestID") jsonDoc

/-- `parse_mqtt_state_password_type` -/
def parseMqttStatePasswordType (jsonDoc : CString) : Option CString :=
  liteJsonValueOf (literal "Password") jsonDoc

/-- `on_message_callback_get_device_secret`, with what follows the payload in
memory. -/
def onMessageCallbackGetDeviceSecret (library : CLibrary) (info : DeviceInfo) (message : Message)
    (memory : List UInt8) : DeviceInfo :=
  let payload := cString (message.payload ++ memory)
  match parseMqttPayloadRetcodeType library payload with
  | none => info
  | some retCode =>
      if retCode ≠ 0 then info
      else
        match parseMqttStateRequestIdType payload with
        | none => info
        | some requestId =>
            if requestId ≠ literal "1" then info
            else
              match parseMqttStatePasswordType payload with
              | none => info
              | some password => (halSetDeviceSecret info password).2

/-- The number of the callback. -/
abbrev getDeviceSecret : Nat := 1

/-- What is handed to the callback. -/
def Output.toCallback : Output → Option Message
  | .delivered _ handler _ message => if handler = getDeviceSecret then some message else none
  | _ => none

/-- The callback runs on each message that is handed to it, in their order; `memory`
says what stands behind each of them. -/
def runCallbacks (library : CLibrary) (memory : Nat → List UInt8) :
    Nat → DeviceInfo → List Message → DeviceInfo
  | _, info, [] => info
  | count, info, message :: later =>
      runCallbacks library memory (count + 1)
        (onMessageCallbackGetDeviceSecret library info message (memory count)) later

/-! ## The registration -/

/-- `DYNAMIC_REGISTER_PUB_TEMPLATE`, filled in and cut at the end of its buffer -/
def dynamicRegisterPub (productSn deviceSn : CString) : CString :=
  (literal "/$system/" ++ productSn ++ literal "/" ++ deviceSn ++ literal "/password").take
    (maxSizeOfCloudTopic - 1)

/-- `DYNAMIC_REGISTER_SUB_TEMPLATE`, filled in and cut at the end of its buffer -/
def dynamicRegisterSub (productSn deviceSn : CString) : CString :=
  (literal "/$system/" ++ productSn ++ literal "/" ++ deviceSn ++ literal "/password_reply").take
    (maxSizeOfCloudTopic - 1)

/-- The world during a registration: its memory, the passes of its three yields, what
the other calls meet and what stands behind each message that is handed to the
callback. `deviceSn` is the address that is given as `user_data`. -/
structure RegisterEnv where
  library : CLibrary
  memory : Nat → List UInt8
  malloc : Nat → Bool
  connect : ConnectEnv
  pubName : Bool
  subName : Bool
  subscribe : Env
  deviceSn : Nat
  beforeRequest : List PassEnv
  publish : Env
  afterRequest : List PassEnv
  unsubscribe : Env
  atEnd : List PassEnv
  destroy : Env

section Register

variable {σ : Type} (net : NetworkStack σ)

/-- The calls of a registration on the client that was constructed: what the last
of them that counts returns, the client behind them and what they do. -/
def registerCalls (client : Client) (s : σ) (subName pubName : CString) (world : RegisterEnv) :
    Result :=
  let subscribed := uiotMqttSubscribe client subName ⟨.qos1, some getDeviceSecret, world.deviceSn⟩
    world.subscribe
  if subscribed.ret ≤ 0 then subscribed
  else
    let (first, s) := uiotMqttYield net subscribed.client 200 s world.beforeRequest
    let published := uiotMqttPublish first.client pubName
      ⟨.qos1, 0, 0, some (literal "\x7b\"RequestID\":\"1\"\x7d")⟩ world.publish
    let (second, s) := uiotMqttYield net published.client 5000 s world.afterRequest
    let asked := subscribed.outputs ++ first.outputs ++ published.outputs ++ second.outputs
    if second.ret ≠ successRet then { second with outputs := asked }
    else
      let unsubscribed := uiotMqttUnsubscribe second.client subName world.unsubscribe
      let (last, _) := uiotMqttYield net unsubscribed.client 200 s world.atEnd
      { last with outputs := asked ++ unsubscribed.outputs ++ last.outputs }

/-- The code of `IOT_MQTT_Dynamic_Register` and what it does. -/
def registerSession (params : MqttInitParams) (s : σ) (world : RegisterEnv) : Int × List Output :=
  let (client, connected) := iotMqttConstruct params world.malloc world.connect
  match client with
  | none => (failureRet, connected)
  | some client =>
      if ¬world.pubName ∨ ¬world.subName then
        (failureRet, connected ++ (uiotMqttDisconnect client world.destroy 0).outputs)
      else
        let productSn := params.productSn.getD []
        let deviceSn := params.deviceSn.getD []
        let called := registerCalls net client s (dynamicRegisterSub productSn deviceSn)
          (dynamicRegisterPub productSn deviceSn) world
        (called.ret,
          connected ++ called.outputs ++ (uiotMqttDisconnect called.client world.destroy 0).outputs)

/-- `IOT_MQTT_Dynamic_Register`: its code, what the port has then and what it does. -/
def iotMqttDynamicRegister (params : MqttInitParams) (info : DeviceInfo) (s : σ)
    (world : RegisterEnv) : Int × DeviceInfo × List Output :=
  let (ret, outputs) := registerSession net params s world
  (ret, runCallbacks world.library world.memory 0 info (outputs.filterMap Output.toCallback), outputs)

end Register

/-! ## Replies -/

/-- An object with blanks around it, none of whose names goes on behind one of the
three that are looked for. -/
structure Reply where
  leading : Blanks
  spaced : ∀ blank ∈ leading, blank = Blank.space
  opening : Blanks
  members : Members
  trailing : Blanks
  plain : members.AllStr Utils.Plain
  names : ∀ name ∈ [literal "RetCode", literal "RequestID", literal "Password"],
    members.AllNames (Utils.NoProperPrefix name)

def Reply.document (reply : Reply) : Document :=
  ⟨reply.leading, .object reply.opening reply.members, reply.trailing⟩

/-- A member of the reply. -/
def Reply.Has (reply : Reply) (name : String) (value : Value) : Prop :=
  ∃ after rest, reply.members.find (literal name) = some (value, after, rest)

/-- What a reply grants: it is refused, or for another request, or its secret does not
fit the array of the port, or it has the secret. -/
inductive Reply.Grants (reply : Reply) : Option CString → Prop where
  | refused (retCode : Nat) (isCode : reply.Has "RetCode" (.number (Number.ofInt retCode)))
      (inRange : retCode < 2 ^ 32) (nonzero : retCode ≠ 0) : Grants reply none
  | otherRequest (requestId : Str) (isCode : reply.Has "RetCode" (.number (Number.ofInt 0)))
      (isRequest : reply.Has "RequestID" (.string requestId))
      (other : requestId.bytes ≠ literal "1") : Grants reply none
  | tooLong (requestId password : Str) (isCode : reply.Has "RetCode" (.number (Number.ofInt 0)))
      (isRequest : reply.Has "RequestID" (.string requestId)) (isFirst : requestId.bytes = literal "1")
      (isPassword : reply.Has "Password" (.string password))
      (long : iotDeviceSecretLen < password.bytes.length) : Grants reply none
  | secret (requestId password : Str) (isCode : reply.Has "RetCode" (.number (Number.ofInt 0)))
      (isRequest : reply.Has "RequestID" (.string requestId)) (isFirst : requestId.bytes = literal "1")
      (isPassword : reply.Has "Password" (.string password))
      (short : password.bytes.length ≤ iotDeviceSecretLen) : Grants reply (some password.bytes)

section Callback

variable {reply : Reply} {message : Message} {memory : List UInt8} {info : DeviceInfo}

/-- The text that the callback reads: the reply and what happens to be behind it. -/
theorem callback_text (isPayload : message.payload = reply.document.text) :
    cString (message.payload ++ memory) = reply.leading.text ++
      ((Value.object reply.opening reply.members).text ++ (reply.trailing.text ++ cString memory)) := by
  have clean : ∀ byte ∈ reply.document.text, decide (byte ≠ 0) = true := by
    intro byte among
    refine decide_eq_true fun isZero => ?_
    exact Utils.zero_not_mem_document reply.document (isZero ▸ among)
  rw [isPayload, cString, List.takeWhile_append_of_pos clean]
  simp [Reply.document, Document.text, cString]

/-- A member that the reply has is the one that is found. -/
theorem callback_member {name : String} {value : Value} (has : reply.Has name value)
    (isName : literal name ∈ [literal "RetCode", literal "RequestID", literal "Password"])
    (isPayload : message.payload = reply.document.text) :
    liteJsonValueOf (literal name) (cString (message.payload ++ memory)) =
      some (Utils.scanned value) := by
  obtain ⟨after, rest, found⟩ := has
  have noQuote : ∀ other ∈ [literal "RetCode", literal "RequestID", literal "Password"],
      Json.quote ∉ other ∧ Json.point ∉ other := by decide
  obtain ⟨quoteFree, pointFree⟩ := noQuote _ isName
  rw [callback_text isPayload]
  exact Utils.liteJsonValueOf_member reply.spaced reply.plain (reply.names _ isName) quoteFree
    pointFree found _

theorem callback_retCode {library : CLibrary} {retCode : Nat}
    (isCode : reply.Has "RetCode" (.number (Number.ofInt retCode))) (inRange : retCode < 2 ^ 32)
    (isPayload : message.payload = reply.document.text) :
    parseMqttPayloadRetcodeType library (cString (message.payload ++ memory)) =
      some (UInt32.ofNat retCode) := by
  have isText : Utils.scanned (.number (Number.ofInt retCode)) = (Number.ofInt retCode).text := by
    simp [Utils.scanned, Number.text, Number.ofInt, Json.exponentText]
  have stored : Utils.storeUInt32 library (retCode : Int) = UInt32.ofNat retCode := by
    rw [Utils.storeUInt32, if_pos (by omega), Int.toNat_natCast]
  rw [parseMqttPayloadRetcodeType, callback_member isCode (by decide) isPayload, isText,
    Option.bind_some, liteGetUInt32, Utils.scanU_number, Utils.integerPart_ofInt, Option.map_some,
    stored]

/-- The callback stores the secret that a reply grants. -/
theorem callback_reply {library : CLibrary} {granted : Option CString}
    (grants : reply.Grants granted) (isPayload : message.payload = reply.document.text) :
    onMessageCallbackGetDeviceSecret library info message memory =
      (granted.map fun secret => (halSetDeviceSecret info secret).2).getD info := by
  have succeeded : ¬UInt32.ofNat 0 ≠ 0 := by decide
  rw [onMessageCallbackGetDeviceSecret]
  cases grants with
  | refused retCode isCode inRange nonzero =>
      have failed : UInt32.ofNat retCode ≠ 0 := by
        intro isZero
        have value := congrArg UInt32.toNat isZero
        rw [UInt32.toNat_ofNat_of_lt' inRange] at value
        exact nonzero value
      rw [callback_retCode isCode inRange isPayload]
      simp only [if_pos failed]
      rfl
  | otherRequest requestId isCode isRequest other =>
      rw [callback_retCode isCode (by decide) isPayload, parseMqttStateRequestIdType,
        callback_member isRequest (by decide) isPayload]
      simp only [Utils.scanned, if_neg succeeded]
      exact if_pos other
  | tooLong requestId password isCode isRequest isFirst isPassword long =>
      rw [callback_retCode isCode (by decide) isPayload, parseMqttStateRequestIdType,
        callback_member isRequest (by decide) isPayload, parseMqttStatePasswordType,
        callback_member isPassword (by decide) isPayload]
      simp only [Utils.scanned, isFirst]
      simp [halSetDeviceSecret, setArray, long]
  | secret requestId password isCode isRequest isFirst isPassword short =>
      rw [callback_retCode isCode (by decide) isPayload, parseMqttStateRequestIdType,
        callback_member isRequest (by decide) isPayload, parseMqttStatePasswordType,
        callback_member isPassword (by decide) isPayload]
      simp only [Utils.scanned, isFirst]
      rfl

end Callback

/-! ## The port afterwards -/

/-- The array of a value that was set. -/
theorem getArray_setArray {len : Nat} {array : List UInt8} {value : CString} (noNul : 0 ∉ value)
    (fits : value.length ≤ len) :
    getArray len (setArray len array value).2 =
      value ++ List.replicate (len + 1 - value.length) 0 := by
  have left : len + 1 - value.length = (len - value.length) + 1 := by omega
  have stored : (setArray len array value).2 =
      value ++ 0 :: List.replicate (len - value.length) 0 := by
    rw [setArray, if_neg (Nat.not_lt.mpr fits), left, List.replicate_succ]
  rw [getArray, stored, cString_append_nul noNul]

theorem Reply.Grants.fits {reply : Reply} {secret : CString} (grants : reply.Grants (some secret)) :
    secret.length ≤ iotDeviceSecretLen ∧ 0 ∉ secret := by
  cases grants with
  | secret requestId password isCode isRequest isFirst isPassword short =>
      exact ⟨short, fun isNul => absurd (password.unescaped 0 isNul).1 (by decide)⟩

/-- A secret that fits takes the place of the one that was there. -/
theorem halSetDeviceSecret_again (info : DeviceInfo) (first : CString) {second : CString}
    (fits : second.length ≤ iotDeviceSecretLen) :
    (halSetDeviceSecret (halSetDeviceSecret info first).2 second).2 =
      (halSetDeviceSecret info second).2 := by
  have set : ∀ array, setArray iotDeviceSecretLen array second =
      (successRet, second ++ List.replicate (iotDeviceSecretLen + 1 - second.length) 0) :=
    fun array => if_neg (Nat.not_lt.mpr fits)
  simp only [halSetDeviceSecret, set]

/-- Each message is a reply that grants a secret or none. -/
abbrev AreReplies (messages : List Message) (replies : List (Reply × Option CString)) : Prop :=
  List.Forall₂ (fun message reply =>
    message.payload = reply.1.document.text ∧ reply.1.Grants reply.2) messages replies

/-- The last secret that the replies grant. -/
def lastGranted (replies : List (Reply × Option CString)) : Option CString :=
  (replies.filterMap Prod.snd).getLast?

section Replies

variable {messages : List Message} {replies : List (Reply × Option CString)}

theorem lastGranted_fits (areReplies : AreReplies messages replies) {secret : CString}
    (isLast : lastGranted replies = some secret) :
    secret.length ≤ iotDeviceSecretLen ∧ 0 ∉ secret := by
  obtain ⟨reply, among, isSecret⟩ := List.mem_filterMap.mp (List.mem_of_getLast? isLast)
  obtain ⟨i, inside, rfl⟩ := List.getElem_of_mem among
  have other : i < messages.length := areReplies.length_eq ▸ inside
  have grants := ((List.forall₂_iff_get.mp areReplies).2 i other inside).2
  exact (isSecret ▸ grants).fits

/-- The callbacks leave the secret of the last reply that grants one. -/
theorem runCallbacks_secret {library : CLibrary} {memory : Nat → List UInt8}
    (areReplies : AreReplies messages replies) (count : Nat) (info : DeviceInfo) :
    runCallbacks library memory count info messages =
      ((lastGranted replies).map fun secret => (halSetDeviceSecret info secret).2).getD info := by
  induction areReplies generalizing count info with
  | nil => rfl
  | @cons message reply messages replies isReply areReplies ih =>
      obtain ⟨isPayload, grants⟩ := isReply
      rw [runCallbacks, callback_reply grants isPayload, ih]
      cases isSecret : reply.2 with
      | none =>
          have same : lastGranted (reply :: replies) = lastGranted replies := by
            simp [lastGranted, isSecret]
          rw [same]
          rfl
      | some secret =>
          have later : lastGranted (reply :: replies) = some ((lastGranted replies).getD secret) := by
            rw [lastGranted, List.filterMap_cons_some isSecret, List.getLast?_cons]
            rfl
          rw [later]
          cases isLast : lastGranted replies with
          | none => rfl
          | some last =>
              exact halSetDeviceSecret_again info secret (lastGranted_fits areReplies isLast).1

end Replies

/-! ## Who reaches the callback -/

section Register

variable {σ : Type} (net : NetworkStack σ)

/-- The subscription of a registration. -/
def registered (subName : CString) (deviceSn : Nat) : Requested := fun topicFilter handler data =>
  topicFilter = subName ∧ handler = getDeviceSecret ∧ data = deviceSn

theorem registerCalls_from (client : Client) (s : σ) (subName pubName : CString)
    (world : RegisterEnv) :
    KeepsFrom (registered subName world.deviceSn) client
      (registerCalls net client s subName pubName world).outputs
      (registerCalls net client s subName pubName world).client := by
  have follows := follows_keepsFrom (registered subName world.deviceSn)
  let subscribed := uiotMqttSubscribe client subName ⟨.qos1, some getDeviceSecret, world.deviceSn⟩
    world.subscribe
  let first := uiotMqttYield net subscribed.client 200 s world.beforeRequest
  let request : PublishParams := ⟨.qos1, 0, 0, some (literal "\x7b\"RequestID\":\"1\"\x7d")⟩
  let published := uiotMqttPublish first.1.client pubName request world.publish
  let second := uiotMqttYield net published.client 5000 first.2 world.afterRequest
  let unsubscribed := uiotMqttUnsubscribe second.1.client subName world.unsubscribe
  have subscribes : KeepsFrom (registered subName world.deviceSn) client subscribed.outputs
      subscribed.client := subscribe_keepsFrom subName _ world.subscribe (by
    rintro handler ⟨⟩
    exact ⟨rfl, rfl, rfl⟩)
  have yields := follows.uiotMqttYield subscribed.client net 200 s world.beforeRequest
  have publishes := @publish_keepsFrom (registered subName world.deviceSn) first.1.client pubName
    request world.publish
  have waits := follows.uiotMqttYield published.client net 5000 first.2 world.afterRequest
  have unsubscribes := @unsubscribe_keepsFrom (registered subName world.deviceSn) second.1.client
    subName world.unsubscribe
  have ends := follows.uiotMqttYield unsubscribed.client net 200 second.2 world.atEnd
  have asked := follows.trans (follows.trans (follows.trans subscribes yields) publishes) waits
  unfold registerCalls
  simp only
  split
  · exact subscribes
  split
  · exact asked
  · exact follows.trans (follows.trans asked unsubscribes) ends

/-- Whatever a registration hands to a callback goes to its own. -/
theorem registerSession_from (params : MqttInitParams) (s : σ) (world : RegisterEnv) :
    ∀ output ∈ (registerSession net params s world).2,
      output.From (registered (dynamicRegisterSub (params.productSn.getD []) (params.deviceSn.getD []))
        world.deviceSn) := by
  have follows := follows_keepsFrom (registered
    (dynamicRegisterSub (params.productSn.getD []) (params.deviceSn.getD [])) world.deviceSn)
  obtain ⟨connected, made⟩ := iotMqttConstruct_from params world.malloc world.connect (registered
    (dynamicRegisterSub (params.productSn.getD []) (params.deviceSn.getD [])) world.deviceSn)
  unfold registerSession
  generalize iotMqttConstruct params world.malloc world.connect = constructed at *
  obtain ⟨client, outputs⟩ := constructed
  cases client with
  | none => exact connected
  | some client =>
      have from_ := made client rfl
      have destroys := fun client => follows.acts client (.disconnect world.destroy) id
      have appended : ∀ {later : List Output},
          (∀ output ∈ later, output.From (registered (dynamicRegisterSub (params.productSn.getD [])
            (params.deviceSn.getD [])) world.deviceSn)) →
          ∀ output ∈ outputs ++ later, output.From (registered (dynamicRegisterSub
            (params.productSn.getD []) (params.deviceSn.getD [])) world.deviceSn) :=
        fun later output among => (List.mem_append.mp among).elim (connected output) (later output)
      simp only
      split
      · exact appended (destroys client from_).2
      · have called := follows.trans (registerCalls_from net client s _
          (dynamicRegisterPub (params.productSn.getD []) (params.deviceSn.getD [])) world) (destroys _)
        rw [List.append_assoc]
        exact appended (called from_).2

/-- In every registration, with whatever the network does and the read buffer holds:
what is handed to a callback goes to that of the registration, on the topic of the
reply; and when the messages handed to it are replies, the port has then the secret
of the last one that grants a secret, as it had before when none does, and what else
it had. -/
theorem dynamic_register_secret (params : MqttInitParams) (info : DeviceInfo) (s : σ)
    (world : RegisterEnv) :
    let subName := dynamicRegisterSub (params.productSn.getD []) (params.deviceSn.getD [])
    let after := (iotMqttDynamicRegister net params info s world).2.1
    let outputs := (iotMqttDynamicRegister net params info s world).2.2
    (∀ slot handler data message, Output.delivered slot handler data message ∈ outputs →
      handler = getDeviceSecret ∧ data = world.deviceSn ∧
        (IsTopic subName → 0 ∉ message.topic → message.topic.length < maxSizeOfCloudTopic →
          message.topic = subName)) ∧
    ∀ replies, AreReplies (outputs.filterMap Output.toCallback) replies →
      halGetDeviceSecret after =
        (match lastGranted replies with
        | none => halGetDeviceSecret info
        | some secret => secret ++ List.replicate (iotDeviceSecretLen + 1 - secret.length) 0) ∧
      { after with sgDeviceSecret := info.sgDeviceSecret } = info := by
  intro subName after outputs
  have isAfter : after = runCallbacks world.library world.memory 0 info
      (outputs.filterMap Output.toCallback) := rfl
  refine ⟨?_, ?_⟩
  · intro slot handler data message among
    obtain ⟨topicFilter, ⟨rfl, isHandler, isData⟩, passes⟩ :=
      registerSession_from net params s world _ among
    refine ⟨isHandler, isData, fun isTopic noNul short => ?_⟩
    obtain ⟨rest, byte, passed⟩ := passes noNul short
    exact ((topicPasses_topic_iff isTopic noNul byte).mp passed).symm
  · intro replies areReplies
    rw [isAfter, runCallbacks_secret areReplies]
    cases isLast : lastGranted replies with
    | none => exact ⟨rfl, rfl⟩
    | some secret =>
        obtain ⟨fits, noNul⟩ := lastGranted_fits areReplies isLast
        exact ⟨getArray_setArray noNul fits, rfl⟩

end Register

/-! ## A registration -/

/-- A device that knows the secret of its product only. -/
def newDevice : MqttInitParams :=
  { namedDevice with productSecret := some (literal "k"), deviceSecret := none }

/-- `{"RetCode":0,"RequestID":"1","Password":"s3"}` -/
def grantingMembers : Members :=
  .cons [] (.ofBytes (literal "RetCode") rfl) [] [] (.number (Number.ofInt 0)) []
    (.cons [] (.ofBytes (literal "RequestID") rfl) [] [] (.string (.ofBytes (literal "1") rfl)) []
      (.cons [] (.ofBytes (literal "Password") rfl) [] [] (.string (.ofBytes (literal "s3") rfl)) []
        .nil))

theorem grantingMembers_plain : grantingMembers.AllStr Utils.Plain := by
  have plain : ∀ str : Str, str.bytes ≠ [] →
      (str.bytes.all fun byte => decide ¬Utils.Mark byte) → Utils.Plain str :=
    fun _ nonempty checked => ⟨nonempty, Utils.noMark_of_all checked⟩
  exact ⟨plain _ (by decide) rfl, trivial, plain _ (by decide) rfl, plain _ (by decide) rfl,
    plain _ (by decide) rfl, plain _ (by decide) rfl, trivial⟩

theorem grantingMembers_names :
    ∀ name ∈ [literal "RetCode", literal "RequestID", literal "Password"],
      grantingMembers.AllNames (Utils.NoProperPrefix name) := by
  have apart : ∀ name ∈ [literal "RetCode", literal "RequestID", literal "Password"],
      ∀ other ∈ [literal "RetCode", literal "RequestID", literal "Password"],
        name <+: other → name = other := by decide
  intro name isName
  exact ⟨apart name isName _ (by decide), trivial, apart name isName _ (by decide), trivial,
    apart name isName _ (by decide), trivial, trivial⟩

/-- The reply with a secret. -/
def grantingReply : Reply :=
  ⟨[], List.forall_mem_nil _, [], grantingMembers, [], grantingMembers_plain, grantingMembers_names⟩

theorem grantingReply_grants : grantingReply.Grants (some (literal "s3")) :=
  .secret (.ofBytes (literal "1") rfl) (.ofBytes (literal "s3") rfl) ⟨_, _, rfl⟩ ⟨_, _, rfl⟩ rfl
    ⟨_, _, rfl⟩ (by decide)

/-- The server takes the subscription and the request, and replies. -/
def repliedWire : List UInt8 :=
  [0x90, 3, 0, 2, 1] ++ [0x40, 2, 0, 3] ++
    ([0x30, 74, 0, 27] ++ literal "/$system/p/d/password_reply" ++ grantingReply.document.text)

def registering : RegisterEnv where
  library := Utils.constantLibrary 0
  memory := fun _ => literal "\"Password\":\"old\""
  malloc := fun _ => true
  connect := welcoming
  pubName := true
  subName := true
  subscribe := calm 34
  deviceSn := 5
  beforeRequest := [quietPass]
  publish := calm 44
  afterRequest := [quietPass, quietPass]
  unsubscribe := calm 33
  atEnd := []
  destroy := calm 2

/-- The port of that device has the secret that the reply grants. -/
theorem dynamic_register_secret_granted :
    let info : DeviceInfo := ⟨literal "p", literal "k", literal "d", literal "none"⟩
    halGetDeviceSecret (iotMqttDynamicRegister listNetwork newDevice info repliedWire registering).2.1 =
      literal "s3" ++ List.replicate 15 0 := by
  intro info
  have delivered : ((registerSession listNetwork newDevice repliedWire registering).2.filterMap
      Output.toCallback).map Message.payload = [grantingReply.document.text] := by decide +kernel
  obtain ⟨message, isOnly, isPayload⟩ := List.map_eq_singleton_iff.mp delivered
  have areReplies : AreReplies ((iotMqttDynamicRegister listNetwork newDevice info repliedWire
      registering).2.2.filterMap Output.toCallback) [(grantingReply, some (literal "s3"))] := by
    change AreReplies ((registerSession listNetwork newDevice repliedWire registering).2.filterMap
      Output.toCallback) _
    rw [isOnly]
    exact .cons ⟨isPayload, grantingReply_grants⟩ .nil
  exact ((dynamic_register_secret listNetwork newDevice info repliedWire registering).2 _
    areReplies).1

end UIoT.Mqtt
