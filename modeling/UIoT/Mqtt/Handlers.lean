import UIoT.Mqtt.Requests

/-!
# Packets from the server

`cycle_for_read` reads one packet and hands it to the handler of its type.
Acknowledgements mark the entries of a wait list that carry their id; a SUBACK
then fills a slot of the subscription table. A publication goes to the first
slot whose filter passes and whose handler is set.
-/

set_option autoImplicit false

namespace UIoT.Mqtt

/-! ## Delivery -/

/-- The test of `_deliver_message` on the filter of a slot. `memory` is what
`topicName` points to. -/
def topicPasses (topicFilter : CString) (memory : List UInt8) (topicNameLen : Nat)
    (before : UInt8) : Bool :=
  isTopicEquals (cString memory) topicFilter ||
    isTopicMatched topicFilter (memory.take topicNameLen) before

/-- Whether the loop of `_deliver_message` calls the handler of a slot when it
gets there. -/
def takes (memory : List UInt8) (topicNameLen : Nat) (before : UInt8) (slot : SubTopicHandle) :
    Bool :=
  match slot.topicFilter with
  | none => false
  | some topicFilter =>
      topicPasses topicFilter memory topicNameLen before && slot.messageHandler.isSome

/-- `_deliver_message` -/
def deliverMessage (client : Client) (memory : List UInt8) (topicNameLen : Nat) (message : Message)
    (before : UInt8) : Result :=
  let message := { message with topic := memory.take topicNameLen }
  let slots := client.subHandles.toList
  match slots.findIdx? (takes memory topicNameLen before) with
  | some i =>
      let slot := slots.getD i SubTopicHandle.zero
      ⟨successRet, client,
        [.delivered i (slot.messageHandler.getD 0) slot.messageHandlerData message]⟩
  | none => ⟨successRet, client, if client.eventHandler then [.received message] else []⟩

/-! ## Acknowledgements -/

/-- An entry is marked as invalid when it has the id. -/
def PubInfo.mask (msgId : UInt16) (repubInfo : PubInfo) : PubInfo :=
  if repubInfo.msgId = msgId then { repubInfo with nodeState := .invalid } else repubInfo

def SubInfo.mask (msgId : UInt16) (subInfo : SubInfo) : SubInfo :=
  if subInfo.msgId = msgId then { subInfo with nodeState := .invalid } else subInfo

/-- `_mask_pubInfo_from`. The iterator is the allocation number `alloc`. -/
def maskPubInfoFrom (client : Client) (msgId : UInt16) (env : Env) (alloc : Nat) : Client :=
  if client.listPubWaitAck.length ≠ 0 ∧ env.malloc alloc then
    { client with listPubWaitAck := client.listPubWaitAck.map (PubInfo.mask msgId) }
  else client

/-- `_mask_sub_info_from`. It walks from the tail, so the handle it leaves in
`messageHandler` is that of the first entry with the id. -/
def maskSubInfoFrom (client : Client) (msgId : UInt16) (env : Env) (alloc : Nat) :
    Option SubTopicHandle × Client :=
  if client.listSubWaitAck.length ≠ 0 ∧ env.malloc alloc then
    ((client.listSubWaitAck.find? (·.msgId = msgId)).map SubInfo.handler,
      { client with listSubWaitAck := client.listSubWaitAck.map (SubInfo.mask msgId) })
  else (none, client)

/-- `_handle_puback_packet` -/
def handlePubackPacket (client : Client) (env : Env) : Result :=
  match deserializeAckPacket client.readBuf client.readBufSize with
  | .error ret => ⟨ret, client, []⟩
  | .ok ack =>
      let client := maskPubInfoFrom client ack.packetId env 0
      ⟨successRet, client, client.raise .publishSuccess ack.packetId⟩

/-- `_check_handle_is_identical` returns zero: same filter and same handler. -/
def checkHandleIsIdentical (subHandle1 subHandle2 : SubTopicHandle) : Bool :=
  subHandle1.topicFilter = subHandle2.topicFilter &&
    subHandle1.messageHandler = subHandle2.messageHandler

/-- The loop of `_handle_suback_packet` over the slots and what follows it: the
table afterwards, unless there is no room. -/
def addSubHandle (subHandles : Vector SubTopicHandle maxSubTopics) (subHandle : SubTopicHandle) :
    Option (Vector SubTopicHandle maxSubTopics) :=
  let identical (slot : SubTopicHandle) : Bool :=
    slot.topicFilter.isSome && checkHandleIsIdentical slot subHandle
  if subHandles.toList.any identical then some subHandles
  else
    match subHandles.toList.findIdx? (·.topicFilter.isNone) with
    | none => none
    | some iFree => some (subHandles.setIfInBounds iFree subHandle)

/-- `_handle_suback_packet` -/
def handleSubackPacket (client : Client) (env : Env) : Result :=
  match deserializeSubackPacket 1 client.readBuf client.readBufSize with
  | .error ret => ⟨ret, client, []⟩
  | .ok (packetId, grantedQoS) =>
      let subNack := grantedQoS.any (· = 0x80)
      let (handle, client) := maskSubInfoFrom client packetId env 0
      let subHandle := handle.getD SubTopicHandle.zero
      if subHandle.topicFilter = none then ⟨errMqttSubFailed, client, []⟩
      else if subNack then ⟨errMqttSubFailed, client, client.raise .subscribeNack packetId⟩
      else
        match addSubHandle client.subHandles subHandle with
        | none => ⟨failureRet, client, []⟩
        | some subHandles =>
            let client := { client with subHandles := subHandles }
            ⟨successRet, client, client.raise .subscribeSuccess packetId⟩

/-- `_handle_unsuback_packet`. What `_mask_sub_info_from` leaves in the handle
is only freed; without an entry that is an uninitialised pointer. -/
def handleUnsubackPacket (client : Client) (env : Env) : Result :=
  match deserializeUnsubackPacket client.readBuf client.readBufSize with
  | .error ret => ⟨ret, client, []⟩
  | .ok packetId =>
      let (_, client) := maskSubInfoFrom client packetId env 0
      ⟨successRet, client, client.raise .unsubscribeSuccess packetId⟩

/-! ## Publications and pings -/

/-- The end of the handlers that answer: the packet is stored and sent. -/
def sendAnswer (client : Client) (packet : Except Int (List UInt8)) (env : Env) : Result :=
  match packet with
  | .error ret => ⟨ret, client, []⟩
  | .ok packet =>
      let client := client.store packet
      let (ret, outputs) := sendMqttPacket client packet.length (env.writes 0)
      ⟨ret, client, outputs⟩

/-- `_handle_publish_packet` -/
def handlePublishPacket (client : Client) (env : Env) : Result :=
  match deserializePublishPacket client.readBuf client.readBufSize with
  | .error ret => ⟨ret, client, []⟩
  | .ok msg =>
      let topicLen := msg.topic.length
      let topicLen := if maxSizeOfCloudTopic < topicLen then maxSizeOfCloudTopic - 1 else topicLen
      let fixTopic := overwrite (List.replicate maxSizeOfCloudTopic 0) 0 (msg.topic.take topicLen)
      let delivered := deliverMessage client (fixTopic ++ env.stack) topicLen msg env.stackBefore
      if msg.qos = 0 then delivered
      else
        let client := delivered.client
        let packetType := if msg.qos = 1 then MessageTypes.puback else .pubrec
        let answer :=
          sendAnswer client (serializePubAckPacket client.writeBufSize packetType 0 (msg.id.getD 0))
            env
        { answer with outputs := delivered.outputs ++ answer.outputs }

/-- `_handle_pubrec_packet` -/
def handlePubrecPacket (client : Client) (env : Env) : Result :=
  match deserializeAckPacket client.readBuf client.readBufSize with
  | .error ret => ⟨ret, client, []⟩
  | .ok ack =>
      sendAnswer client (serializePubAckPacket client.writeBufSize .pubrel 0 ack.packetId) env

/-- `_handle_pingresp_packet` -/
def handlePingrespPacket (client : Client) (env : Env) : Client :=
  { client with
    isPingOutstanding := 0
    pingTimer := countdown env.rtTickFromMillisecond (env.tick 0)
      (UInt32.ofNat client.options.keepAliveInterval.toNat) }

/-! ## One packet -/

/-- The first `switch` of `cycle_for_read`; nothing for a type that has no
case. -/
def dispatch (client : Client) (packetType : MessageTypes) (env : Env) : Option Result :=
  match packetType with
  | .puback => some (handlePubackPacket client env)
  | .suback => some (handleSubackPacket client env)
  | .unsuback => some (handleUnsubackPacket client env)
  | .publish => some (handlePublishPacket client env)
  | .pubrec => some (handlePubrecPacket client env)
  | .connack | .pubrel | .pubcomp | .pingresp => some ⟨successRet, client, []⟩
  | .reserved | .connect | .subscribe | .unsubscribe | .pingreq | .disconnect => none

/-- The second `switch` of `cycle_for_read`. -/
def notePing (client : Client) (packetType : MessageTypes) (env : Env) : Client :=
  match packetType with
  | .puback | .suback | .unsuback | .pingresp => handlePingrespPacket client env
  | .publish => { client with isPingOutstanding := 0 }
  | _ => client

/-- `cycle_for_read` once `_read_mqtt_packet` has returned. -/
def cycleForReadWith (client : Client) (read : PacketRead) (env : Env) : Result :=
  let client := { client with readBuf := read.readBuf }
  if read.ret = errMqttNothingToRead then ⟨successRet, client, []⟩
  else if read.ret ≠ successRet then ⟨read.ret, client, []⟩
  else
    match MessageTypes.ofHeader (read.packetType.getD 0) with
    | none => ⟨errMqttRxMessagePacketTypeInvalid, client, []⟩
    | some packetType =>
        match dispatch client packetType env with
        | none => ⟨errMqttRxMessagePacketTypeInvalid, client, []⟩
        | some handled => { handled with client := notePing handled.client packetType env }

/-- `cycle_for_read` on a network. -/
def cycleForRead {σ : Type} (net : NetworkStack σ) (client : Client) (s : σ) (env : Env) :
    Result × σ :=
  let (read, s) := readMqttPacket net client.readBufSize client.readBuf s
  (cycleForReadWith client read env, s)

end UIoT.Mqtt
