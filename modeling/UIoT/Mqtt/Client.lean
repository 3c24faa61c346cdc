import UIoT.Timer
import UIoT.Mqtt.ReadPacket
import UIoT.Mqtt.TopicMatch

/-!
# The MQTT client

The state of `UIoT_Client` and what the functions on it exchange with the rest
of the world. A call is given an environment, which says how the clock, the
allocator and the network behave during the call, and returns a code, the
client afterwards and the outputs: packets on the wire, events and messages
handed to callbacks. Callbacks run after the call that raises them.

Locks are left out, since the calls are atomic here, and so are the copies of
packets in the wait lists, which nothing reads. Two fields are not in the
source: `Client.issued` counts the packet ids given out, and `issue` in an
entry of a wait list is that count when its id was taken. The count names the
list node: `list_remove` takes out the entry with the same number.
-/

set_option autoImplicit false

namespace UIoT.Mqtt

/-! ## Constants -/

/-- `MAX_PACKET_ID` -/
abbrev maxPacketId : UInt16 := 65535

/-- `MAX_SUB_TOPICS` -/
abbrev maxSubTopics : Nat := 10

/-- `MAX_REPUB_NUM` -/
abbrev maxRepubNum : Nat := 20

/-- `MAX_SIZE_OF_CLOUD_TOPIC` -/
abbrev maxSizeOfCloudTopic : Nat := 128

/-- `UIOT_MQTT_TX_BUF_LEN` -/
abbrev uiotMqttTxBufLen : Nat := 2048

/-- `UIOT_MQTT_RX_BUF_LEN` -/
abbrev uiotMqttRxBufLen : Nat := 2048

/-- `MIN_COMMAND_TIMEOUT` -/
abbrev minCommandTimeout : UInt32 := 500

/-- `MAX_COMMAND_TIMEOUT` -/
abbrev maxCommandTimeout : UInt32 := 5000

/-- `MIN_RECONNECT_WAIT_INTERVAL` -/
abbrev minReconnectWaitInterval : UInt32 := 1000

/-- `MAX_RECONNECT_WAIT_INTERVAL` -/
abbrev maxReconnectWaitInterval : UInt32 := 60 * 1000

/-- `ENABLE_INFINITE_RECONNECT` -/
abbrev enableInfiniteReconnect : Bool := true

/-- `MQTT_PING_RETRY_TIMES` -/
abbrev mqttPingRetryTimes : UInt8 := 2

/-! ## Data types -/

/-- `MessageTypes` -/
inductive MessageTypes where
  | reserved | connect | connack | publish | puback | pubrec | pubrel | pubcomp
  | subscribe | suback | unsubscribe | unsuback | pingreq | pingresp | disconnect

deriving instance DecidableEq, Repr for MessageTypes

/-- The message type of a header; fifteen is none. -/
def MessageTypes.ofHeader : Nat → Option MessageTypes
  | 0 => some reserved
  | 1 => some connect
  | 2 => some connack
  | 3 => some publish
  | 4 => some puback
  | 5 => some pubrec
  | 6 => some pubrel
  | 7 => some pubcomp
  | 8 => some subscribe
  | 9 => some suback
  | 10 => some unsubscribe
  | 11 => some unsuback
  | 12 => some pingreq
  | 13 => some pingresp
  | 14 => some disconnect
  | _ => none

/-- `QoS` -/
inductive QoS where
  | qos0 | qos1 | qos2

/-- The value of a `QoS`. -/
def QoS.toUInt8 : QoS → UInt8
  | qos0 => 0
  | qos1 => 1
  | qos2 => 2

/-- `SubTopicHandle`. A callback is named by a number, and NULL is `none`. -/
structure SubTopicHandle where
  topicFilter : Option CString
  messageHandler : Option Nat
  messageHandlerData : Nat
  qos : QoS

/-- A zeroed `SubTopicHandle`. -/
def SubTopicHandle.zero : SubTopicHandle := ⟨none, none, 0, .qos0⟩

/-- `MQTTNodeState` -/
inductive NodeState where
  | normal | invalid

/-- `UIoTPubInfo` -/
structure PubInfo where
  issue : Nat
  pubStartTime : Timer
  nodeState : NodeState
  msgId : UInt16

/-- `UIoTSubInfo` -/
structure SubInfo where
  issue : Nat
  type : MessageTypes
  msgId : UInt16
  subStartTime : Timer
  nodeState : NodeState
  handler : SubTopicHandle

/-- `MQTTConnectParams` -/
structure ConnectParams where
  clientId : CString
  username : Option CString
  password : Option CString
  mqttVersion : UInt8
  keepAliveInterval : UInt16
  cleanSession : UInt8
  autoConnectEnable : UInt8

/-- `MQTTMessage`. The quality of service is the value in the header, which may
be three; the id is stored unless it is zero. -/
structure Message where
  qos : UInt8
  retained : UInt8
  dup : UInt8
  id : Option UInt16
  topic : List UInt8
  payload : List UInt8

/-- `PublishParams` -/
structure PublishParams where
  qos : QoS
  retained : UInt8
  id : UInt16
  payload : Option (List UInt8)

/-- `SubscribeParams` -/
structure SubscribeParams where
  qos : QoS
  onMessageHandler : Option Nat
  userData : Nat

/-- `UIoT_Client`. Of the event handler only its presence matters. -/
structure Client where
  isConnected : Bool
  wasManuallyDisconnected : Bool
  isPingOutstanding : UInt8
  nextPacketId : UInt16
  issued : Nat
  commandTimeoutMs : UInt32
  currentReconnectWaitInterval : UInt32
  counterNetworkDisconnected : UInt32
  writeBufSize : Nat
  readBufSize : Nat
  writeBuf : List UInt8
  readBuf : List UInt8
  listPubWaitAck : List PubInfo
  listSubWaitAck : List SubInfo
  eventHandler : Bool
  options : ConnectParams
  pingTimer : Timer
  reconnectDelayTimer : Timer
  subHandles : Vector SubTopicHandle maxSubTopics

deriving instance DecidableEq, Repr for QoS, SubTopicHandle, NodeState, PubInfo, SubInfo, ConnectParams,
  Message, PublishParams, SubscribeParams, Client

@[simp] theorem get_eq_getElem {α : Type} {n : Nat} (slots : Vector α n) (i : Fin n) :
    slots.get i = getElem slots (i : Nat) i.isLt := rfl

/-- `MQTTEventType` -/
inductive EventType where
  | undef | disconnect | reconnect
  | subscribeSuccess | subscribeTimeout | subscribeNack
  | unsubscribeSuccess | unsubscribeTimeout | unsubscribeNack
  | publishSuccess | publishTimeout | publishNack
  | publishReceived

deriving instance DecidableEq, Repr for EventType

/-- What a call does to the outside. -/
inductive Output where
  /-- Bytes accepted by the network. -/
  | wire (bytes : List UInt8)
  /-- The event handler is called; NULL is the id zero. -/
  | event (type : EventType) (packetId : UInt16)
  /-- The event handler is called with a message no subscription took. -/
  | received (message : Message)
  /-- The message handler of a slot is called. -/
  | delivered (slot : Nat) (handler : Nat) (data : Nat) (message : Message)
  /-- The network connection is opened. -/
  | netConnect
  /-- The network connection is closed. -/
  | netDisconnect

deriving instance DecidableEq, Repr for Output

/-- The behaviour of the world during a call. -/
structure Env where
  /-- The tick at each reading of the clock. -/
  tick : Nat → UInt32
  /-- `rt_tick_from_millisecond` -/
  rtTickFromMillisecond : UInt32 → UInt32
  /-- Whether each allocation succeeds. -/
  malloc : Nat → Bool
  /-- The results of the writes of each packet sent, until its timer runs out. -/
  writes : Nat → List Int
  /-- What follows a full topic buffer on the stack, and the byte in front. -/
  stack : List UInt8
  stackBefore : UInt8
  /-- What an uninitialised `QoS` on the stack holds. -/
  stackQos : QoS

/-- The outcome of a call. -/
structure Result where
  ret : Int
  client : Client
  outputs : List Output

deriving instance DecidableEq, Repr for Result

/-- The event handler is called if there is one. -/
def Client.raise (client : Client) (type : EventType) (packetId : UInt16) : List Output :=
  if client.eventHandler then [.event type packetId] else []

/-! ## Start -/

/-- `MQTTInitParams`, as far as the client keeps it. -/
structure InitParams where
  commandTimeout : UInt32
  eventHandler : Bool

/-- `uiot_mqtt_init` when it succeeds: every field that is not assigned is
zero. -/
def uiotMqttInit (params : InitParams) : Client :=
  let commandTimeout :=
    if params.commandTimeout < minCommandTimeout then minCommandTimeout else params.commandTimeout
  let commandTimeout :=
    if maxCommandTimeout < commandTimeout then maxCommandTimeout else commandTimeout
  { isConnected := false
    wasManuallyDisconnected := false
    isPingOutstanding := 0
    nextPacketId := 1
    issued := 0
    commandTimeoutMs := commandTimeout
    currentReconnectWaitInterval := 0
    counterNetworkDisconnected := 0
    writeBufSize := uiotMqttTxBufLen
    readBufSize := uiotMqttRxBufLen
    writeBuf := List.replicate uiotMqttTxBufLen 0
    readBuf := List.replicate uiotMqttRxBufLen 0
    listPubWaitAck := []
    listSubWaitAck := []
    eventHandler := params.eventHandler
    options := ⟨[], none, none, 0, 0, 0, 0⟩
    pingTimer := initTimer
    reconnectDelayTimer := initTimer
    subHandles := Vector.replicate maxSubTopics SubTopicHandle.zero }

/-- `get_next_packet_id` -/
def getNextPacketId (client : Client) : UInt16 × Client :=
  let nextPacketId := if maxPacketId = client.nextPacketId then 1 else client.nextPacketId + 1
  (nextPacketId, { client with nextPacketId := nextPacketId, issued := client.issued + 1 })

end UIoT.Mqtt
