import UIoT.Mqtt.Backoff
import UIoT.Mqtt.ConnectPackets
import UIoT.Utils.Printf

/-!
# How a client logs in

`IOT_MQTT_Construct` makes the client id, the user name and the password from
what names the device, and connects. The calls of the application follow, in any
order, and `uiot_mqtt_yield` connects again when the connection is lost.

A line is what the server sees of the connections. Nothing is ever written on a
line that is closed, each line that is opened begins with the CONNECT of the
device, and nothing is written behind a CONNECT that was cut
(`connections_log_in`).
-/

set_option autoImplicit false

namespace UIoT.Mqtt

open Utils (literal formatInt)
open LengthPrefix Base128

/-! ## Construction -/

/-- `STATIC_AUTH` -/
abbrev staticAuth : Int := 1

/-- `DYNAMIC_AUTH` -/
abbrev dynamicAuth : Int := 2

/-- `MQTTInitParams`. Null is `none`. -/
structure MqttInitParams where
  productSn : Option CString
  deviceSn : Option CString
  productSecret : Option CString
  deviceSecret : Option CString
  commandTimeout : UInt32
  keepAliveInterval : UInt32
  cleanSession : UInt8
  autoConnectEnable : UInt8
  eventHandler : Bool

/-- `auth_mode`: the device's own secret goes before that of its product. -/
def authMode (params : MqttInitParams) : Int :=
  if params.deviceSecret.isSome then staticAuth
  else if params.productSecret.isSome then dynamicAuth
  else 0

/-- The connect parameters of `IOT_MQTT_Construct`. -/
def connectParams (params : MqttInitParams) (productSn deviceSn : CString) : ConnectParams where
  clientId := productSn ++ literal "." ++ deviceSn
  username := some (productSn ++ literal "|" ++ deviceSn ++ literal "|" ++ formatInt (authMode params))
  password := params.deviceSecret.or params.productSecret
  mqttVersion := 4
  keepAliveInterval := params.keepAliveInterval.toUInt16
  cleanSession := params.cleanSession
  autoConnectEnable := params.autoConnectEnable

/-- The allocations of `IOT_MQTT_Construct`: the client, its four locks and two
lists, the client id, the user name and, where there is a secret, the password. -/
def constructAllocations (params : MqttInitParams) : Nat := if authMode params = 0 then 9 else 10

/-- `IOT_MQTT_Construct`: the client when there is one. -/
def iotMqttConstruct (params : MqttInitParams) (malloc : Nat → Bool) (world : ConnectEnv) :
    Option Client × List Output :=
  match params.productSn, params.deviceSn with
  | some productSn, some deviceSn =>
      if productSn.length = 0 then (none, [])
      else if deviceSn.length = 0 then (none, [])
      else if ¬(List.range (constructAllocations params)).all malloc then (none, [])
      else
        let client := uiotMqttInit ⟨params.commandTimeout, params.eventHandler⟩
        let connected := uiotMqttConnect client (connectParams params productSn deviceSn) world
        if connected.ret ≠ successRet then (none, connected.outputs)
        else (some connected.client, connected.outputs)
  | _, _ => (none, [])

/-! ## Calls -/

section Calls

variable {σ : Type} (net : NetworkStack σ)

/-- A call of the application, or a change of the network. -/
inductive ApiCall (σ : Type) where
  | publish (topicName : CString) (params : PublishParams) (env : Env)
  | subscribe (topicFilter : CString) (params : SubscribeParams) (env : Env)
  | unsubscribe (topicFilter : CString) (env : Env)
  | yield (timeoutMs : UInt32) (worlds : List PassEnv)
  | disconnect (env : Env)
  /-- `uiot_mqtt_set_autoreconnect` -/
  | setAutoreconnect (value : Bool)
  | network (s : σ)

/-- `uiot_mqtt_set_autoreconnect` -/
def uiotMqttSetAutoreconnect (client : Client) (value : Bool) : Result :=
  ⟨successRet, { client with
    options := { client.options with autoConnectEnable := if value then 1 else 0 } }, []⟩

/-- What a call does to the client. -/
def apiCall (client : Client) (s : σ) : ApiCall σ → Result × σ
  | .publish topicName params env => (uiotMqttPublish client topicName params env, s)
  | .subscribe topicFilter params env => (uiotMqttSubscribe client topicFilter params env, s)
  | .unsubscribe topicFilter env => (uiotMqttUnsubscribe client topicFilter env, s)
  | .yield timeoutMs worlds => uiotMqttYield net client timeoutMs s worlds
  | .disconnect env => (uiotMqttDisconnect client env 0, s)
  | .setAutoreconnect value => (uiotMqttSetAutoreconnect client value, s)
  | .network s' => (⟨successRet, client, []⟩, s')

/-- A step of the application. -/
def apiStep (state : Client × σ) (call : ApiCall σ) : (Client × σ) × List Output :=
  let (result, s) := apiCall net state.1 state.2 call
  ((result.client, s), result.outputs)

end Calls

/-! ## Lines -/

/-- What the server sees of a connection: it is closed, it is open and empty, the
CONNECT has come, or a part of it or more than it. -/
inductive Line where
  | closed | opened | speaking | cut
  deriving DecidableEq, Repr

/-- What an output does to a line that should begin with this packet. -/
def Line.next (packet : List UInt8) (line : Line) : Output → Option Line
  | .netConnect => some .opened
  | .netDisconnect => some .closed
  | .wire bytes =>
      match line with
      | .opened =>
          if bytes = packet then some .speaking
          else if bytes <+: packet ∨ packet <+: bytes then some .cut
          else none
      | .speaking => some .speaking
      | .closed => none
      | .cut => none
  | .event .. => some line
  | .received _ => some line
  | .delivered .. => some line

/-- The line after some outputs, unless they break its rules. -/
def Line.after (packet : List UInt8) (line : Line) (outputs : List Output) : Option Line :=
  outputs.foldlM (Line.next packet) line

/-- The line of a client between two calls -/
def Client.line (client : Client) : Line := if client.isConnected then .speaking else .closed

section Lines

variable {packet : List UInt8} {line line' : Line} {first second outputs : List Output}

@[simp] theorem after_nil : line.after packet [] = some line := rfl

theorem after_append : line.after packet (first ++ second) =
    (line.after packet first).bind fun middle => middle.after packet second :=
  List.foldlM_append

theorem after_cons (output : Output) : line.after packet (output :: outputs) =
    (line.next packet output).bind fun middle => middle.after packet outputs :=
  List.foldlM_cons

/-- A line that speaks goes on as long as the connection stays. -/
theorem after_speaking (keeps : KeepsNetwork outputs) :
    Line.speaking.after packet outputs = some .speaking := by
  induction outputs with
  | nil => rfl
  | cons output outputs ih =>
      have rest := ih ⟨fun among => keeps.1 (List.mem_cons_of_mem _ among),
        fun among => keeps.2 (List.mem_cons_of_mem _ among)⟩
      rw [after_cons]
      cases output with
      | netConnect => exact absurd List.mem_cons_self keeps.1
      | netDisconnect => exact absurd List.mem_cons_self keeps.2
      | wire bytes => exact rest
      | event type packetId => exact rest
      | received message => exact rest
      | delivered slot handler data message => exact rest

/-- Closing ends any line that has kept its rules. -/
theorem after_closing (holds : line.after packet outputs = some line') :
    line.after packet (outputs ++ [.netDisconnect]) = some .closed := by
  rw [after_append, holds]
  rfl

end Lines

/-! ## What a call does to the line -/

/-- From one line to another, with the options as they were. -/
structure Speaks (packet : List UInt8) (line : Line) (options : ConnectParams) (result : Result)
    (line' : Line) : Prop where
  outputs : line.after packet result.outputs = some line'
  options : result.client.options = options

/-- What a client that is not connecting does. -/
def Keeps (packet : List UInt8) (client : Client) (result : Result) : Prop :=
  Speaks packet client.line client.options result result.client.line

section Keeping

variable {packet : List UInt8} {client : Client} {result : Result}

/-- Without a connection nothing is written, and the connection stays. -/
theorem Keeps.of_sameLink (same : client.SameLink result.client)
    (keeps : KeepsNetwork result.outputs) (silent : client.isConnected = false → result.outputs = []) :
    Keeps packet client result := by
  refine ⟨?_, congrArg Pace.options same.pace⟩
  rw [Client.line, Client.line, same.isConnected]
  cases connected : client.isConnected with
  | false => rw [silent connected]; rfl
  | true => exact after_speaking keeps

theorem Keeps.refl (client : Client) (ret : Int) : Keeps packet client ⟨ret, client, []⟩ :=
  ⟨rfl, rfl⟩

theorem Keeps.trans {middle : Result} (first : Keeps packet client middle)
    (second : Keeps packet middle.client result) :
    Keeps packet client { result with outputs := middle.outputs ++ result.outputs } := by
  refine ⟨?_, second.options.trans first.options⟩
  rw [after_append, first.outputs]
  exact second.outputs

/-- A result with another code, or a client that differs in neither. -/
theorem Keeps.swap (keeps : Keeps packet client result) (ret : Int) {after : Client}
    (same : result.client.SameLink after) : Keeps packet client ⟨ret, after, result.outputs⟩ := by
  refine ⟨?_, (congrArg Pace.options same.pace).trans keeps.options⟩
  have line : after.line = result.client.line := by rw [Client.line, same.isConnected, Client.line]
  rw [line]
  exact keeps.outputs

/-! ### Requests -/

theorem publish_wireOnly (topicName : CString) (params : PublishParams) (env : Env) :
    WireOnly (uiotMqttPublish client topicName params env).outputs := by
  unfold uiotMqttPublish
  split
  · exact wireOnly_nil
  split
  · exact wireOnly_nil
  split
  · exact wireOnly_nil
  split
  · exact wireOnly_nil
  rename_i notQos2 connected
  cases quality : params.qos with
  | qos2 => exact absurd quality notQos2
  | qos0 =>
      simp only [reduceCtorEq, if_false, ne_eq, not_true_eq_false]
      split
      · exact wireOnly_nil
      · split <;> exact wireOnly_sendMqttPacket _ _ _
  | qos1 =>
      simp only [if_true, ne_eq, reduceCtorEq, not_false_eq_true]
      split
      · exact wireOnly_nil
      · split
        · exact wireOnly_nil
        · split <;> exact wireOnly_sendMqttPacket _ _ _

theorem sendSubRequest_wireOnly (client : Client) (packet : List UInt8) (packetId : UInt16)
    (request : MessageTypes) (handler : SubTopicHandle) (env : Env) :
    WireOnly (sendSubRequest client packet packetId request handler env).outputs := by
  unfold sendSubRequest
  simp only
  split
  · exact wireOnly_nil
  · split
    · exact wireOnly_sendMqttPacket _ _ _
    · exact wireOnly_sendMqttPacket _ _ _

theorem subscribe_wireOnly (topicFilter : CString) (params : SubscribeParams) (env : Env) :
    WireOnly (uiotMqttSubscribe client topicFilter params env).outputs := by
  unfold uiotMqttSubscribe
  split
  · exact wireOnly_nil
  split
  · exact wireOnly_nil
  split
  · exact wireOnly_nil
  split
  · exact wireOnly_nil
  split
  · exact wireOnly_nil
  simp only
  split
  · exact wireOnly_nil
  · exact sendSubRequest_wireOnly _ _ _ _ _ _

theorem unsubscribe_wireOnly (topicFilter : CString) (env : Env) :
    WireOnly (uiotMqttUnsubscribe client topicFilter env).outputs := by
  unfold uiotMqttUnsubscribe
  split
  · exact wireOnly_nil
  split
  · exact wireOnly_nil
  simp only
  split
  · exact wireOnly_nil
  split
  · exact wireOnly_nil
  split
  · exact wireOnly_nil
  split
  · exact wireOnly_nil
  · exact sendSubRequest_wireOnly _ _ _ _ _ _

theorem publish_keeps (topicName : CString) (params : PublishParams) (env : Env) :
    Keeps packet client (uiotMqttPublish client topicName params env) := by
  refine .of_sameLink (uiotMqttPublish_sameLink env topicName params)
    (publish_wireOnly topicName params env).keepsNetwork fun disconnected => ?_
  unfold uiotMqttPublish
  simp only [disconnected, Bool.false_eq_true, not_false_eq_true, if_true]
  repeat' split
  all_goals rfl

theorem subscribe_keeps (topicFilter : CString) (params : SubscribeParams) (env : Env) :
    Keeps packet client (uiotMqttSubscribe client topicFilter params env) := by
  refine .of_sameLink (uiotMqttSubscribe_sameLink env topicFilter params)
    (subscribe_wireOnly topicFilter params env).keepsNetwork fun disconnected => ?_
  unfold uiotMqttSubscribe
  simp only [disconnected, Bool.false_eq_true, not_false_eq_true, if_true]
  repeat' split
  all_goals rfl

theorem unsubscribe_keeps (topicFilter : CString) (env : Env) :
    Keeps packet client (uiotMqttUnsubscribe client topicFilter env) := by
  refine .of_sameLink (uiotMqttUnsubscribe_sameLink env topicFilter)
    (unsubscribe_wireOnly topicFilter env).keepsNetwork fun disconnected => ?_
  unfold uiotMqttUnsubscribe
  simp only [disconnected, Bool.false_eq_true, not_false_eq_true, if_true]
  repeat' split
  all_goals rfl

/-! ### Packets, sweeps and the end of a connection -/

theorem sweep_keepsNetwork {α : Type} {nodeState : α → NodeState} {report : α → List Output}
    {entries kept timedOut : List α} {outputs : List Output}
    (swept : Swept nodeState report entries kept outputs timedOut)
    (reports : ∀ entry, KeepsNetwork (report entry)) : KeepsNetwork outputs := by
  rw [swept.outputs]
  refine ⟨fun among => ?_, fun among => ?_⟩
  · obtain ⟨entry, -, reported⟩ := List.mem_flatMap.mp among
    exact (reports entry).1 reported
  · obtain ⟨entry, -, reported⟩ := List.mem_flatMap.mp among
    exact (reports entry).2 reported

theorem reportSub_keepsNetwork (subInfo : SubInfo) : KeepsNetwork (reportSub client subInfo) := by
  rw [reportSub]
  split <;> exact keepsNetwork_raise _ _ _

theorem pubInfoProc_keepsNetwork (env : Env) :
    KeepsNetwork (uiotMqttPubInfoProc client env).outputs := by
  rcases uiotMqttPubInfoProc_swept client env with same | ⟨kept, outputs, timedOut, same, swept⟩
  · rw [same]
    exact .nil
  · rw [same]
    exact sweep_keepsNetwork swept fun _ => keepsNetwork_raise _ _ _

theorem subInfoProc_keepsNetwork (env : Env) :
    KeepsNetwork (uiotMqttSubInfoProc client env).outputs := by
  rcases uiotMqttSubInfoProc_swept client env with same | ⟨kept, outputs, timedOut, same, swept⟩
  · rw [same]
    exact .nil
  · rw [same]
    exact sweep_keepsNetwork swept reportSub_keepsNetwork

/-- For a connected client only the end of the connection counts. -/
theorem Keeps.of_connected (connected : client.isConnected = true)
    (same : client.SameLink result.client) (keeps : KeepsNetwork result.outputs) :
    Keeps packet client result :=
  .of_sameLink same keeps fun disconnected => by rw [connected] at disconnected; cases disconnected

/-- A connection that is ended: the line is closed and nothing follows but events. -/
theorem Keeps.of_closing (connected : client.isConnected = true) {front back : List Output}
    (outputs : result.outputs = front ++ [.netDisconnect] ++ back) (keeps : KeepsNetwork front)
    (silent : Line.closed.after packet back = some .closed)
    (closed : result.client.isConnected = false) (pace : result.client.pace = client.pace) :
    Keeps packet client result := by
  refine ⟨?_, congrArg Pace.options pace⟩
  have last := after_closing (@after_speaking packet _ keeps)
  rw [Client.line, Client.line, connected, closed, outputs, after_append, if_pos rfl, last]
  exact silent

theorem uiotMqttDisconnect_outputs (connected : client.isConnected = true) (env : Env) (send : Nat) :
    ∃ front, (uiotMqttDisconnect client env send).outputs = front ++ [.netDisconnect] ∧
      WireOnly front ∧ (uiotMqttDisconnect client env send).ret = successRet := by
  unfold uiotMqttDisconnect
  rw [if_neg (not_not.mpr connected)]
  simp only
  split
  · exact ⟨[], rfl, wireOnly_nil, trivial⟩
  · exact ⟨_, rfl, wireOnly_sendMqttPacket _ _ _, trivial⟩

theorem uiotMqttDisconnect_keeps (env : Env) :
    Keeps packet client (uiotMqttDisconnect client env 0) := by
  cases connected : client.isConnected with
  | false =>
      unfold uiotMqttDisconnect
      rw [if_pos (by simp [connected])]
      exact .refl client _
  | true =>
      obtain ⟨front, outputs, wires, -⟩ := uiotMqttDisconnect_outputs connected env 0
      exact .of_closing connected (outputs.trans (List.append_nil _).symm) wires.keepsNetwork rfl
        (uiotMqttDisconnect_isConnected client env 0) (uiotMqttDisconnect_pace env 0)

theorem closed_raise (type : EventType) (packetId : UInt16) :
    Line.closed.after packet (client.raise type packetId) = some .closed := by
  rw [Client.raise]
  split <;> rfl

theorem handleDisconnect_keeps (env : Env) (send : Nat) :
    Keeps packet client (handleDisconnect client env send) := by
  have gone := handleDisconnect_isConnected client env send
  cases connected : client.isConnected with
  | false =>
      unfold handleDisconnect
      rw [if_pos (by simp [connected])]
      exact .refl client _
  | true =>
      obtain ⟨front, outputs, wires, success⟩ := uiotMqttDisconnect_outputs connected env send
      have pace := @uiotMqttDisconnect_pace client env send
      unfold handleDisconnect at gone ⊢
      rw [if_neg (not_not.mpr connected)] at gone ⊢
      simp only [success, ne_eq, not_true_eq_false, if_false, outputs] at gone ⊢
      exact .of_closing connected rfl wires.keepsNetwork (closed_raise _ _) gone pace

theorem sendPing_wireOnly (length : Nat) (env : Env) (tries send : Nat) :
    WireOnly (sendPing client length env tries send).2 := by
  induction tries generalizing send with
  | zero =>
      unfold sendPing
      simp only
      split <;> exact wireOnly_sendMqttPacket _ _ _
  | succ tries ih =>
      unfold sendPing
      simp only
      split
      · exact wireOnly_sendMqttPacket _ _ _
      · intro output among
        rcases List.mem_append.mp among with first | later
        · exact wireOnly_sendMqttPacket _ _ _ _ first
        · exact ih (send + 1) _ later

theorem mqttKeepAlive_keeps (connected : client.isConnected = true) (env : Env) :
    Keeps packet client (mqttKeepAlive client env) := by
  unfold mqttKeepAlive
  simp only
  split
  · exact .refl client _
  split
  · exact .refl client _
  split
  · exact handleDisconnect_keeps env 0
  split
  · exact .refl client _
  · rename_i ping built
    have sent : Keeps packet client ⟨successRet, client.store ping,
        (sendPing (client.store ping) ping.length env 3 0).2⟩ :=
      .of_connected connected ⟨rfl, rfl⟩ (sendPing_wireOnly _ _ _ _).keepsNetwork
    split
    · exact sent.trans (handleDisconnect_keeps env 4)
    · exact .of_connected connected ⟨rfl, rfl⟩ (sendPing_wireOnly _ _ _ _).keepsNetwork

theorem afterCycle_keeps (connected : client.isConnected = true) (ret : Int) (world : PassEnv) :
    Keeps packet client (afterCycle client ret world) := by
  unfold afterCycle
  split
  · have swept := @uiotMqttPubInfoProc_sameLink client world.pubInfoProc
    have sweptSub := @uiotMqttSubInfoProc_sameLink (uiotMqttPubInfoProc client world.pubInfoProc).client
      world.subInfoProc
    have still := (swept.trans sweptSub).isConnected.trans connected
    have first : Keeps packet client (uiotMqttPubInfoProc client world.pubInfoProc) :=
      .of_connected connected swept (pubInfoProc_keepsNetwork _)
    have second := @Keeps.of_connected packet _ _ (swept.isConnected.trans connected) sweptSub
      (subInfoProc_keepsNetwork world.subInfoProc)
    exact (first.trans second).trans (mqttKeepAlive_keeps still world.keepAlive)
  split
  · exact handleDisconnect_keeps world.disconnect 0
  split
  · exact .refl client _
  · exact .refl client _

theorem readPassWith_keeps (connected : client.isConnected = true) (read : PacketRead)
    (world : PassEnv) : Keeps packet client (readPassWith client read world).2 := by
  have cycled := cycle_sameLink world.cycle client read
  have cycle : Keeps packet client (cycleForReadWith client read world.cycle) :=
    .of_connected connected cycled (cycle_keepsNetwork world.cycle client read)
  have after := @afterCycle_keeps packet _ (cycled.isConnected.trans connected)
    (cycleForReadWith client read world.cycle).ret world
  have both := cycle.trans after
  simp only [readPassWith, endOfPass]
  split
  · split
    · refine ⟨?_, both.options⟩
      exact both.outputs
    · exact both.swap _ ⟨rfl, rfl⟩
  · exact both.swap _ (.refl _)

/-! ### Connecting -/

/-- The CONNECT of some options -/
def connectPacket (options : ConnectParams) : List UInt8 :=
  0x10 :: (encode (connectBody options).length ++ connectBody options)

/-- A CONNECT that is sent is the packet; one that is not leaves a line that is
to be closed. -/
theorem sendConnect_line {options : ConnectParams} (version : options.mqttVersion = 4)
    (netConnectRet : Int) (env : Env) :
    let sent := sendConnect client options netConnectRet env
    (∃ line, Line.closed.after (connectPacket options) sent.outputs = some line ∧
      (sent.ret = successRet → line = .speaking)) ∧
    sent.client.isConnected = client.isConnected ∧ sent.client.options = options := by
  intro sent
  simp only [sent, sendConnect]
  split
  · rename_i failed
    exact ⟨⟨.closed, rfl, fun success => absurd success failed⟩, rfl, rfl⟩
  split
  · rename_i ret failed
    exact ⟨⟨.opened, rfl, fun success =>
      absurd success (serializeConnectPacket_fails _ _ ret failed).ne_success⟩, rfl, rfl⟩
  · rename_i packet built
    refine ⟨?_, rfl, rfl⟩
    have isPacket : packet = connectPacket options := serializeConnectPacket_ok version built
    have stored : ∃ rest, (Client.store { client with options := options } packet).writeBuf =
        packet ++ rest := ⟨_, overwrite_zero _ _⟩
    obtain ⟨rest, isBuf⟩ := stored
    unfold sendMqttPacket
    split
    · have refused : errMqttBufferTooShort ≠ successRet := by decide
      exact ⟨.opened, rfl, fun success => absurd success refused⟩
    · rw [sendLoop_eq, isBuf, List.drop_zero, Nat.sub_zero]
      generalize acceptedBytes packet.length (env.writes 0) 0 = accepted
      by_cases whole : accepted = packet.length
      · rw [whole, List.take_left, ← isPacket]
        refine ⟨.speaking, ?_, fun _ => rfl⟩
        simp [Line.after, Line.next]
      · have failed : failureRet ≠ successRet := by decide
        have related : (packet ++ rest).take accepted <+: packet ∨
            packet <+: (packet ++ rest).take accepted := by
          rcases Nat.le_total accepted packet.length with short | long
          · rw [List.take_append_of_le_length short]
            exact .inl (List.take_prefix _ _)
          · exact .inr (List.prefix_take_iff.mpr ⟨List.prefix_append _ _, long⟩)
        simp only [if_neg whole]
        rw [← isPacket]
        by_cases same : (packet ++ rest).take accepted = packet
        · refine ⟨.speaking, ?_, fun success => absurd success failed⟩
          simp [Line.after, Line.next, same]
        · refine ⟨.cut, ?_, fun success => absurd success failed⟩
          simp [Line.after, Line.next, same, related]

theorem waitForRead_stays (packetType : MessageTypes) (readPacketType : Nat)
    (reads : List (PacketRead × Env)) :
    client.SameLink (waitForRead packetType client readPacketType reads).client := by
  induction reads generalizing client readPacketType with
  | nil => exact .refl client
  | cons head reads ih =>
      obtain ⟨read, env⟩ := head
      have cycled := cycle_sameLink env client read
      simp only [waitForRead]
      split
      · exact cycled.trans (ih _)
      · exact cycled

theorem acceptConnack_line (env : Env) :
    (acceptConnack client env).outputs = [] ∧
      (acceptConnack client env).client.options = client.options ∧
      ((acceptConnack client env).ret = successRet →
        (acceptConnack client env).client.isConnected = true) ∧
      ((acceptConnack client env).ret ≠ successRet →
        (acceptConnack client env).client.isConnected = client.isConnected) := by
  have fails := deserializeConnackPacket_ordinary client.readBuf client.readBufSize
  unfold acceptConnack
  split
  · rename_i ret malformed
    exact ⟨rfl, rfl, fun success => absurd success (fails.1 ret malformed).ne_success, fun _ => rfl⟩
  · rename_i flags connackRc parsed
    split
    · exact ⟨rfl, rfl, fun success => absurd success (fails.2 flags connackRc parsed).2,
        fun _ => rfl⟩
    · exact ⟨rfl, rfl, fun _ => rfl, fun failed => absurd rfl failed⟩

/-- `uiot_mqtt_connect` opens a line with the CONNECT of the options given, and
closes it again where it fails. -/
theorem uiotMqttConnect_speaks {options : ConnectParams} (version : options.mqttVersion = 4)
    (disconnected : client.isConnected = false) (world : ConnectEnv) :
    let connected := uiotMqttConnect client options world
    Speaks (connectPacket options) .closed options connected connected.client.line := by
  intro connected
  obtain ⟨⟨line, sent, speaks⟩, stays, isOptions⟩ :=
    @sendConnect_line client options version world.netConnectRet world.env
  simp only [connected, uiotMqttConnect, mqttConnect]
  rw [if_neg (by simp [disconnected])]
  generalize sendConnect client options world.netConnectRet world.env = first at *
  by_cases success : first.ret = successRet
  · have waitedLink := @waitForRead_stays first.client .connack 0 world.reads
    have waitedKeeps := (waitForRead_keeps .connack first.client 0 world.reads).2
    have waited : Line.closed.after (connectPacket options) (first.outputs ++
        (waitForRead .connack first.client 0 world.reads).outputs) = some .speaking := by
      rw [after_append, sent, speaks success]
      exact after_speaking waitedKeeps
    have notConnected := waitedLink.isConnected.trans (stays.trans disconnected)
    have waitedOptions := (congrArg Pace.options waitedLink.pace).trans isOptions
    obtain ⟨silent, acceptedOptions, connects, refuses⟩ := @acceptConnack_line
      (waitForRead .connack first.client 0 world.reads).client world.env
    simp only [success, ne_eq, not_true_eq_false, if_false]
    generalize waitForRead .connack first.client 0 world.reads = second at *
    by_cases heard : second.ret = successRet
    · simp only [heard, not_true_eq_false, if_false]
      generalize acceptConnack second.client world.env = third at *
      by_cases accepted : third.ret = successRet
      · simp only [accepted, not_true_eq_false, if_false, silent, List.append_nil]
        refine ⟨?_, acceptedOptions.trans waitedOptions⟩
        rw [Client.line, connects accepted]
        exact waited
      · simp only [accepted, not_false_eq_true, if_true, silent, List.append_nil]
        refine ⟨?_, acceptedOptions.trans waitedOptions⟩
        rw [Client.line, (refuses accepted).trans notConnected]
        exact after_closing waited
    · simp only [heard, not_false_eq_true, if_true]
      refine ⟨?_, waitedOptions⟩
      rw [Client.line, notConnected]
      exact after_closing waited
  · simp only [success, ne_eq, not_false_eq_true, if_true]
    refine ⟨?_, isOptions⟩
    rw [Client.line, stays.trans disconnected]
    exact after_closing sent

/-! ### Reconnecting and yielding -/

theorem resubscribeLoop_keeps (envs : Nat → Env) (slots : List (Fin maxSubTopics)) :
    Keeps packet client (resubscribeLoop envs client slots) := by
  induction slots generalizing client with
  | nil => exact .refl client _
  | cons itr slots ih =>
      simp only [resubscribeLoop]
      split
      · exact ih
      · split
        · exact subscribe_keeps _ _ _
        · exact (subscribe_keeps _ _ _).trans ih

theorem uiotMqttResubscribe_keeps (envs : Nat → Env) :
    Keeps packet client (uiotMqttResubscribe client envs) := by
  unfold uiotMqttResubscribe
  split
  · exact .refl client _
  · exact resubscribeLoop_keeps envs _

theorem uiotMqttAttemptReconnect_keeps (version : client.options.mqttVersion = 4)
    (world : ReconnectEnv) :
    Keeps (connectPacket client.options) client (uiotMqttAttemptReconnect client world) := by
  unfold uiotMqttAttemptReconnect
  split
  · exact .refl client _
  · rename_i connected
    have disconnected : client.isConnected = false := by simpa using connected
    have speaks := uiotMqttConnect_speaks version disconnected world.connect
    have connects : Keeps (connectPacket client.options) client
        (uiotMqttConnect client client.options world.connect) := by
      rw [Keeps, Client.line, disconnected]
      exact speaks
    simp only
    split
    · exact connects
    · have both := connects.trans (uiotMqttResubscribe_keeps world.subscribe)
      split
      · exact both.swap _ (.refl _)
      · exact both.swap _ (.refl _)

theorem backOff_link (client : Client) (env : Env) :
    (backOff client env).client.isConnected = client.isConnected ∧
      (backOff client env).client.options = client.options ∧ (backOff client env).outputs = [] := by
  unfold backOff
  simp only
  split
  · exact ⟨rfl, rfl, rfl⟩
  · exact ⟨rfl, rfl, rfl⟩

theorem handleReconnect_keeps (version : client.options.mqttVersion = 4) (world : ReconnectEnv) :
    Keeps (connectPacket client.options) client (handleReconnect client world) := by
  have attempted := uiotMqttAttemptReconnect_keeps version world
  unfold handleReconnect
  split
  · exact .refl client _
  · simp only
    split
    · have raised : Keeps (connectPacket client.options) (uiotMqttAttemptReconnect client world).client
          ⟨mqttReconnected, (uiotMqttAttemptReconnect client world).client,
            (uiotMqttAttemptReconnect client world).client.raise .reconnect 0⟩ := by
        refine ⟨?_, rfl⟩
        rw [Client.raise]
        split <;> rfl
      exact attempted.trans raised
    · obtain ⟨stays, sameOptions, silent⟩ :=
        backOff_link (uiotMqttAttemptReconnect client world).client world.env
      refine attempted.trans ⟨?_, sameOptions⟩
      rw [silent, Client.line, Client.line, stays]
      rfl

variable {σ : Type} (net : NetworkStack σ)

theorem yieldPass_keeps (version : client.options.mqttVersion = 4) (s : σ) (world : PassEnv) :
    Keeps (connectPacket client.options) client (yieldPass net client s world).2.1 := by
  unfold yieldPass
  split
  · split
    · exact .refl client _
    · exact handleReconnect_keeps version world.reconnect
  · rename_i connected
    exact readPassWith_keeps (not_not.mp connected) _ world

theorem yieldLoop_keeps (ret : Int) (s : σ) (worlds : List PassEnv) :
    ∀ {client : Client}, client.options.mqttVersion = 4 →
      Keeps (connectPacket client.options) client (yieldLoop net client ret s worlds).1 := by
  induction worlds generalizing ret s with
  | nil => exact fun _ => .refl _ _
  | cons world worlds ih =>
      intro client version
      have pass := yieldPass_keeps net version s world
      simp only [yieldLoop]
      split
      · have later := @ih (yieldPass net client s world).2.1.ret (yieldPass net client s world).2.2
          (yieldPass net client s world).2.1.client (by rw [pass.options, version])
        rw [pass.options] at later
        exact pass.trans later
      · exact pass

theorem uiotMqttYield_keeps (version : client.options.mqttVersion = 4) (timeoutMs : UInt32) (s : σ)
    (worlds : List PassEnv) :
    Keeps (connectPacket client.options) client (uiotMqttYield net client timeoutMs s worlds).1 := by
  unfold uiotMqttYield
  split
  · exact .refl client _
  split
  · exact .refl client _
  split
  · exact .refl client _
  · exact yieldLoop_keeps net successRet s worlds version

end Keeping

/-! ## Runs -/

section Runs

variable {σ : Type} (net : NetworkStack σ)

/-- The parameters of a device, whatever it does when the connection is lost. -/
structure LogsInAs (packet : List UInt8) (options : ConnectParams) : Prop where
  version : options.mqttVersion = 4
  packet : connectPacket options = packet

theorem apiCall_line {packet : List UInt8} {client : Client} (s : σ) (call : ApiCall σ)
    (identity : LogsInAs packet client.options) :
    client.line.after packet (apiCall net client s call).1.outputs =
        some (apiCall net client s call).1.client.line ∧
      LogsInAs packet (apiCall net client s call).1.client.options := by
  obtain ⟨version, isPacket⟩ := identity
  have ofKeeps : ∀ {result : Result}, Keeps packet client result →
      client.line.after packet result.outputs = some result.client.line ∧
        LogsInAs packet result.client.options := by
    intro result keeps
    exact ⟨keeps.outputs, by rw [keeps.options]; exact version, by rw [keeps.options]; exact isPacket⟩
  cases call with
  | publish topicName params env => exact ofKeeps (publish_keeps topicName params env)
  | subscribe topicFilter params env => exact ofKeeps (subscribe_keeps topicFilter params env)
  | unsubscribe topicFilter env => exact ofKeeps (unsubscribe_keeps topicFilter env)
  | yield timeoutMs worlds =>
      exact ofKeeps (isPacket ▸ uiotMqttYield_keeps net version timeoutMs s worlds)
  | disconnect env => exact ofKeeps (uiotMqttDisconnect_keeps env)
  | setAutoreconnect value => exact ⟨rfl, version, isPacket⟩
  | network s' => exact ofKeeps (.refl client _)

theorem run_line {packet : List UInt8} (calls : List (ApiCall σ)) (state : Client × σ)
    (identity : LogsInAs packet state.1.options) :
    state.1.line.after packet (Runs.run (apiStep net) state calls).2.flatten =
      some (Runs.run (apiStep net) state calls).1.1.line := by
  induction calls generalizing state with
  | nil => rfl
  | cons call calls ih =>
      obtain ⟨line, after⟩ := apiCall_line net state.2 call identity
      have later := ih (apiStep net state call).1 after
      rw [Runs.run_cons_snd, List.flatten_cons, after_append]
      exact (congrArg (Option.bind · _) line).trans later

/-- What `IOT_MQTT_Construct` shows, and the client it hands out. -/
theorem iotMqttConstruct_line {params : MqttInitParams} {productSn deviceSn : CString}
    (isProduct : params.productSn = some productSn) (isDevice : params.deviceSn = some deviceSn)
    (malloc : Nat → Bool) (world : ConnectEnv) :
    let packet := connectPacket (connectParams params productSn deviceSn)
    let constructed := iotMqttConstruct params malloc world
    ∃ line, Line.closed.after packet constructed.2 = some line ∧
      ∀ client ∈ constructed.1, client.line = line ∧ LogsInAs packet client.options := by
  have speaks := @uiotMqttConnect_speaks (uiotMqttInit ⟨params.commandTimeout, params.eventHandler⟩)
    (connectParams params productSn deviceSn) rfl rfl world
  have refused : ∀ client : Client, client ∉ (none : Option Client) := fun client wrong => by cases wrong
  unfold iotMqttConstruct
  simp only [isProduct, isDevice]
  split
  · exact ⟨.closed, rfl, fun client wrong => absurd wrong (refused client)⟩
  split
  · exact ⟨.closed, rfl, fun client wrong => absurd wrong (refused client)⟩
  split
  · exact ⟨.closed, rfl, fun client wrong => absurd wrong (refused client)⟩
  split
  · exact ⟨_, speaks.outputs, fun client wrong => absurd wrong (refused client)⟩
  · refine ⟨_, speaks.outputs, fun client isClient => ?_⟩
    cases isClient
    exact ⟨rfl, by rw [speaks.options]; rfl, by rw [speaks.options]⟩

/-- What a client shows from its construction on. -/
def sessionOutputs (params : MqttInitParams) (malloc : Nat → Bool) (world : ConnectEnv) (s : σ)
    (calls : List (ApiCall σ)) : List Output :=
  let (client, outputs) := iotMqttConstruct params malloc world
  match client with
  | none => outputs
  | some client => outputs ++ (Runs.run (apiStep net) (client, s) calls).2.flatten

/-- Whatever the application calls and the network does, each connection that the
client opens begins with one and the same CONNECT, a receiver of which knows the
device by its names and its secret. A connection that was not opened, or whose
CONNECT was cut, carries nothing. -/
theorem connections_log_in (params : MqttInitParams) (malloc : Nat → Bool) (world : ConnectEnv)
    (s : σ) (calls : List (ApiCall σ)) {productSn deviceSn secret : CString}
    (isProduct : params.productSn = some productSn) (isDevice : params.deviceSn = some deviceSn)
    (isSecret : params.deviceSecret.or params.productSecret = some secret)
    (shortNames : productSn.length + deviceSn.length + 3 < 65536) (shortSecret : secret.length < 65536) :
    ∃ packet, decodeConnect packet = some
        { clientId := productSn ++ literal "." ++ deviceSn
          username := some (productSn ++ literal "|" ++ deviceSn ++ literal "|" ++
            formatInt (authMode params))
          password := some secret
          cleanSession := params.cleanSession ≠ 0
          keepAlive := params.keepAliveInterval.toNat % 65536 } ∧
      (Line.closed.after packet (sessionOutputs net params malloc world s calls)).isSome := by
  have modeShort : (formatInt (authMode params)).length = 1 := by
    rw [authMode]
    split
    · rfl
    · split <;> rfl
  have encodable : ConnectEncodable (connectParams params productSn deviceSn) := by
    refine ⟨?_, ⟨_, rfl, ?_⟩, ⟨secret, isSecret, shortSecret⟩⟩
    · simp only [connectParams, List.length_append]
      have point : (literal ".").length = 1 := rfl
      omega
    · simp only [List.length_append, modeShort]
      have bar : (literal "|").length = 1 := rfl
      omega
  have decodes : decodeConnect (connectPacket (connectParams params productSn deviceSn)) =
      some (connectParams params productSn deviceSn).contents := by
    rw [connectPacket, decodeConnect_eq, if_pos (connectBody_small encodable)]
    exact decodeConnectFields_iff.mpr encodable
  refine ⟨_, decodes.trans ?_, ?_⟩
  · simp only [ConnectParams.contents, connectParams, isSecret, UInt32.toNat_toUInt16]
  · obtain ⟨line, opened, made⟩ := iotMqttConstruct_line isProduct isDevice malloc world
    unfold sessionOutputs
    generalize iotMqttConstruct params malloc world = constructed at *
    obtain ⟨client, outputs⟩ := constructed
    cases client with
    | none => exact Option.isSome_iff_exists.mpr ⟨line, opened⟩
    | some client =>
        obtain ⟨isLine, identity⟩ := made client rfl
        rw [after_append, opened, Option.bind_some, ← isLine, run_line net calls (client, s) identity]
        rfl

/-- A device with a secret of its own. -/
def namedDevice : MqttInitParams where
  productSn := some (literal "p")
  deviceSn := some (literal "d")
  productSecret := none
  deviceSecret := some (literal "s")
  commandTimeout := 2000
  keepAliveInterval := 240
  cleanSession := 1
  autoConnectEnable := 1
  eventHandler := true

/-- The server takes the CONNECT of that device. -/
def welcoming : ConnectEnv := ⟨successRet, calm 27, [(received [0x20, 2, 0, 0], calm 0)]⟩

/-- A pass after a second and more, in which the server takes it again. -/
def welcomingPass : PassEnv :=
  { quietPass with
    reconnect := ⟨welcoming, fun _ => calm 0, { calm 0 with tick := fun _ => 1001 }⟩ }

/-- The connection is lost and made again: the device logs in twice. -/
theorem connections_log_in_twice :
    let calls := [.yield 100 [quietPass, welcomingPass]]
    let outputs := sessionOutputs brokenSocket namedDevice (fun _ => true) welcoming () calls
    (∃ packet, decodeConnect packet = some
        { clientId := literal "p.d"
          username := some (literal "p|d|1")
          password := some (literal "s")
          cleanSession := true
          keepAlive := 240 } ∧
      (Line.closed.after packet outputs).isSome) ∧
    outputs.count .netConnect = 2 := by
  intro calls outputs
  refine ⟨?_, by decide +kernel⟩
  exact @connections_log_in _ brokenSocket namedDevice (fun _ => true) welcoming () calls
    (literal "p") (literal "d") (literal "s") rfl rfl rfl (by decide) (by decide)

end Runs

end UIoT.Mqtt
