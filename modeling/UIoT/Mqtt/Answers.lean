import UIoT.Mqtt.Reconnect
import UIoT.Mqtt.Wires

/-!
# Answers to publications

A publication with quality of service 1 is answered with a PUBACK, which is sent
under the timer of the yield that has read it. The loop of `send_mqtt_packet`
looks at that timer before its first write. So a PUBACK goes out when the timer
has not run out by the time the handler has returned, and otherwise none does
(`publish_answered_iff`).
-/

set_option autoImplicit false

namespace UIoT.Mqtt

open Runs

/-! ## Sending under a timer -/

/-- The writes that happen before a timer runs out: the clock is read before
each of them. -/
def untilExpired (timer : Timer) : List (UInt32 × Int) → List Int
  | [] => []
  | (now, sendLen) :: attempts =>
      if hasExpired timer now then [] else sendLen :: untilExpired timer attempts

/-- The loop of `send_mqtt_packet` with its timer. -/
def sendLoopUntil (timer : Timer) (writeBuf : List UInt8) (length : Nat) :
    List (UInt32 × Int) → Nat → List UInt8 × Nat
  | [], sent => ([], sent)
  | (now, sendLen) :: attempts, sent =>
      if sent < length ∧ ¬hasExpired timer now then
        if sendLen < 0 then ([], sent)
        else
          let accepted := (writeBuf.drop sent).take sendLen.toNat
          let (later, sent) := sendLoopUntil timer writeBuf length attempts (sent + sendLen.toNat)
          (accepted ++ later, sent)
      else ([], sent)

/-- The loop only depends on the writes before its timer runs out. -/
theorem sendLoopUntil_eq (timer : Timer) (writeBuf : List UInt8) (length : Nat)
    (attempts : List (UInt32 × Int)) (sent : Nat) :
    sendLoopUntil timer writeBuf length attempts sent =
      sendLoop writeBuf length (untilExpired timer attempts) sent := by
  induction attempts generalizing sent with
  | nil => rfl
  | cons attempt attempts inductionHypothesis =>
      obtain ⟨now, sendLen⟩ := attempt
      by_cases expired : hasExpired timer now = true
      · simp [sendLoopUntil, untilExpired, expired, sendLoop]
      · simp only [sendLoopUntil, untilExpired, expired, Bool.false_eq_true, not_false_eq_true,
          and_true, if_false, sendLoop, inductionHypothesis]

/-! ## PUBACKs -/

/-- A PUBACK. -/
def pubackPacket (packetId : UInt16) : List UInt8 := [0x40, 2] ++ mqttWriteUint16 packetId

theorem serializePubAckPacket_puback (packetId : UInt16) :
    serializePubAckPacket uiotMqttTxBufLen .puback 0 packetId = .ok (pubackPacket packetId) := by
  have header : mqttInitPacketHeader .puback .qos0 0 0 = .ok 0x40 := rfl
  have field : mqttWritePacketRemLen 2 = [2] := by
    rw [mqttWritePacketRemLen_eq_encode, Base128.encode_of_lt (by decide)]
    rfl
  have large : ¬uiotMqttTxBufLen < 4 := by decide
  simp only [serializePubAckPacket, if_neg large, reduceCtorEq, if_false, header, field, bind,
    Except.bind, pure, Except.pure]
  rfl

/-- How often a PUBACK with an id is sent. -/
def pubacks (packetId : UInt16) (outputs : List Output) : Nat :=
  outputs.count (.wire (pubackPacket packetId))

/-- The network accepts all of a packet at once. -/
theorem acceptedBytes_all {length : Nat} (positive : 0 < length) (results : List Int) :
    acceptedBytes length ((length : Int) :: results) 0 = length := by
  have stops : ∀ results, acceptedBytes length results length = length := by
    intro results
    cases results with
    | nil => rfl
    | cons sendLen results => rw [acceptedBytes, if_neg (Nat.lt_irrefl length)]
  rw [acceptedBytes, if_pos positive, if_neg (Int.not_lt.mpr (Int.natCast_nonneg length)),
    Int.toNat_natCast, Nat.zero_add, stops]

section Answer

variable {client : Client} {packetId : UInt16}

theorem pubacks_append (packetId : UInt16) (first second : List Output) :
    pubacks packetId (first ++ second) = pubacks packetId first + pubacks packetId second :=
  List.count_append

theorem NeverSends.pubacks_eq_zero {outputs : List Output} (never : NeverSends .puback outputs) :
    pubacks packetId outputs = 0 :=
  List.count_eq_zero.mpr fun among => never 0x40 _ among (by decide)

/-- When the network accepts what it is offered, a PUBACK is sent exactly when
the timer has not run out at the first look at it. -/
theorem sendAnswer_pubacks (size : client.writeBufSize = uiotMqttTxBufLen) {env : Env}
    {timer : Timer} {now : UInt32} {attempts : List (UInt32 × Int)}
    (writes : env.writes 0 =
      untilExpired timer ((now, ((pubackPacket packetId).length : Int)) :: attempts)) :
    pubacks packetId
        (sendAnswer client (serializePubAckPacket client.writeBufSize .puback 0 packetId) env).outputs =
      if hasExpired timer now then 0 else 1 := by
  have fits : (pubackPacket packetId).length < client.writeBufSize := by
    rw [size]
    exact (by decide : 4 < uiotMqttTxBufLen)
  have nonempty : ([] : List UInt8) ≠ pubackPacket packetId := List.cons_ne_nil _ _ |>.symm
  rw [size, serializePubAckPacket_puback, sendAnswer]
  simp only [sendMqttPacket_store client _ _ fits, writes, untilExpired]
  split
  · simp [acceptedBytes, pubacks, nonempty]
  · have positive : 0 < (pubackPacket packetId).length := Nat.succ_pos _
    rw [acceptedBytes_all positive, overwrite_zero, List.take_left, pubacks,
      List.count_singleton_self]

/-- What happens behind a cycle sends no PUBACK. -/
theorem afterCycle_neverSends (ret : Int) (world : PassEnv) :
    NeverSends .puback (afterCycle client ret world).outputs := by
  unfold afterCycle
  split
  · exact ((uiotMqttPubInfoProc_noWire _).neverSends.append
      (uiotMqttSubInfoProc_noWire _).neverSends).append
        (mqttKeepAlive_neverSends _ (by decide) (by decide))
  split
  · exact handleDisconnect_neverSends _ 0 (by decide)
  split <;> exact .nil

/-- The PUBACKs of a pass that reads a publication are those of its answer. -/
theorem readPassWith_pubacks {read : PacketRead} {world : PassEnv} {message : Message}
    (success : read.ret = successRet) (isPublish : read.packetType = some 3)
    (parsed : deserializePublishPacket read.readBuf client.readBufSize = .ok message)
    (qos : message.qos = 1) (id : message.id = some packetId) :
    pubacks packetId (readPassWith client read world).2.outputs =
      pubacks packetId (sendAnswer { client with readBuf := read.readBuf }
        (serializePubAckPacket client.writeBufSize .puback 0 packetId) world.cycle).outputs := by
  have isType : MessageTypes.ofHeader (read.packetType.getD 0) = some .publish := by
    rw [isPublish]
    rfl
  have cycle := @cycleForReadWith_of_type client read world.cycle _ success isType
  simp only [dispatch, handlePublishPacket, parsed, qos, id, Option.getD_some, if_true,
    show ¬((1 : UInt8) = 0) by decide, if_false, deliverMessage_client] at cycle
  have delivered : ∀ memory len before, pubacks packetId
      (deliverMessage { client with readBuf := read.readBuf } memory len message before).outputs = 0 :=
    fun memory len before =>
      (deliverMessage_noWire memory len message before).neverSends.pubacks_eq_zero
  have swept : ∀ client ret, pubacks packetId (afterCycle client ret world).outputs = 0 :=
    fun client ret => (@afterCycle_neverSends client ret world).pubacks_eq_zero
  simp only [readPassWith, cycle, pubacks_append, delivered, swept, Nat.zero_add, Nat.add_zero]

end Answer

/-! ## Every publication -/

theorem Steps.writeBufSize {params : InitParams} {client : Client} {outputs : List Output}
    (reachable : Steps (uiotMqttInit params) client outputs) :
    client.writeBufSize = uiotMqttTxBufLen :=
  (reachable.sound (uiotMqttInit_valid params) (uiotMqttInit_sound params)).2.writeBufSize

/-- In a pass that reads a publication with quality of service 1, on a network
that accepts the packets it is offered, exactly one PUBACK with its id is sent if
and only if the timer of the yield has not run out when the handler has
returned. -/
theorem publish_answered_iff (params : InitParams) (client : Client) (outputs : List Output)
    (reachable : Steps (uiotMqttInit params) client outputs) (read : PacketRead) (message : Message)
    (packetId : UInt16) (success : read.ret = successRet) (isPublish : read.packetType = some 3)
    (parsed : deserializePublishPacket read.readBuf client.readBufSize = .ok message)
    (qos : message.qos = 1) (id : message.id = some packetId) (world : PassEnv) (timer : Timer)
    (now : UInt32) (attempts : List (UInt32 × Int))
    (accepts : world.cycle.writes 0 =
      untilExpired timer ((now, ((pubackPacket packetId).length : Int)) :: attempts)) :
    pubacks packetId (readPassWith client read world).2.outputs = 1 ↔
      hasExpired timer now = false := by
  rw [readPassWith_pubacks success isPublish parsed qos id,
    @sendAnswer_pubacks { client with readBuf := read.readBuf } packetId reachable.writeBufSize _ _ _ _
      accepts]
  cases hasExpired timer now <;> simp

/-! ## A handler that takes its time -/

/-- A client with a subscription to `a`. -/
def subscribedClient : Client :=
  (run step (uiotMqttInit ⟨2000, true⟩) (connectActs ++ [subscribeAct, subackAct 2])).1

/-- A message on `a` with quality of service 1 and the id 7. -/
def publishRead : PacketRead := received [0x32, 6, 0, 1, 0x61, 0, 7, 0x78]

/-- A pass whose timer ends at 100; the PUBACK is offered at the given tick. -/
def passUntil100 (now : UInt32) : PassEnv :=
  { quietPass with cycle := { calm 0 with writes := fun _ => untilExpired ⟨100⟩ [(now, 4)] } }

/-- In time, the message is answered. -/
theorem publish_answered_in_time :
    pubacks 7 (readPassWith subscribedClient publishRead (passUntil100 60)).2.outputs = 1 ↔
      hasExpired ⟨100⟩ 60 = false :=
  publish_answered_iff ⟨2000, true⟩ subscribedClient _
    ⟨connectActs ++ [subscribeAct, subackAct 2], rfl, rfl⟩ publishRead
    ⟨1, 0, 0, some 7, [0x61], [0x78]⟩ 7 rfl rfl (by decide +kernel) rfl rfl (passUntil100 60) ⟨100⟩ 60 [] rfl

/-- A handler that returns after the end of the timer: the message has been
delivered, no byte is sent, and the pass reports success. -/
theorem publish_not_answered :
    let pass := readPassWith subscribedClient publishRead (passUntil100 101)
    pass.2.outputs = [.delivered 0 7 0 ⟨1, 0, 0, some 7, [0x61], [0x78]⟩, .wire []] ∧
      pubacks 7 pass.2.outputs = 0 ∧ pass.2.ret = successRet ∧ pass.2.client.isConnected = true := by
  decide +kernel

end UIoT.Mqtt
