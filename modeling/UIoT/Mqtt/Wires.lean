import UIoT.Mqtt.Resubscribe

/-!
# What goes out on the wire

A packet is sent from the start of the send buffer, so what the network accepts
of it begins with its header byte, however the writes are cut. Each act sends
packets of its own types only (`step_neverSends`).
-/

set_option autoImplicit false

namespace UIoT.Mqtt

/-! ## Types of packets -/

/-- The type of a packet on the wire. -/
def typeOf (header : UInt8) : Option MessageTypes := MessageTypes.ofHeader (headerType header)

/-- No packet of a type is in the outputs. -/
def NeverSends (type : MessageTypes) (outputs : List Output) : Prop :=
  ∀ header bytes, Output.wire (header :: bytes) ∈ outputs → typeOf header ≠ some type

/-- Outputs with nothing on the wire. -/
def NoWire (outputs : List Output) : Prop := ∀ bytes, Output.wire bytes ∉ outputs

section NeverSends

variable {type : MessageTypes} {first second outputs : List Output}

theorem NeverSends.nil : NeverSends type [] := fun _ _ among => nomatch among

theorem NeverSends.append (never : NeverSends type first) (never' : NeverSends type second) :
    NeverSends type (first ++ second) := fun header bytes among =>
  (List.mem_append.mp among).elim (never header bytes) (never' header bytes)

theorem NoWire.neverSends (silent : NoWire outputs) : NeverSends type outputs :=
  fun _ _ among => absurd among (silent _)

theorem NoWire.append (silent : NoWire first) (silent' : NoWire second) : NoWire (first ++ second) :=
  fun bytes among => (List.mem_append.mp among).elim (silent bytes) (silent' bytes)

theorem noWire_raise (client : Client) (event : EventType) (packetId : UInt16) :
    NoWire (client.raise event packetId) := by
  intro bytes among
  rw [Client.raise] at among
  split at among
  · cases List.mem_singleton.mp among
  · cases among

end NeverSends

/-! ## Headers -/

/-- Only the upper half of a header byte says its type. -/
theorem mqttInitPacketHeader_type {type : MessageTypes} {qos : QoS} {dup retained header : UInt8}
    (made : mqttInitPacketHeader type qos dup retained = .ok header) : typeOf header = some type := by
  have low : ∀ value mask : UInt8, mask &&& 0xF0 = 0 → (value &&& mask) &&& 0xF0 = 0 := by
    intro value mask low
    rw [UInt8.and_assoc, low, UInt8.and_zero]
  have distrib : ∀ first second mask : UInt8,
      (first ||| second) &&& mask = first &&& mask ||| second &&& mask := by
    intro first second mask
    apply UInt8.toBitVec_inj.mp
    ext i
    simp [Bool.and_or_distrib_right]
  have upper : ∀ code dup qos retained : UInt8,
      (code &&& 0xF0 ||| dup &&& 0x08 ||| qos &&& 0x06 ||| retained &&& 0x01) &&& 0xF0 =
        code &&& 0xF0 := by
    intro code dup qos retained
    simp only [distrib, low _ 0x08 rfl, low _ 0x06 rfl, low _ 0x01 rfl, UInt8.or_zero,
      UInt8.and_assoc, UInt8.and_self]
  unfold mqttInitPacketHeader at made
  cases type <;> simp only [MessageTypes.code, Except.ok.injEq, reduceCtorEq] at made <;>
    rw [← made, typeOf, headerType, upper] <;> decide

/-- What a serializer stores begins with a header of its type. -/
def IsPacketOf (type : MessageTypes) (packet : List UInt8) : Prop :=
  ∃ header rest, packet = header :: rest ∧ typeOf header = some type

/-- A serializer that succeeds has made its header first. -/
theorem isPacketOf_of_header {type : MessageTypes} {qos : QoS} {dup retained : UInt8}
    {packet : List UInt8} {rest : List UInt8}
    (built : (mqttInitPacketHeader type qos dup retained).bind (fun header => .ok (header :: rest)) =
      .ok packet) : IsPacketOf type packet := by
  cases made : mqttInitPacketHeader type qos dup retained with
  | error ret =>
      rw [made] at built
      cases built
  | ok header =>
      rw [made] at built
      exact ⟨header, rest, (Except.ok.inj built).symm, mqttInitPacketHeader_type made⟩

section Serializers

variable {bufLen : Nat} {packet : List UInt8}

theorem serializePublishPacket_type {dup retained : UInt8} {qos : QoS} {packetId : UInt16}
    {topicName : CString} {payload : Option (List UInt8)}
    (built : serializePublishPacket bufLen dup qos retained packetId topicName payload =
      .ok packet) : IsPacketOf .publish packet := by
  unfold serializePublishPacket at built
  cases payload with
  | none => cases built
  | some payload =>
      simp only at built
      split at built
      · cases built
      · exact isPacketOf_of_header built

theorem serializePubAckPacket_type {type : MessageTypes} {dup : UInt8} {packetId : UInt16}
    (built : serializePubAckPacket bufLen type dup packetId = .ok packet) :
    IsPacketOf type packet := by
  unfold serializePubAckPacket at built
  simp only at built
  split at built
  · cases built
  · exact isPacketOf_of_header built

theorem serializeSubscribePacket_type {dup : UInt8} {packetId : UInt16} {count : Nat}
    {topicFilters : List CString} {behind : List UInt8} {qoss : List QoS}
    (built : serializeSubscribePacket bufLen dup packetId count topicFilters behind qoss = .ok packet) :
    IsPacketOf .subscribe packet := by
  unfold serializeSubscribePacket at built
  simp only at built
  split at built
  · cases built
  · exact isPacketOf_of_header built

theorem serializeUnsubscribePacket_type {dup : UInt8} {packetId : UInt16} {count : Nat}
    {topicFilters : List CString} {behind : List UInt8}
    (built : serializeUnsubscribePacket bufLen dup packetId count topicFilters behind = .ok packet) :
    IsPacketOf .unsubscribe packet := by
  unfold serializeUnsubscribePacket at built
  simp only at built
  split at built
  · cases built
  · exact isPacketOf_of_header built

theorem serializePacketWithZeroPayload_type {type : MessageTypes}
    (built : serializePacketWithZeroPayload bufLen type = .ok packet) : IsPacketOf type packet := by
  unfold serializePacketWithZeroPayload at built
  simp only at built
  split at built
  · cases built
  · exact isPacketOf_of_header built

theorem serializeConnectPacket_type {options : ConnectParams}
    (built : serializeConnectPacket bufLen options = .ok packet) : IsPacketOf .connect packet := by
  unfold serializeConnectPacket at built
  simp only at built
  split at built
  · cases built
  split at built
  · cases built
  · exact isPacketOf_of_header built

end Serializers

/-! ## Sending -/

section Sending

variable {client : Client} {packet : List UInt8} {type other : MessageTypes}

/-- What the network accepts of a packet begins where the packet begins. -/
theorem sendMqttPacket_neverSends {rest : List UInt8} (stored : client.writeBuf = packet ++ rest)
    (isPacket : IsPacketOf type packet) (different : type ≠ other) (length : Nat)
    (results : List Int) : NeverSends other (sendMqttPacket client length results).2 := by
  obtain ⟨first, body, rfl, isType⟩ := isPacket
  unfold sendMqttPacket
  split
  · exact .nil
  · intro header bytes among
    rw [sendLoop_eq, stored, List.drop_zero] at among
    have sent := Output.wire.inj (List.mem_singleton.mp among)
    have begins := List.take_prefix (acceptedBytes length results 0 - 0) (first :: body ++ rest)
    rw [← sent] at begins
    obtain ⟨same, -⟩ := List.cons_prefix_cons.mp begins
    rw [same, isType]
    exact fun wrong => different (Option.some.inj wrong)

theorem store_writeBuf (client : Client) (packet : List UInt8) :
    (client.store packet).writeBuf = packet ++ client.writeBuf.drop packet.length :=
  overwrite_zero _ _

theorem sendAnswer_neverSends {built : Except Int (List UInt8)} {env : Env}
    (isPacket : ∀ packet, built = .ok packet → IsPacketOf type packet) (different : type ≠ other) :
    NeverSends other (sendAnswer client built env).outputs := by
  cases built with
  | error ret => exact .nil
  | ok packet =>
      exact sendMqttPacket_neverSends (store_writeBuf client packet) (isPacket packet rfl) different
        _ _

theorem sendSubRequest_neverSends {packetId : UInt16} {request : MessageTypes}
    {handler : SubTopicHandle} {env : Env} (isPacket : IsPacketOf type packet)
    (different : type ≠ other) :
    NeverSends other (sendSubRequest client packet packetId request handler env).outputs := by
  unfold sendSubRequest
  rcases pushSubInfoTo_cases (client.store packet) packetId request handler env 1 with
    ⟨ret, failed, pushed⟩ | ⟨timer, pushed⟩
  · simp only [pushed, if_pos failed]
    exact .nil
  · simp only [pushed, ne_eq, not_true_eq_false, if_false]
    have sends := sendMqttPacket_neverSends (store_writeBuf client packet) isPacket different
      packet.length (env.writes 0)
    split <;> exact sends

end Sending

/-! ## Acts -/

/-- The types of the packets that an act sends. -/
def Act.sends : Act → List MessageTypes
  | .publish .. => [.publish]
  | .subscribe .. => [.subscribe]
  | .unsubscribe .. => [.unsubscribe]
  | .cycle .. => [.puback, .pubrec, .pubrel]
  | .keepAlive _ => [.pingreq, .disconnect]
  | .disconnect _ | .handleDisconnect _ => [.disconnect]
  | .sendConnect .. => [.connect]
  | _ => []

section Acts

variable {client : Client} {other : MessageTypes} (env : Env)

theorem uiotMqttPublish_neverSends (topicName : CString) (params : PublishParams)
    (different : MessageTypes.publish ≠ other) :
    NeverSends other (uiotMqttPublish client topicName params env).outputs := by
  unfold uiotMqttPublish
  split
  · exact .nil
  split
  · exact .nil
  split
  · exact .nil
  split
  · exact .nil
  rename_i notQos2 connected
  cases quality : params.qos with
  | qos2 => exact absurd quality notQos2
  | qos0 =>
      simp only [reduceCtorEq, if_false, ne_eq, not_true_eq_false]
      split
      · exact .nil
      · rename_i packet built
        have sends := sendMqttPacket_neverSends (store_writeBuf client packet)
          (serializePublishPacket_type built) different packet.length (env.writes 0)
        split <;> exact sends
  | qos1 =>
      simp only [if_true, ne_eq, reduceCtorEq, not_false_eq_true]
      split
      · exact .nil
      · rename_i packet built
        have isPacket := serializePublishPacket_type built
        rcases maskPushPubInfoTo_cases ((getNextPacketId client).2.store packet) packet.length
            (getNextPacketId client).1 env 0 with ⟨ret, failed, pushed⟩ | ⟨timer, pushed⟩
        · simp only [pushed, if_pos failed]
          exact .nil
        · simp only [pushed, not_true_eq_false, if_false]
          have sends := sendMqttPacket_neverSends (store_writeBuf (getNextPacketId client).2 packet)
            isPacket different packet.length (env.writes 0)
          split <;> exact sends

theorem uiotMqttSubscribe_neverSends (topicFilter : CString) (params : SubscribeParams)
    (different : MessageTypes.subscribe ≠ other) :
    NeverSends other (uiotMqttSubscribe client topicFilter params env).outputs := by
  unfold uiotMqttSubscribe
  split
  · exact .nil
  split
  · exact .nil
  split
  · exact .nil
  split
  · exact .nil
  split
  · exact .nil
  simp only
  split
  · exact .nil
  · rename_i packet built
    exact sendSubRequest_neverSends (serializeSubscribePacket_type built) different

theorem uiotMqttUnsubscribe_neverSends (topicFilter : CString)
    (different : MessageTypes.unsubscribe ≠ other) :
    NeverSends other (uiotMqttUnsubscribe client topicFilter env).outputs := by
  unfold uiotMqttUnsubscribe
  split
  · exact .nil
  split
  · exact .nil
  simp only
  split
  · exact .nil
  split
  · exact .nil
  split
  · exact .nil
  split
  · exact .nil
  · rename_i packet built
    exact sendSubRequest_neverSends (serializeUnsubscribePacket_type built) different

theorem deliverMessage_noWire (memory : List UInt8) (len : Nat) (message : Message)
    (before : UInt8) : NoWire (deliverMessage client memory len message before).outputs := by
  unfold deliverMessage
  simp only
  split
  · intro bytes among
    cases List.mem_singleton.mp among
  · intro bytes among
    split at among
    · cases List.mem_singleton.mp among
    · cases among

theorem handlePublishPacket_neverSends (ack : MessageTypes.puback ≠ other)
    (rec : MessageTypes.pubrec ≠ other) :
    NeverSends other (handlePublishPacket client env).outputs := by
  unfold handlePublishPacket
  split
  · exact .nil
  · rename_i message parsed
    have delivers := fun memory len before =>
      @NoWire.neverSends other _ (@deliverMessage_noWire client memory len message before)
    simp only
    split
    · exact delivers _ _ _
    · refine (delivers _ _ _).append
        (sendAnswer_neverSends (fun _ built => serializePubAckPacket_type built) ?_)
      split
      · exact ack
      · exact rec

theorem handlePubrecPacket_neverSends (rel : MessageTypes.pubrel ≠ other) :
    NeverSends other (handlePubrecPacket client env).outputs := by
  unfold handlePubrecPacket
  split
  · exact .nil
  · exact sendAnswer_neverSends (fun _ built => serializePubAckPacket_type built) rel

theorem dispatch_neverSends {packetType : MessageTypes} {handled : Result}
    (ack : MessageTypes.puback ≠ other) (rec : MessageTypes.pubrec ≠ other)
    (rel : MessageTypes.pubrel ≠ other) (dispatched : dispatch client packetType env = some handled) :
    NeverSends other handled.outputs := by
  have raises := fun client event packetId =>
    @NoWire.neverSends other _ (noWire_raise client event packetId)
  cases packetType <;> simp only [dispatch, Option.some.injEq, reduceCtorEq] at dispatched
  case puback =>
    rw [← dispatched, handlePubackPacket]
    split
    · exact .nil
    · exact raises _ _ _
  case suback =>
    rw [← dispatched, handleSubackPacket]
    split
    · exact .nil
    · simp only
      split
      · exact .nil
      split
      · exact raises _ _ _
      split
      · exact .nil
      · exact raises _ _ _
  case unsuback =>
    rw [← dispatched, handleUnsubackPacket]
    split
    · exact .nil
    · exact raises _ _ _
  case publish => exact dispatched ▸ handlePublishPacket_neverSends env ack rec
  case pubrec => exact dispatched ▸ handlePubrecPacket_neverSends env rel
  all_goals exact dispatched ▸ .nil

theorem cycle_neverSends (read : PacketRead) (ack : MessageTypes.puback ≠ other)
    (rec : MessageTypes.pubrec ≠ other) (rel : MessageTypes.pubrel ≠ other) :
    NeverSends other (cycleForReadWith client read env).outputs := by
  rw [cycleForReadWith]
  split
  · exact .nil
  split
  · exact .nil
  split
  · exact .nil
  split
  · exact .nil
  · rename_i handled dispatched
    have sends := dispatch_neverSends env ack rec rel dispatched
    exact sends

theorem sweep_noWire {α : Type} {report : α → List Output} (silent : ∀ entry, NoWire (report entry))
    (timedOut : List α) : NoWire (timedOut.flatMap report) := by
  intro bytes among
  obtain ⟨entry, -, reported⟩ := List.mem_flatMap.mp among
  exact silent entry bytes reported

theorem uiotMqttPubInfoProc_noWire : NoWire (uiotMqttPubInfoProc client env).outputs := by
  rcases uiotMqttPubInfoProc_swept client env with same | ⟨kept, outputs, timedOut, same, swept⟩
  · rw [same]
    exact fun _ among => nomatch among
  · rw [same, swept.outputs]
    exact sweep_noWire (fun entry => noWire_raise _ _ _) timedOut

theorem uiotMqttSubInfoProc_noWire : NoWire (uiotMqttSubInfoProc client env).outputs := by
  rcases uiotMqttSubInfoProc_swept client env with same | ⟨kept, outputs, timedOut, same, swept⟩
  · rw [same]
    exact fun _ among => nomatch among
  · rw [same, swept.outputs]
    refine sweep_noWire (fun entry => ?_) timedOut
    rw [reportSub]
    split <;> exact noWire_raise _ _ _

theorem uiotMqttDisconnect_neverSends (send : Nat) (different : MessageTypes.disconnect ≠ other) :
    NeverSends other (uiotMqttDisconnect client env send).outputs := by
  have closed : NeverSends other [.netDisconnect] := by
    intro header bytes among
    cases List.mem_singleton.mp among
  unfold uiotMqttDisconnect
  split
  · exact .nil
  · simp only
    split
    · exact NeverSends.nil.append closed
    · rename_i packet built
      exact (sendMqttPacket_neverSends (store_writeBuf client packet)
        (serializePacketWithZeroPayload_type built) different _ _).append closed

theorem handleDisconnect_neverSends (send : Nat) (different : MessageTypes.disconnect ≠ other) :
    NeverSends other (handleDisconnect client env send).outputs := by
  have sends := @uiotMqttDisconnect_neverSends client other env send different
  have closed : NeverSends other [.netDisconnect] := by
    intro header bytes among
    cases List.mem_singleton.mp among
  have raises := fun client => @NoWire.neverSends other _ (noWire_raise client .disconnect 0)
  unfold handleDisconnect
  split
  · exact .nil
  · simp only
    split
    · exact (sends.append closed).append (raises _)
    · exact sends.append (raises _)

theorem sendPing_neverSends {packet rest : List UInt8} (stored : client.writeBuf = packet ++ rest)
    (isPacket : IsPacketOf .pingreq packet) (different : MessageTypes.pingreq ≠ other)
    (length tries send : Nat) : NeverSends other (sendPing client length env tries send).2 := by
  induction tries generalizing send with
  | zero =>
      rw [sendPing]
      simp only
      have sends := sendMqttPacket_neverSends stored isPacket different length (env.writes send)
      split <;> exact sends
  | succ tries inductionHypothesis =>
      rw [sendPing]
      simp only
      have sends := sendMqttPacket_neverSends stored isPacket different length (env.writes send)
      split
      · exact sends
      · exact sends.append (inductionHypothesis (send + 1))

theorem mqttKeepAlive_neverSends (ping : MessageTypes.pingreq ≠ other)
    (disconnect : MessageTypes.disconnect ≠ other) :
    NeverSends other (mqttKeepAlive client env).outputs := by
  unfold mqttKeepAlive
  simp only
  split
  · exact .nil
  split
  · exact .nil
  split
  · exact handleDisconnect_neverSends env 0 disconnect
  split
  · exact .nil
  · rename_i packet built
    have pings := @sendPing_neverSends (client.store packet) other env packet _
      (store_writeBuf client packet) (serializePacketWithZeroPayload_type built) ping packet.length 3 0
    split
    · exact pings.append (handleDisconnect_neverSends env 4 disconnect)
    · exact pings

theorem sendConnect_neverSends (options : ConnectParams) (netConnectRet : Int)
    (different : MessageTypes.connect ≠ other) :
    NeverSends other (sendConnect client options netConnectRet env).outputs := by
  have opened : NeverSends other [.netConnect] := by
    intro header bytes among
    cases List.mem_singleton.mp among
  unfold sendConnect
  simp only
  split
  · exact .nil
  split
  · exact opened
  · rename_i packet built
    exact opened.append (sendMqttPacket_neverSends
      (store_writeBuf { client with options := options } packet) (serializeConnectPacket_type built)
      different _ _)

theorem acceptConnack_noWire : NoWire (acceptConnack client env).outputs := by
  unfold acceptConnack
  split
  · exact fun _ among => nomatch among
  · split <;> exact fun _ among => nomatch among

theorem backOff_noWire : NoWire (backOff client env).outputs := by
  unfold backOff
  simp only
  split <;> exact fun _ among => nomatch among

end Acts

/-- An act sends packets of its own types only. -/
theorem step_neverSends (client : Client) {input : Act} {type : MessageTypes}
    (different : type ∉ input.sends) : NeverSends type (step client input).2 := by
  have apart : ∀ {sent : MessageTypes}, sent ∈ input.sends → sent ≠ type :=
    fun among same => different (same ▸ among)
  cases input with
  | publish topicName params env =>
      exact uiotMqttPublish_neverSends env topicName params (apart (by simp [Act.sends]))
  | subscribe topicFilter params env =>
      exact uiotMqttSubscribe_neverSends env topicFilter params (apart (by simp [Act.sends]))
  | unsubscribe topicFilter env =>
      exact uiotMqttUnsubscribe_neverSends env topicFilter (apart (by simp [Act.sends]))
  | cycle read env =>
      exact cycle_neverSends env read (apart (by simp [Act.sends])) (apart (by simp [Act.sends]))
        (apart (by simp [Act.sends]))
  | pubInfoProc env => exact (uiotMqttPubInfoProc_noWire env).neverSends
  | subInfoProc env => exact (uiotMqttSubInfoProc_noWire env).neverSends
  | keepAlive env =>
      exact mqttKeepAlive_neverSends env (apart (by simp [Act.sends])) (apart (by simp [Act.sends]))
  | disconnect env => exact uiotMqttDisconnect_neverSends env 0 (apart (by simp [Act.sends]))
  | handleDisconnect env => exact handleDisconnect_neverSends env 0 (apart (by simp [Act.sends]))
  | sendConnect options netConnectRet env =>
      exact sendConnect_neverSends env options netConnectRet (apart (by simp [Act.sends]))
  | acceptConnack env => exact (acceptConnack_noWire env).neverSends
  | backOff env => exact (backOff_noWire env).neverSends
  | closeNetwork =>
      intro header bytes among
      cases List.mem_singleton.mp among
  | raiseReconnect => exact (noWire_raise client .reconnect 0).neverSends
  | countDisconnect | scheduleReconnect => exact .nil

end UIoT.Mqtt
