import UIoT.Mqtt.Slots

/-!
# Subscribing again

A SUBSCRIBE goes out when there is room in the wait list, the allocations
succeed and the network accepts the packet in time. `uiot_mqtt_resubscribe`
subscribes again for every occupied slot, and succeeds exactly when the entries
left in the wait list leave room for all of them, no slot asks for quality of
service 2, and neither an allocation nor a write fails
(`uiotMqttResubscribe_success_iff`).
-/

set_option autoImplicit false

namespace UIoT.Mqtt

open Base128

/-! ## A SUBSCRIBE packet -/

/-- A SUBSCRIBE packet with one filter. -/
def subscribePacket (packetId : UInt16) (topicFilter : CString) (qos : QoS) : List UInt8 :=
  0x82 :: (mqttWritePacketRemLen (topicFilter.length + 5) ++ mqttWriteUint16 packetId ++
    mqttWriteUtf8String topicFilter ++ [qos.toUInt8])

/-- The length of a SUBSCRIBE packet. -/
def subscribePacketLen (topicFilter : CString) : Nat :=
  topicFilter.length + 6 + (mqttWritePacketRemLen (topicFilter.length + 5)).length

theorem subscribePacket_length (packetId : UInt16) (topicFilter : CString) (qos : QoS) :
    (subscribePacket packetId topicFilter qos).length = subscribePacketLen topicFilter := by
  simp only [subscribePacket, subscribePacketLen, mqttWriteUint16, mqttWriteUtf8String,
    List.length_cons, List.length_append, List.length_nil]
  omega

theorem subscribePacketLen_lt {topicFilter : CString} (checked : FilterLength topicFilter) :
    subscribePacketLen topicFilter < uiotMqttTxBufLen := by
  have short : topicFilter.length ≤ 128 := checked.2
  have field : (encode (topicFilter.length + 5)).length ≤ 2 :=
    (encode_length_le_iff 1 _).mpr (by omega)
  rw [subscribePacketLen, mqttWritePacketRemLen_eq_encode]
  have size : uiotMqttTxBufLen = 2048 := rfl
  omega

/-- A SUBSCRIBE packet for a filter that the requests accept is built. -/
theorem serializeSubscribePacket_ok {topicFilter : CString} (checked : FilterLength topicFilter)
    (packetId : UInt16) (qos : QoS) :
    serializeSubscribePacket uiotMqttTxBufLen 0 packetId 1 [topicFilter] [] [qos] =
      .ok (subscribePacket packetId topicFilter qos) := by
  have short : topicFilter.length ≤ 128 := checked.2
  have remLen : getSubscribePacketRemLen [] 1 [topicFilter] = topicFilter.length + 5 := by
    simp only [getSubscribePacketRemLen, filterAt, List.range_one, List.map_cons, List.map_nil,
      List.sum_cons, List.sum_nil, Nat.zero_le, if_true, List.drop_zero, List.headD_cons]
    omega
  have fits : ¬uiotMqttTxBufLen < getMqttPacketLen (topicFilter.length + 5) := by
    have size : uiotMqttTxBufLen = 2048 := rfl
    rw [getMqttPacketLen]
    split
    · omega
    split
    · omega
    · omega
  have header : mqttInitPacketHeader .subscribe .qos1 0 0 = .ok 0x82 := rfl
  simp only [serializeSubscribePacket, remLen, if_neg fits, header]
  simp [subscribePacket, filterAt, List.range_one, bind, Except.bind, pure, Except.pure]

/-! ## Sending -/

/-- How many bytes the writes of a packet accept before its timer runs out. -/
def acceptedBytes (length : Nat) : List Int → Nat → Nat
  | [], sent => sent
  | sendLen :: results, sent =>
      if sent < length then
        if sendLen < 0 then sent else acceptedBytes length results (sent + sendLen.toNat)
      else sent

theorem le_acceptedBytes (length : Nat) (results : List Int) (sent : Nat) :
    sent ≤ acceptedBytes length results sent := by
  induction results generalizing sent with
  | nil => exact Nat.le_refl sent
  | cons sendLen results inductionHypothesis =>
      rw [acceptedBytes]
      split
      · split
        · exact Nat.le_refl sent
        · exact Nat.le_trans (Nat.le_add_right _ _) (inductionHypothesis _)
      · exact Nat.le_refl sent

theorem sendLoop_eq (writeBuf : List UInt8) (length : Nat) (results : List Int) (sent : Nat) :
    sendLoop writeBuf length results sent =
      ((writeBuf.drop sent).take (acceptedBytes length results sent - sent),
        acceptedBytes length results sent) := by
  induction results generalizing sent with
  | nil => simp [sendLoop, acceptedBytes]
  | cons sendLen results inductionHypothesis =>
      rw [sendLoop, acceptedBytes]
      split
      · split
        · simp
        · have more := le_acceptedBytes length results (sent + sendLen.toNat)
          have total : acceptedBytes length results (sent + sendLen.toNat) - sent =
              sendLen.toNat + (acceptedBytes length results (sent + sendLen.toNat) -
                (sent + sendLen.toNat)) := by omega
          rw [inductionHypothesis, total, List.take_add, List.drop_drop]
      · simp

/-- A packet in the send buffer is sent when the network accepts all of it. -/
theorem sendMqttPacket_store (client : Client) (packet : List UInt8) (results : List Int)
    (fits : packet.length < client.writeBufSize) :
    sendMqttPacket (client.store packet) packet.length results =
      (if acceptedBytes packet.length results 0 = packet.length then successRet else failureRet,
        [.wire ((overwrite client.writeBuf 0 packet).take (acceptedBytes packet.length results 0))]) := by
  have stored : (client.store packet).writeBuf = overwrite client.writeBuf 0 packet := rfl
  have size : ¬(client.store packet).writeBufSize ≤ packet.length := Nat.not_le.mpr fits
  rw [sendMqttPacket, if_neg size, sendLoop_eq, stored]
  simp

/-! ## One subscription -/

/-- A request that has its packet is accepted when there is room, its entry is
allocated and its packet is accepted. -/
theorem sendSubRequest_of_accepted {client : Client} {packet : List UInt8} {packetId : UInt16}
    {type : MessageTypes} {handler : SubTopicHandle} {env : Env}
    (fits : packet.length < client.writeBufSize)
    (room : client.listSubWaitAck.length < maxSubTopics)
    (allocates : env.malloc 1 = true ∧ env.malloc 2 = true)
    (accepts : acceptedBytes packet.length (env.writes 0) 0 = packet.length) :
    ∃ buf timer,
      sendSubRequest client packet packetId type handler env =
        ⟨packetId.toNat,
          { client with
            writeBuf := buf
            listSubWaitAck := client.listSubWaitAck ++
              [⟨client.issued, type, packetId, timer, .normal, handler⟩] },
          [.wire packet]⟩ := by
  have notFull : ¬maxSubTopics ≤ (client.store packet).listSubWaitAck.length := Nat.not_le.mpr room
  let timer := countdownMs env.rtTickFromMillisecond (env.tick 0) client.commandTimeoutMs
  let admitted : Client := { client with
    listSubWaitAck := client.listSubWaitAck ++
      [⟨client.issued, type, packetId, timer, .normal, handler⟩] }
  have pushed : pushSubInfoTo (client.store packet) packetId type handler env 1 =
      (successRet, admitted.store packet) := by
    rw [pushSubInfoTo, if_neg notFull, if_neg (by simp [allocates.1]),
      if_neg (by simp [allocates.2])]
    rfl
  have sent := sendMqttPacket_store admitted packet (env.writes 0) fits
  rw [accepts, if_pos rfl, overwrite_zero, List.take_left] at sent
  refine ⟨overwrite client.writeBuf 0 packet, timer, ?_⟩
  simp only [sendSubRequest, pushed, ne_eq, not_true_eq_false, if_false, sent]
  rfl

theorem accepted_of_sendSubRequest {client : Client} {packet : List UInt8} {packetId : UInt16}
    {type : MessageTypes} {handler : SubTopicHandle} {env : Env}
    (fits : packet.length < client.writeBufSize)
    (returned : 0 ≤ (sendSubRequest client packet packetId type handler env).ret) :
    client.listSubWaitAck.length < maxSubTopics ∧ (env.malloc 1 = true ∧ env.malloc 2 = true) ∧
      acceptedBytes packet.length (env.writes 0) 0 = packet.length := by
  have failure : failureRet ≠ successRet ∧ ¬0 ≤ failureRet := by decide
  have full : errMqttMaxSubscriptionsReached ≠ successRet ∧
      ¬0 ≤ errMqttMaxSubscriptionsReached := by decide
  simp only [sendSubRequest, pushSubInfoTo] at returned
  split at returned
  · simp only [if_pos full.1] at returned
    exact absurd returned full.2
  rename_i room
  split at returned
  · simp only [if_pos failure.1] at returned
    exact absurd returned failure.2
  rename_i malloc1
  split at returned
  · simp only [if_pos failure.1] at returned
    exact absurd returned failure.2
  rename_i malloc2
  let timer := countdownMs env.rtTickFromMillisecond (env.tick 0) client.commandTimeoutMs
  have sent := sendMqttPacket_store { client with
    listSubWaitAck := listRpush client.listSubWaitAck
      ⟨client.issued, type, packetId, timer, .normal, handler⟩ } packet (env.writes 0) fits
  simp only [Client.store] at sent
  refine ⟨Nat.not_le.mp room, ⟨by simpa using malloc1, by simpa using malloc2⟩, ?_⟩
  by_contra short
  rw [if_neg short] at sent
  simp only [Client.store, ne_eq, not_true_eq_false, if_false, timer] at returned sent
  simp only [sent, failure.1, not_false_eq_true, if_true] at returned
  exact absurd returned failure.2

/-- The world serves a subscription: its allocations succeed and its packet is
accepted. -/
structure Env.Serves (env : Env) (topicFilter : CString) : Prop where
  allocates : env.malloc 0 = true ∧ env.malloc 1 = true ∧ env.malloc 2 = true
  accepts : acceptedBytes (subscribePacketLen topicFilter) (env.writes 0) 0 =
    subscribePacketLen topicFilter

instance (env : Env) (topicFilter : CString) : Decidable (env.Serves topicFilter) :=
  decidable_of_iff ((env.malloc 0 = true ∧ env.malloc 1 = true ∧ env.malloc 2 = true) ∧
      acceptedBytes (subscribePacketLen topicFilter) (env.writes 0) 0 =
        subscribePacketLen topicFilter)
    ⟨fun holds => ⟨holds.1, holds.2⟩, fun serves => ⟨serves.allocates, serves.accepts⟩⟩

section Subscribe

variable {client : Client} {topicFilter : CString} {params : SubscribeParams} {env : Env}

/-- A subscription of a connected client whose filter is accepted, up to its
entry. -/
theorem uiotMqttSubscribe_eq (connected : client.isConnected = true)
    (bufSize : client.writeBufSize = uiotMqttTxBufLen) (checked : FilterLength topicFilter) :
    uiotMqttSubscribe client topicFilter params env =
      if params.qos = .qos2 then ⟨errMqttQosNotSupport, client, []⟩
      else if ¬env.malloc 0 then ⟨failureRet, client, []⟩
      else
        sendSubRequest (getNextPacketId client).2
          (subscribePacket (getNextPacketId client).1 topicFilter params.qos)
          (getNextPacketId client).1 .subscribe
          ⟨some topicFilter, params.onMessageHandler, params.userData, params.qos⟩ env := by
  have nonempty : topicFilter.length ≠ 0 := Nat.pos_iff_ne_zero.mp checked.1
  have short : ¬maxSizeOfCloudTopic < topicFilter.length := Nat.not_lt.mpr checked.2
  have size : (getNextPacketId client).2.writeBufSize = uiotMqttTxBufLen := bufSize
  rw [uiotMqttSubscribe, if_neg nonempty, if_neg short]
  simp only [connected, not_true_eq_false, if_false, size, serializeSubscribePacket_ok checked]

/-- The packet of a subscription is shorter than the send buffer. -/
theorem subscribePacket_fits (bufSize : client.writeBufSize = uiotMqttTxBufLen)
    (checked : FilterLength topicFilter) (packetId : UInt16) (qos : QoS) :
    (subscribePacket packetId topicFilter qos).length < client.writeBufSize := by
  rw [subscribePacket_length, bufSize]
  exact subscribePacketLen_lt checked

/-- A subscription that is served is accepted, and its packet is sent. -/
theorem uiotMqttSubscribe_of_serves (connected : client.isConnected = true)
    (bufSize : client.writeBufSize = uiotMqttTxBufLen) (checked : FilterLength topicFilter)
    (quality : params.qos ≠ .qos2) (room : client.listSubWaitAck.length < maxSubTopics)
    (serves : env.Serves topicFilter) :
    ∃ after packetId entry,
      uiotMqttSubscribe client topicFilter params env =
          ⟨UInt16.toNat packetId, after, [.wire (subscribePacket packetId topicFilter params.qos)]⟩ ∧
        after.subHandles = client.subHandles ∧ after.connection = client.connection ∧
        after.listSubWaitAck = client.listSubWaitAck ++ [entry] ∧
        entry.handler.topicFilter = some topicFilter := by
  have accepts := serves.accepts
  rw [← subscribePacket_length (getNextPacketId client).1 topicFilter params.qos] at accepts
  rw [uiotMqttSubscribe_eq connected bufSize checked, if_neg quality,
    if_neg (by simp [serves.allocates.1])]
  obtain ⟨buf, timer, result⟩ := @sendSubRequest_of_accepted (getNextPacketId client).2 _ _ _ _ _
    (subscribePacket_fits bufSize checked _ _) room serves.allocates.2 accepts
  exact ⟨_, _, _, result, rfl, rfl, rfl, rfl⟩

/-- A subscription that is accepted is served. -/
theorem serves_of_uiotMqttSubscribe (connected : client.isConnected = true)
    (bufSize : client.writeBufSize = uiotMqttTxBufLen) (checked : FilterLength topicFilter)
    (returned : 0 ≤ (uiotMqttSubscribe client topicFilter params env).ret) :
    params.qos ≠ .qos2 ∧ client.listSubWaitAck.length < maxSubTopics ∧ env.Serves topicFilter := by
  have refused : ¬0 ≤ errMqttQosNotSupport ∧ ¬0 ≤ failureRet := by decide
  rw [uiotMqttSubscribe_eq connected bufSize checked] at returned
  split at returned
  · exact absurd returned refused.1
  rename_i quality
  split at returned
  · exact absurd returned refused.2
  rename_i malloc0
  obtain ⟨room, allocates, accepts⟩ :=
    @accepted_of_sendSubRequest (getNextPacketId client).2 _ _ _ _ _
      (subscribePacket_fits bufSize checked _ _) returned
  rw [subscribePacket_length] at accepts
  exact ⟨quality, room, ⟨by simpa using malloc0, allocates⟩, accepts⟩

end Subscribe

/-! ## The loop over the slots -/

/-- The occupied slots among some. -/
def occupied (client : Client) (slots : List (Fin maxSubTopics)) : List (Fin maxSubTopics) :=
  slots.filter fun i => (client.subHandles.get i).topicFilter.isSome

/-- All occupied slots among some can be subscribed again, one after the other:
the wait list has room for them, and each is served. -/
structure Resubscribable (client : Client) (envs : Nat → Env) (slots : List (Fin maxSubTopics)) :
    Prop where
  room : occupied client slots ≠ [] →
    client.listSubWaitAck.length + (occupied client slots).length ≤ maxSubTopics
  quality : ∀ i ∈ occupied client slots, (client.subHandles.get i).qos ≠ .qos2
  serves : ∀ i ∈ occupied client slots, ∀ topicFilter ∈ (client.subHandles.get i).topicFilter,
    (envs i).Serves topicFilter

instance (client : Client) (envs : Nat → Env) (slots : List (Fin maxSubTopics)) :
    Decidable (Resubscribable client envs slots) :=
  have serves : Decidable (∀ i ∈ occupied client slots,
      ∀ topicFilter ∈ (client.subHandles.get i).topicFilter, (envs i).Serves topicFilter) :=
    inferInstance
  have quality : Decidable (∀ i ∈ occupied client slots, (client.subHandles.get i).qos ≠ .qos2) :=
    inferInstance
  have room : Decidable (occupied client slots ≠ [] →
      client.listSubWaitAck.length + (occupied client slots).length ≤ maxSubTopics) :=
    inferInstance
  decidable_of_iff (_ ∧ _ ∧ _)
    ⟨fun holds => ⟨holds.1, holds.2.1, holds.2.2⟩, fun all => ⟨all.room, all.quality, all.serves⟩⟩

/-- A SUBSCRIBE for a slot is among the outputs. -/
def SubscribesSlot (slot : SubTopicHandle) (outputs : List Output) : Prop :=
  ∀ topicFilter, slot.topicFilter = some topicFilter →
    ∃ packetId, Output.wire (subscribePacket packetId topicFilter slot.qos) ∈ outputs

section Loop

variable {envs : Nat → Env}

theorem occupied_cons_none {client : Client} {i : Fin maxSubTopics} (slots : List (Fin maxSubTopics))
    (free : (client.subHandles.get i).topicFilter = none) :
    occupied client (i :: slots) = occupied client slots :=
  List.filter_cons_of_neg (by simpa using free)

theorem occupied_cons_some {client : Client} {i : Fin maxSubTopics} {topicFilter : CString}
    (slots : List (Fin maxSubTopics)) (holds : (client.subHandles.get i).topicFilter = some topicFilter) :
    occupied client (i :: slots) = i :: occupied client slots :=
  List.filter_cons_of_pos (by rw [holds]; rfl)

/-- The parameters with which the loop subscribes for a slot. -/
abbrev SubTopicHandle.params (slot : SubTopicHandle) : SubscribeParams :=
  ⟨slot.qos, slot.messageHandler, slot.messageHandlerData⟩

theorem resubscribeLoop_cons_none {client : Client} {i : Fin maxSubTopics}
    (slots : List (Fin maxSubTopics)) (free : (client.subHandles.get i).topicFilter = none) :
    resubscribeLoop envs client (i :: slots) = resubscribeLoop envs client slots := by
  simp only [resubscribeLoop, free]

theorem resubscribeLoop_cons_some {client : Client} {i : Fin maxSubTopics} {topicFilter : CString}
    (slots : List (Fin maxSubTopics)) (holds : (client.subHandles.get i).topicFilter = some topicFilter) :
    resubscribeLoop envs client (i :: slots) =
      let subscribed := uiotMqttSubscribe client topicFilter (client.subHandles.get i).params (envs i)
      let later := resubscribeLoop envs subscribed.client slots
      if subscribed.ret < 0 then subscribed
      else { later with outputs := subscribed.outputs ++ later.outputs } := by
  simp only [resubscribeLoop, holds]

/-- The slots that can be subscribed again once the first has been. -/
theorem resubscribable_cons_iff {client after : Client} {i : Fin maxSubTopics}
    {topicFilter : CString} {slots : List (Fin maxSubTopics)}
    (holds : (client.subHandles.get i).topicFilter = some topicFilter)
    (sameSlots : after.subHandles = client.subHandles)
    (longer : after.listSubWaitAck.length = client.listSubWaitAck.length + 1)
    (room : client.listSubWaitAck.length < maxSubTopics)
    (quality : (client.subHandles.get i).qos ≠ .qos2) (serves : (envs i).Serves topicFilter) :
    Resubscribable client envs (i :: slots) ↔ Resubscribable after envs slots := by
  have sameOccupied : occupied after slots = occupied client slots := by
    rw [occupied, occupied, sameSlots]
  have here := occupied_cons_some slots holds
  refine ⟨fun all => ⟨fun more => ?_, fun j among => ?_, fun j among filter isFilter => ?_⟩,
    fun rest => ⟨fun _ => ?_, fun j among => ?_, fun j among filter isFilter => ?_⟩⟩
  · have total := all.room (by rw [here]; exact List.cons_ne_nil _ _)
    rw [here, List.length_cons] at total
    rw [sameOccupied, longer]
    omega
  · rw [sameOccupied] at among
    rw [sameSlots]
    exact all.quality j (here ▸ List.mem_cons_of_mem _ among)
  · rw [sameOccupied] at among
    rw [sameSlots] at isFilter
    exact all.serves j (here ▸ List.mem_cons_of_mem _ among) filter isFilter
  · rw [here, List.length_cons]
    by_cases more : occupied after slots = []
    · rw [← sameOccupied, more, List.length_nil]
      omega
    · have total := rest.room more
      rw [sameOccupied, longer] at total
      omega
  · rw [here] at among
    rcases List.mem_cons.mp among with rfl | later
    · exact quality
    · have isLater := rest.quality j (sameOccupied ▸ later)
      rwa [sameSlots] at isLater
  · rw [here] at among
    rcases List.mem_cons.mp among with rfl | later
    · rw [holds] at isFilter
      exact Option.some.inj isFilter ▸ serves
    · exact rest.serves j (sameOccupied ▸ later) filter (by rw [sameSlots]; exact isFilter)

/-- What the loop has done when it succeeds. -/
structure Resubscribed (client : Client) (slots : List (Fin maxSubTopics)) (result : Result) :
    Prop where
  sameSlots : result.client.subHandles = client.subHandles
  wires : WireOnly result.outputs
  sent : ∀ i ∈ slots, SubscribesSlot (client.subHandles.get i) result.outputs

/-- The loop succeeds exactly when all slots can be subscribed again, and then
it has sent a SUBSCRIBE for each. -/
theorem resubscribeLoop_success_iff {client : Client} (slots : List (Fin maxSubTopics))
    (connected : client.isConnected = true) (sound : client.Sound) :
    let resubscribed := resubscribeLoop envs client slots
    (resubscribed.ret = successRet ↔ Resubscribable client envs slots) ∧
      (resubscribed.ret = successRet → Resubscribed client slots resubscribed) := by
  induction slots generalizing client with
  | nil =>
      refine ⟨⟨fun _ => ⟨fun none => absurd rfl none, ?_, ?_⟩, fun _ => rfl⟩,
        fun _ => ⟨rfl, wireOnly_nil, fun i among => nomatch among⟩⟩
      · intro i among
        cases among
      · intro i among
        cases among
  | cons i slots inductionHypothesis =>
      cases holds : (client.subHandles.get i).topicFilter with
      | none =>
          rw [resubscribeLoop_cons_none slots holds]
          obtain ⟨success, sent⟩ := inductionHypothesis connected sound
          have same := occupied_cons_none slots holds
          refine ⟨success.trans ⟨fun rest => ⟨?_, ?_, ?_⟩, fun all => ⟨?_, ?_, ?_⟩⟩,
            fun succeeded => ⟨(sent succeeded).sameSlots, (sent succeeded).wires,
              fun j among => ?_⟩⟩
          · rw [same]
            exact rest.room
          · rw [same]
            exact rest.quality
          · rw [same]
            exact rest.serves
          · rw [← same]
            exact all.room
          · rw [← same]
            exact all.quality
          · rw [← same]
            exact all.serves
          · rcases List.mem_cons.mp among with rfl | later
            · intro topicFilter isFilter
              rw [holds] at isFilter
              cases isFilter
            · exact (sent succeeded).sent j later
      | some topicFilter =>
          have checked := sound.slots i topicFilter holds
          rw [resubscribeLoop_cons_some slots holds]
          generalize isParams : (client.subHandles.get i).params = params
          have sameQos : params.qos = (client.subHandles.get i).qos := by rw [← isParams]
          simp only
          by_cases failed : (uiotMqttSubscribe client topicFilter params (envs i)).ret < 0
          · rw [if_pos failed]
            have notSuccess :
                (uiotMqttSubscribe client topicFilter params (envs i)).ret ≠ successRet :=
              Int.ne_of_lt failed
            refine ⟨⟨fun success => absurd success notSuccess, fun all => ?_⟩,
              fun success => absurd success notSuccess⟩
            have here : i ∈ occupied client (i :: slots) :=
              occupied_cons_some slots holds ▸ List.mem_cons_self ..
            have total := all.room (List.ne_nil_of_mem here)
            rw [occupied_cons_some slots holds, List.length_cons] at total
            obtain ⟨_, _, _, accepted, -⟩ := @uiotMqttSubscribe_of_serves client topicFilter params
              (envs i) connected sound.writeBufSize checked (sameQos ▸ all.quality i here) (by omega)
              (all.serves i here topicFilter holds)
            rw [accepted] at failed
            exact absurd failed (Int.not_lt.mpr (Int.natCast_nonneg _))
          · rw [if_neg failed]
            obtain ⟨quality, room, serves⟩ := @serves_of_uiotMqttSubscribe client topicFilter params
              (envs i) connected sound.writeBufSize checked (Int.not_lt.mp failed)
            obtain ⟨after, packetId, entry, accepted, sameSlots, sameConnection, admitted, isFilter⟩ :=
              @uiotMqttSubscribe_of_serves client topicFilter params (envs i) connected
                sound.writeBufSize checked quality room serves
            rw [accepted]
            have afterSound : after.Sound := sound.enter sameSlots admitted
              (congrArg Connection.writeBufSize sameConnection) fun filter isSame => by
                rw [isFilter] at isSame
                exact Option.some.inj isSame ▸ checked
            obtain ⟨success, sent⟩ := inductionHypothesis
              ((congrArg Connection.isConnected sameConnection).trans connected) afterSound
            refine ⟨success.trans (resubscribable_cons_iff holds sameSlots ?_ room
              (sameQos ▸ quality) serves).symm, fun succeeded => ⟨?_, ?_, fun j among => ?_⟩⟩
            · rw [admitted, List.length_append, List.length_singleton]
            · exact (sent succeeded).sameSlots.trans sameSlots
            · intro output among
              rcases List.mem_append.mp among with first | later
              · exact ⟨_, List.mem_singleton.mp first⟩
              · exact (sent succeeded).wires output later
            · rcases List.mem_cons.mp among with rfl | later
              · intro filter isFilter
                rw [holds] at isFilter
                obtain rfl := Option.some.inj isFilter
                exact ⟨packetId, List.mem_append_left _ (List.mem_singleton.mpr (sameQos ▸ rfl))⟩
              · intro filter isFilter
                rw [← sameSlots] at isFilter ⊢
                obtain ⟨packetId, isSent⟩ := (sent succeeded).sent j later filter isFilter
                exact ⟨packetId, List.mem_append_right _ isSent⟩

theorem uiotMqttResubscribe_success_iff {client : Client} (connected : client.isConnected = true)
    (sound : client.Sound) :
    let resubscribed := uiotMqttResubscribe client envs
    (resubscribed.ret = successRet ↔ Resubscribable client envs (List.finRange maxSubTopics)) ∧
      (resubscribed.ret = successRet →
        Resubscribed client (List.finRange maxSubTopics) resubscribed) := by
  rw [uiotMqttResubscribe, if_neg (by simp [connected])]
  exact resubscribeLoop_success_iff _ connected sound

end Loop

end UIoT.Mqtt
