import UIoT.Mqtt.PublishPackets
import UIoT.Mqtt.PacketIds
import UIoT.Mqtt.Admission

/-!
# The size of a publication

Two tests guard the send buffer: one before the packet is built, against a length that
may be one too large, and one before it is sent, which asks for a byte that is not
needed. So `uiot_mqtt_publish` says that the buffer is too short just if it is, but
where the packet has exactly its size (`publish_tooShort_iff`, `full_packet_refused`).
-/

set_option autoImplicit false

namespace UIoT.Mqtt

open Base128

/-! ## The property -/

/-- The remaining length of a publication. -/
def publishRemLen (qos : QoS) (topicName : CString) (payload : List UInt8) : Nat :=
  2 + topicName.length + payload.length + if qos ≠ .qos0 then 2 else 0

/-- The length of the packet of a publication. -/
def encodedLength (qos : QoS) (topicName : CString) (payload : List UInt8) : Nat :=
  1 + (encode (publishRemLen qos topicName payload)).length + publishRemLen qos topicName payload

/-- The buffer is called too short just if it is; both tests accept the same packets,
those that fit. -/
structure SizeTests (client : Client) (topicName : CString) (params : PublishParams)
    (payload : List UInt8) (env : Env) : Prop where
  exact : (uiotMqttPublish client topicName params env).ret = errMqttBufferTooShort ↔
    client.writeBufSize < encodedLength params.qos topicName payload
  agree : getMqttPacketLen (publishRemLen params.qos topicName payload) ≤ client.writeBufSize ↔
    ¬client.writeBufSize ≤ encodedLength params.qos topicName payload
  fits : encodedLength params.qos topicName payload ≤ client.writeBufSize →
    getMqttPacketLen (publishRemLen params.qos topicName payload) ≤ client.writeBufSize ∧
      ¬client.writeBufSize ≤ encodedLength params.qos topicName payload

/-! ## The condition -/

/-- A topic or a quality of service that is refused before the packet is built. -/
def Refused (topicName : CString) (params : PublishParams) : Prop :=
  topicName.length = 0 ∨ maxSizeOfCloudTopic < topicName.length ∨ params.qos = .qos2

/-- The packet does not have the size of the buffer, and what is refused for another
reason is not larger. -/
structure SizeDiffers (client : Client) (topicName : CString) (params : PublishParams)
    (payload : List UInt8) : Prop where
  differs : encodedLength params.qos topicName payload ≠ client.writeBufSize
  refused : Refused topicName params →
    encodedLength params.qos topicName payload ≤ client.writeBufSize

/-! ## The call -/

variable {client : Client} {topicName : CString} {params : PublishParams} {payload : List UInt8}
  {env : Env}

theorem sendMqttPacket_tooShort_iff (client : Client) (length : Nat) (results : List Int) :
    (sendMqttPacket client length results).1 = errMqttBufferTooShort ↔ client.writeBufSize ≤ length := by
  rw [sendMqttPacket]
  split
  · rename_i tooShort
    exact ⟨fun _ => tooShort, fun _ => rfl⟩
  · rename_i room
    dsimp only
    constructor
    · intro isTooShort
      split at isTooShort <;> exact absurd isTooShort (by decide)
    · exact fun tooShort => absurd tooShort room

theorem uiotMqttPublish_refused (refused : Refused topicName params) :
    (uiotMqttPublish client topicName params env).ret ≠ errMqttBufferTooShort := by
  rw [uiotMqttPublish]
  split
  · exact of_decide_eq_true rfl
  · rename_i nonempty
    split
    · exact of_decide_eq_true rfl
    · rename_i short
      split
      · exact of_decide_eq_true rfl
      · rename_i notQos2
        rcases refused with isEmpty | isLong | isQos2
        · exact absurd isEmpty nonempty
        · exact absurd isLong short
        · exact absurd isQos2 notQos2

/-- What the serializer makes of the arguments. -/
theorem serializePublishPacket_size (qos : QoS) (retained : UInt8) (packetId : UInt16)
    (bufLen : Nat) (small : publishRemLen qos topicName payload < 2 ^ 28) :
    ∃ packet, packet.length = encodedLength qos topicName payload ∧
      serializePublishPacket bufLen 0 qos retained packetId topicName (some payload) =
        if bufLen < getMqttPacketLen (publishRemLen qos topicName payload) then
          .error errMqttBufferTooShort
        else .ok packet := by
  have isRemLen : (publishBody qos packetId topicName payload).length =
      publishRemLen qos topicName payload := publishBody_length
  obtain ⟨header, isHeader⟩ : ∃ header, mqttInitPacketHeader .publish qos 0 retained = .ok header :=
    ⟨_, rfl⟩
  refine ⟨header :: (encode (publishRemLen qos topicName payload) ++
    publishBody qos packetId topicName payload), ?_, ?_⟩
  · rw [List.length_cons, List.length_append, isRemLen, encodedLength]
    omega
  · rw [serializePublishPacket_eq isHeader (isRemLen.trans_lt small), isRemLen]

/-- The code of a packet that is sent, or fails to be. -/
theorem sendMqttPacket_ret_iff {length : Nat} {results : List Int} {failed sent : Result}
    (isFailed : failed.ret = (sendMqttPacket client length results).1) (isSent : 0 ≤ sent.ret) :
    (if ¬(sendMqttPacket client length results).1 = successRet then failed else sent).ret =
        errMqttBufferTooShort ↔ client.writeBufSize ≤ length := by
  have tests := sendMqttPacket_tooShort_iff client length results
  split
  · rw [isFailed, tests]
  · rename_i succeeded
    have success := not_not.mp succeeded
    rw [← tests, success]
    constructor
    · intro negative
      rw [negative] at isSent
      exact absurd isSent (by decide)
    · exact fun isZero => absurd isZero (by decide)

/-- With room and memory, an entry is appended. -/
theorem maskPushPubInfoTo_room {length : Nat} {msgId : UInt16} (fits : length ≤ client.writeBufSize)
    (room : client.listPubWaitAck.length < maxRepubNum) (memory : env.malloc 0 ∧ env.malloc 1) :
    ∃ pushed, maskPushPubInfoTo client length msgId env 0 = (successRet, pushed) ∧
      pushed.writeBufSize = client.writeBufSize := by
  rw [maskPushPubInfoTo, if_neg (Nat.not_lt.mpr fits), if_neg (Nat.not_le.mpr room),
    if_neg (not_not.mpr memory.1), if_neg (not_not.mpr memory.2)]
  exact ⟨_, rfl, rfl⟩

/-- Behind its packet id, a publication goes through both tests. -/
theorem uiotMqttPublish_tooShort_iff (isPayload : params.payload = some payload)
    (connected : client.isConnected) (room : client.listPubWaitAck.length < maxRepubNum)
    (memory : env.malloc 0 ∧ env.malloc 1)
    (small : publishRemLen params.qos topicName payload < 2 ^ 28)
    (notRefused : ¬Refused topicName params) :
    (uiotMqttPublish client topicName params env).ret = errMqttBufferTooShort ↔
      client.writeBufSize < getMqttPacketLen (publishRemLen params.qos topicName payload) ∨
        client.writeBufSize ≤ encodedLength params.qos topicName payload := by
  rw [Refused, not_or, not_or] at notRefused
  obtain ⟨nonempty, short, notQos2⟩ := notRefused
  have bounds := getMqttPacketLen_bounds small
  rw [uiotMqttPublish, if_neg nonempty, if_neg short, if_neg notQos2, if_neg (not_not.mpr connected),
    isPayload]
  cases quality : params.qos with
  | qos2 => exact absurd quality notQos2
  | qos0 =>
      rw [quality] at small bounds
      obtain ⟨packet, length, built⟩ :=
        serializePublishPacket_size .qos0 params.retained params.id client.writeBufSize small
      simp only [reduceCtorEq, if_false, ne_eq, not_true_eq_false, built]
      by_cases large : client.writeBufSize < getMqttPacketLen (publishRemLen .qos0 topicName payload)
      · rw [if_pos large]
        exact ⟨fun _ => .inl large, fun _ => rfl⟩
      · rw [if_neg large, or_iff_right large]
        dsimp only
        rw [sendMqttPacket_ret_iff rfl (Int.natCast_nonneg _), length]
        rfl
  | qos1 =>
      rw [quality] at small bounds
      obtain ⟨packet, length, built⟩ := serializePublishPacket_size .qos1 params.retained
        (getNextPacketId client).1 client.writeBufSize small
      have sameSize : (getNextPacketId client).2.writeBufSize = client.writeBufSize := rfl
      simp only [if_true, ne_eq, reduceCtorEq, not_false_eq_true, sameSize, built]
      by_cases large : client.writeBufSize < getMqttPacketLen (publishRemLen .qos1 topicName payload)
      · rw [if_pos large]
        exact ⟨fun _ => .inl large, fun _ => rfl⟩
      · have fits : packet.length ≤ client.writeBufSize := by
          rw [length, encodedLength]
          omega
        obtain ⟨pushed, isPushed, pushedSize⟩ :=
          @maskPushPubInfoTo_room ((getNextPacketId client).2.store packet) env packet.length
            (getNextPacketId client).1 fits room memory
        rw [if_neg large, or_iff_right large]
        simp only [isPushed, not_true_eq_false, if_false]
        rw [sendMqttPacket_ret_iff rfl (Int.natCast_nonneg _), length, pushedSize]
        rfl

/-- A publication with quality of service 1 behind the tests in front of its packet. -/
theorem uiotMqttPublish_qos1 (quality : params.qos = .qos1) (isPayload : params.payload = some payload)
    (small : publishRemLen .qos1 topicName payload < 2 ^ 28)
    (fits : getMqttPacketLen (publishRemLen .qos1 topicName payload) ≤ client.writeBufSize)
    (connected : client.isConnected) (notRefused : ¬Refused topicName params)
    (room : client.listPubWaitAck.length < maxRepubNum) (memory : env.malloc 0 ∧ env.malloc 1) :
    ∃ pushed : Client, pushed.writeBufSize = client.writeBufSize ∧
      let sent := sendMqttPacket pushed (encodedLength .qos1 topicName payload) (env.writes 0)
      (sent.1 = successRet → 0 ≤ (uiotMqttPublish client topicName params env).ret) := by
  rw [Refused, not_or, not_or] at notRefused
  obtain ⟨nonempty, short, notQos2⟩ := notRefused
  obtain ⟨packet, length, built⟩ := serializePublishPacket_size .qos1 params.retained
    (getNextPacketId client).1 client.writeBufSize small
  have bounds := getMqttPacketLen_bounds small
  have within : packet.length ≤ client.writeBufSize := by
    rw [length, encodedLength]
    omega
  obtain ⟨pushed, isPushed, pushedSize⟩ :=
    @maskPushPubInfoTo_room ((getNextPacketId client).2.store packet) env packet.length
      (getNextPacketId client).1 within room memory
  refine ⟨pushed, pushedSize, ?_⟩
  intro sent succeeded
  have sameSize : (getNextPacketId client).2.writeBufSize = client.writeBufSize := rfl
  have isSent : (sendMqttPacket pushed packet.length (env.writes 0)).1 = successRet := by
    rw [length]
    exact succeeded
  rw [uiotMqttPublish, if_neg nonempty, if_neg short, if_neg notQos2, if_neg (not_not.mpr connected),
    isPayload]
  simp only [quality, if_true, sameSize, built, if_neg (Nat.not_lt.mpr fits), ne_eq, reduceCtorEq,
    not_false_eq_true, isPushed, not_true_eq_false, if_false, isSent]
  exact Int.natCast_nonneg _

/-- One write that takes the whole packet sends it. -/
theorem sendMqttPacket_calm {length : Nat} (fits : length < client.writeBufSize)
    (nonempty : 0 < length) : (sendMqttPacket client length [(length : Int)]).1 = successRet := by
  have notNegative : ¬(length : Int) < 0 := Int.not_lt.mpr (Int.natCast_nonneg length)
  rw [sendMqttPacket, if_neg (Nat.not_le.mpr fits)]
  simp only [sendLoop, if_pos nonempty, if_neg notNegative, Int.toNat_natCast, Nat.zero_add, if_true]

/-- What is published is shorter than the send buffer. -/
theorem uiotMqttPublish_fits (quality : params.qos = .qos1) (isPayload : params.payload = some payload)
    (small : publishRemLen .qos1 topicName payload < 2 ^ 28)
    (returned : 0 ≤ (uiotMqttPublish client topicName params env).ret) :
    encodedLength .qos1 topicName payload < client.writeBufSize := by
  have notQos2 : ¬QoS.qos1 = .qos2 := by decide
  have notQos0 : QoS.qos1 ≠ .qos0 := by decide
  obtain ⟨packet, length, built⟩ := serializePublishPacket_size .qos1 params.retained
    (getNextPacketId client).1 client.writeBufSize small
  have sameSize : (getNextPacketId client).2.writeBufSize = client.writeBufSize := rfl
  by_contra large
  have tooShort : errMqttBufferTooShort ≠ successRet := by decide
  rw [uiotMqttPublish, isPayload] at returned
  simp only [quality, if_neg notQos2, if_pos notQos0, if_true, sameSize, built] at returned
  split at returned
  · exact absurd returned (show ¬0 ≤ errParamInvalid by decide)
  split at returned
  · exact absurd returned (show ¬0 ≤ errMaxTopicLength by decide)
  split at returned
  · exact absurd returned (show ¬0 ≤ errMqttNoConn by decide)
  split at returned
  · rename_i isError
    split at isError
    · cases isError
      exact absurd returned (show ¬0 ≤ errMqttBufferTooShort by decide)
    · cases isError
  rename_i isPacket
  split at isPacket
  · cases isPacket
  obtain rfl := Except.ok.inj isPacket
  rcases maskPushPubInfoTo_pushes ((getNextPacketId client).2.store packet) packet.length
      (getNextPacketId client).1 env 0 with negative | ⟨_, entry, pushed⟩
  · simp only [ne_eq, Int.ne_of_lt negative, not_false_eq_true, if_true] at returned
    exact absurd returned (Int.not_le.mpr negative)
  · obtain ⟨pushedClient, isPushed, sameBuf⟩ : ∃ pushedClient : Client,
        maskPushPubInfoTo ((getNextPacketId client).2.store packet) packet.length
          (getNextPacketId client).1 env 0 = (successRet, pushedClient) ∧
        pushedClient.writeBufSize = client.writeBufSize := ⟨_, pushed, rfl⟩
    have notSent : (sendMqttPacket pushedClient packet.length (env.writes 0)).1 =
        errMqttBufferTooShort := by
      rw [sendMqttPacket_tooShort_iff, sameBuf, length]
      exact Nat.not_lt.mp large
    simp only [isPushed, ne_eq, not_true_eq_false, if_false] at returned
    rw [notSent, if_pos tooShort] at returned
    exact absurd returned (show ¬0 ≤ errMqttBufferTooShort by decide)

/-- **Sizes.** On a connected client with room in its wait list, a publication is called
too long just as the tests agree that it is, unless it has the size of the buffer. -/
theorem publish_tooShort_iff (client : Client) (topicName : CString) (params : PublishParams)
    (payload : List UInt8) (env : Env) (isPayload : params.payload = some payload)
    (connected : client.isConnected) (room : client.listPubWaitAck.length < maxRepubNum)
    (memory : env.malloc 0 ∧ env.malloc 1)
    (small : publishRemLen params.qos topicName payload < 2 ^ 28) :
    SizeTests client topicName params payload env ↔ SizeDiffers client topicName params payload := by
  have bounds := getMqttPacketLen_bounds small
  have isLength : encodedLength params.qos topicName payload =
      1 + (encode (publishRemLen params.qos topicName payload)).length +
        publishRemLen params.qos topicName payload := rfl
  constructor
  · rintro ⟨exact, agree, fits⟩
    refine ⟨fun same => ?_, fun refused => ?_⟩
    · have within := fits (Nat.le_of_eq same)
      omega
    · exact Nat.not_lt.mp fun large => uiotMqttPublish_refused refused (exact.mpr large)
  · rintro ⟨differs, small'⟩
    refine ⟨?_, ?_, ?_⟩
    · by_cases refused : Refused topicName params
      · have fits := small' refused
        exact ⟨fun isTooShort => absurd isTooShort (uiotMqttPublish_refused refused),
          fun large => absurd large (Nat.not_lt.mpr fits)⟩
      · rw [uiotMqttPublish_tooShort_iff isPayload connected room memory small refused]
        omega
    · omega
    · intro fits
      omega

/-- A client that is connected. -/
def attachedClient : Client := { uiotMqttInit ⟨1000, false⟩ with isConnected := true }

/-- A publication of zeros. -/
def zeros (length : Nat) : PublishParams := ⟨.qos0, 0, 0, some (List.replicate length 0)⟩

theorem publishRemLen_zeros (length : Nat) :
    publishRemLen .qos0 [0x74] (List.replicate length 0) = 3 + length := by
  rw [publishRemLen, List.length_replicate]
  rfl

/-- A packet of 13 bytes. -/
theorem publish_tooShort_small : SizeTests attachedClient [0x74] (zeros 8) (List.replicate 8 0) (calm 13) :=
  (publish_tooShort_iff attachedClient [0x74] (zeros 8) (List.replicate 8 0) (calm 13) rfl rfl
    (by decide) ⟨rfl, rfl⟩ (by decide)).mpr ⟨by decide +kernel, fun refused => by
      rcases refused with isEmpty | isLong | isQos2
      · cases isEmpty
      · exact absurd isLong (by decide)
      · cases isQos2⟩

/-- A packet that fills the buffer of 2048 bytes is refused as too long. -/
theorem full_packet_refused :
    (uiotMqttPublish attachedClient [0x74] (zeros 2042) (calm 2048)).ret = errMqttBufferTooShort ∧
      ¬SizeTests attachedClient [0x74] (zeros 2042) (List.replicate 2042 0) (calm 2048) := by
  have remLen := publishRemLen_zeros 2042
  have isFull : encodedLength .qos0 [0x74] (List.replicate 2042 0) = 2048 := by
    rw [encodedLength, remLen]
    decide +kernel
  have notRefused : ¬Refused [0x74] (zeros 2042) := by
    rintro (isEmpty | isLong | isQos2)
    · cases isEmpty
    · exact absurd isLong (by decide)
    · cases isQos2
  refine ⟨(uiotMqttPublish_tooShort_iff rfl rfl (by decide) ⟨rfl, rfl⟩ ?_ notRefused).mpr (.inr ?_), ?_⟩
  · exact remLen.trans_lt (by decide)
  · exact Nat.le_of_eq isFull.symm
  · intro tests
    exact (tests.fits (Nat.le_of_eq isFull)).2 (Nat.le_of_eq isFull.symm)

end UIoT.Mqtt
