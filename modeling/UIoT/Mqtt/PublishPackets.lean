import UIoT.Mqtt.Format

/-!
# PUBLISH, written and read

What `_serialize_publish_packet` writes, `deserialize_publish_packet` reads back
(`publish_roundTrip`). Of the packets of others it accepts some that end within the
packet id of a message with a quality of service above 0: the id and the payload lie
behind the packet then (`truncated_id_accepted`). What is accepted otherwise lies
inside the packet (`deserializePublishPacket_within_iff`).
-/

set_option autoImplicit false

namespace UIoT.Mqtt

open Base128 LengthPrefix

/-! ## Writing -/

/-- The header of a PUBLISH says what it was made from. -/
theorem publishHeader {dup retained : UInt8} (qos : QoS) (isDup : dup = 0 ∨ dup = 1)
    (isRetained : retained = 0 ∨ retained = 1) : ∃ header,
      mqttInitPacketHeader .publish qos dup retained = .ok header ∧
        MessageTypes.ofHeader (headerType header) = some .publish ∧
        (header &&& 0x06) >>> 1 = qos.toUInt8 ∧ header &&& 0x01 = retained ∧
        (header &&& 0x08) >>> 3 = dup := by
  rcases isDup with rfl | rfl <;> rcases isRetained with rfl | rfl <;> cases qos <;>
    exact ⟨_, rfl, by decide, by decide, by decide, by decide⟩

theorem mqttReadUint16_writeNat16 {value : Nat} (small : value < 65536) (after : List UInt8) :
    mqttReadUint16 (writeNat16 value ++ after) = (value, after) := by
  have back := inverts_nat16 small after
  simp only [writeNat16, List.cons_append, List.nil_append, readNat16, Option.some.injEq,
    Prod.mk.injEq] at back
  simp only [writeNat16, List.cons_append, List.nil_append, mqttReadUint16, mqttReadChar,
    List.headD_cons, List.tail_cons, Prod.mk.injEq]
  exact ⟨by omega, trivial⟩

/-- The strings of the receive buffer are read back. -/
theorem readStringWithLen_writeString {string : CString} (short : string.length ≤ uiotMqttRxBufLen)
    (left : Nat) (after : List UInt8) :
    readStringWithLen (2 + string.length + left) (writeString string ++ after) =
      .ok (string, left, after) := by
  have bound : string.length ≤ 2048 := short
  have rest : 2 + string.length + left - 2 - string.length = left := by omega
  rw [readStringWithLen, if_pos (by omega), writeString, List.append_assoc,
    mqttReadUint16_writeNat16 (by omega)]
  dsimp only
  rw [if_neg (Nat.not_lt.mpr short), if_pos (by omega), List.take_left, List.drop_left, rest]

variable {buf curdata payload packet : List UInt8} {bufLen remLen : Nat} {message : Message}
  {dup retained : UInt8} {qos : QoS} {packetId : UInt16} {topicName : CString}

/-- The packet id, where there is one. -/
def idOf (qos : QoS) (packetId : UInt16) : Option UInt16 := if qos ≠ .qos0 then some packetId else none

/-- The bytes of the packet id, where there is one. -/
def idBytes (id : Option UInt16) : List UInt8 := (id.map mqttWriteUint16).getD []

theorem readFixedHeader_encode (header : UInt8) (small : remLen < 2 ^ 28) (after : List UInt8) :
    readFixedHeader (header :: (encode remLen ++ after)) = (header, .ok (remLen, after)) := by
  have isField := mqttReadPacketRemLenFromBuf_field (isField_encode remLen)
    ((encode_length_le_iff 3 remLen).mpr small) after
  simp only [readFixedHeader, mqttReadChar, List.headD_cons, List.tail_cons, isField, if_true]

/-- The bytes behind the fixed header of a PUBLISH. -/
def publishBody (qos : QoS) (packetId : UInt16) (topicName : CString) (payload : List UInt8) :
    List UInt8 :=
  mqttWriteUtf8String topicName ++ idBytes (idOf qos packetId) ++ payload

theorem publishBody_length : (publishBody qos packetId topicName payload).length =
    2 + topicName.length + payload.length + if qos ≠ .qos0 then 2 else 0 := by
  rw [publishBody, idOf, List.length_append, List.length_append, mqttWriteUtf8String_length]
  split
  · rw [idBytes, Option.map_some, Option.getD_some]
    have two : (mqttWriteUint16 packetId).length = 2 := rfl
    omega
  · rw [idBytes, Option.map_none, Option.getD_none, List.length_nil]
    omega

theorem getPublishPacketLen_eq : getPublishPacketLen qos topicName payload.length =
    (publishBody qos packetId topicName payload).length % 2 ^ 32 := by
  rw [getPublishPacketLen, publishBody_length]
  split <;> rfl

theorem serializePublishPacket_eq {header : UInt8}
    (isHeader : mqttInitPacketHeader .publish qos dup retained = .ok header)
    (small : (publishBody qos packetId topicName payload).length < 2 ^ 28) :
    serializePublishPacket bufLen dup qos retained packetId topicName (some payload) =
      if bufLen < getMqttPacketLen (publishBody qos packetId topicName payload).length then
        .error errMqttBufferTooShort
      else .ok (header :: (encode (publishBody qos packetId topicName payload).length ++
        publishBody qos packetId topicName payload)) := by
  have isLen : getPublishPacketLen qos topicName payload.length =
      (publishBody qos packetId topicName payload).length := by
    rw [@getPublishPacketLen_eq _ _ packetId, Nat.mod_eq_of_lt (by omega)]
  have isBody : mqttWriteUtf8String topicName ++
      (if qos ≠ .qos0 then mqttWriteUint16 packetId else []) ++ payload =
        publishBody qos packetId topicName payload := by
    rw [publishBody, idBytes, idOf]
    split
    · rfl
    · rfl
  rw [serializePublishPacket, isLen, isHeader, mqttWritePacketRemLen_eq_encode]
  dsimp only
  split
  · rfl
  · rw [← isBody]
    simp only [List.append_assoc]
    rfl

/-! ## Reading -/

/-- The message that is read when its topic has been, with so many bytes left. -/
def publishMessage (header : UInt8) (topicName : List UInt8) (left : Nat) (curdata : List UInt8) :
    Message :=
  if (header &&& 0x06) >>> 1 ≠ 0 then
    ⟨(header &&& 0x06) >>> 1, header &&& 0x01, (header &&& 0x08) >>> 3,
      some (UInt16.ofNat (mqttReadUint16 curdata).1), topicName,
      (mqttReadUint16 curdata).2.take (((left : Int) - 2) % 2 ^ 32).toNat⟩
  else
    ⟨(header &&& 0x06) >>> 1, header &&& 0x01, (header &&& 0x08) >>> 3, none, topicName,
      curdata.take ((left : Int) % 2 ^ 32).toNat⟩

/-- What `deserialize_publish_packet` accepts: a PUBLISH whose topic can be read. -/
theorem deserializePublishPacket_iff {header : UInt8}
    (isRead : readFixedHeader buf = (header, .ok (remLen, curdata))) :
    deserializePublishPacket buf bufLen = .ok message ↔
      4 ≤ bufLen ∧ MessageTypes.ofHeader (headerType header) = some .publish ∧
        ∃ topicName left rest, readStringWithLen remLen curdata = .ok (topicName, left, rest) ∧
          message = publishMessage header topicName left rest := by
  rw [deserializePublishPacket, isRead]
  dsimp only
  constructor
  · intro accepted
    split at accepted
    · cases accepted
    rename_i enough
    split at accepted
    · cases accepted
    rename_i isType
    refine ⟨Nat.not_lt.mp enough, not_not.mp isType, ?_⟩
    simp only [bind, Except.bind, pure, Except.pure] at accepted
    cases isTopic : readStringWithLen remLen curdata with
    | error ret =>
        rw [isTopic] at accepted
        cases accepted
    | ok read =>
        obtain ⟨topicName, left, rest⟩ := read
        rw [isTopic] at accepted
        refine ⟨topicName, left, rest, rfl, ?_⟩
        rw [← Except.ok.inj accepted, publishMessage]
        by_cases hasId : (header &&& 0x06) >>> 1 ≠ 0
        · simp only [if_pos hasId]
        · simp only [if_neg hasId]
  · rintro ⟨enough, isType, topicName, left, rest, isTopic, rfl⟩
    rw [if_neg (Nat.not_lt.mpr enough), if_neg (not_not.mpr isType), publishMessage]
    simp only [bind, Except.bind, pure, Except.pure, isTopic]
    by_cases hasId : (header &&& 0x06) >>> 1 ≠ 0
    · simp only [if_pos hasId]
    · simp only [if_neg hasId]

/-! ## The round trip -/

/-- Reading the id of a message that has one. -/
theorem mqttReadUint16_id (packetId : UInt16) (after : List UInt8) :
    mqttReadUint16 (mqttWriteUint16 packetId ++ after) = (packetId.toNat, after) :=
  mqttReadUint16_writeNat16 packetId.toNat_lt after

theorem publishMessage_eq {header : UInt8} (isQos : (header &&& 0x06) >>> 1 = qos.toUInt8)
    (isRetained : header &&& 0x01 = retained) (isDup : (header &&& 0x08) >>> 3 = dup)
    (small : payload.length < 2 ^ 28) (after : List UInt8) :
    publishMessage header topicName ((idBytes (idOf qos packetId)).length + payload.length)
        (idBytes (idOf qos packetId) ++ (payload ++ after)) =
      ⟨qos.toUInt8, retained, dup, idOf qos packetId, topicName, payload⟩ := by
  rw [publishMessage, isQos, isRetained, isDup]
  by_cases isZero : qos = .qos0
  · subst isZero
    have noId : idOf .qos0 packetId = none := rfl
    have whole : ((([] : List UInt8).length + payload.length : Nat) : Int) % 2 ^ 32 = payload.length := by
      rw [List.length_nil]
      omega
    have isZero : ¬QoS.qos0.toUInt8 ≠ 0 := not_not.mpr rfl
    rw [if_neg isZero, noId, idBytes, Option.map_none, Option.getD_none, whole,
      Int.toNat_natCast, List.nil_append, List.take_left]
  · have notZero : qos.toUInt8 ≠ 0 := by
      cases qos with
      | qos0 => exact absurd rfl isZero
      | qos1 => decide
      | qos2 => decide
    have hasId : idOf qos packetId = some packetId := if_pos isZero
    have whole : ((((mqttWriteUint16 packetId).length + payload.length : Nat) : Int) - 2) % 2 ^ 32 =
        payload.length := by
      have two : (mqttWriteUint16 packetId).length = 2 := rfl
      omega
    rw [if_pos notZero, hasId, idBytes, Option.map_some, Option.getD_some, whole, Int.toNat_natCast,
      mqttReadUint16_id, UInt16.ofNat_toNat, List.take_left]

/-- **Round trip.** A PUBLISH that is built is within the buffer and is read back. -/
theorem publish_roundTrip (bufLen : Nat) (dup retained : UInt8) (qos : QoS) (packetId : UInt16)
    (topicName : CString) (payload packet : List UInt8) (isDup : dup = 0 ∨ dup = 1)
    (isRetained : retained = 0 ∨ retained = 1) (shortTopic : topicName.length ≤ uiotMqttRxBufLen)
    (small : 2 + topicName.length + payload.length + (if qos ≠ .qos0 then 2 else 0) < 2 ^ 28)
    (built : serializePublishPacket bufLen dup qos retained packetId topicName (some payload) =
      .ok packet) :
    packet.length ≤ bufLen ∧ ∀ (after : List UInt8) (readLen : Nat), packet.length ≤ readLen →
      deserializePublishPacket (packet ++ after) readLen =
        .ok ⟨qos.toUInt8, retained, dup, idOf qos packetId, topicName, payload⟩ := by
  have shortString : topicName.length ≤ 2048 := shortTopic
  have shortPayload : payload.length < 2 ^ 28 := by omega
  obtain ⟨header, isHeader, isType, isQos, isRetain, isDupBit⟩ := publishHeader qos isDup isRetained
  rw [← @publishBody_length payload qos packetId topicName] at small
  rw [serializePublishPacket_eq isHeader small] at built
  split at built
  · cases built
  rename_i room
  cases built
  have bounds := getMqttPacketLen_bounds small
  have positive := encode_length_pos (publishBody qos packetId topicName payload).length
  have bodyLength := @publishBody_length payload qos packetId topicName
  have length : (header :: (encode (publishBody qos packetId topicName payload).length ++
      publishBody qos packetId topicName payload)).length =
        1 + (encode (publishBody qos packetId topicName payload).length).length +
          (publishBody qos packetId topicName payload).length := by
    rw [List.length_cons, List.length_append]
    omega
  rw [length]
  refine ⟨by omega, fun after readLen enough => ?_⟩
  have isRead := readFixedHeader_encode header small (publishBody qos packetId topicName payload ++ after)
  have isTopic := readStringWithLen_writeString shortTopic
    ((idBytes (idOf qos packetId)).length + payload.length)
    (idBytes (idOf qos packetId) ++ (payload ++ after))
  have isBody : publishBody qos packetId topicName payload ++ after = writeString topicName ++
      (idBytes (idOf qos packetId) ++ (payload ++ after)) := by
    rw [publishBody, mqttWriteUtf8String_eq (by omega)]
    simp only [List.append_assoc]
  have isLeft : (publishBody qos packetId topicName payload).length =
      2 + topicName.length + ((idBytes (idOf qos packetId)).length + payload.length) := by
    rw [publishBody, List.length_append, List.length_append, mqttWriteUtf8String_length]
    omega
  rw [List.cons_append, List.append_assoc, deserializePublishPacket_iff isRead]
  refine ⟨by omega, isType, topicName, _, _, ?_,
    (publishMessage_eq isQos isRetain isDupBit shortPayload after).symm⟩
  rw [isLeft, isBody]
  exact isTopic

/-- A publication of two bytes to the topic `t`. -/
theorem publish_roundTrip_short : ∃ packet,
    serializePublishPacket 16 0 .qos1 1 7 [0x74] (some [1, 2]) = .ok packet ∧ packet.length ≤ 16 ∧
      deserializePublishPacket packet 16 = .ok ⟨1, 1, 0, some 7, [0x74], [1, 2]⟩ := by
  have packetOf : serializePublishPacket 16 0 .qos1 1 7 [0x74] (some [1, 2]) =
      .ok [0x33, 7, 0, 1, 0x74, 0, 7, 1, 2] := by
    decide +kernel
  obtain ⟨fits, back⟩ := publish_roundTrip 16 0 1 .qos1 7 [0x74] [1, 2] _ (by decide) (by decide)
    (by decide) (by decide) packetOf
  exact ⟨_, packetOf, fits, back [] 16 fits⟩

/-! ## What is accepted -/

/-- The topic, the packet id and the payload of a message make up the body of its
packet. -/
structure WithinBody (message : Message) (body : List UInt8) : Prop where
  length : message.topic.length + 2 + (if message.qos ≠ 0 then 2 else 0) + message.payload.length =
    body.length
  parts : body = writeString message.topic ++ idBytes message.id ++ message.payload
  hasId : message.id.isSome ↔ message.qos ≠ 0

/-- A PUBLISH with a quality of service above 0 that ends less than two bytes behind a
topic that is read. -/
structure LacksId (header : UInt8) (remLen : Nat) (curdata : List UInt8) (bufLen : Nat) : Prop where
  enough : 4 ≤ bufLen
  isType : MessageTypes.ofHeader (headerType header) = some .publish
  hasQos : (header &&& 0x06) >>> 1 ≠ 0
  shortTopic : (mqttReadUint16 curdata).1 ≤ uiotMqttRxBufLen
  fits : (mqttReadUint16 curdata).1 + 2 ≤ remLen
  ends : remLen < (mqttReadUint16 curdata).1 + 4

theorem decodeRemLenFromBuf_lt {ret : Int} {rest : List UInt8} :
    ∀ {tries multiplier value result : Nat} {buf : List UInt8},
      decodeRemLenFromBuf tries multiplier value buf = (ret, result, rest) →
        result + multiplier ≤ value + 128 ^ tries * multiplier
  | 0, multiplier, value, result, buf, decoded => by
      cases decoded
      omega
  | tries + 1, multiplier, value, result, buf, decoded => by
      have digit : ((mqttReadChar buf).1 &&& 127).toNat < 128 := by
        rw [toNat_and_127]
        exact Nat.mod_lt _ (by decide)
      have product : ((mqttReadChar buf).1 &&& 127).toNat * multiplier ≤ 127 * multiplier :=
        Nat.mul_le_mul_right _ (by omega)
      have power : 128 ^ (tries + 1) * multiplier = 128 ^ tries * (multiplier * 128) := by
        rw [Nat.pow_succ, Nat.mul_assoc, Nat.mul_comm 128]
      have positive : multiplier * 128 ≤ 128 ^ tries * (multiplier * 128) :=
        Nat.le_mul_of_pos_left _ (Nat.pow_pos (by decide))
      rw [decodeRemLenFromBuf] at decoded
      dsimp only at decoded
      split at decoded
      · have bound := decodeRemLenFromBuf_lt decoded
        omega
      · cases decoded
        omega

/-- A remaining length that is read has a field. -/
theorem readFixedHeader_small {header : UInt8}
    (isRead : readFixedHeader buf = (header, .ok (remLen, curdata))) : remLen < 2 ^ 28 := by
  rw [readFixedHeader] at isRead
  dsimp only at isRead
  cases decoded : mqttReadPacketRemLenFromBuf (mqttReadChar buf).2 with
  | mk ret rest =>
      obtain ⟨value, rest⟩ := rest
      rw [decoded] at isRead
      have bound := decodeRemLenFromBuf_lt decoded
      simp only [Prod.mk.injEq] at isRead
      obtain ⟨_, isRead⟩ := isRead
      split at isRead
      · cases isRead
        have four : 128 ^ maxNoOfRemainingLengthBytes = 2 ^ 28 := rfl
        omega
      · cases isRead

/-- Two bytes are a number. -/
theorem mqttReadUint16_front (long : 2 ≤ buf.length) : ∃ value after,
    mqttReadUint16 buf = (value, after) ∧ value < 65536 ∧ buf = writeNat16 value ++ after := by
  match buf, long with
  | high :: low :: after, _ =>
      have isRead : readNat16 (high :: low :: after) = some (high.toNat * 256 + low.toNat, after) := rfl
      obtain ⟨same, small⟩ := readNat16_eq isRead
      refine ⟨_, after, ?_, small, same⟩
      simp only [mqttReadUint16, mqttReadChar, List.headD_cons, List.tail_cons, Prod.mk.injEq, and_true]
      omega

/-- A topic that is read is at the front of the body, and what is left is behind it. -/
theorem readStringWithLen_ok {topicName rest : List UInt8} {left : Nat}
    (present : remLen ≤ curdata.length)
    (isRead : readStringWithLen remLen curdata = .ok (topicName, left, rest)) :
    (mqttReadUint16 curdata).1 = topicName.length ∧ topicName.length ≤ uiotMqttRxBufLen ∧
      remLen = topicName.length + 2 + left ∧ left ≤ rest.length ∧
      curdata = writeString topicName ++ rest := by
  rw [readStringWithLen] at isRead
  split at isRead
  · rename_i long
    obtain ⟨value, after, isValue, small, isData⟩ := mqttReadUint16_front (Nat.le_trans long present)
    rw [isValue] at isRead
    dsimp only at isRead
    split at isRead
    · cases isRead
    · rename_i shortTopic
      split at isRead
      · rename_i fits
        cases isRead
        have dataLength := congrArg List.length isData
        rw [List.length_append] at dataLength
        have two : (writeNat16 value).length = 2 := rfl
        have topicLength : (after.take value).length = value := List.length_take_of_le (by omega)
        rw [isValue, topicLength, List.length_drop, writeString, topicLength, List.append_assoc,
          List.take_append_drop]
        exact ⟨rfl, Nat.not_lt.mp shortTopic, by omega, by omega, isData⟩
      · cases isRead
  · cases isRead

theorem publishMessage_within {header : UInt8} {rest : List UInt8} {left : Nat}
    (small : left < 2 ^ 28) (present : left ≤ rest.length)
    (hasRoom : (header &&& 0x06) >>> 1 ≠ 0 → 2 ≤ left) :
    WithinBody (publishMessage header topicName left rest) (writeString topicName ++ rest.take left) := by
  have isLeft : (rest.take left).length = left := List.length_take_of_le present
  have isString : (writeString topicName).length = topicName.length + 2 := by
    rw [writeString, List.length_append, Nat.add_comm]
    rfl
  rw [publishMessage]
  by_cases hasId : (header &&& 0x06) >>> 1 ≠ 0
  · have two := hasRoom hasId
    obtain ⟨value, after, isValue, smallId, isRest⟩ := mqttReadUint16_front (Nat.le_trans two present)
    have whole : (((left : Int) - 2) % 2 ^ 32).toNat = left - 2 := by omega
    have idLength : (writeNat16 value).length = 2 := rfl
    have restLength := congrArg List.length isRest
    rw [List.length_append, idLength] at restLength
    have isId : idBytes (some (UInt16.ofNat value)) = writeNat16 value := by
      rw [idBytes, Option.map_some, Option.getD_some, mqttWriteUint16, UInt16.toNat_ofNat',
        Nat.mod_eq_of_lt smallId]
      rfl
    have isBody : rest.take left = writeNat16 value ++ after.take (left - 2) := by
      rw [isRest, List.take_append, idLength, List.take_of_length_le (idLength.trans_le two)]
    have payloadLength : (after.take (left - 2)).length = left - 2 := List.length_take_of_le (by omega)
    rw [if_pos hasId, isValue, whole]
    refine ⟨?_, ?_, ?_⟩
    · dsimp only
      rw [if_pos hasId, List.length_append, isString, isLeft, payloadLength]
      omega
    · rw [isId, isBody, List.append_assoc]
    · exact ⟨fun _ => hasId, fun _ => rfl⟩
  · have whole : ((left : Int) % 2 ^ 32).toNat = left := by omega
    rw [if_neg hasId, whole]
    refine ⟨?_, ?_, ?_⟩
    · dsimp only
      rw [if_neg hasId, List.length_append, isString, isLeft, Nat.add_zero]
    · rw [idBytes, Option.map_none, Option.getD_none, List.append_nil]
    · constructor
      · intro isSome
        cases isSome
      · exact fun notZero => absurd notZero hasId

/-- **Accepted packets.** The messages that `deserialize_publish_packet` accepts lie
within their packets, unless there is no room for their packet id. -/
theorem deserializePublishPacket_within_iff (buf : List UInt8) (bufLen : Nat) (header : UInt8)
    (remLen : Nat) (curdata : List UInt8)
    (isRead : readFixedHeader buf = (header, .ok (remLen, curdata)))
    (present : remLen ≤ curdata.length) :
    (∀ message, deserializePublishPacket buf bufLen = .ok message →
        WithinBody message (curdata.take remLen)) ↔
      ¬LacksId header remLen curdata bufLen := by
  have small := readFixedHeader_small isRead
  constructor
  · rintro within ⟨enough, isType, hasQos, shortTopic, fits, ends⟩
    obtain ⟨value, after, isValue, _, isData⟩ := mqttReadUint16_front
      (show 2 ≤ curdata.length by omega)
    rw [isValue] at shortTopic fits ends
    dsimp only at shortTopic fits ends
    have isTopic : readStringWithLen remLen curdata =
        .ok (after.take value, remLen - 2 - value, after.drop value) := by
      rw [readStringWithLen, if_pos (by omega), isValue]
      dsimp only
      rw [if_neg (Nat.not_lt.mpr shortTopic), if_pos (by omega)]
    have accepted := within _ ((deserializePublishPacket_iff isRead).mpr
      ⟨enough, isType, _, _, _, isTopic, rfl⟩)
    have length := accepted.length
    have dataLength := congrArg List.length isData
    rw [List.length_append] at dataLength
    have two : (writeNat16 value).length = 2 := rfl
    rw [publishMessage, if_pos hasQos, List.length_take_of_le present] at length
    dsimp only at length
    rw [if_pos hasQos, List.length_take_of_le (show value ≤ after.length by omega)] at length
    omega
  · intro notLacks message accepted
    obtain ⟨enough, isType, topicName, left, rest, isTopic, rfl⟩ :=
      (deserializePublishPacket_iff isRead).mp accepted
    obtain ⟨isLength, shortTopic, isRemLen, restLong, isData⟩ := readStringWithLen_ok present isTopic
    have isString : (writeString topicName).length = topicName.length + 2 := by
      rw [writeString, List.length_append, Nat.add_comm]
      rfl
    have isBody : curdata.take remLen = writeString topicName ++ rest.take left := by
      rw [isData, List.take_append, isString, List.take_of_length_le (by omega)]
      congr 2
      omega
    rw [isBody]
    refine publishMessage_within (by omega) restLong fun hasQos => ?_
    by_contra short
    apply notLacks
    refine ⟨enough, isType, hasQos, ?_, ?_, ?_⟩
    · rw [isLength]
      exact shortTopic
    · rw [isLength]
      omega
    · rw [isLength]
      omega

/-- A publication that lacks nothing. -/
theorem deserializePublishPacket_within_short :
    WithinBody ⟨1, 0, 0, some 7, [0x74], []⟩ [0, 1, 0x74, 0, 7] :=
  (deserializePublishPacket_within_iff [0x32, 5, 0, 1, 0x74, 0, 7] 7 0x32 5 [0, 1, 0x74, 0, 7] rfl
    (by decide)).mpr (fun lacks => absurd lacks.ends (by decide)) _ (by decide)

/-- A packet that ends with an empty topic is accepted with a packet id. -/
theorem truncated_id_accepted : ∃ message,
    deserializePublishPacket [0x32, 2, 0, 0, 0, 9] 6 = .ok message ∧ message.id = some 9 ∧
      ¬WithinBody message [0, 0] := by
  refine ⟨⟨1, 0, 0, some 9, [], []⟩, by decide, rfl, fun within => ?_⟩
  exact absurd within.length (by decide)

end UIoT.Mqtt
