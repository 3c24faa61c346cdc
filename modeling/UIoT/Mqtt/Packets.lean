import UIoT.Mqtt.Client

/-!
# Packets

The serializers write into the send buffer and the deserializers read the
receive buffer. A serializer returns the bytes it stores at the start of the
buffer, or the code it fails with. A deserializer moves a cursor over the
buffer, which is the rest of the buffer here; what is left up to `enddata` is a
count next to it.
-/

set_option autoImplicit false

namespace UIoT.Mqtt

/-! ## Writing -/

/-- `mqtt_write_uint_16` -/
def mqttWriteUint16 (anInt : UInt16) : List UInt8 :=
  [UInt8.ofNat (anInt.toNat / 256), UInt8.ofNat (anInt.toNat % 256)]

/-- `mqtt_write_utf8_string` -/
def mqttWriteUtf8String (string : CString) : List UInt8 :=
  mqttWriteUint16 (UInt16.ofNat string.length) ++ string

/-- The `type` of `mqtt_init_packet_header`, absent for `RESERVED`. -/
def MessageTypes.code : MessageTypes → Option UInt8
  | .reserved => none
  | .connect => some 0x01
  | .connack => some 0x02
  | .publish => some 0x03
  | .puback => some 0x04
  | .pubrec => some 0x05
  | .pubrel => some 0x06
  | .pubcomp => some 0x07
  | .subscribe => some 0x08
  | .suback => some 0x09
  | .unsubscribe => some 0x0A
  | .unsuback => some 0x0B
  | .pingreq => some 0x0C
  | .pingresp => some 0x0D
  | .disconnect => some 0x0E

/-- `mqtt_init_packet_header` -/
def mqttInitPacketHeader (messageType : MessageTypes) (qos : QoS) (dup retained : UInt8) :
    Except Int UInt8 :=
  match messageType.code with
  | none => .error errMqttUnknownError
  | some type =>
      let header : UInt8 := (type <<< 4) &&& 0xF0
      let header : UInt8 := header ||| ((dup <<< 3) &&& 0x08)
      let header : UInt8 := header ||| ((qos.toUInt8 <<< 1) &&& 0x06)
      .ok (header ||| (retained &&& 0x01))

/-- `_get_publish_packet_len` -/
def getPublishPacketLen (qos : QoS) (topicName : CString) (payloadLen : Nat) : Nat :=
  let len := 2 + topicName.length + payloadLen
  let len := if qos ≠ .qos0 then len + 2 else len
  len % 2 ^ 32

/-- `_serialize_publish_packet` -/
def serializePublishPacket (bufLen : Nat) (dup : UInt8) (qos : QoS) (retained : UInt8)
    (packetId : UInt16) (topicName : CString) (payload : Option (List UInt8)) :
    Except Int (List UInt8) :=
  match payload with
  | none => .error errParamInvalid
  | some payload => do
      let remLen := getPublishPacketLen qos topicName payload.length
      if bufLen < getMqttPacketLen remLen then .error errMqttBufferTooShort
      let header ← mqttInitPacketHeader .publish qos dup retained
      return header :: (mqttWritePacketRemLen remLen ++ mqttWriteUtf8String topicName ++
        (if qos ≠ .qos0 then mqttWriteUint16 packetId else []) ++ payload)

/-- `serialize_pub_ack_packet` -/
def serializePubAckPacket (bufLen : Nat) (packetType : MessageTypes) (dup : UInt8)
    (packetId : UInt16) : Except Int (List UInt8) := do
  let requestQos := if packetType = .pubrel then QoS.qos1 else QoS.qos0
  if bufLen < 4 then .error errMqttBufferTooShort
  let header ← mqttInitPacketHeader packetType requestQos dup 0
  return header :: (mqttWritePacketRemLen 2 ++ mqttWriteUint16 packetId)

/-- The string at `*topicFilters + i`, which the loops over a list of filters
write: the first filter without its first `i` bytes, or a string in the memory
behind that filter. -/
def filterAt (behind : List UInt8) (topicFilters : List CString) (i : Nat) : CString :=
  let first := topicFilters.headD []
  if i ≤ first.length then first.drop i
  else (behind.drop (i - first.length - 1)).takeWhile (· ≠ 0)

/-- `_get_subscribe_packet_rem_len` -/
def getSubscribePacketRemLen (behind : List UInt8) (count : Nat) (topicFilters : List CString) : Nat :=
  (2 + ((List.range count).map fun i => 2 + (filterAt behind topicFilters i).length + 1).sum) % 2 ^ 32

/-- `_serialize_subscribe_packet` -/
def serializeSubscribePacket (bufLen : Nat) (dup : UInt8) (packetId : UInt16) (count : Nat)
    (topicFilters : List CString) (behind : List UInt8) (requestedQoSs : List QoS) :
    Except Int (List UInt8) := do
  let remLen := getSubscribePacketRemLen behind count topicFilters
  if bufLen < getMqttPacketLen remLen then .error errMqttBufferTooShort
  let header ← mqttInitPacketHeader .subscribe .qos1 dup 0
  return header :: (mqttWritePacketRemLen remLen ++ mqttWriteUint16 packetId ++
    (List.range count).flatMap fun i =>
      mqttWriteUtf8String (filterAt behind topicFilters i) ++ [(requestedQoSs.getD i .qos0).toUInt8])

/-- `_get_unsubscribe_packet_rem_len` -/
def getUnsubscribePacketRemLen (behind : List UInt8) (count : Nat) (topicFilters : List CString) :
    Nat :=
  (2 + ((List.range count).map fun i => 2 + (filterAt behind topicFilters i).length).sum) % 2 ^ 32

/-- `_serialize_unsubscribe_packet` -/
def serializeUnsubscribePacket (bufLen : Nat) (dup : UInt8) (packetId : UInt16) (count : Nat)
    (topicFilters : List CString) (behind : List UInt8) : Except Int (List UInt8) := do
  let remLen := getUnsubscribePacketRemLen behind count topicFilters
  if bufLen < getMqttPacketLen remLen then .error errMqttBufferTooShort
  let header ← mqttInitPacketHeader .unsubscribe .qos1 dup 0
  return header :: (mqttWritePacketRemLen remLen ++ mqttWriteUint16 packetId ++
    (List.range count).flatMap fun i => mqttWriteUtf8String (filterAt behind topicFilters i))

/-- `serialize_packet_with_zero_payload` -/
def serializePacketWithZeroPayload (bufLen : Nat) (packetType : MessageTypes) :
    Except Int (List UInt8) := do
  if bufLen < 4 then .error errMqttBufferTooShort
  let header ← mqttInitPacketHeader packetType .qos0 0 0
  return header :: mqttWritePacketRemLen 0

/-- `_get_packet_connect_rem_len` -/
def getPacketConnectRemLen (options : ConnectParams) : Nat :=
  let len := if options.mqttVersion = 3 then 12 else if options.mqttVersion = 4 then 10 else 0
  let len := len + options.clientId.length + 2
  let len := match options.username with
    | some username => len + username.length + 2
    | none => len
  match options.password with
  | some password => len + password.length + 2
  | none => len

/-- The connect flags: clean session, user name and, always, password. -/
def connectFlags (options : ConnectParams) : UInt8 :=
  (if options.cleanSession ≠ 0 then 0x02 else 0) |||
    (if options.username.isSome then 0x80 else 0) ||| 0x40

/-- `_serialize_connect_packet` -/
def serializeConnectPacket (bufLen : Nat) (options : ConnectParams) : Except Int (List UInt8) := do
  if options.clientId.length = 0 then .error errParamInvalid
  let remLen := getPacketConnectRemLen options
  if bufLen < getMqttPacketLen remLen then .error errMqttBufferTooShort
  let header ← mqttInitPacketHeader .connect .qos0 0 0
  let protocol :=
    if options.mqttVersion = 4 then
      mqttWriteUtf8String [0x4D, 0x51, 0x54, 0x54] ++ [4]  -- "MQTT"
    else mqttWriteUtf8String [0x4D, 0x51, 0x49, 0x73, 0x64, 0x70] ++ [3]  -- "MQIsdp"
  return header :: (mqttWritePacketRemLen remLen ++ protocol ++ [connectFlags options] ++
    mqttWriteUint16 options.keepAliveInterval ++ mqttWriteUtf8String options.clientId ++
    (options.username.map mqttWriteUtf8String).getD [] ++
    (options.password.map mqttWriteUtf8String).getD [])

/-! ## Reading -/

/-- The start of every deserializer: the header byte, and the count of bytes
behind the remaining length with the cursor there. -/
def readFixedHeader (buf : List UInt8) : UInt8 × Except Int (Nat × List UInt8) :=
  let (header, curdata) := mqttReadChar buf
  match mqttReadPacketRemLenFromBuf curdata with
  | (ret, decodedLen, curdata) =>
      (header, if ret = successRet then .ok (decodedLen, curdata) else .error ret)

/-- What `deserialize_ack_packet` stores. -/
structure AckPacket where
  packetType : Nat
  dup : UInt8
  packetId : UInt16

deriving instance DecidableEq, Repr for AckPacket

/-- `deserialize_ack_packet` -/
def deserializeAckPacket (buf : List UInt8) (bufLen : Nat) : Except Int AckPacket := do
  if bufLen < 4 then .error errMqttBufferTooShort
  let (header, rest) := readFixedHeader buf
  let (decodedLen, curdata) ← rest
  if decodedLen < 2 then .error failureRet
  let (packetId, curdata) := mqttReadUint16 curdata
  if 1 ≤ decodedLen - 2 ∧ (mqttReadChar curdata).1 ≠ 0 then .error failureRet
  return ⟨headerType header, (header &&& 0x08) >>> 3, UInt16.ofNat packetId⟩

/-- The loop of `deserialize_suback_packet` over the return codes: it fails
when `count` has passed `maxCount`. -/
def readGrantedQoSs (maxCount : Nat) : Nat → Nat → List UInt8 → Except Int (List UInt8)
  | 0, _, _ => .ok []
  | left + 1, count, curdata =>
      if maxCount < count then .error failureRet
      else do
        let (grantedQoS, curdata) := mqttReadChar curdata
        let grantedQoSs ← readGrantedQoSs maxCount left (count + 1) curdata
        return grantedQoS :: grantedQoSs

/-- `deserialize_suback_packet`: the packet id and the return codes. -/
def deserializeSubackPacket (maxCount : Nat) (buf : List UInt8) (bufLen : Nat) :
    Except Int (UInt16 × List UInt8) := do
  if bufLen < 5 then .error errMqttBufferTooShort
  let (header, rest) := readFixedHeader buf
  if MessageTypes.ofHeader (headerType header) ≠ some .suback then .error failureRet
  let (decodedLen, curdata) ← rest
  if decodedLen < 2 then .error failureRet
  let (packetId, curdata) := mqttReadUint16 curdata
  let grantedQoSs ← readGrantedQoSs maxCount (decodedLen - 2) 0 curdata
  return (UInt16.ofNat packetId, grantedQoSs)

/-- `deserialize_unsuback_packet` -/
def deserializeUnsubackPacket (buf : List UInt8) (bufLen : Nat) : Except Int UInt16 := do
  let ack ← deserializeAckPacket buf bufLen
  if MessageTypes.ofHeader ack.packetType ≠ some .unsuback then .error failureRet
  return ack.packetId

/-- `_read_string_with_len`: the string, the count left up to `enddata` and the
cursor behind the string. -/
def readStringWithLen (left : Nat) (buf : List UInt8) :
    Except Int (List UInt8 × Nat × List UInt8) :=
  if 1 < left then
    let (stringLen, buf) := mqttReadUint16 buf
    if uiotMqttRxBufLen < stringLen then .error failureRet
    else if stringLen ≤ left - 2 then
      .ok (buf.take stringLen, left - 2 - stringLen, buf.drop stringLen)
    else .error failureRet
  else .error failureRet

/-- `deserialize_publish_packet`. The length of the payload is a difference of
pointers cast to `size_t`, of 32 bits. -/
def deserializePublishPacket (buf : List UInt8) (bufLen : Nat) : Except Int Message := do
  if bufLen < 4 then .error errMqttBufferTooShort
  let (header, rest) := readFixedHeader buf
  let qos := (header &&& 0x06) >>> 1
  if MessageTypes.ofHeader (headerType header) ≠ some .publish then .error failureRet
  let (decodedLen, curdata) ← rest
  let (topicName, left, curdata) ← readStringWithLen decodedLen curdata
  let (id, left, curdata) :=
    if qos ≠ 0 then
      let (packetId, curdata) := mqttReadUint16 curdata
      (some (UInt16.ofNat packetId), (left : Int) - 2, curdata)
    else (none, (left : Int), curdata)
  let payloadLen := (left % 2 ^ 32).toNat
  return ⟨qos, header &&& 0x01, (header &&& 0x08) >>> 3, id, topicName, curdata.take payloadLen⟩

/-- `_deserialize_connack_packet`: the session present flag and the code. -/
def deserializeConnackPacket (buf : List UInt8) (bufLen : Nat) : Except Int (UInt8 × Int) := do
  if bufLen < 4 then .error errMqttBufferTooShort
  let (header, rest) := readFixedHeader buf
  if MessageTypes.ofHeader (headerType header) ≠ some .connack then .error failureRet
  let (decodedLen, curdata) ← rest
  if decodedLen ≠ 2 then .error failureRet
  let (flags, curdata) := mqttReadChar curdata
  let (connackRcChar, _) := mqttReadChar curdata
  let connackRc := match connackRcChar.toNat with
    | 0 => mqttConnectionAccepted
    | 1 => errMqttConnackUnacceptableProtocolVersion
    | 2 => errMqttConnackIdentifierRejected
    | 3 => errMqttConnackServerUnavailable
    | 4 => errMqttConnackBadUserdata
    | 5 => errMqttConnackNotAuthorized
    | _ => errMqttConnackUnknown
  return (flags &&& 0x01, connackRc)

/-! ## Sending -/

/-- The loop of `send_mqtt_packet` once `sent` bytes have been accepted: every
write offers `length` bytes from `write_buf[sent]` on. The results are those
until the timer runs out. Returned are the bytes accepted and their count. -/
def sendLoop (writeBuf : List UInt8) (length : Nat) : List Int → Nat → List UInt8 × Nat
  | [], sent => ([], sent)
  | sendLen :: results, sent =>
      if sent < length then
        if sendLen < 0 then ([], sent)
        else
          let accepted := (writeBuf.drop sent).take sendLen.toNat
          let (later, sent) := sendLoop writeBuf length results (sent + sendLen.toNat)
          (accepted ++ later, sent)
      else ([], sent)

/-- `send_mqtt_packet` -/
def sendMqttPacket (client : Client) (length : Nat) (results : List Int) : Int × List Output :=
  if client.writeBufSize ≤ length then (errMqttBufferTooShort, [])
  else
    let (accepted, sent) := sendLoop client.writeBuf length results 0
    (if sent = length then successRet else failureRet, [.wire accepted])

end UIoT.Mqtt
