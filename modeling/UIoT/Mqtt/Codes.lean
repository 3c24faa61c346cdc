import UIoT.Mqtt.Handlers

/-!
# The codes of packets

A serializer or a deserializer fails with one of five codes, and a packet is
sent or fails with one of two. None of them is a count or tells of the
connection (`PacketError.neg`, `PacketError.ordinary`), and neither does the code
of a packet read and handled, whatever a network that returns its own codes
does (`cycle_ordinary`).
-/

set_option autoImplicit false

namespace UIoT.Mqtt

/-- The codes that a serializer or a deserializer fails with. -/
inductive PacketError : Int → Prop where
  | failure : PacketError failureRet
  | paramInvalid : PacketError errParamInvalid
  | unknownError : PacketError errMqttUnknownError
  | packetReadError : PacketError errMqttPacketReadError
  | bufferTooShort : PacketError errMqttBufferTooShort

theorem PacketError.neg {ret : Int} (isError : PacketError ret) : ret < 0 := by
  cases isError <;> decide

theorem PacketError.ne_success {ret : Int} (isError : PacketError ret) : ret ≠ successRet :=
  Int.ne_of_lt isError.neg

/-- Whatever a computation fails with is a code of packets. -/
def FailsAsPacket {α : Type} (result : Except Int α) : Prop :=
  ∀ ret, result = .error ret → PacketError ret

section Rules

variable {α β : Type}

theorem FailsAsPacket.ok (value : α) : FailsAsPacket (.ok value : Except Int α) :=
  fun _ failed => nomatch failed

theorem FailsAsPacket.error {ret : Int} (isError : PacketError ret) :
    FailsAsPacket (.error ret : Except Int α) := by
  rintro _ ⟨⟩
  exact isError

theorem FailsAsPacket.bind {result : Except Int α} {rest : α → Except Int β}
    (first : FailsAsPacket result) (second : ∀ value, FailsAsPacket (rest value)) :
    FailsAsPacket (result >>= rest) := by
  cases result with
  | error ret => exact .error (first ret rfl)
  | ok value => exact second value

/-- A check in front of the rest. -/
theorem FailsAsPacket.check {condition : Prop} [Decidable condition] {ret : Int}
    (isError : PacketError ret) {rest : Unit → Except Int α} (second : FailsAsPacket (rest ())) :
    FailsAsPacket (if condition then .error ret >>= rest else rest ()) := by
  split
  · exact .error isError
  · exact second

end Rules

/-! ## Serializers -/

theorem mqttInitPacketHeader_fails (messageType : MessageTypes) (qos : QoS) (dup retained : UInt8) :
    FailsAsPacket (mqttInitPacketHeader messageType qos dup retained) := by
  unfold mqttInitPacketHeader
  split
  · exact .error .unknownError
  · exact .ok _

theorem serializePublishPacket_fails (bufLen : Nat) (dup : UInt8) (qos : QoS) (retained : UInt8)
    (packetId : UInt16) (topicName : CString) (payload : Option (List UInt8)) :
    FailsAsPacket
      (serializePublishPacket bufLen dup qos retained packetId topicName payload) := by
  unfold serializePublishPacket
  split
  · exact .error .paramInvalid
  · exact .check .bufferTooShort (.bind (mqttInitPacketHeader_fails _ _ _ _) fun _ => .ok _)

theorem serializePubAckPacket_fails (bufLen : Nat) (packetType : MessageTypes) (dup : UInt8)
    (packetId : UInt16) :
    FailsAsPacket (serializePubAckPacket bufLen packetType dup packetId) := by
  unfold serializePubAckPacket
  exact .check .bufferTooShort (.bind (mqttInitPacketHeader_fails _ _ _ _) fun _ => .ok _)

theorem serializeSubscribePacket_fails (bufLen : Nat) (dup : UInt8) (packetId : UInt16)
    (count : Nat) (topicFilters : List CString) (behind : List UInt8) (requestedQoSs : List QoS) :
    FailsAsPacket (serializeSubscribePacket bufLen dup packetId count topicFilters behind
      requestedQoSs) := by
  unfold serializeSubscribePacket
  exact .check .bufferTooShort (.bind (mqttInitPacketHeader_fails _ _ _ _) fun _ => .ok _)

theorem serializeUnsubscribePacket_fails (bufLen : Nat) (dup : UInt8) (packetId : UInt16)
    (count : Nat) (topicFilters : List CString) (behind : List UInt8) :
    FailsAsPacket (serializeUnsubscribePacket bufLen dup packetId count topicFilters behind) := by
  unfold serializeUnsubscribePacket
  exact .check .bufferTooShort (.bind (mqttInitPacketHeader_fails _ _ _ _) fun _ => .ok _)

theorem serializePacketWithZeroPayload_fails (bufLen : Nat) (packetType : MessageTypes) :
    FailsAsPacket (serializePacketWithZeroPayload bufLen packetType) := by
  unfold serializePacketWithZeroPayload
  exact .check .bufferTooShort (.bind (mqttInitPacketHeader_fails _ _ _ _) fun _ => .ok _)

theorem serializeConnectPacket_fails (bufLen : Nat) (options : ConnectParams) :
    FailsAsPacket (serializeConnectPacket bufLen options) := by
  unfold serializeConnectPacket
  exact .check .paramInvalid
    (.check .bufferTooShort (.bind (mqttInitPacketHeader_fails _ _ _ _) fun _ => .ok _))

/-! ## Deserializers -/

theorem decodeRemLenFromBuf_code (tries multiplier value : Nat) (buf : List UInt8) :
    (decodeRemLenFromBuf tries multiplier value buf).1 = successRet ∨
      (decodeRemLenFromBuf tries multiplier value buf).1 = errMqttPacketReadError := by
  induction tries generalizing multiplier value buf with
  | zero => exact .inr rfl
  | succ tries inductionHypothesis =>
      simp only [decodeRemLenFromBuf]
      split
      · exact inductionHypothesis _ _ _
      · exact .inl rfl

theorem readFixedHeader_fails (buf : List UInt8) : FailsAsPacket (readFixedHeader buf).2 := by
  have code := decodeRemLenFromBuf_code maxNoOfRemainingLengthBytes 1 0 (mqttReadChar buf).2
  unfold readFixedHeader mqttReadPacketRemLenFromBuf
  simp only
  split
  · exact .ok _
  · rename_i failed
    rw [code.resolve_left failed]
    exact .error .packetReadError

theorem deserializeAckPacket_fails (buf : List UInt8) (bufLen : Nat) :
    FailsAsPacket (deserializeAckPacket buf bufLen) := by
  unfold deserializeAckPacket
  exact .check .bufferTooShort (.bind (readFixedHeader_fails buf) fun _ =>
    .check .failure (.check .failure (.ok _)))

theorem readGrantedQoSs_fails (maxCount left count : Nat) (curdata : List UInt8) :
    FailsAsPacket (readGrantedQoSs maxCount left count curdata) := by
  induction left generalizing count curdata with
  | zero => exact .ok _
  | succ left inductionHypothesis =>
      simp only [readGrantedQoSs]
      split
      · exact .error .failure
      · exact .bind (inductionHypothesis _ _) fun _ => .ok _

theorem deserializeSubackPacket_fails (maxCount : Nat) (buf : List UInt8) (bufLen : Nat) :
    FailsAsPacket (deserializeSubackPacket maxCount buf bufLen) := by
  unfold deserializeSubackPacket
  exact .check .bufferTooShort (.check .failure (.bind (readFixedHeader_fails buf) fun _ =>
    .check .failure (.bind (readGrantedQoSs_fails _ _ _ _) fun _ => .ok _)))

theorem deserializeUnsubackPacket_fails (buf : List UInt8) (bufLen : Nat) :
    FailsAsPacket (deserializeUnsubackPacket buf bufLen) := by
  unfold deserializeUnsubackPacket
  exact .bind (deserializeAckPacket_fails buf bufLen) fun _ => .check .failure (.ok _)

theorem readStringWithLen_fails (left : Nat) (buf : List UInt8) :
    FailsAsPacket (readStringWithLen left buf) := by
  unfold readStringWithLen
  split
  · simp only
    split
    · exact .error .failure
    split
    · exact .ok _
    · exact .error .failure
  · exact .error .failure

theorem deserializePublishPacket_fails (buf : List UInt8) (bufLen : Nat) :
    FailsAsPacket (deserializePublishPacket buf bufLen) := by
  unfold deserializePublishPacket
  exact .check .bufferTooShort (.check .failure (.bind (readFixedHeader_fails buf) fun _ =>
    .bind (readStringWithLen_fails _ _) fun _ => .ok _))

/-! ## Sending -/

theorem sendMqttPacket_code (client : Client) (length : Nat) (results : List Int) :
    (sendMqttPacket client length results).1 = successRet ∨
      PacketError (sendMqttPacket client length results).1 := by
  unfold sendMqttPacket
  split
  · exact .inr .bufferTooShort
  · simp only
    split
    · exact .inl rfl
    · exact .inr .failure

/-! ## Codes that do not tell of the connection -/

/-- A code that does not tell of the connection, of its loss and of attempts to
make it again. -/
structure Ordinary (ret : Int) : Prop where
  noConn : ret ≠ errMqttNoConn
  reconnectTimeout : ret ≠ errMqttReconnectTimeout
  reconnected : ret ≠ mqttReconnected

theorem ordinary_successRet : Ordinary successRet := ⟨by decide, by decide, by decide⟩

theorem PacketError.ordinary {ret : Int} (isError : PacketError ret) : Ordinary ret := by
  cases isError <;> exact ⟨by decide, by decide, by decide⟩

/-- The codes that the functions below `utils_net_read` return for a failure. -/
inductive NetworkError : Int → Prop where
  | failure : NetworkError failureRet
  | tcpReadFailed : NetworkError errTcpReadFailed
  | tcpPeerShutdown : NetworkError errTcpPeerShutdown
  | sslReadTimeout : NetworkError errSslReadTimeout
  | sslReadFailed : NetworkError errSslReadFailed

theorem NetworkError.ordinary {ret : Int} (isError : NetworkError ret) : Ordinary ret := by
  cases isError <;> exact ⟨by decide, by decide, by decide⟩

/-- The codes of `_read_mqtt_packet`. -/
inductive ReadCode : Int → Prop where
  | success : ReadCode successRet
  | nothingToRead : ReadCode errMqttNothingToRead
  | packetError {ret : Int} (isError : PacketError ret) : ReadCode ret
  | networkError {ret : Int} (isError : NetworkError ret) : ReadCode ret

theorem ReadCode.ordinary {ret : Int} (code : ReadCode ret) : Ordinary ret := by
  cases code with
  | success => exact ordinary_successRet
  | nothingToRead => exact ⟨by decide, by decide, by decide⟩
  | packetError isError => exact isError.ordinary
  | networkError isError => exact isError.ordinary

section Network

variable {σ : Type} {net : NetworkStack σ}

/-- A read returns a count or a code of the network. -/
def ReturnsCodes (net : NetworkStack σ) : Prop :=
  ∀ s n, (net.read s n).1 < 0 → NetworkError (net.read s n).1

/-- A TCP socket is such a network. -/
theorem tcpNetwork_returnsCodes (recvs : σ → Nat → List Recv × σ) :
    ReturnsCodes (tcpNetwork recvs) := by
  intro s n negative
  have code := halTcpRead_code n (recvs s n).1 []
  have failed : ((tcpNetwork recvs).read s n).1 = errTcpReadFailed :=
    code.resolve_left (Int.not_le.mpr negative)
  rw [failed]
  exact .tcpReadFailed

theorem decodeRemLenLoop_code (tries multiplier value : Nat) (s : σ) :
    ReadCode (decodeRemLenLoop net tries multiplier value s).1 := by
  induction tries generalizing multiplier value s with
  | zero => exact .packetError .packetReadError
  | succ tries ih =>
      simp only [decodeRemLenLoop]
      split
      · exact .packetError .failure
      split
      · exact ih _ _ _
      · exact .success

/-- A packet is read with one of the codes. -/
theorem readMqttPacket_code (codes : ReturnsCodes net) (readBufSize : Nat) (readBuf : List UInt8)
    (s : σ) : ReadCode (readMqttPacket net readBufSize readBuf s).1.ret := by
  have field := @decodeRemLenLoop_code σ net maxNoOfRemainingLengthBytes 1 0
  unfold readMqttPacket decodePacketRemLenWithNetRead
  simp only
  split
  · rename_i failed
    exact .networkError (codes _ _ failed)
  split
  · exact .nothingToRead
  split
  · exact field _
  split
  · exact .packetError .bufferTooShort
  split
  · exact .packetError .bufferTooShort
  split
  · split
    · rename_i failed
      exact .networkError (codes _ _ failed)
    split
    · exact .nothingToRead
    · exact .success
  · exact .success

end Network

section Handlers

variable {client : Client} {env : Env}

theorem sendAnswer_ordinary {packet : Except Int (List UInt8)} (fails : FailsAsPacket packet) :
    Ordinary (sendAnswer client packet env).ret := by
  cases packet with
  | error ret => exact (fails ret rfl).ordinary
  | ok packet =>
      rcases sendMqttPacket_code (client.store packet) packet.length (env.writes 0) with
        success | isError
      · simp only [sendAnswer, success]
        exact ordinary_successRet
      · exact isError.ordinary

theorem deliverMessage_ret (memory : List UInt8) (len : Nat) (message : Message) (before : UInt8) :
    (deliverMessage client memory len message before).ret = successRet := by
  unfold deliverMessage
  simp only
  split <;> rfl

/-- No handler of a packet tells of the connection. -/
theorem dispatch_ordinary {packetType : MessageTypes} {handled : Result}
    (dispatched : dispatch client packetType env = some handled) : Ordinary handled.ret := by
  have subFailed : Ordinary errMqttSubFailed := ⟨by decide, by decide, by decide⟩
  cases packetType <;> simp only [dispatch, Option.some.injEq, reduceCtorEq] at dispatched
  case puback =>
    rw [← dispatched, handlePubackPacket]
    split
    · rename_i ret failed
      exact (deserializeAckPacket_fails _ _ ret failed).ordinary
    · exact ordinary_successRet
  case suback =>
    rw [← dispatched, handleSubackPacket]
    split
    · rename_i ret failed
      exact (deserializeSubackPacket_fails _ _ _ ret failed).ordinary
    · simp only
      split
      · exact subFailed
      split
      · exact subFailed
      split
      · exact PacketError.failure.ordinary
      · exact ordinary_successRet
  case unsuback =>
    rw [← dispatched, handleUnsubackPacket]
    split
    · rename_i ret failed
      exact (deserializeUnsubackPacket_fails _ _ ret failed).ordinary
    · exact ordinary_successRet
  case publish =>
    rw [← dispatched, handlePublishPacket]
    split
    · rename_i ret failed
      exact (deserializePublishPacket_fails _ _ ret failed).ordinary
    · simp only
      split
      · rw [deliverMessage_ret]
        exact ordinary_successRet
      · exact sendAnswer_ordinary (serializePubAckPacket_fails _ _ _ _)
  case pubrec =>
    rw [← dispatched, handlePubrecPacket]
    split
    · rename_i ret failed
      exact (deserializeAckPacket_fails _ _ ret failed).ordinary
    · exact sendAnswer_ordinary (serializePubAckPacket_fails _ _ _ _)
  all_goals exact dispatched ▸ ordinary_successRet

/-- Neither does a packet that is read and handled. -/
theorem cycle_ordinary {read : PacketRead} (code : ReadCode read.ret) :
    Ordinary (cycleForReadWith client read env).ret := by
  have invalidType : Ordinary errMqttRxMessagePacketTypeInvalid := ⟨by decide, by decide, by decide⟩
  rw [cycleForReadWith]
  split
  · exact ordinary_successRet
  split
  · exact code.ordinary
  split
  · exact invalidType
  split
  · exact invalidType
  · rename_i handled dispatched
    have isOrdinary := dispatch_ordinary dispatched
    exact isOrdinary

end Handlers

/-! ## Connecting -/

/-- A CONNACK is malformed, or it has a code that is not that of success. -/
theorem deserializeConnackPacket_ordinary (buf : List UInt8) (bufLen : Nat) :
    FailsAsPacket (deserializeConnackPacket buf bufLen) ∧
      ∀ flags connackRc, deserializeConnackPacket buf bufLen = .ok (flags, connackRc) →
        Ordinary connackRc ∧ connackRc ≠ successRet := by
  constructor
  · unfold deserializeConnackPacket
    exact .check .bufferTooShort (.check .failure (.bind (readFixedHeader_fails buf) fun _ =>
      .check .failure (.ok _)))
  · intro flags connackRc parsed
    unfold deserializeConnackPacket at parsed
    by_cases short : bufLen < 4
    · simp [short, bind, Except.bind] at parsed
    simp only [if_neg short] at parsed
    by_cases isConnack :
        MessageTypes.ofHeader (headerType (readFixedHeader buf).1) ≠ some MessageTypes.connack
    · simp [isConnack, bind, Except.bind] at parsed
    simp only [if_neg isConnack] at parsed
    cases rest : (readFixedHeader buf).2 with
    | error ret => simp [rest, bind, Except.bind] at parsed
    | ok value =>
        simp only [rest, bind, Except.bind] at parsed
        by_cases isTwo : value.1 ≠ 2
        · simp [isTwo] at parsed
        · simp only [if_neg isTwo, pure, Except.pure] at parsed
          rw [← (Prod.mk.inj (Except.ok.inj parsed)).2]
          split <;> exact ⟨⟨by decide, by decide, by decide⟩, by decide⟩

end UIoT.Mqtt
