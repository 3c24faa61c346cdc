import UIoT.Mqtt.Packets
import UIoT.Mqtt.ReadPacket

/-!
# Writing, reading and reckoning with the remaining length

One encoder of the remaining length, two decoders and a table of its sizes are written apart from each
other. The decoders invert the encoder and do the same on any bytes (`remLen_codec`). The table stands
for the encoder except at four lengths, each of them next to a power of 128 (`packetLen_exact_iff`).
-/

set_option autoImplicit false

namespace UIoT.Mqtt

open Base128

/-- The largest remaining length that four bytes hold. -/
abbrev maxRemainingLength : Nat := 268435455

/-! ## The decoders -/

section Decoders

variable {σ : Type} {net : NetworkStack σ}

/-- Both decoders go the same way over bytes that are there: they end in front of the same byte, with
the same code and the same number. -/
structure Agrees (net : NetworkStack σ) (s : σ) (bytes : List UInt8) (fromBuf : Int × Nat × List UInt8)
    (fromNet : Int × Nat × σ) : Prop where
  ret : fromNet.1 = fromBuf.1
  value : fromNet.2.1 = fromBuf.2.1
  consumed : ∃ consumed, bytes = consumed ++ fromBuf.2.2 ∧ ReadsEach net s consumed fromNet.2.2

theorem decodeRemLenFromBuf_cons (tries multiplier value : Nat) (byte : UInt8) (rest : List UInt8) :
    decodeRemLenFromBuf (tries + 1) multiplier value (byte :: rest) =
      if byte &&& 128 ≠ 0 then
        decodeRemLenFromBuf tries (multiplier * 128) (value + (byte &&& 127).toNat * multiplier) rest
      else (successRet, value + (byte &&& 127).toNat * multiplier, rest) := rfl

theorem decodeRemLenLoop_read (tries multiplier value : Nat) {s middle : σ} {byte : UInt8}
    (read : net.read s 1 = (1, [byte], middle)) :
    decodeRemLenLoop net (tries + 1) multiplier value s =
      if byte &&& 128 ≠ 0 then
        decodeRemLenLoop net tries (multiplier * 128) (value + (byte &&& 127).toNat * multiplier) middle
      else (successRet, value + (byte &&& 127).toNat * multiplier, middle) := by
  rw [decodeRemLenLoop, read]
  exact if_neg (by decide)

theorem decoders_agree (tries multiplier value : Nat) {s s' : σ} {bytes : List UInt8}
    (enough : tries ≤ bytes.length) (reads : ReadsEach net s bytes s') :
    Agrees net s bytes (decodeRemLenFromBuf tries multiplier value bytes)
      (decodeRemLenLoop net tries multiplier value s) := by
  induction tries generalizing multiplier value s bytes with
  | zero => exact ⟨rfl, rfl, [], rfl, .nil s⟩
  | succ tries inductionHypothesis =>
      cases reads with
      | nil => exact absurd enough (Nat.not_succ_le_zero tries)
      | @cons _ middle _ byte rest read later =>
          rw [decodeRemLenFromBuf_cons, decodeRemLenLoop_read tries multiplier value read]
          split
          · obtain ⟨ret, value, consumed, isRest, readsRest⟩ :=
              inductionHypothesis (multiplier * 128) (value + (byte &&& 127).toNat * multiplier)
                (Nat.le_of_succ_le_succ enough) later
            refine ⟨ret, value, byte :: consumed, ?_, .cons read readsRest⟩
            rw [List.cons_append, ← isRest]
          · exact ⟨rfl, rfl, [byte], rfl, .cons read (.nil middle)⟩

/-- The number stays below what the passes that are left can reach. -/
theorem decodeRemLenFromBuf_value_lt (tries multiplier value : Nat) (bytes : List UInt8)
    (small : value < multiplier) :
    (decodeRemLenFromBuf tries multiplier value bytes).2.1 < multiplier * 128 ^ tries := by
  induction tries generalizing multiplier value bytes with
  | zero =>
      rw [Nat.pow_zero, Nat.mul_one]
      exact small
  | succ tries inductionHypothesis =>
      have digit : ((mqttReadChar bytes).1 &&& 127).toNat < 128 := by
        rw [toNat_and_127]
        exact Nat.mod_lt _ (by decide)
      have next : value + ((mqttReadChar bytes).1 &&& 127).toNat * multiplier < multiplier * 128 := by
        have most : ((mqttReadChar bytes).1 &&& 127).toNat * multiplier ≤ 127 * multiplier :=
          Nat.mul_le_mul_right multiplier (Nat.le_of_lt_succ digit)
        omega
      rw [decodeRemLenFromBuf]
      dsimp only
      split
      · have later := inductionHypothesis (multiplier * 128) _ (mqttReadChar bytes).2 next
        rwa [Nat.mul_assoc, ← Nat.pow_succ'] at later
      · calc
          _ < multiplier * 128 := next
          _ ≤ multiplier * 128 ^ (tries + 1) :=
            Nat.mul_le_mul_left multiplier (Nat.le_self_pow (Nat.succ_ne_zero tries) 128)

/-- Bytes that all have the bit for more bytes are never the whole number. -/
theorem decodeRemLenFromBuf_continues (tries multiplier value : Nat) {bytes : List UInt8}
    (length : bytes.length = tries) (continues : ∀ byte ∈ bytes, byte &&& 128 ≠ 0) (after : List UInt8) :
    (decodeRemLenFromBuf tries multiplier value (bytes ++ after)).1 = errMqttPacketReadError := by
  induction bytes generalizing tries multiplier value with
  | nil =>
      cases length
      rfl
  | cons byte bytes inductionHypothesis =>
      cases length
      have continued := continues byte List.mem_cons_self
      rw [List.length_cons, List.cons_append, decodeRemLenFromBuf_cons, if_pos continued]
      exact inductionHypothesis _ _ _ rfl fun other isOther =>
        continues other (List.mem_cons_of_mem _ isOther)

end Decoders

/-- The encoder and the decoders, one over a buffer and one over this network. -/
structure RemLenCodec {σ : Type} (net : NetworkStack σ) : Prop where
  /-- An encoding has one to four bytes, and no other encoding of the number is shorter. -/
  minimal : ∀ n ≤ maxRemainingLength, 1 ≤ (mqttWritePacketRemLen n).length ∧
    (mqttWritePacketRemLen n).length ≤ 4 ∧ IsFieldOf (mqttWritePacketRemLen n) n ∧
      ∀ field, IsFieldOf field n → (mqttWritePacketRemLen n).length ≤ field.length
  /-- Whatever comes behind an encoding, it is read back and nothing else is. -/
  inverts : ∀ n ≤ maxRemainingLength, ∀ after,
    mqttReadPacketRemLenFromBuf (mqttWritePacketRemLen n ++ after) = (successRet, n, after) ∧
      ∀ s s', ReadsEach net s (mqttWritePacketRemLen n) s' →
        decodePacketRemLenWithNetRead net s = (successRet, n, s')
  /-- On four bytes and more the decoders agree, and the number fits in 32 bits. -/
  agree : ∀ s s' bytes, 4 ≤ bytes.length → ReadsEach net s bytes s' →
    Agrees net s bytes (mqttReadPacketRemLenFromBuf bytes) (decodePacketRemLenWithNetRead net s) ∧
      (mqttReadPacketRemLenFromBuf bytes).2.1 < 2 ^ 32
  /-- Both reject four bytes that all announce another one. -/
  reject : ∀ s s' bytes after, bytes.length = 4 → (∀ byte ∈ bytes, byte &&& 128 ≠ 0) →
    ReadsEach net s (bytes ++ after) s' →
      (mqttReadPacketRemLenFromBuf (bytes ++ after)).1 = errMqttPacketReadError ∧
        (decodePacketRemLenWithNetRead net s).1 = errMqttPacketReadError

/-- The codec of the remaining length, over every network. -/
theorem remLen_codec {σ : Type} (net : NetworkStack σ) : RemLenCodec net where
  minimal n small := by
    rw [mqttWritePacketRemLen_eq_encode]
    refine ⟨encode_length_pos n, (encode_length_le_iff 3 n).mpr ?_, isField_encode n, ?_⟩
    · exact Nat.lt_of_le_of_lt small (by decide)
    · intro field isField
      exact encode_length_le_of_isField isField
  inverts n small after := by
    have short : (encode n).length ≤ maxNoOfRemainingLengthBytes :=
      (encode_length_le_iff 3 n).mpr (Nat.lt_of_le_of_lt small (by decide))
    rw [mqttWritePacketRemLen_eq_encode]
    refine ⟨mqttReadPacketRemLenFromBuf_field (isField_encode n) short after, ?_⟩
    intro s s' reads
    exact decodePacketRemLenWithNetRead_field (isField_encode n) short reads
  agree s s' bytes enough reads := by
    have value := decodeRemLenFromBuf_value_lt maxNoOfRemainingLengthBytes 1 0 bytes (by decide)
    exact ⟨decoders_agree _ 1 0 enough reads, Nat.lt_trans value (by decide)⟩
  reject s s' bytes after length continues reads := by
    have enough : maxNoOfRemainingLengthBytes ≤ (bytes ++ after).length := by
      rw [List.length_append, length]
      exact Nat.le_add_right 4 _
    have rejected := decodeRemLenFromBuf_continues maxNoOfRemainingLengthBytes 1 0 length continues after
    exact ⟨rejected, (decoders_agree _ 1 0 enough reads).ret.trans rejected⟩

/-! ## The table of lengths -/

/-- The bytes of a packet: the header, the remaining length and what it counts. -/
def packetSize (remLen : Nat) : Nat := 1 + remLen + (mqttWritePacketRemLen remLen).length

/-- The table gives the size of a packet, and each serializer that looks into it refuses a buffer for
its size just if the packet does not fit. -/
structure PacketLenExact (remLen : Nat) : Prop where
  length : getMqttPacketLen remLen = packetSize remLen
  connect : ∀ bufLen options, options.clientId.length ≠ 0 → getPacketConnectRemLen options = remLen →
    (serializeConnectPacket bufLen options = .error errMqttBufferTooShort ↔ bufLen < packetSize remLen)
  publish : ∀ bufLen dup qos retained packetId topicName payload,
    getPublishPacketLen qos topicName payload.length = remLen →
    (serializePublishPacket bufLen dup qos retained packetId topicName (some payload) =
      .error errMqttBufferTooShort ↔ bufLen < packetSize remLen)
  subscribe : ∀ bufLen dup packetId count topicFilters behind requestedQoSs,
    getSubscribePacketRemLen behind count topicFilters = remLen →
    (serializeSubscribePacket bufLen dup packetId count topicFilters behind requestedQoSs =
      .error errMqttBufferTooShort ↔ bufLen < packetSize remLen)
  unsubscribe : ∀ bufLen dup packetId count topicFilters behind,
    getUnsubscribePacketRemLen behind count topicFilters = remLen →
    (serializeUnsubscribePacket bufLen dup packetId count topicFilters behind =
      .error errMqttBufferTooShort ↔ bufLen < packetSize remLen)

/-- The lengths at which the table is one byte too high: the largest ones with one and with two bytes,
and the two largest ones with three. -/
def NextToThreshold (remLen : Nat) : Prop :=
  remLen = 127 ∨ remLen = 16383 ∨ remLen = 2097150 ∨ remLen = 2097151

instance (remLen : Nat) : Decidable (NextToThreshold remLen) :=
  inferInstanceAs (Decidable (remLen = 127 ∨ remLen = 16383 ∨ remLen = 2097150 ∨ remLen = 2097151))

theorem packetSize_eq (remLen : Nat) : packetSize remLen = 1 + remLen + (encode remLen).length := by
  rw [packetSize, mqttWritePacketRemLen_eq_encode]

theorem getMqttPacketLen_eq_iff {remLen : Nat} (small : remLen ≤ maxRemainingLength) :
    getMqttPacketLen remLen = packetSize remLen ↔ ¬NextToThreshold remLen := by
  have positive := encode_length_pos remLen
  have one := encode_length_le_iff 0 remLen
  have two := encode_length_le_iff 1 remLen
  have three := encode_length_le_iff 2 remLen
  have four : (encode remLen).length ≤ 4 :=
    (encode_length_le_iff 3 remLen).mpr (Nat.lt_of_le_of_lt small (by decide))
  rw [packetSize_eq, NextToThreshold, getMqttPacketLen]
  split
  · omega
  · split
    · omega
    · split
      · omega
      · omega

section Serializers

variable (bufLen : Nat) (dup : UInt8) (packetId : UInt16)

/-- A test of the size in front of what does not refuse a buffer for it. -/
theorem tooShort_iff {size : Nat} {rest : Unit → Except Int (List UInt8)}
    (otherwise : rest () ≠ .error errMqttBufferTooShort) :
    (if bufLen < size then Except.error errMqttBufferTooShort >>= rest else rest ()) =
        .error errMqttBufferTooShort ↔ bufLen < size := by
  by_cases short : bufLen < size
  · rw [if_pos short]
    exact iff_of_true rfl short
  · rw [if_neg short]
    exact iff_of_false otherwise short

/-- The test of the size is the only one that refuses a connect with an id for its size. -/
theorem serializeConnectPacket_tooShort_iff {options : ConnectParams}
    (named : options.clientId.length ≠ 0) :
    serializeConnectPacket bufLen options = .error errMqttBufferTooShort ↔
      bufLen < getMqttPacketLen (getPacketConnectRemLen options) := by
  rw [serializeConnectPacket, if_neg named]
  exact tooShort_iff bufLen fun refused => nomatch refused

theorem serializePublishPacket_tooShort_iff (qos : QoS) (retained : UInt8) (topicName : CString)
    (payload : List UInt8) :
    serializePublishPacket bufLen dup qos retained packetId topicName (some payload) =
        .error errMqttBufferTooShort ↔
      bufLen < getMqttPacketLen (getPublishPacketLen qos topicName payload.length) := by
  rw [serializePublishPacket]
  exact tooShort_iff bufLen fun refused => nomatch refused

theorem serializeSubscribePacket_tooShort_iff (count : Nat) (topicFilters : List CString)
    (behind : List UInt8) (requestedQoSs : List QoS) :
    serializeSubscribePacket bufLen dup packetId count topicFilters behind requestedQoSs =
        .error errMqttBufferTooShort ↔
      bufLen < getMqttPacketLen (getSubscribePacketRemLen behind count topicFilters) := by
  rw [serializeSubscribePacket]
  exact tooShort_iff bufLen fun refused => nomatch refused

theorem serializeUnsubscribePacket_tooShort_iff (count : Nat) (topicFilters : List CString)
    (behind : List UInt8) :
    serializeUnsubscribePacket bufLen dup packetId count topicFilters behind =
        .error errMqttBufferTooShort ↔
      bufLen < getMqttPacketLen (getUnsubscribePacketRemLen behind count topicFilters) := by
  rw [serializeUnsubscribePacket]
  exact tooShort_iff bufLen fun refused => nomatch refused

end Serializers

/-- The lengths for which the table is right. -/
theorem packetLen_exact_iff (remLen : Nat) (small : remLen ≤ maxRemainingLength) :
    PacketLenExact remLen ↔ ¬NextToThreshold remLen := by
  constructor
  · intro exact
    exact (getMqttPacketLen_eq_iff small).mp exact.length
  · intro apart
    have length := (getMqttPacketLen_eq_iff small).mpr apart
    refine ⟨length, ?_, ?_, ?_, ?_⟩
    · intro bufLen options named isRemLen
      rw [serializeConnectPacket_tooShort_iff bufLen named, isRemLen, length]
    · intro bufLen dup qos retained packetId topicName payload isRemLen
      rw [serializePublishPacket_tooShort_iff, isRemLen, length]
    · intro bufLen dup packetId count topicFilters behind requestedQoSs isRemLen
      rw [serializeSubscribePacket_tooShort_iff, isRemLen, length]
    · intro bufLen dup packetId count topicFilters behind isRemLen
      rw [serializeUnsubscribePacket_tooShort_iff, isRemLen, length]

theorem packetLen_exact_128 : PacketLenExact 128 :=
  (packetLen_exact_iff 128 (by decide)).mpr (by decide)

/-- A packet of 129 bytes is taken for one of 130. -/
theorem not_packetLen_exact_127 : ¬PacketLenExact 127 := by
  intro exact
  have size : packetSize 127 = 129 := by
    rw [packetSize_eq, encode_of_lt (by decide)]
    rfl
  have length := exact.length
  rw [size] at length
  exact absurd length (by decide)

end UIoT.Mqtt
