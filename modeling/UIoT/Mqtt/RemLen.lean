import UIoT.Defs
import UIoT.Lib.Base128

/-!
# The remaining-length field of an MQTT packet

`mqtt_write_packet_rem_len` writes the field, and two decoders read it: one
from a buffer and one from the network, byte by byte. The writer is the
base-128 encoder (`mqttWritePacketRemLen_eq_encode`), and either decoder takes
exactly a field of at most four bytes.

The 32-bit accumulator of the decoders never wraps, since four bytes hold a
number below `2 ^ 28`; it is a natural number here.
-/

set_option autoImplicit false

namespace UIoT.Mqtt

open Base128

/-- `MAX_NO_OF_REMAINING_LENGTH_BYTES` -/
def maxNoOfRemainingLengthBytes : Nat := 4

/-- `mqtt_write_packet_rem_len`: the bytes the `do … while (length > 0)` loop
stores. -/
def mqttWritePacketRemLen (length : Nat) : List UInt8 :=
  let encodeByte := UInt8.ofNat (length % 128)
  let length' := length / 128
  if 0 < length' then (encodeByte ||| 0x80) :: mqttWritePacketRemLen length' else [encodeByte]
termination_by length
decreasing_by omega

/-- The writer of the remaining length is the base-128 encoder. -/
theorem mqttWritePacketRemLen_eq_encode (length : Nat) :
    mqttWritePacketRemLen length = encode length := by
  induction length using Nat.strongRecOn with
  | ind length ih =>
      rw [mqttWritePacketRemLen]
      by_cases small : length < 128
      · rw [if_neg (by omega), encode_of_lt small, Nat.mod_eq_of_lt small]
      · rw [if_pos (by omega), encode_of_le (by omega), ih (length / 128) (by omega)]
        congr 1
        apply UInt8.toNat_inj.mp
        rw [toNat_ofNat (by omega)]
        exact toNat_or_128 (Nat.mod_lt _ (by omega))

/-- `get_mqtt_packet_len` -/
def getMqttPacketLen (remLen : Nat) : Nat :=
  let remLen := remLen + 1
  if remLen < 128 then remLen + 1
  else if remLen < 16384 then remLen + 2
  else if remLen < 2097151 then remLen + 3
  else remLen + 4

/-- The length that `get_mqtt_packet_len` reckons with is that of the packet, or one
more. -/
theorem getMqttPacketLen_bounds {remLen : Nat} (small : remLen < 2 ^ 28) :
    1 + (encode remLen).length + remLen ≤ getMqttPacketLen remLen ∧
      getMqttPacketLen remLen ≤ 2 + (encode remLen).length + remLen := by
  have positive := encode_length_pos remLen
  have one := encode_length_le_iff 0 remLen
  have two := encode_length_le_iff 1 remLen
  have three := encode_length_le_iff 2 remLen
  have four := (encode_length_le_iff 3 remLen).mpr small
  rw [getMqttPacketLen]
  split
  · omega
  · split
    · omega
    · split
      · omega
      · omega

/-! ## Reading from a buffer -/

/-- `*ptr` at the start of the rest of a buffer. Past its end the byte is
unspecified; it reads as zero here. -/
def mqttReadChar (buf : List UInt8) : UInt8 × List UInt8 := (buf.headD 0, buf.tail)

/-- `mqtt_read_uint16_t` -/
def mqttReadUint16 (buf : List UInt8) : Nat × List UInt8 :=
  let (firstByte, buf) := mqttReadChar buf
  let (secondByte, buf) := mqttReadChar buf
  (secondByte.toNat + 256 * firstByte.toNat, buf)

/-- The loop of `_decode_packet_rem_len_from_buf_read` with `tries` passes left
before `++len` exceeds the maximum: the return code, the value and the rest of
the buffer. -/
def decodeRemLenFromBuf : Nat → Nat → Nat → List UInt8 → Int × Nat × List UInt8
  | 0, _, value, buf => (errMqttPacketReadError, value, buf)
  | tries + 1, multiplier, value, buf =>
      let (c, buf) := mqttReadChar buf
      let value := value + (c &&& 127).toNat * multiplier
      if c &&& 128 ≠ 0 then decodeRemLenFromBuf tries (multiplier * 128) value buf
      else (successRet, value, buf)

/-- `mqtt_read_packet_rem_len_form_buf` -/
def mqttReadPacketRemLenFromBuf (buf : List UInt8) : Int × Nat × List UInt8 :=
  decodeRemLenFromBuf maxNoOfRemainingLengthBytes 1 0 buf

theorem decodeRemLenFromBuf_field {field : List UInt8} {high : Nat} (isField : IsFieldOf field high)
    (tries multiplier value : Nat) (fits : field.length ≤ tries) (after : List UInt8) :
    decodeRemLenFromBuf tries multiplier value (field ++ after) =
      (successRet, value + high * multiplier, after) := by
  induction field generalizing high tries multiplier value with
  | nil => simp [IsFieldOf, decode] at isField
  | cons byte rest ih =>
      obtain ⟨tries, rfl⟩ : ∃ less, tries = less + 1 := ⟨tries - 1, by grind⟩
      simp only [IsFieldOf, decode] at isField
      simp only [List.cons_append, decodeRemLenFromBuf, mqttReadChar, List.headD_cons,
        List.tail_cons, toNat_and_127, ne_eq, and_128_eq_zero_iff, ite_not]
      by_cases last : byte.toNat < 128
      · rw [if_pos last] at isField ⊢
        obtain ⟨rfl, rfl⟩ := by simpa using isField
        rw [Nat.mod_eq_of_lt last, List.nil_append]
      · rw [if_neg last] at isField ⊢
        obtain ⟨⟨digits, tail⟩, decoded, same⟩ := Option.map_eq_some_iff.mp isField
        obtain ⟨rfl, rfl⟩ := by simpa using same
        rw [ih decoded _ _ _ (by simpa using fits)]
        congr 2
        ring

/-- The buffer decoder takes exactly the field at the front of the buffer. -/
theorem mqttReadPacketRemLenFromBuf_field {field : List UInt8} {value : Nat}
    (isField : IsFieldOf field value) (short : field.length ≤ maxNoOfRemainingLengthBytes)
    (after : List UInt8) :
    mqttReadPacketRemLenFromBuf (field ++ after) = (successRet, value, after) := by
  rw [mqttReadPacketRemLenFromBuf, decodeRemLenFromBuf_field isField _ _ _ short]
  simp

/-! ## Packets -/

/-- An MQTT packet: the first byte of the fixed header and the bytes the
remaining length counts. -/
structure Packet where
  header : UInt8
  body : List UInt8
  short : body.length < 128 ^ maxNoOfRemainingLengthBytes

deriving instance DecidableEq, Repr for Packet

/-- The bytes of a packet on the wire, with the remaining length written the
way the protocol writes it. -/
def Packet.bytes (packet : Packet) : List UInt8 :=
  packet.header :: (encode packet.body.length ++ packet.body)

/-- The packet that the functions reading a receive buffer find in it: they
decode the remaining length again and count the body from there. -/
def packetInBuf (buf : List UInt8) : Option (UInt8 × List UInt8) :=
  let (header, buf) := mqttReadChar buf
  match mqttReadPacketRemLenFromBuf buf with
  | (ret, remLen, buf) => if ret = successRet then some (header, buf.take remLen) else none

theorem Packet.field_length_le (packet : Packet) :
    (encode packet.body.length).length ≤ maxNoOfRemainingLengthBytes :=
  (encode_length_le_iff 3 _).mpr packet.short

theorem packetInBuf_bytes (packet : Packet) (after : List UInt8) :
    packetInBuf (packet.bytes ++ after) = some (packet.header, packet.body) := by
  simp only [packetInBuf, Packet.bytes, mqttReadChar, List.cons_append, List.headD_cons,
    List.tail_cons, List.append_assoc]
  rw [mqttReadPacketRemLenFromBuf_field (isField_encode _) packet.field_length_le]
  simp

end UIoT.Mqtt
