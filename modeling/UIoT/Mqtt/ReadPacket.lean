import UIoT.Net
import UIoT.Mqtt.RemLen

/-!
# Reading one packet from the network

`_read_mqtt_packet` reads the header byte, then the remaining length byte by
byte, then the body. A body that does not fit the receive buffer is read and
dropped: in pieces of the buffer's size when the remaining length alone reaches
that size, in one piece otherwise. A body that fits is stored behind the header
byte and the remaining length, which is written again rather than copied.

How a call ends is determined by what the reads deliver. `ReadsEach` says that
a field arrives byte by byte, `Drains` that a body arrives in pieces, and the
call is computed from these (`readMqttPacket_fits`, `readMqttPacket_drained`,
`readMqttPacket_oversize`). On a network that delivers all requested bytes, one
call consumes exactly one packet (`readMqttPacket_consumes_packet`).
-/

set_option autoImplicit false

namespace UIoT.Mqtt

open Base128

variable {σ : Type}

/-! ## The functions -/

/-- The loop of `_decode_packet_rem_len_with_net_read` with `tries` passes left
before `++len` exceeds the maximum. -/
def decodeRemLenLoop (net : NetworkStack σ) : Nat → Nat → Nat → σ → Int × Nat × σ
  | 0, _, value, s => (errMqttPacketReadError, value, s)
  | tries + 1, multiplier, value, s =>
      let (readLen, bytes, s) := net.read s 1
      if readLen ≤ 0 then (failureRet, value, s)
      else
        let i := bytes.headD 0
        let value := value + (i &&& 127).toNat * multiplier
        if i &&& 128 ≠ 0 then decodeRemLenLoop net tries (multiplier * 128) value s
        else (successRet, value, s)

/-- `_decode_packet_rem_len_with_net_read` -/
def decodePacketRemLenWithNetRead (net : NetworkStack σ) (s : σ) : Int × Nat × σ :=
  decodeRemLenLoop net maxNoOfRemainingLengthBytes 1 0 s

/-- The loop of `_read_mqtt_packet` that drops a body of `remLen` bytes, of which
`totalBytesRead` have been read. -/
def drainBody (net : NetworkStack σ) (readBufSize remLen totalBytesRead bytesToBeRead : Nat)
    (readBuf : List UInt8) (s : σ) : List UInt8 × σ :=
  let (readLen, bytes, s) := net.read s bytesToBeRead
  let readBuf := overwrite readBuf 0 bytes
  if 0 < readLen then
    let totalBytesRead' := totalBytesRead + readLen.toNat
    let bytesToBeRead :=
      if readBufSize ≤ remLen - totalBytesRead' then readBufSize else remLen - totalBytesRead'
    if totalBytesRead' < remLen then
      drainBody net readBufSize remLen totalBytesRead' bytesToBeRead readBuf s
    else (readBuf, s)
  else (readBuf, s)
termination_by remLen - totalBytesRead
decreasing_by omega

/-- The outcome of `_read_mqtt_packet`: the return code, the packet type when it
was stored, and the receive buffer. -/
structure PacketRead where
  ret : Int
  packetType : Option Nat
  readBuf : List UInt8

deriving instance DecidableEq, Repr for PacketRead

/-- `(header & MQTT_HEADER_TYPE_MASK) >> MQTT_HEADER_TYPE_SHIFT` -/
def headerType (header : UInt8) : Nat := ((header &&& 0xF0) >>> 4).toNat

/-- `_read_mqtt_packet` -/
def readMqttPacket (net : NetworkStack σ) (readBufSize : Nat) (readBuf : List UInt8) (s : σ) :
    PacketRead × σ :=
  -- 1. the first byte of the fixed header
  let (readLen, bytes, s) := net.read s 1
  let readBuf := overwrite readBuf 0 bytes
  if readLen < 0 then (⟨readLen, none, readBuf⟩, s)
  else if readLen = 0 then (⟨errMqttNothingToRead, none, readBuf⟩, s)
  else
    -- 2. the remaining length
    let (ret, remLen, s) := decodePacketRemLenWithNetRead net s
    if ret ≠ successRet then (⟨ret, none, readBuf⟩, s)
    else if readBufSize ≤ remLen then
      let (readBuf, s) := drainBody net readBufSize remLen 0 readBufSize readBuf s
      (⟨errMqttBufferTooShort, none, readBuf⟩, s)
    else
      let field := mqttWritePacketRemLen remLen
      let len := 1 + field.length
      let readBuf := overwrite readBuf 1 field
      -- 3. the body
      if 0 < remLen ∧ readBufSize < len + remLen then
        let (_, bytes, s) := net.read s remLen
        (⟨errMqttBufferTooShort, none, overwrite readBuf 0 bytes⟩, s)
      else if 0 < remLen then
        let (readLen, bytes, s) := net.read s remLen
        let readBuf := overwrite readBuf len bytes
        if readLen < 0 then (⟨readLen, none, readBuf⟩, s)
        else if readLen = 0 then (⟨errMqttNothingToRead, none, readBuf⟩, s)
        else (⟨successRet, some (headerType (readBuf.headD 0)), readBuf⟩, s)
      else (⟨successRet, some (headerType (readBuf.headD 0)), readBuf⟩, s)

/-! ## What the reads deliver -/

/-- Reads of one byte each deliver the given bytes. -/
inductive ReadsEach (net : NetworkStack σ) : σ → List UInt8 → σ → Prop where
  | nil (s : σ) : ReadsEach net s [] s
  | cons {s middle s' : σ} {byte : UInt8} {bytes : List UInt8}
      (read : net.read s 1 = (1, [byte], middle)) (later : ReadsEach net middle bytes s') :
      ReadsEach net s (byte :: bytes) s'

/-- Reads of at most `size` bytes each deliver `left` bytes, none of them
coming back empty. -/
inductive Drains (net : NetworkStack σ) (size : Nat) : Nat → σ → σ → Prop where
  | done (s : σ) : Drains net size 0 s s
  | piece {left count : Nat} {s middle s' : σ} {bytes : List UInt8}
      (positive : 0 < count) (within : count ≤ left)
      (read : net.read s (if size ≤ left then size else left) = ((count : Int), bytes, middle))
      (later : Drains net size (left - count) middle s') : Drains net size left s s'

variable {net : NetworkStack σ}

theorem decodeRemLenLoop_field {field : List UInt8} {high : Nat} (isField : IsFieldOf field high)
    {s s' : σ} (reads : ReadsEach net s field s') (tries multiplier value : Nat)
    (fits : field.length ≤ tries) :
    decodeRemLenLoop net tries multiplier value s =
      (successRet, value + high * multiplier, s') := by
  induction reads generalizing high tries multiplier value with
  | nil => simp [IsFieldOf, decode] at isField
  | @cons s middle s' byte bytes read later ih =>
      obtain ⟨tries, rfl⟩ : ∃ less, tries = less + 1 :=
        ⟨tries - 1, by simp only [List.length_cons] at fits; omega⟩
      simp only [IsFieldOf, decode] at isField
      simp only [decodeRemLenLoop, read, List.headD_cons, toNat_and_127, ne_eq,
        and_128_eq_zero_iff, ite_not]
      rw [if_neg (by decide)]
      by_cases last : byte.toNat < 128
      · rw [if_pos last] at isField ⊢
        obtain ⟨rfl, rfl⟩ := by simpa using isField
        cases later
        rw [Nat.mod_eq_of_lt last]
      · rw [if_neg last] at isField ⊢
        obtain ⟨⟨digits, tail⟩, decoded, same⟩ := Option.map_eq_some_iff.mp isField
        obtain ⟨rfl, rfl⟩ := by simpa using same
        rw [ih decoded _ _ _ (by simpa using fits)]
        congr 2
        ring

/-- The network decoder takes exactly the field that arrives. -/
theorem decodePacketRemLenWithNetRead_field {field : List UInt8} {value : Nat}
    (isField : IsFieldOf field value) (short : field.length ≤ maxNoOfRemainingLengthBytes)
    {s s' : σ} (reads : ReadsEach net s field s') :
    decodePacketRemLenWithNetRead net s = (successRet, value, s') := by
  rw [decodePacketRemLenWithNetRead, decodeRemLenLoop_field isField reads _ _ _ short]
  simp

/-- Once the pieces have arrived, the drain loop stops where they end. -/
theorem drainBody_state {size remLen left : Nat} {s s' : σ} (drains : Drains net size left s s')
    (readBuf : List UInt8) (total : Nat) (sum : total + left = remLen) (some : 0 < left) :
    (drainBody net size remLen total (if size ≤ left then size else left) readBuf s).2 = s' := by
  induction drains generalizing readBuf total with
  | done => omega
  | @piece left count s middle s' bytes positive within read later ih =>
      have rest : remLen - (total + count) = left - count := by omega
      rw [drainBody]
      simp only [read, Int.toNat_natCast, rest]
      rw [if_pos (by omega)]
      by_cases more : total + count < remLen
      · rw [if_pos more]
        exact ih _ _ (by omega) (by omega)
      · rw [if_neg more]
        obtain none : left - count = 0 := by omega
        rw [none] at later
        cases later with
        | done => rfl
        | piece positive within => omega

/-! ## Calls that receive a packet -/

section Received

variable {size : Nat} {readBuf : List UInt8} {header : UInt8} {field body : List UInt8}
  {s afterHeader afterField : σ}

/-- The header byte and the remaining length of a packet arrive. -/
structure HeadArrives (net : NetworkStack σ) (header : UInt8) (field : List UInt8) (remLen : Nat)
    (s afterHeader afterField : σ) : Prop where
  headerRead : net.read s 1 = (1, [header], afterHeader)
  fieldRead : ReadsEach net afterHeader field afterField
  isField : IsFieldOf field remLen
  short : field.length ≤ maxNoOfRemainingLengthBytes

/-- What is left of a call once the head of a packet has arrived. -/
theorem readMqttPacket_head {remLen : Nat}
    (head : HeadArrives net header field remLen s afterHeader afterField) :
    readMqttPacket net size readBuf s =
      let readBuf := overwrite readBuf 0 [header]
      if size ≤ remLen then
        let (readBuf, s) := drainBody net size remLen 0 size readBuf afterField
        (⟨errMqttBufferTooShort, none, readBuf⟩, s)
      else
        let readBuf := overwrite readBuf 1 (encode remLen)
        if 0 < remLen ∧ size < 1 + (encode remLen).length + remLen then
          let (_, bytes, s) := net.read afterField remLen
          (⟨errMqttBufferTooShort, none, overwrite readBuf 0 bytes⟩, s)
        else if 0 < remLen then
          let (readLen, bytes, s) := net.read afterField remLen
          let readBuf := overwrite readBuf (1 + (encode remLen).length) bytes
          if readLen < 0 then (⟨readLen, none, readBuf⟩, s)
          else if readLen = 0 then (⟨errMqttNothingToRead, none, readBuf⟩, s)
          else (⟨successRet, some (headerType (readBuf.headD 0)), readBuf⟩, s)
        else (⟨successRet, some (headerType (readBuf.headD 0)), readBuf⟩, afterField) := by
  have decoded := decodePacketRemLenWithNetRead_field head.isField head.short head.fieldRead
  rw [readMqttPacket]
  simp only [head.headerRead, decoded, mqttWritePacketRemLen_eq_encode]
  simp

/-- The receive buffer once the header byte and the remaining length are stored. -/
theorem overwrite_head (readBuf : List UInt8) (header : UInt8) (fieldBytes : List UInt8) :
    ∃ after, overwrite (overwrite readBuf 0 [header]) 1 fieldBytes =
      header :: fieldBytes ++ after := by
  refine ⟨(readBuf.drop 1).drop fieldBytes.length, ?_⟩
  have first : overwrite readBuf 0 [header] = [header] ++ readBuf.drop 1 := by
    rw [overwrite_zero]
    rfl
  rw [first]
  exact overwrite_append [header] _ _

/-- A body that fits and arrives in one piece is stored behind the header byte
and the shortest encoding of its length. -/
theorem readMqttPacket_fits (readBuf : List UInt8)
    (head : HeadArrives net header field body.length s afterHeader afterField)
    (fits : 1 + (encode body.length).length + body.length ≤ size) {s' : σ}
    (arrives : body = [] ∧ s' = afterField ∨
      body ≠ [] ∧ net.read afterField body.length = ((body.length : Int), body, s')) :
    ∃ after, readMqttPacket net size readBuf s =
      (⟨successRet, some (headerType header),
        header :: (encode body.length ++ body) ++ after⟩, s') := by
  have notDrained : ¬size ≤ body.length := by
    have := encode_length_pos body.length
    omega
  obtain ⟨after, stored⟩ := overwrite_head readBuf header (encode body.length)
  rw [readMqttPacket_head head]
  simp only [if_neg notDrained, stored]
  rw [if_neg (by omega)]
  rcases arrives with ⟨rfl, rfl⟩ | ⟨nonempty, read⟩
  · exact ⟨after, by simp⟩
  · have positive : 0 < body.length := List.length_pos_iff.mpr nonempty
    have stored := overwrite_append (header :: encode body.length) after body
    have offset : (header :: encode body.length).length = 1 + (encode body.length).length := by
      rw [List.length_cons]
      omega
    rw [offset] at stored
    refine ⟨after.drop body.length, ?_⟩
    rw [if_pos positive]
    simp only [read, stored]
    rw [if_neg (by omega), if_neg (by omega)]
    simp

/-- A body of the buffer's size or more that arrives in pieces is dropped. -/
theorem readMqttPacket_drained (readBuf : List UInt8) {remLen : Nat}
    (head : HeadArrives net header field remLen s afterHeader afterField)
    (large : size ≤ remLen) (positive : 0 < size) {s' : σ}
    (drains : Drains net size remLen afterField s') :
    ∃ buf, readMqttPacket net size readBuf s = (⟨errMqttBufferTooShort, none, buf⟩, s') := by
  have drained : (drainBody net size remLen 0 size (overwrite readBuf 0 [header]) afterField).2 =
      s' := by
    have states := drainBody_state drains (overwrite readBuf 0 [header]) 0 (Nat.zero_add _) (by omega)
    rwa [if_pos large] at states
  refine ⟨(drainBody net size remLen 0 size (overwrite readBuf 0 [header]) afterField).1, ?_⟩
  rw [readMqttPacket_head head]
  simp only [if_pos large]
  rw [drained]

/-- A body below the buffer's size that does not fit behind its head is dropped
by one read. -/
theorem readMqttPacket_oversize (readBuf : List UInt8) {remLen : Nat}
    (head : HeadArrives net header field remLen s afterHeader afterField)
    (small : remLen < size) (positive : 0 < remLen)
    (large : size < 1 + (encode remLen).length + remLen) {ret : Int} {bytes : List UInt8} {s' : σ}
    (read : net.read afterField remLen = (ret, bytes, s')) :
    ∃ buf, readMqttPacket net size readBuf s = (⟨errMqttBufferTooShort, none, buf⟩, s') := by
  refine ⟨overwrite (overwrite (overwrite readBuf 0 [header]) 1 (encode remLen)) 0 bytes, ?_⟩
  rw [readMqttPacket_head head]
  simp only [if_neg (show ¬size ≤ remLen by omega), read]
  rw [if_pos ⟨positive, large⟩]

end Received

/-! ## A network that delivers all requested bytes -/

section Delivering

variable {pending : σ → List UInt8}

/-- A read of bytes that are pending returns them all. -/
def DeliversAll (net : NetworkStack σ) (pending : σ → List UInt8) : Prop :=
  ∀ s n, n ≤ (pending s).length →
    ∃ s', net.read s n = ((n : Int), (pending s).take n, s') ∧ pending s' = (pending s).drop n

theorem DeliversAll.readsEach (delivers : DeliversAll net pending) (bytes rest : List UInt8)
    {s : σ} (front : pending s = bytes ++ rest) :
    ∃ s', ReadsEach net s bytes s' ∧ pending s' = rest := by
  induction bytes generalizing s with
  | nil => exact ⟨s, .nil s, front⟩
  | cons byte bytes ih =>
      obtain ⟨middle, read, dropped⟩ := delivers s 1 (by simp [front])
      rw [front] at read dropped
      obtain ⟨s', later, last⟩ := ih (by simpa using dropped)
      exact ⟨s', .cons (by simpa using read) later, last⟩

theorem DeliversAll.drains (delivers : DeliversAll net pending) {size : Nat} (positive : 0 < size)
    (body rest : List UInt8) {s : σ} (front : pending s = body ++ rest) :
    ∃ s', Drains net size body.length s s' ∧ pending s' = rest := by
  induction lengthEq : body.length using Nat.strongRecOn generalizing body s with
  | ind left ih =>
      by_cases none : left = 0
      · obtain rfl := List.length_eq_zero_iff.mp (lengthEq.trans none)
        exact ⟨s, none ▸ .done s, front⟩
      · obtain ⟨count, chosen⟩ : ∃ count, count = if size ≤ left then size else left := ⟨_, rfl⟩
        have bounds : 0 < count ∧ count ≤ left := by
          rw [chosen]
          split <;> omega
        obtain ⟨middle, read, dropped⟩ := delivers s count (by
          rw [front, List.length_append]
          omega)
        rw [front, List.drop_append_of_le_length (by omega)] at dropped
        have piece : net.read s (if size ≤ left then size else left) =
            ((count : Int), (pending s).take count, middle) := by rw [← chosen, read]
        obtain ⟨s', later, last⟩ := ih (left - count) (by omega) (body.drop count) dropped
          (by rw [List.length_drop, lengthEq])
        exact ⟨s', .piece bounds.1 bounds.2 piece later, last⟩

theorem DeliversAll.headArrives (delivers : DeliversAll net pending) {header : UInt8}
    {field body rest : List UInt8} (isField : IsFieldOf field body.length)
    (short : field.length ≤ maxNoOfRemainingLengthBytes) {s : σ}
    (front : pending s = header :: field ++ body ++ rest) :
    ∃ afterHeader afterField,
      HeadArrives net header field body.length s afterHeader afterField ∧
        pending afterField = body ++ rest := by
  obtain ⟨afterHeader, read, dropped⟩ := delivers s 1 (by simp [front])
  rw [front] at read dropped
  obtain ⟨afterField, fieldRead, last⟩ :=
    delivers.readsEach field (body ++ rest) (by simpa using dropped)
  exact ⟨afterHeader, afterField, ⟨by simpa using read, fieldRead, isField, short⟩, last⟩

/-- One call consumes exactly the packet at the head of the network, and
succeeds exactly when the packet, with the shortest encoding of its length,
fits the receive buffer; the buffer then decodes to the packet. -/
theorem readMqttPacket_consumes_packet (net : NetworkStack σ) (pending : σ → List UInt8)
    (delivers : DeliversAll net pending) (readBufSize : Nat) (large : 8 ≤ readBufSize)
    (readBuf : List UInt8) (header : UInt8) (field body rest : List UInt8)
    (isField : IsFieldOf field body.length) (short : field.length ≤ maxNoOfRemainingLengthBytes)
    (s : σ) (front : pending s = header :: field ++ body ++ rest) :
    let (packetRead, s') := readMqttPacket net readBufSize readBuf s
    pending s' = rest ∧
      (packetRead.ret = successRet ∨ packetRead.ret = errMqttBufferTooShort) ∧
      (packetRead.ret = successRet ↔
        1 + (encode body.length).length + body.length ≤ readBufSize) ∧
      (packetRead.ret = successRet →
        header :: (encode body.length ++ body) <+: packetRead.readBuf ∧
          packetRead.packetType = some (headerType header) ∧
          packetInBuf packetRead.readBuf = some (header, body)) := by
  obtain ⟨afterHeader, afterField, head, left⟩ := delivers.headArrives isField short front
  by_cases fits : 1 + (encode body.length).length + body.length ≤ readBufSize
  · have arrives : ∃ s', (body = [] ∧ s' = afterField ∨
        body ≠ [] ∧ net.read afterField body.length = ((body.length : Int), body, s')) ∧
        pending s' = rest := by
      by_cases empty : body = []
      · exact ⟨afterField, .inl ⟨empty, rfl⟩, by simpa [empty] using left⟩
      · obtain ⟨s', read, last⟩ := delivers afterField body.length (by simp [left])
        rw [left] at read last
        exact ⟨s', .inr ⟨empty, by simpa using read⟩, by simpa using last⟩
    obtain ⟨s', arrives, last⟩ := arrives
    obtain ⟨after, result⟩ := readMqttPacket_fits readBuf head fits arrives
    have decodes := packetInBuf_bytes ⟨header, body, isField.value_lt_of_length_le short⟩ after
    simp only [Packet.bytes] at decodes
    simp only [result]
    exact ⟨last, .inl trivial, by simp [fits], fun _ => ⟨⟨after, rfl⟩, trivial, decodes⟩⟩
  · have dropped : ∃ buf s', readMqttPacket net readBufSize readBuf s =
        (⟨errMqttBufferTooShort, none, buf⟩, s') ∧ pending s' = rest := by
      by_cases drained : readBufSize ≤ body.length
      · obtain ⟨s', drains, last⟩ := delivers.drains (show 0 < readBufSize by omega) body rest left
        obtain ⟨buf, result⟩ :=
          readMqttPacket_drained readBuf head drained (by omega) drains
        exact ⟨buf, s', result, last⟩
      · have positive : 0 < body.length := by
          by_contra none
          have empty : body.length = 0 := by omega
          rw [empty, encode_of_lt (by omega)] at fits
          simp only [List.length_singleton] at fits
          omega
        obtain ⟨s', read, last⟩ := delivers afterField body.length (by simp [left])
        obtain ⟨buf, result⟩ :=
          readMqttPacket_oversize readBuf head (Nat.lt_of_not_le drained) positive
            (Nat.lt_of_not_le fits) read
        exact ⟨buf, s', result, by simpa [left] using last⟩
    obtain ⟨buf, s', result, last⟩ := dropped
    simp only [result]
    have unsuccessful : errMqttBufferTooShort ≠ successRet := by decide
    exact ⟨last, .inr trivial, by simp [fits, unsuccessful], fun success => absurd success unsuccessful⟩

/-- The network that holds its bytes in a list and delivers as many as asked for. -/
def listNetwork : NetworkStack (List UInt8) where
  read s n := ((s.take n).length, s.take n, s.drop n)

theorem listNetwork_deliversAll : DeliversAll listNetwork id := by
  intro s n within
  have count : (s.take n).length = n := List.length_take_of_le within
  exact ⟨s.drop n, by simp only [listNetwork, count, id], rfl⟩

/-- The packet `30 03 01 02 03` with a byte of the next behind it. -/
theorem readMqttPacket_consumes_three_bytes :
    let (packetRead, s') :=
      readMqttPacket listNetwork 8 (List.replicate 8 0) [0x30, 3, 1, 2, 3, 0xD0]
    s' = [0xD0] ∧
      (packetRead.ret = successRet ∨ packetRead.ret = errMqttBufferTooShort) ∧
      (packetRead.ret = successRet ↔ 1 + (encode 3).length + 3 ≤ 8) ∧
      (packetRead.ret = successRet →
        0x30 :: (encode 3 ++ [1, 2, 3]) <+: packetRead.readBuf ∧
          packetRead.packetType = some (headerType 0x30) ∧
          packetInBuf packetRead.readBuf = some (0x30, [1, 2, 3])) :=
  readMqttPacket_consumes_packet listNetwork id listNetwork_deliversAll 8 (by decide)
    (List.replicate 8 0) 0x30 [3] [1, 2, 3] [0xD0] (by decide) (by decide) _ rfl

end Delivering

end UIoT.Mqtt
