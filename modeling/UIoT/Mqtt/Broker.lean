import UIoT.Lib.Exchanges
import UIoT.Mqtt.Sending
import UIoT.Mqtt.PublishPackets
import UIoT.Mqtt.Framing
import UIoT.Mqtt.Wires
import UIoT.Mqtt.Format

/-!
# The client and a broker

The broker takes packets from the bytes that the client has written, keeps the publications among them,
and answers each that has quality of service 1 with a PUBACK. The bytes on the way are those of a
connection: they stay in order, and none arrives any more once it is broken. What the broker sends
besides is arbitrary, but for PUBACKs.

This module has the parties and the packets that go between them; what holds of their runs is in
`UIoT.Mqtt.Confirmations`.
-/

set_option autoImplicit false

namespace UIoT.Mqtt

open Base128 LengthPrefix

/-! ## What the broker reads -/

/-- The packet at the front of a byte stream. -/
def takeFrame : Reader (UInt8 × List UInt8)
  | [] => none
  | header :: rest =>
      (decode rest).bind fun (remLen, body) =>
        if rest.length - body.length ≤ maxNoOfRemainingLengthBytes ∧ remLen ≤ body.length then
          some ((header, body.take remLen), body.drop remLen)
        else none

/-- What a PUBLISH says. -/
def decodePublish : UInt8 × List UInt8 → Option Message
  | (header, body) =>
      if typeOf header ≠ some .publish then none
      else
        (readString body).bind fun (topic, rest) =>
          let qos := (header &&& 0x06) >>> 1
          let retained := header &&& 0x01
          let dup := (header &&& 0x08) >>> 3
          if qos = 0 then some ⟨qos, retained, dup, none, topic, rest⟩
          else
            (readNat16 rest).map fun (id, payload) =>
              ⟨qos, retained, dup, some (UInt16.ofNat id), topic, payload⟩

/-- The publication in a packet. -/
def publicationIn (packet : List UInt8) : Option Message := (decodeFrame packet).bind decodePublish

/-- The id that a publication is answered with. -/
def noteOf (message : Message) : Option UInt16 := if message.qos = 1 then message.id else none

/-- The PUBACK with an id. -/
def pubackFrame (packetId : UInt16) : FramedPacket where
  header := 0x40
  field := [2]
  body := mqttWriteUint16 packetId
  isField := rfl
  short := by decide

/-- The id in a PUBACK. -/
def ackOf (packet : FramedPacket) : Option UInt16 :=
  if typeOf packet.header = some .puback then
    (readNat16 packet.body).map fun (packetId, _) => UInt16.ofNat packetId
  else none

theorem ackOf_pubackFrame (packetId : UInt16) : ackOf (pubackFrame packetId) = some packetId := by
  have back := inverts_nat16 packetId.toNat_lt []
  rw [List.append_nil] at back
  have isAck : typeOf 0x40 = some .puback := by decide
  rw [ackOf, pubackFrame, if_pos isAck]
  exact (congrArg (Option.map fun read => UInt16.ofNat read.1) back).trans
    (congrArg some UInt16.ofNat_toNat)

/-! ## Frames -/

/-- The bytes of a number are not touched by what follows the number. -/
theorem decode_more : ∀ {input rest : List UInt8} {value : Nat} (more : List UInt8),
    decode input = some (value, rest) → decode (input ++ more) = some (value, rest ++ more)
  | [], _, _, _, decoded => by cases decoded
  | byte :: input, rest, value, more, decoded => by
      rw [List.cons_append]
      unfold decode at decoded ⊢
      split at decoded
      · rename_i last
        cases decoded
        rw [if_pos last]
      · rename_i notLast
        obtain ⟨⟨high, tail⟩, isHigh, same⟩ := Option.map_eq_some_iff.mp decoded
        cases same
        rw [if_neg notLast, decode_more more isHigh]
        rfl

theorem takeFrame_append {packet : List UInt8} {frame : UInt8 × List UInt8}
    (whole : decodeFrame packet = some frame) (more : List UInt8) :
    takeFrame (packet ++ more) = some (frame, more) := by
  cases packet with
  | nil => cases whole
  | cons header rest =>
      rw [decodeFrame, Option.bind_eq_some_iff] at whole
      obtain ⟨⟨remLen, body⟩, decoded, isFrame⟩ := whole
      dsimp only at isFrame
      split at isFrame
      · rename_i fits
        cases isFrame
        have field : (rest ++ more).length - (body ++ more).length = rest.length - body.length := by
          simp only [List.length_append]
          omega
        rw [List.cons_append, takeFrame, decode_more more decoded, Option.bind_some]
        dsimp only
        rw [if_pos ⟨field ▸ fits.1, by rw [List.length_append, fits.2]; omega⟩, ← fits.2,
          List.take_left, List.drop_left]
      · cases isFrame

/-- No packet is the front of another one. -/
theorem frame_prefix {packet more : List UInt8} (whole : (decodeFrame packet).isSome)
    (longer : (decodeFrame (packet ++ more)).isSome) : more = [] := by
  obtain ⟨frame, isFrame⟩ := Option.isSome_iff_exists.mp whole
  obtain ⟨other, isOther⟩ := Option.isSome_iff_exists.mp longer
  have front := takeFrame_append isFrame more
  have all := takeFrame_append isOther []
  rw [List.append_nil, front] at all
  exact (Prod.mk.inj (Option.some.inj all)).2

/-! ## The packet of a publication -/

/-- What a publication of the client says. -/
def publicationOf (client : Client) (topicName : CString) (params : PublishParams)
    (payload : List UInt8) : Message :=
  let packetId := if params.qos = .qos1 then (getNextPacketId client).1 else params.id
  ⟨params.qos.toUInt8, params.retained &&& 1, 0, idOf params.qos packetId, topicName, payload⟩

theorem and_one (byte : UInt8) : byte &&& 1 = 0 ∨ byte &&& 1 = 1 := by
  have bit : (byte &&& 1).toNat = byte.toNat % 2 := by
    rw [UInt8.toNat_and]
    exact Nat.and_one_is_mod _
  rcases Nat.mod_two_eq_zero_or_one byte.toNat with even | odd
  · exact .inl (UInt8.toNat_inj.mp (bit.trans even))
  · exact .inr (UInt8.toNat_inj.mp (bit.trans odd))

theorem publicationHeader (qos : QoS) (retained : UInt8) : ∃ header,
    mqttInitPacketHeader .publish qos 0 retained = .ok header ∧ typeOf header = some .publish ∧
      (header &&& 0x06) >>> 1 = qos.toUInt8 ∧ header &&& 0x01 = retained &&& 1 ∧
      (header &&& 0x08) >>> 3 = 0 := by
  have onlyBit : mqttInitPacketHeader .publish qos 0 retained =
      mqttInitPacketHeader .publish qos 0 (retained &&& 1) := by
    simp only [mqttInitPacketHeader, UInt8.and_assoc, UInt8.and_self]
  rw [onlyBit]
  exact publishHeader qos (.inl rfl) (and_one retained)

/-- The broker reads what the client has been asked to publish. -/
theorem publicationIn_serialize {bufLen : Nat} {qos : QoS} {retained : UInt8} {packetId : UInt16}
    {topicName : CString} {payload packet : List UInt8} (shortTopic : topicName.length < 65536)
    (small : (publishBody qos packetId topicName payload).length < 2 ^ 28)
    (built : serializePublishPacket bufLen 0 qos retained packetId topicName (some payload) =
      .ok packet) :
    publicationIn packet =
      some ⟨qos.toUInt8, retained &&& 1, 0, idOf qos packetId, topicName, payload⟩ := by
  obtain ⟨header, isHeader, isType, isQos, isRetained, isDup⟩ := publicationHeader qos retained
  rw [serializePublishPacket_eq isHeader small] at built
  split at built
  · cases built
  · cases built
    have frame := (@decodeFrame_encode header _ (publishBody qos packetId topicName payload) _).mpr
      ⟨rfl, rfl, small⟩
    have topic := inverts_string shortTopic (idBytes (idOf qos packetId) ++ payload)
    rw [publicationIn, frame, Option.bind_some, decodePublish, if_neg (not_not.mpr isType), publishBody,
      mqttWriteUtf8String_eq shortTopic, List.append_assoc, topic, Option.bind_some]
    dsimp only
    rw [isQos, isRetained, isDup]
    have withId : readNat16 (mqttWriteUint16 packetId ++ payload) = some (packetId.toNat, payload) :=
      inverts_nat16 packetId.toNat_lt payload
    cases qos with
    | qos0 => rfl
    | qos1 | qos2 =>
        rw [if_neg (by decide)]
        simp only [idOf, ne_eq, reduceCtorEq, not_false_eq_true, if_true, idBytes, Option.map_some,
          Option.getD_some, withId, UInt16.ofNat_toNat]

/-! ## What the client writes -/

/-- A write of the client is a whole packet, or nothing. -/
def wholeWrite : Output → Bool
  | .wire bytes => bytes = [] || (decodeFrame bytes).isSome
  | _ => true

/-- The network takes the packets of a call whole or not at all. -/
def WholeWrites (outputs : List Output) : Prop := ∀ output ∈ outputs, wholeWrite output = true

instance (outputs : List Output) : Decidable (WholeWrites outputs) :=
  inferInstanceAs (Decidable (∀ output ∈ outputs, _))

/-- A packet at the front of the send buffer is on the wire, or nothing is. -/
theorem sendMqttPacket_whole {client : Client} {packet tail : List UInt8} {results : List Int}
    (stored : client.writeBuf = packet ++ tail) (room : client.writeBufSize ≤ client.writeBuf.length)
    (isFrame : (decodeFrame packet).isSome)
    (whole : WholeWrites (sendMqttPacket client packet.length results).2) :
    sendMqttPacket client packet.length results = (successRet, [.wire packet]) ∨
      (sendMqttPacket client packet.length results).1 < 0 ∧
        ((sendMqttPacket client packet.length results).2 = [] ∨
          (sendMqttPacket client packet.length results).2 = [.wire []]) := by
  rw [sendMqttPacket] at whole ⊢
  split at whole
  · rename_i large
    rw [if_pos large]
    exact .inr ⟨by decide, .inl rfl⟩
  · rename_i fits
    rw [if_neg fits, sendLoop_eq, stored]
    rw [sendLoop_eq, stored] at whole
    dsimp only at whole ⊢
    rw [List.drop_zero, Nat.sub_zero] at whole ⊢
    generalize acceptedBytes packet.length results 0 = sent at whole ⊢
    by_cases all : sent = packet.length
    · rw [if_pos all, all, List.take_left]
      exact .inl rfl
    · rw [if_neg all]
      refine .inr ⟨by decide, .inr ?_⟩
      have written := whole _ (List.mem_singleton_self _)
      rw [wholeWrite, Bool.or_eq_true, decide_eq_true_eq] at written
      rcases written with empty | isWhole
      · rw [empty]
      · -- A part of the packet is none, and neither is more than the packet.
        exfalso
        rcases Nat.lt_or_gt_of_ne all with part | more
        · rw [List.take_append_of_le_length (Nat.le_of_lt part)] at isWhole
          have rest : packet.drop sent = [] :=
            frame_prefix isWhole (by rw [List.take_append_drop]; exact isFrame)
          rw [List.drop_eq_nil_iff] at rest
          omega
        · rw [List.take_append, List.take_of_length_le (Nat.le_of_lt more)] at isWhole
          have rest := frame_prefix isFrame isWhole
          rw [stored, List.length_append] at room
          rw [List.take_eq_nil_iff, ← List.length_eq_zero_iff] at rest
          omega

/-- How a publication ends: what it is goes out, or nothing does. -/
inductive PublishEnds (client : Client) (topicName : CString) (params : PublishParams) (result : Result) :
    Prop where
  | sent (packet payload : List UInt8) (accepted : 0 ≤ result.ret)
      (outputs : result.outputs = [.wire packet]) (isPayload : params.payload = some payload)
      (isFrame : (decodeFrame packet).isSome)
      (content : publicationIn packet = some (publicationOf client topicName params payload))
  | failed (refused : result.ret < 0) (outputs : result.outputs = [] ∨ result.outputs = [.wire []])

theorem getMqttPacketLen_gt (remLen : Nat) : remLen < getMqttPacketLen remLen := by
  rw [getMqttPacketLen]
  split
  · omega
  split
  · omega
  split <;> omega

/-- A publication that the serializer makes a packet of. -/
theorem serializePublishPacket_ok {qos : QoS} {retained : UInt8} {packetId : UInt16} {topicName : CString}
    {payload : Option (List UInt8)} {packet : List UInt8}
    (shortTopic : topicName.length ≤ maxSizeOfCloudTopic)
    (small : ∀ content, payload = some content → content.length < 2 ^ 31)
    (built : serializePublishPacket uiotMqttTxBufLen 0 qos retained packetId topicName payload =
      .ok packet) :
    ∃ content, payload = some content ∧ (decodeFrame packet).isSome ∧ publicationIn packet =
      some ⟨qos.toUInt8, retained &&& 1, 0, idOf qos packetId, topicName, content⟩ := by
  cases payload with
  | none => cases built
  | some content =>
      have shortTopic : topicName.length ≤ 128 := shortTopic
      have bounded := small content rfl
      have length : (publishBody qos packetId topicName content).length =
          2 + topicName.length + content.length + if qos ≠ .qos0 then 2 else 0 := publishBody_length
      have within : (publishBody qos packetId topicName content).length < 2 ^ 32 := by
        rw [length]
        split <;> omega
      -- The buffer is smaller than what the length field of a packet holds.
      have fits : (publishBody qos packetId topicName content).length < 2 ^ 28 := by
        have checked := built
        rw [serializePublishPacket] at checked
        dsimp only at checked
        have remLen : getPublishPacketLen qos topicName content.length =
            (publishBody qos packetId topicName content).length :=
          getPublishPacketLen_eq.trans (Nat.mod_eq_of_lt within)
        rw [remLen] at checked
        split at checked
        · cases checked
        · rename_i room
          have larger := getMqttPacketLen_gt (publishBody qos packetId topicName content).length
          have size : uiotMqttTxBufLen < 2 ^ 28 := by decide
          omega
      have content' := publicationIn_serialize (by omega) fits built
      refine ⟨content, rfl, ?_, content'⟩
      rw [publicationIn] at content'
      obtain ⟨frame, isFrame, _⟩ := Option.bind_eq_some_iff.mp content'
      rw [isFrame]
      rfl

/-- The codes of publications that the serializer refuses are negative. -/
theorem serializePublishPacket_error {bufLen : Nat} {qos : QoS} {retained : UInt8} {packetId : UInt16}
    {topicName : CString} {payload : Option (List UInt8)} {ret : Int}
    (failed : serializePublishPacket bufLen 0 qos retained packetId topicName payload = .error ret) :
    ret < 0 := by
  cases payload with
  | none =>
      cases failed
      decide
  | some content =>
      obtain ⟨header, isHeader, _⟩ := publicationHeader qos retained
      rw [serializePublishPacket] at failed
      dsimp only at failed
      split at failed
      · cases failed
        decide
      · rw [isHeader] at failed
        cases failed

/-- What the end of a publication does once the packet is stored. -/
theorem publish_sends {client : Client} {packet : List UInt8} {env : Env} {pushed : Client}
    (size : client.writeBufSize ≤ client.writeBuf.length) (isFrame : (decodeFrame packet).isSome)
    (sameBuf : pushed.writeBuf = (client.store packet).writeBuf)
    (sameSize : pushed.writeBufSize = client.writeBufSize)
    (whole : WholeWrites (sendMqttPacket pushed packet.length (env.writes 0)).2) :
    sendMqttPacket pushed packet.length (env.writes 0) = (successRet, [.wire packet]) ∨
      (sendMqttPacket pushed packet.length (env.writes 0)).1 < 0 ∧
        ((sendMqttPacket pushed packet.length (env.writes 0)).2 = [] ∨
          (sendMqttPacket pushed packet.length (env.writes 0)).2 = [.wire []]) := by
  have stored := sameBuf.trans (store_writeBuf client packet)
  refine sendMqttPacket_whole stored ?_ isFrame whole
  rw [sameSize, stored, List.length_append, List.length_drop]
  omega

theorem uiotMqttPublish_ends {client : Client} {topicName : CString} {params : PublishParams} {env : Env}
    (size : client.writeBufSize = uiotMqttTxBufLen) (room : client.writeBufSize ≤ client.writeBuf.length)
    (small : ∀ payload, params.payload = some payload → payload.length < 2 ^ 31)
    (whole : WholeWrites (uiotMqttPublish client topicName params env).outputs) :
    PublishEnds client topicName params (uiotMqttPublish client topicName params env) := by
  unfold uiotMqttPublish at whole ⊢
  split
  · exact .failed (of_decide_eq_true rfl) (.inl rfl)
  split
  · exact .failed (of_decide_eq_true rfl) (.inl rfl)
  split
  · exact .failed (of_decide_eq_true rfl) (.inl rfl)
  split
  · exact .failed (of_decide_eq_true rfl) (.inl rfl)
  rename_i nonempty short notQos2 connected
  rw [if_neg nonempty, if_neg short, if_neg notQos2, if_neg connected] at whole
  have shortTopic := Nat.not_lt.mp short
  cases quality : params.qos with
  | qos2 => exact absurd quality notQos2
  | qos0 =>
      simp only [quality, reduceCtorEq, if_false, ne_eq, not_true_eq_false, size] at whole ⊢
      cases built : serializePublishPacket uiotMqttTxBufLen 0 .qos0 params.retained params.id topicName
          params.payload with
      | error ret =>
          exact .failed (serializePublishPacket_error built) (.inl rfl)
      | ok packet =>
          obtain ⟨payload, isPayload, isFrame, content⟩ :=
            serializePublishPacket_ok shortTopic small built
          rw [built] at whole
          dsimp only at whole ⊢
          have sends := @publish_sends client packet env (client.store packet) room isFrame rfl rfl
          generalize sendMqttPacket (client.store packet) packet.length (env.writes 0) = sent at whole sends ⊢
          obtain ⟨ret, outputs⟩ := sent
          have written : WholeWrites outputs := by
            dsimp only at whole
            split at whole <;> exact whole
          rcases sends written with isSent | ⟨negative, nothing⟩
          · cases isSent
            refine .sent packet payload (Int.natCast_nonneg _) rfl isPayload isFrame ?_
            rw [content, publicationOf, quality]
            rfl
          · dsimp only at negative nothing ⊢
            have failed : ¬ret = successRet := by
              rintro rfl
              cases negative
            rw [if_pos failed]
            exact .failed negative nothing
  | qos1 =>
      have sameSize : (getNextPacketId client).2.writeBufSize = client.writeBufSize := rfl
      simp only [quality, if_true, ne_eq, reduceCtorEq, not_false_eq_true, sameSize, size] at whole ⊢
      cases built : serializePublishPacket uiotMqttTxBufLen 0 .qos1 params.retained
          (getNextPacketId client).1 topicName params.payload with
      | error ret =>
          exact .failed (serializePublishPacket_error built) (.inl rfl)
      | ok packet =>
          obtain ⟨payload, isPayload, isFrame, content⟩ :=
            serializePublishPacket_ok shortTopic small built
          rw [built] at whole
          dsimp only at whole ⊢
          rcases maskPushPubInfoTo_ends ((getNextPacketId client).2.store packet) packet.length
              (getNextPacketId client).1 env 0 with refused | ⟨-, timer, pushed⟩
          · have negative : failureRet < 0 := by decide
            have failed : ¬failureRet = successRet := by decide
            rw [refused]
            dsimp only
            rw [if_pos failed]
            exact .failed negative (.inl rfl)
          · rw [pushed] at whole ⊢
            dsimp only at whole ⊢
            have sends := @publish_sends (getNextPacketId client).2 packet env
              { (getNextPacketId client).2.store packet with
                listPubWaitAck := listRpush ((getNextPacketId client).2.store packet).listPubWaitAck
                  ⟨((getNextPacketId client).2.store packet).issued, timer, .normal,
                    (getNextPacketId client).1⟩ } room isFrame rfl rfl
            rw [if_neg (not_not.mpr rfl)] at whole ⊢
            generalize sendMqttPacket _ packet.length (env.writes 0) = sent at whole sends ⊢
            obtain ⟨ret, outputs⟩ := sent
            have written : WholeWrites outputs := by
              dsimp only at whole
              split at whole <;> exact whole
            rcases sends written with isSent | ⟨negative, nothing⟩
            · cases isSent
              refine .sent packet payload (Int.natCast_nonneg _) rfl isPayload isFrame ?_
              rw [content, publicationOf, quality]
              rfl
            · dsimp only at negative nothing ⊢
              have failed : ¬ret = successRet := by
                rintro rfl
                cases negative
              rw [if_pos failed]
              exact .failed negative nothing

end UIoT.Mqtt
