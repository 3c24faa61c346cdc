import UIoT.Mqtt.Format

/-!
# Requests for more than one topic

`_serialize_subscribe_packet` and `_serialize_unsubscribe_packet` take an array of
filters, and their loops take `*topicFilters + i` for the filter at `i`: the string
that starts `i` bytes into the first filter. A receiver finds the filters that were
asked for just if they are these strings and fit their length fields
(`requests_decode_iff`). Two separate filters are not (`second_filter_lost`).
-/

set_option autoImplicit false

namespace UIoT.Mqtt

open Base128 LengthPrefix

/-! ## The property -/

/-- A receiver finds what was asked for in a packet that is within the buffer. -/
structure Found {α : Type} (decode : List UInt8 → Option (Nat × List α)) (packetId : UInt16)
    (requested : List α) (bufLen : Nat) (packet : List UInt8) : Prop where
  contents : decode packet = some (packetId.toNat, requested)
  fits : packet.length ≤ bufLen

/-! ## The condition -/

/-- The filters are the strings that the loops take, and fit their length fields and
that of the packet, in which each has so many bytes around it. -/
structure Encodable (behind : List UInt8) (topicFilters : List CString) (around : Nat) : Prop where
  starts : ∀ i, i < topicFilters.length → topicFilters[i]? = some (filterAt behind topicFilters i)
  short : ∀ filter ∈ topicFilters, filter.length < 65536
  remLen : 2 + (topicFilters.map fun filter => around + filter.length).sum < 2 ^ 28

/-! ## A request -/

section Request

variable {α : Type} {type header : UInt8} {read : Reader α} {write raw : α → List UInt8}
  {string : α → List UInt8} {packetId : UInt16} {remLen : Nat} {requested written : List α}

/-- What a receiver finds in a request that is written item by item. -/
theorem decodeRequest_iff (isType : header &&& 0xF7 = type)
    (inverts : ∀ item ∈ written, (string item).length < 65536 → Inverts read write item)
    (nonempty : ∀ item, write item ≠ [])
    (exact : ∀ {input rest item}, read input = some (item, rest) →
      input = write item ++ rest ∧ (string item).length < 65536)
    (isRaw : ∀ item, (string item).length < 65536 → raw item = write item)
    (shortWritten : (∀ item ∈ requested, (string item).length < 65536) →
      ∀ item ∈ written, (string item).length < 65536)
    (isRemLen : remLen = (2 + (written.flatMap raw).length) % 2 ^ 32) :
    decodeRequest type read
        (header :: (mqttWritePacketRemLen remLen ++ mqttWriteUint16 packetId ++ written.flatMap raw)) =
          some (packetId.toNat, requested) ↔
      requested = written ∧ (∀ item ∈ requested, (string item).length < 65536) ∧
        2 + (written.flatMap raw).length < 2 ^ 28 := by
  have isId := inverts_nat16 packetId.toNat_lt (written.flatMap raw)
  have bodyLength : (mqttWriteUint16 packetId ++ written.flatMap raw).length =
      2 + (written.flatMap raw).length := by
    rw [List.length_append]
    rfl
  have plain : (∀ item ∈ written, (string item).length < 65536) →
      written.flatMap raw = written.flatMap write := fun short =>
    List.flatMap_congr fun item member => isRaw item (short item member)
  have back : (∀ item ∈ written, (string item).length < 65536) →
      items read (written.flatMap raw) = some written := by
    intro short
    rw [plain short]
    exact items_flatMap (fun item member => inverts item member (short item member))
      fun item _ => nonempty item
  rw [mqttWritePacketRemLen_eq_encode, List.append_assoc, decodeRequest, Option.bind_eq_some_iff]
  constructor
  · rintro ⟨frame, isFrame, decoded⟩
    obtain ⟨rfl, whole, small⟩ := decodeFrame_encode.mp isFrame
    dsimp only at decoded
    rw [if_neg (not_not.mpr isType)] at decoded
    obtain ⟨⟨id, rest⟩, taken, decoded⟩ := Option.bind_eq_some_iff.mp decoded
    obtain ⟨list, isList, same⟩ := Option.map_eq_some_iff.mp decoded
    rw [show mqttWriteUint16 packetId = writeNat16 packetId.toNat from rfl, isId] at taken
    cases taken
    cases same
    obtain ⟨_, short⟩ := many_eq exact isList
    have all := back (shortWritten short)
    rw [isList] at all
    refine ⟨Option.some.inj all, short, ?_⟩
    rw [← bodyLength, whole]
    exact small
  · rintro ⟨rfl, short, small⟩
    rw [Nat.mod_eq_of_lt (by omega)] at isRemLen
    refine ⟨(header, mqttWriteUint16 packetId ++ requested.flatMap raw),
      decodeFrame_encode.mpr ⟨rfl, bodyLength.trans isRemLen.symm, by omega⟩, ?_⟩
    dsimp only
    rw [if_neg (not_not.mpr isType),
      show mqttWriteUint16 packetId = writeNat16 packetId.toNat from rfl, isId, Option.bind_some]
    dsimp only
    rw [back short]
    rfl

end Request

/-! ## The strings of the loops -/

variable {bufLen : Nat} {dup : UInt8} {packetId : UInt16} {topicFilters : List CString}
  {behind : List UInt8} {requestedQoSs : List QoS} {packet : List UInt8} {around : Nat}

/-- The strings that the loops take. -/
def stringsTaken (behind : List UInt8) (topicFilters : List CString) : List CString :=
  (List.range topicFilters.length).map (filterAt behind topicFilters)

theorem stringsTaken_length : (stringsTaken behind topicFilters).length = topicFilters.length := by
  rw [stringsTaken, List.length_map, List.length_range]

theorem stringsTaken_iff : topicFilters = stringsTaken behind topicFilters ↔
    ∀ i, i < topicFilters.length → topicFilters[i]? = some (filterAt behind topicFilters i) := by
  have taken : ∀ i, i < topicFilters.length →
      (stringsTaken behind topicFilters)[i]? = some (filterAt behind topicFilters i) := by
    intro i within
    rw [stringsTaken, List.getElem?_map, List.getElem?_range within]
    rfl
  constructor
  · intro same i within
    rw [← taken i within, ← same]
  · intro starts
    apply List.ext_getElem?
    intro i
    rcases Nat.lt_or_ge i topicFilters.length with within | outside
    · rw [starts i within, taken i within]
    · rw [List.getElem?_eq_none outside,
        List.getElem?_eq_none (stringsTaken_length.trans_le outside)]

/-- Strings in the first filter are no longer than it. -/
theorem stringsTaken_short (nonempty : topicFilters ≠ [])
    (shortBehind : ∀ i, ((behind.drop i).takeWhile (· ≠ 0)).length < 65536)
    (short : ∀ filter ∈ topicFilters, filter.length < 65536) :
    ∀ string ∈ stringsTaken behind topicFilters, string.length < 65536 := by
  intro string member
  obtain ⟨i, _, rfl⟩ := List.mem_map.mp member
  obtain ⟨first, others, rfl⟩ := List.exists_cons_of_ne_nil nonempty
  have shortFirst := short first (List.mem_cons_self ..)
  rw [filterAt, List.headD_cons]
  split
  · rw [List.length_drop]
    omega
  · exact shortBehind _

/-- The condition, said of the strings that the loops take. -/
theorem encodable_iff {length : Nat}
    (isLength : length = ((stringsTaken behind topicFilters).map fun string => around + string.length).sum) :
    topicFilters = stringsTaken behind topicFilters ∧ (∀ filter ∈ topicFilters, filter.length < 65536) ∧
        2 + length < 2 ^ 28 ↔ Encodable behind topicFilters around := by
  constructor
  · rintro ⟨same, short, small⟩
    rw [isLength, ← same] at small
    exact ⟨stringsTaken_iff.mp same, short, small⟩
  · rintro ⟨starts, short, small⟩
    have same := stringsTaken_iff.mpr starts
    refine ⟨same, short, ?_⟩
    rw [isLength, ← same]
    exact small

/-! ## The serializers -/

/-- What the checks of a serializer leave of the property. -/
theorem found_iff {α : Type} {decode : List UInt8 → Option (Nat × List α)} {requested : List α}
    {header : UInt8} {remLen : Nat} {written : List UInt8} {condition : Prop}
    (room : getMqttPacketLen remLen ≤ bufLen) (isRemLen : remLen = (2 + written.length) % 2 ^ 32)
    (contents : decode (header :: (mqttWritePacketRemLen remLen ++ mqttWriteUint16 packetId ++ written)) =
      some (packetId.toNat, requested) ↔ condition)
    (small : condition → 2 + written.length < 2 ^ 28) :
    Found decode packetId requested bufLen
        (header :: (mqttWritePacketRemLen remLen ++ mqttWriteUint16 packetId ++ written)) ↔ condition := by
  constructor
  · exact fun found => contents.mp found.contents
  · intro holds
    refine ⟨contents.mpr holds, ?_⟩
    have isSmall := small holds
    rw [Nat.mod_eq_of_lt (by omega)] at isRemLen
    have bounds := (getMqttPacketLen_bounds (isRemLen ▸ isSmall)).1
    have two : (mqttWriteUint16 packetId).length = 2 := rfl
    rw [mqttWritePacketRemLen_eq_encode, List.length_cons, List.length_append, List.length_append, two]
    omega

/-- The flag in a header that says that a request is repeated. -/
theorem dupFlag_cases (dup : UInt8) : (dup <<< 3) &&& 0x08 = 0 ∨ (dup <<< 3) &&& 0x08 = 0x08 := by
  have table : ∀ value : Fin 256, ((UInt8.ofNat value.val <<< 3) &&& 0x08 : UInt8) = 0 ∨
      ((UInt8.ofNat value.val <<< 3) &&& 0x08 : UInt8) = 0x08 := by
    decide +kernel
  have isFlag := table ⟨dup.toNat, dup.toNat_lt⟩
  rw [UInt8.ofNat_toNat] at isFlag
  exact isFlag

theorem subscribeHeader (dup : UInt8) : ∃ header : UInt8,
    mqttInitPacketHeader .subscribe .qos1 dup 0 = .ok header ∧ header &&& 0xF7 = 0x82 := by
  refine ⟨_, rfl, ?_⟩
  rcases dupFlag_cases dup with clear | set
  · rw [clear]
    rfl
  · rw [set]
    rfl

theorem unsubscribeHeader (dup : UInt8) : ∃ header : UInt8,
    mqttInitPacketHeader .unsubscribe .qos1 dup 0 = .ok header ∧ header &&& 0xF7 = 0xA2 := by
  refine ⟨_, rfl, ?_⟩
  rcases dupFlag_cases dup with clear | set
  · rw [clear]
    rfl
  · rw [set]
    rfl

/-! ## The requests -/

/-- A filter and a quality of service as they are written. -/
def rawSubscription (subscription : List UInt8 × UInt8) : List UInt8 :=
  mqttWriteUtf8String subscription.1 ++ [subscription.2]

theorem QoS.toUInt8_le (qos : QoS) : qos.toUInt8 ≤ 2 := by
  cases qos <;> decide

/-- The subscriptions that the loop writes. -/
def subscriptionsWritten (behind : List UInt8) (topicFilters : List CString)
    (requestedQoSs : List QoS) : List (List UInt8 × UInt8) :=
  (stringsTaken behind topicFilters).zip (requestedQoSs.map QoS.toUInt8)

theorem subscriptionsWritten_eq (sameLength : requestedQoSs.length = topicFilters.length) :
    subscriptionsWritten behind topicFilters requestedQoSs =
      (List.range topicFilters.length).map fun i =>
        (filterAt behind topicFilters i, (requestedQoSs.getD i .qos0).toUInt8) := by
  have codes : requestedQoSs.map QoS.toUInt8 =
      (List.range topicFilters.length).map fun i => (requestedQoSs.getD i .qos0).toUInt8 := by
    apply List.ext_getElem
    · rw [List.length_map, List.length_map, List.length_range, sameLength]
    · intro i within _
      rw [List.length_map] at within
      rw [List.getElem_map, List.getElem_map, List.getElem_range, List.getD_eq_getElem?_getD,
        List.getElem?_eq_getElem within, Option.getD_some]
  rw [subscriptionsWritten, codes, stringsTaken, List.zip_map']

theorem subscription_strings (sameLength : requestedQoSs.length = topicFilters.length) :
    (topicFilters.zip (requestedQoSs.map QoS.toUInt8)).map Prod.fst = topicFilters := by
  rw [List.map_fst_zip]
  rw [List.length_map, sameLength]

theorem subscriptions_iff (sameLength : requestedQoSs.length = topicFilters.length) :
    topicFilters.zip (requestedQoSs.map QoS.toUInt8) =
        subscriptionsWritten behind topicFilters requestedQoSs ↔
      topicFilters = stringsTaken behind topicFilters := by
  constructor
  · intro same
    have strings := congrArg (List.map Prod.fst) same
    rw [subscription_strings sameLength, subscriptionsWritten, List.map_fst_zip] at strings
    · exact strings
    · rw [stringsTaken_length, List.length_map, sameLength]
  · intro same
    rw [subscriptionsWritten, ← same]

theorem serializeSubscribePacket_found_iff (nonempty : topicFilters ≠ [])
    (sameLength : requestedQoSs.length = topicFilters.length)
    (shortBehind : ∀ i, ((behind.drop i).takeWhile (· ≠ 0)).length < 65536)
    (built : serializeSubscribePacket bufLen dup packetId topicFilters.length topicFilters behind
      requestedQoSs = .ok packet) :
    Found decodeSubscribe packetId (topicFilters.zip (requestedQoSs.map QoS.toUInt8)) bufLen packet ↔
      Encodable behind topicFilters 3 := by
  obtain ⟨header, isHeader, masked⟩ := subscribeHeader dup
  have loop : ((List.range topicFilters.length).flatMap fun i =>
      mqttWriteUtf8String (filterAt behind topicFilters i) ++ [(requestedQoSs.getD i .qos0).toUInt8]) =
      (subscriptionsWritten behind topicFilters requestedQoSs).flatMap rawSubscription := by
    rw [subscriptionsWritten_eq sameLength, List.flatMap_map]
    rfl
  have length : ((subscriptionsWritten behind topicFilters requestedQoSs).flatMap rawSubscription).length =
      ((stringsTaken behind topicFilters).map fun string => 3 + string.length).sum := by
    rw [List.length_flatMap, subscriptionsWritten_eq sameLength, stringsTaken, List.map_map, List.map_map]
    refine congrArg List.sum (List.map_congr_left fun i _ => ?_)
    simp only [Function.comp, rawSubscription, List.length_append, mqttWriteUtf8String_length,
      List.length_singleton]
    omega
  have isRemLen : getSubscribePacketRemLen behind topicFilters.length topicFilters =
      (2 + ((subscriptionsWritten behind topicFilters requestedQoSs).flatMap rawSubscription).length) %
        2 ^ 32 := by
    rw [getSubscribePacketRemLen, length, stringsTaken, List.map_map]
    refine congrArg (fun sum => (2 + sum) % 2 ^ 32) (congrArg List.sum (List.map_congr_left fun i _ => ?_))
    simp only [Function.comp]
    omega
  rw [serializeSubscribePacket, isHeader, loop] at built
  dsimp only at built
  split at built
  · cases built
  rename_i room
  cases built
  have shorts : (∀ item ∈ topicFilters.zip (requestedQoSs.map QoS.toUInt8), item.1.length < 65536) ↔
      ∀ filter ∈ topicFilters, filter.length < 65536 := by
    constructor
    · intro short filter member
      have among : filter ∈ (topicFilters.zip (requestedQoSs.map QoS.toUInt8)).map Prod.fst := by
        rw [subscription_strings sameLength]
        exact member
      obtain ⟨item, isItem, rfl⟩ := List.mem_map.mp among
      exact short item isItem
    · exact fun short item member => short item.1 (List.of_mem_zip member).1
  have contents := @decodeRequest_iff _ 0x82 header readSubscription writeSubscription rawSubscription
    Prod.fst packetId _ (topicFilters.zip (requestedQoSs.map QoS.toUInt8))
    (subscriptionsWritten behind topicFilters requestedQoSs) masked
    (fun item member short => inverts_subscription short ?_)
    (fun item => List.append_ne_nil_of_left_ne_nil (writeString_ne_nil _) _) readSubscription_eq
    (fun item short => by rw [rawSubscription, mqttWriteUtf8String_eq short]; rfl) ?_ isRemLen
  · rw [subscriptions_iff sameLength, shorts, encodable_iff length] at contents
    exact found_iff (Nat.not_lt.mp room) isRemLen contents fun encodable =>
      ((encodable_iff length).mpr encodable).2.2
  · obtain ⟨qos, _, isQos⟩ := List.mem_map.mp (List.of_mem_zip member).2
    rw [← isQos]
    exact qos.toUInt8_le
  · intro short item member
    exact stringsTaken_short nonempty shortBehind (shorts.mp short) item.1 (List.of_mem_zip member).1

theorem serializeUnsubscribePacket_found_iff (nonempty : topicFilters ≠ [])
    (shortBehind : ∀ i, ((behind.drop i).takeWhile (· ≠ 0)).length < 65536)
    (built : serializeUnsubscribePacket bufLen dup packetId topicFilters.length topicFilters behind =
      .ok packet) :
    Found decodeUnsubscribe packetId topicFilters bufLen packet ↔ Encodable behind topicFilters 2 := by
  obtain ⟨header, isHeader, masked⟩ := unsubscribeHeader dup
  have loop : ((List.range topicFilters.length).flatMap fun i =>
      mqttWriteUtf8String (filterAt behind topicFilters i)) =
      (stringsTaken behind topicFilters).flatMap mqttWriteUtf8String := by
    rw [stringsTaken, List.flatMap_map]
  have length : ((stringsTaken behind topicFilters).flatMap mqttWriteUtf8String).length =
      ((stringsTaken behind topicFilters).map fun string => 2 + string.length).sum := by
    rw [List.length_flatMap]
    exact congrArg List.sum (List.map_congr_left fun string _ => mqttWriteUtf8String_length string)
  have isRemLen : getUnsubscribePacketRemLen behind topicFilters.length topicFilters =
      (2 + ((stringsTaken behind topicFilters).flatMap mqttWriteUtf8String).length) % 2 ^ 32 := by
    rw [getUnsubscribePacketRemLen, length, stringsTaken, List.map_map]
    rfl
  rw [serializeUnsubscribePacket, isHeader, loop] at built
  dsimp only at built
  split at built
  · cases built
  rename_i room
  cases built
  have contents := @decodeRequest_iff _ 0xA2 header readString writeString mqttWriteUtf8String id
    packetId _ topicFilters (stringsTaken behind topicFilters) masked
    (fun item _ short => inverts_string short) writeString_ne_nil readString_eq
    (fun item short => mqttWriteUtf8String_eq short) (stringsTaken_short nonempty shortBehind) isRemLen
  exact found_iff (Nat.not_lt.mp room) isRemLen (contents.trans (encodable_iff length))
    fun encodable => ((encodable_iff length).mpr encodable).2.2

/-- **Requests.** A receiver finds the filters of a SUBSCRIBE, with what is asked for,
or of an UNSUBSCRIBE, just if they are the strings of the loops and fit. -/
theorem requests_decode_iff (bufLen : Nat) (dup : UInt8) (packetId : UInt16)
    (topicFilters : List CString) (requestedQoSs : List QoS) (behind : List UInt8)
    (nonempty : topicFilters ≠ []) (sameLength : requestedQoSs.length = topicFilters.length)
    (shortBehind : ∀ i, ((behind.drop i).takeWhile (· ≠ 0)).length < 65536) :
    (∀ packet, serializeSubscribePacket bufLen dup packetId topicFilters.length topicFilters behind
        requestedQoSs = .ok packet →
      (Found decodeSubscribe packetId (topicFilters.zip (requestedQoSs.map QoS.toUInt8)) bufLen packet ↔
        Encodable behind topicFilters 3)) ∧
      ∀ packet, serializeUnsubscribePacket bufLen dup packetId topicFilters.length topicFilters behind =
          .ok packet →
        (Found decodeUnsubscribe packetId topicFilters bufLen packet ↔
          Encodable behind topicFilters 2) :=
  ⟨fun _ built => serializeSubscribePacket_found_iff nonempty sameLength shortBehind built,
    fun _ built => serializeUnsubscribePacket_found_iff nonempty shortBehind built⟩

/-- The second filter is the end of the first one, `ab`. -/
theorem requests_decode_suffix : ∃ packet,
    serializeSubscribePacket 64 0 1 2 [[0x61, 0x62], [0x62]] [] [.qos1, .qos0] = .ok packet ∧
      Found decodeSubscribe 1 [([0x61, 0x62], 1), ([0x62], 0)] 64 packet := by
  have packetOf : serializeSubscribePacket 64 0 1 2 [[0x61, 0x62], [0x62]] [] [.qos1, .qos0] =
      .ok [0x82, 11, 0, 1, 0, 2, 0x61, 0x62, 1, 0, 1, 0x62, 0] := by
    decide +kernel
  refine ⟨_, packetOf, ?_⟩
  refine ((requests_decode_iff 64 0 1 [[0x61, 0x62], [0x62]] [.qos1, .qos0] [] (by decide) rfl
    fun i => ?_).1 _ packetOf).mpr ⟨?_, ?_, ?_⟩
  · rw [List.drop_nil]
    decide
  · decide
  · decide
  · decide

/-- Of the filters `ab` and `c`, a receiver finds `ab` and `b`. -/
theorem second_filter_lost : ∃ packet,
    serializeSubscribePacket 64 0 1 2 [[0x61, 0x62], [0x63]] [] [.qos1, .qos0] = .ok packet ∧
      ¬Found decodeSubscribe 1 [([0x61, 0x62], 1), ([0x63], 0)] 64 packet := by
  refine ⟨[0x82, 11, 0, 1, 0, 2, 0x61, 0x62, 1, 0, 1, 0x62, 0], by decide +kernel, fun found => ?_⟩
  have finds : decodeSubscribe [0x82, 11, 0, 1, 0, 2, 0x61, 0x62, 1, 0, 1, 0x62, 0] =
      some (1, [([0x61, 0x62], 1), ([0x62], 0)]) := by
    decide
  have contents := found.contents
  rw [finds] at contents
  exact absurd contents (by decide)

end UIoT.Mqtt
