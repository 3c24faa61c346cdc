import UIoT.Mqtt.SubscribeAcks
import UIoT.Mqtt.PublishPackets

/-!
# The events of a SUBACK

`_handle_suback_packet` marks the entry first and then has four ways out. Two
raise an event, and two do not: the one without a handle, which is that of a
wait list that could not be walked, and the one of a full table. So a SUBACK is
reported as it should be just when it gets past these two, and the table agrees
with the event (`handleSubackPacket_reports_iff`).
-/

set_option autoImplicit false

namespace UIoT.Mqtt

/-! ## The packet -/

/-- A SUBACK with one return code. -/
def subackPacket (packetId : UInt16) (code : UInt8) : List UInt8 :=
  [0x90, 3] ++ mqttWriteUint16 packetId ++ [code]

theorem deserializeSubackPacket_subackPacket (packetId : UInt16) (code : UInt8) (rest : List UInt8)
    {bufLen : Nat} (fits : 5 ≤ bufLen) :
    deserializeSubackPacket 1 (subackPacket packetId code ++ rest) bufLen =
      .ok (packetId, [code]) := by
  have isRead : readFixedHeader (subackPacket packetId code ++ rest) =
      (0x90, .ok (3, mqttWriteUint16 packetId ++ (code :: rest))) := by
    have field : Base128.encode 3 = [3] := Base128.encode_of_lt (by decide)
    have front := readFixedHeader_encode 0x90 (show 3 < 2 ^ 28 by decide)
      (mqttWriteUint16 packetId ++ (code :: rest))
    rw [field] at front
    rw [← front, subackPacket, List.append_assoc, List.append_assoc]
    rfl
  have isSuback : MessageTypes.ofHeader (headerType 0x90) = some .suback := rfl
  rw [deserializeSubackPacket, if_neg (Nat.not_lt.mpr fits)]
  simp only [isRead, isSuback, ne_eq, not_true_eq_false, if_false]
  simp [bind, Except.bind, pure, Except.pure, mqttReadUint16_id, readGrantedQoSs, mqttReadChar]

/-! ## The table -/

/-- A slot holds the topic of a handle with its handler. -/
def HoldsHandle (subHandles : Vector SubTopicHandle maxSubTopics) (handle : SubTopicHandle) : Prop :=
  ∃ i : Fin maxSubTopics, checkHandleIsIdentical (subHandles.get i) handle = true

instance (subHandles : Vector SubTopicHandle maxSubTopics) (handle : SubTopicHandle) :
    Decidable (HoldsHandle subHandles handle) :=
  inferInstanceAs (Decidable (∃ i : Fin maxSubTopics,
    checkHandleIsIdentical (subHandles.get i) handle = true))

theorem checkHandleIsIdentical_iff {first second : SubTopicHandle} :
    checkHandleIsIdentical first second = true ↔
      first.topicFilter = second.topicFilter ∧ first.messageHandler = second.messageHandler := by
  rw [checkHandleIsIdentical, Bool.and_eq_true, decide_eq_true_eq, decide_eq_true_eq]

section Table

variable {subHandles slots : Vector SubTopicHandle maxSubTopics} {handle : SubTopicHandle}

/-- The loop over the slots finds an identical one. -/
theorem any_identical_iff (hasFilter : handle.topicFilter ≠ none) :
    (subHandles.toList.any fun slot =>
        slot.topicFilter.isSome && checkHandleIsIdentical slot handle) = true ↔
      HoldsHandle subHandles handle := by
  rw [List.any_eq_true]
  constructor
  · rintro ⟨slot, among, found⟩
    obtain ⟨i, inRange, rfl⟩ := Vector.mem_iff_getElem.mp (Vector.mem_toList_iff.mp among)
    exact ⟨⟨i, inRange⟩, (Bool.and_eq_true _ _ ▸ found).2⟩
  · rintro ⟨i, identical⟩
    refine ⟨_, Vector.mem_toList_iff.mpr (Vector.getElem_mem i.isLt), ?_⟩
    rw [Bool.and_eq_true]
    refine ⟨Option.isSome_iff_ne_none.mpr fun free => ?_, identical⟩
    exact hasFilter ((checkHandleIsIdentical_iff.mp identical).1.symm.trans free)

/-- There is no room when the table has neither an identical slot nor a free one. -/
theorem addSubHandle_eq_none_iff (hasFilter : handle.topicFilter ≠ none) :
    addSubHandle subHandles handle = none ↔
      ¬(HoldsHandle subHandles handle ∨ ∃ i : Fin maxSubTopics, (subHandles.get i).topicFilter = none) := by
  rw [addSubHandle]
  simp only [any_identical_iff hasFilter]
  by_cases held : HoldsHandle subHandles handle
  · rw [if_pos held]
    exact iff_of_false (Option.some_ne_none _) (not_not.mpr (.inl held))
  · rw [if_neg held]
    have free : subHandles.toList.findIdx? (·.topicFilter.isNone) = none ↔
        ¬∃ i : Fin maxSubTopics, (subHandles.get i).topicFilter = none := by
      rw [List.findIdx?_eq_none_iff]
      constructor
      · rintro none ⟨i, isFree⟩
        have occupied := none _ (Vector.mem_toList_iff.mpr (Vector.getElem_mem i.isLt))
        rw [← get_eq_getElem, isFree] at occupied
        cases occupied
      · intro none slot among
        obtain ⟨i, inRange, rfl⟩ := Vector.mem_iff_getElem.mp (Vector.mem_toList_iff.mp among)
        exact Option.isNone_eq_false_iff.mpr (Option.isSome_iff_ne_none.mpr fun isFree =>
          none ⟨⟨i, inRange⟩, isFree⟩)
    rw [not_or, ← free]
    split
    · rename_i full
      exact iff_of_true rfl ⟨held, full⟩
    · rename_i isFree
      refine iff_of_false (Option.some_ne_none _) fun full => ?_
      rw [full.2] at isFree
      cases isFree

/-- What a table holds once a handle has been added. -/
theorem holdsHandle_addSubHandle_iff (added : addSubHandle subHandles handle = some slots)
    (hasFilter : handle.topicFilter ≠ none) {other : SubTopicHandle}
    (otherFilter : other.topicFilter ≠ none) :
    HoldsHandle slots other ↔
      HoldsHandle subHandles other ∨ checkHandleIsIdentical handle other = true := by
  rw [addSubHandle] at added
  simp only [any_identical_iff hasFilter] at added
  split at added
  · rename_i held
    obtain rfl := Option.some.inj added
    refine ⟨.inl, fun either => either.elim id fun identical => ?_⟩
    obtain ⟨i, isHandle⟩ := held
    have first := checkHandleIsIdentical_iff.mp isHandle
    have second := checkHandleIsIdentical_iff.mp identical
    exact ⟨i, checkHandleIsIdentical_iff.mpr ⟨first.1.trans second.1, first.2.trans second.2⟩⟩
  · split at added
    · cases added
    · rename_i iFree isFree
      obtain rfl := Option.some.inj added
      obtain ⟨inRange, free, -⟩ := List.findIdx?_eq_some_iff_getElem.mp isFree
      have small : iFree < maxSubTopics := by simpa using inRange
      have wasFree : subHandles[iFree].topicFilter = none := by simpa using free
      have kept : ∀ i : Fin maxSubTopics, iFree ≠ i.val →
          (subHandles.setIfInBounds iFree handle).get i = subHandles.get i :=
        fun i apart => Vector.getElem_setIfInBounds_ne i.isLt apart
      constructor
      · rintro ⟨i, identical⟩
        by_cases same : iFree = i.val
        · right
          simpa [same] using identical
        · rw [kept i same] at identical
          exact .inl ⟨i, identical⟩
      · rintro (⟨i, identical⟩ | identical)
        · have apart : iFree ≠ i.val := by
            intro same
            have isOther := (checkHandleIsIdentical_iff.mp identical).1
            simp only [get_eq_getElem, ← same, wasFree] at isOther
            exact otherFilter isOther.symm
          exact ⟨i, (kept i apart).symm ▸ identical⟩
        · exact ⟨⟨iFree, small⟩, by simpa using identical⟩

end Table

/-! ## What is reported -/

/-- Exactly one of the two events of a SUBACK is raised, and it is the success
exactly when a slot holds the topic with the handler of the entry afterwards. -/
structure SubackReports (entry : SubInfo) (packetId : UInt16) (result : Result) : Prop where
  one : (result.outputs.filter fun output =>
    output = .event .subscribeSuccess packetId ∨ output = .event .subscribeNack packetId).length = 1
  success : Output.event .subscribeSuccess packetId ∈ result.outputs ↔
    HoldsHandle result.client.subHandles entry.handler

/-- The wait list can be walked, and the table agrees with the code: for a refusal it
does not hold the handle of the entry yet, and else there is room for the handle
found under the id, which is the one of the entry unless the table has that. -/
structure SubackFits (client : Client) (entry : SubInfo) (packetId : UInt16) (code : UInt8)
    (env : Env) : Prop where
  walks : env.malloc 0 = true
  found : ∃ first, subEntryOf client packetId = some first ∧ first.handler.topicFilter ≠ none ∧
    (code = 0x80 → ¬HoldsHandle client.subHandles entry.handler) ∧
    (code ≠ 0x80 →
      (HoldsHandle client.subHandles first.handler ∨
        ∃ i : Fin maxSubTopics, (client.subHandles.get i).topicFilter = none) ∧
      (HoldsHandle client.subHandles entry.handler ∨
        checkHandleIsIdentical first.handler entry.handler = true))

section Reports

variable {client : Client} {entry : SubInfo} {packetId : UInt16} {ret : Int}

/-- Without an event nothing is reported. -/
theorem not_reports_of_silent : ¬SubackReports entry packetId ⟨ret, client, []⟩ :=
  fun reports => absurd reports.one (by simp)

theorem reports_nack_iff :
    SubackReports entry packetId ⟨ret, client, [.event .subscribeNack packetId]⟩ ↔
      ¬HoldsHandle client.subHandles entry.handler := by
  constructor
  · intro reports held
    have raised := reports.success.mpr held
    simp at raised
  · intro notHeld
    exact ⟨by simp, iff_of_false (by simp) notHeld⟩

theorem reports_success_iff :
    SubackReports entry packetId ⟨ret, client, [.event .subscribeSuccess packetId]⟩ ↔
      HoldsHandle client.subHandles entry.handler := by
  constructor
  · intro reports
    exact reports.success.mp (List.mem_singleton_self _)
  · intro held
    exact ⟨by simp, iff_of_true (List.mem_singleton_self _) held⟩

end Reports

/-- A SUBACK that answers a pending entry is reported exactly when it fits. -/
theorem handleSubackPacket_reports_iff (client : Client) (env : Env) (entry : SubInfo)
    (packetId : UInt16) (code : UInt8) (rest : List UInt8) (topic : CString)
    (isRead : client.readBuf = subackPacket packetId code ++ rest)
    (size : 5 ≤ client.readBufSize) (hears : client.eventHandler = true)
    (among : entry ∈ client.listSubWaitAck) (isId : entry.msgId = packetId)
    (hasTopic : entry.handler.topicFilter = some topic) :
    SubackReports entry packetId (handleSubackPacket client env) ↔
      SubackFits client entry packetId code env := by
  have parsed : deserializeSubackPacket 1 client.readBuf client.readBufSize =
      .ok (packetId, [code]) := by
    rw [isRead]
    exact deserializeSubackPacket_subackPacket packetId code rest size
  have entryFilter : entry.handler.topicFilter ≠ none := hasTopic ▸ Option.some_ne_none topic
  obtain ⟨first, isFirst⟩ : ∃ first, subEntryOf client packetId = some first := by
    refine Option.isSome_iff_exists.mp (List.find?_isSome.mpr ⟨entry, among, ?_⟩)
    simpa using isId
  have fits : SubackFits client entry packetId code env ↔
      env.malloc 0 = true ∧ first.handler.topicFilter ≠ none ∧
        (code = 0x80 → ¬HoldsHandle client.subHandles entry.handler) ∧
        (code ≠ 0x80 →
          (HoldsHandle client.subHandles first.handler ∨
            ∃ i : Fin maxSubTopics, (client.subHandles.get i).topicFilter = none) ∧
          (HoldsHandle client.subHandles entry.handler ∨
            checkHandleIsIdentical first.handler entry.handler = true)) := by
    constructor
    · rintro ⟨walks, other, isOther, all⟩
      obtain rfl := Option.some.inj (isFirst.symm.trans isOther)
      exact ⟨walks, all⟩
    · rintro ⟨walks, all⟩
      exact ⟨walks, first, isFirst, all⟩
  rw [fits, handleSubackPacket, parsed]
  cases walks : env.malloc 0 with
  | false =>
      simp only [maskSubInfoFrom_of_not_malloc walks]
      exact iff_of_false not_reports_of_silent fun all => Bool.false_ne_true all.1
  | true =>
      have nonempty : client.listSubWaitAck.length ≠ 0 :=
        Nat.pos_iff_ne_zero.mp (List.length_pos_of_mem among)
      have masked : maskSubInfoFrom client packetId env 0 =
          (some first.handler, { client with
            listSubWaitAck := client.listSubWaitAck.map (SubInfo.mask packetId) }) := by
        rw [maskSubInfoFrom, if_pos ⟨nonempty, walks⟩, ← subEntryOf, isFirst]
        rfl
      simp only [masked, Option.getD_some, Client.raise, hears, if_true, true_and]
      by_cases filter : first.handler.topicFilter = none
      · rw [if_pos filter]
        exact iff_of_false not_reports_of_silent fun all => all.1 filter
      rw [if_neg filter]
      by_cases refused : code = 0x80
      · simp only [refused, List.any_cons, decide_true, Bool.true_or, if_true]
        rw [reports_nack_iff]
        exact ⟨fun notHeld => ⟨filter, fun _ => notHeld, fun granted => absurd rfl granted⟩,
          fun all => all.2.1 trivial⟩
      · have granted : ([code].any fun granted => granted = 0x80) = false := by simpa using refused
        simp only [granted, Bool.false_eq_true, if_false]
        split
        · rename_i full
          have noRoom := (addSubHandle_eq_none_iff filter).mp full
          exact iff_of_false not_reports_of_silent fun all => noRoom (all.2.2 refused).1
        · rename_i slots added
          have room := mt (addSubHandle_eq_none_iff filter).mpr
            (fun none => Option.some_ne_none _ (added.symm.trans none))
          rw [not_not] at room
          rw [reports_success_iff, holdsHandle_addSubHandle_iff added filter entryFilter]
          exact ⟨fun held => ⟨filter, fun nack => absurd nack refused, fun _ => ⟨room, held⟩⟩,
            fun all => (all.2.2 refused).2⟩

/-- A client that waits for the SUBACK of its subscription to `a`. -/
def awaitingClient (subHandles : Vector SubTopicHandle maxSubTopics) : Client :=
  { uiotMqttInit ⟨2000, true⟩ with
    isConnected := true
    readBuf := subackPacket 2 1
    listSubWaitAck := [⟨1, .subscribe, 2, ⟨0⟩, .normal, ⟨some [0x61], some 7, 0, .qos1⟩⟩]
    subHandles := subHandles }

theorem handleSubackPacket_reports_empty :
    let client := awaitingClient (Vector.replicate maxSubTopics SubTopicHandle.zero)
    let entry : SubInfo := ⟨1, .subscribe, 2, ⟨0⟩, .normal, ⟨some [0x61], some 7, 0, .qos1⟩⟩
    SubackReports entry 2 (handleSubackPacket client (calm 0)) := by
  intro client entry
  refine (handleSubackPacket_reports_iff client (calm 0) entry 2 1 [] [0x61] rfl (by decide) rfl
    (List.mem_singleton_self entry) rfl rfl).mpr ⟨rfl, entry, rfl, by decide, by decide, ?_⟩
  exact fun _ => ⟨.inr ⟨0, rfl⟩, .inr rfl⟩

/-- With a full table a subscription that is granted ends without an event: the
entry is marked, no slot holds it, and nothing is raised. -/
theorem suback_full_table_silent :
    let client := awaitingClient
      (Vector.replicate maxSubTopics ⟨some [0x62], some 7, 0, .qos1⟩)
    let entry : SubInfo := ⟨1, .subscribe, 2, ⟨0⟩, .normal, ⟨some [0x61], some 7, 0, .qos1⟩⟩
    let result := handleSubackPacket client (calm 0)
    entry ∈ client.listSubWaitAck ∧
      result.client.listSubWaitAck = [{ entry with nodeState := .invalid }] ∧
      result.outputs = [] ∧ ¬SubackReports entry 2 result := by
  intro client entry result
  have silent : result.outputs = [] := by decide
  refine ⟨List.mem_singleton_self entry, by decide, silent, fun reports => ?_⟩
  have one := reports.one
  rw [silent] at one
  exact absurd one (by decide)

end UIoT.Mqtt
