import UIoT.Mqtt.Codes
import UIoT.Mqtt.SubscribeAcks
import UIoT.Mqtt.Resubscribe
import UIoT.Mqtt.Delivery

/-!
# Unsubscribing

`uiot_mqtt_unsubscribe` clears slots of the table before anything that can
fail. Which slots depends on the text of the filter too: one with a wildcard
behind a separator takes every slot, so the call takes exactly the slots that
hold its filter when the filter has none, or when no other slot is occupied
(`uiotMqttUnsubscribe_exact_iff`). The entry of the wait list is taken back
when the call fails; the slots are not, so a call that returns a code leaves
the client as it was exactly when it has found no occupied slot to take
(`uiotMqttUnsubscribe_undone_iff`).
-/

set_option autoImplicit false

namespace UIoT.Mqtt

open Base128 Runs

/-! ## The slots that are taken -/

/-- The filter contains a wildcard behind a separator. -/
def HasWildcard (topicFilter : CString) : Prop :=
  strstr topicFilter [slash, hash] = true ∨ strstr topicFilter [slash, plus] = true

instance (topicFilter : CString) : Decidable (HasWildcard topicFilter) :=
  inferInstanceAs (Decidable (_ ∨ _))

theorem unsubscribes_iff {topicFilter : CString} {slot : SubTopicHandle} :
    unsubscribes topicFilter slot = true ↔
      slot.topicFilter = some topicFilter ∨ HasWildcard topicFilter := by
  rw [unsubscribes, Bool.or_eq_true, Bool.or_eq_true, decide_eq_true_eq, or_assoc, HasWildcard]

/-- Some slot is taken. -/
theorem any_unsubscribes_iff {client : Client} {topicFilter : CString} :
    client.subHandles.toList.any (unsubscribes topicFilter) = true ↔
      ∃ i : Fin maxSubTopics, unsubscribes topicFilter (client.subHandles.get i) = true := by
  rw [List.any_eq_true]
  constructor
  · rintro ⟨slot, among, taken⟩
    obtain ⟨i, inRange, rfl⟩ := Vector.mem_iff_getElem.mp (Vector.mem_toList_iff.mp among)
    exact ⟨⟨i, inRange⟩, taken⟩
  · rintro ⟨i, taken⟩
    exact ⟨_, Vector.mem_toList_iff.mpr (Vector.getElem_mem i.isLt), taken⟩

theorem clearSlots_getElem (client : Client) (topicFilter : CString) (i : Fin maxSubTopics) :
    (clearSlots client topicFilter).subHandles.get i =
      if unsubscribes topicFilter (client.subHandles.get i) then
        { client.subHandles.get i with topicFilter := none }
      else client.subHandles.get i := by
  simp only [clearSlots, get_eq_getElem, Vector.getElem_map]

/-- A slot that is free stays as it is. -/
theorem clear_of_free {slot : SubTopicHandle} (free : slot.topicFilter = none) :
    { slot with topicFilter := none } = slot := by
  rw [← free]

/-- Clearing leaves the table alone when no occupied slot is taken. -/
theorem clearSlots_of_noneTaken {client : Client} {topicFilter : CString}
    (noneTaken : ∀ i : Fin maxSubTopics, (client.subHandles.get i).topicFilter ≠ none →
      unsubscribes topicFilter (client.subHandles.get i) = false) :
    (clearSlots client topicFilter).subHandles = client.subHandles := by
  apply Vector.ext
  intro i inRange
  have here := clearSlots_getElem client topicFilter ⟨i, inRange⟩
  simp only [get_eq_getElem] at here
  rw [here]
  split
  · rename_i taken
    by_cases free : client.subHandles[i].topicFilter = none
    · exact clear_of_free free
    · have notTaken := noneTaken ⟨i, inRange⟩ free
      exact absurd taken (by simpa using notTaken)
  · rfl

/-! ## What the call returns -/

theorem PacketError.ne_unsubFailed {ret : Int} (isError : PacketError ret) :
    ret ≠ errMqttUnsubFailed := by
  cases isError <;> decide

/-- An entry is refused with one of a few codes, or appended. -/
theorem pushSubInfoTo_codes (client : Client) (msgId : UInt16) (type : MessageTypes)
    (handler : SubTopicHandle) (env : Env) (alloc : Nat) :
    (∃ ret, (ret = errMqttMaxSubscriptionsReached ∨ PacketError ret) ∧
        pushSubInfoTo client msgId type handler env alloc = (ret, client)) ∨
      ∃ entry, pushSubInfoTo client msgId type handler env alloc =
        (successRet, { client with listSubWaitAck := client.listSubWaitAck ++ [entry] }) := by
  rcases pushSubInfoTo_ends client msgId type handler env alloc with
    ⟨ret, isCode, refused⟩ | ⟨-, timer, pushed⟩
  · refine .inl ⟨ret, isCode.imp_right ?_, refused⟩
    rintro rfl
    exact .failure
  · exact .inr ⟨_, pushed⟩

/-- A request behind its serializer returns its id or one of a few codes, and
leaves the table alone. -/
theorem sendSubRequest_ret (client : Client) (packet : List UInt8) (packetId : UInt16)
    (type : MessageTypes) (handler : SubTopicHandle) (env : Env) :
    let result := sendSubRequest client packet packetId type handler env
    result.client.subHandles = client.subHandles ∧
      (result.ret = packetId.toNat ∨ result.ret = errMqttMaxSubscriptionsReached ∨
        PacketError result.ret) := by
  have full : errMqttMaxSubscriptionsReached ≠ successRet := by decide
  intro result
  simp only [result, sendSubRequest]
  rcases pushSubInfoTo_codes (client.store packet) packetId type handler env 1 with
    ⟨ret, isCode, pushed⟩ | ⟨entry, pushed⟩
  · have failed : ret ≠ successRet := by
      rcases isCode with rfl | isError
      · exact full
      · exact Int.ne_of_lt isError.neg
    simp only [pushed, if_pos failed]
    exact ⟨rfl, .inr isCode⟩
  · simp only [pushed, ne_eq, not_true_eq_false, if_false]
    split
    · rename_i notSent
      exact ⟨rfl, .inr (.inr ((sendMqttPacket_code _ _ _).resolve_left notSent))⟩
    · exact ⟨rfl, .inl rfl⟩

/-- What the call leaves of the table, and when it reports that there is no
subscription. -/
theorem uiotMqttUnsubscribe_slots {client : Client} {topicFilter : CString} {env : Env}
    (checked : FilterLength topicFilter) :
    let result := uiotMqttUnsubscribe client topicFilter env
    result.client.subHandles = (clearSlots client topicFilter).subHandles ∧
      (result.ret = errMqttUnsubFailed ↔
        ¬∃ i : Fin maxSubTopics, unsubscribes topicFilter (client.subHandles.get i) = true) := by
  have nonempty : topicFilter.length ≠ 0 := Nat.pos_iff_ne_zero.mp checked.1
  have short : ¬maxSizeOfCloudTopic < topicFilter.length := Nat.not_lt.mpr checked.2
  rw [← any_unsubscribes_iff]
  simp only [uiotMqttUnsubscribe, if_neg nonempty, if_neg short]
  by_cases held : client.subHandles.toList.any (unsubscribes topicFilter) = true
  · simp only [held, not_true_eq_false, if_false, iff_false]
    split
    · exact ⟨rfl, show errMqttNoConn ≠ errMqttUnsubFailed by decide⟩
    split
    · exact ⟨rfl, show failureRet ≠ errMqttUnsubFailed by decide⟩
    split
    · rename_i failed
      exact ⟨rfl, (serializeUnsubscribePacket_fails _ _ _ _ _ _ _ failed).ne_unsubFailed⟩
    · rename_i packet built
      obtain ⟨sameSlots, returned⟩ := sendSubRequest_ret
        (getNextPacketId (clearSlots client topicFilter)).2 packet
        (getNextPacketId (clearSlots client topicFilter)).1 .unsubscribe
        ⟨some topicFilter, none, 0, env.stackQos⟩ env
      refine ⟨sameSlots, fun isCode => ?_⟩
      rcases returned with isId | isFull | isError
      · have nonneg := Int.natCast_nonneg (getNextPacketId (clearSlots client topicFilter)).1.toNat
        rw [← isId] at nonneg
        exact absurd (isCode ▸ nonneg) (by decide)
      · exact absurd (isFull.symm.trans isCode) (by decide)
      · exact isError.ne_unsubFailed isCode
  · simp only [held, Bool.false_eq_true, not_false_eq_true, if_true]
    exact ⟨rfl, trivial⟩

/-! ## Exactly the slots of the filter -/

/-- Exactly the slots that hold the filter are cleared, and the call reports that
there is no subscription exactly when there is none. -/
structure UnsubscribesExactly (client : Client) (topicFilter : CString) (result : Result) : Prop where
  clears : ∀ i : Fin maxSubTopics, (client.subHandles.get i).topicFilter = some topicFilter →
    result.client.subHandles.get i = { client.subHandles.get i with topicFilter := none }
  keeps : ∀ i : Fin maxSubTopics, (client.subHandles.get i).topicFilter ≠ some topicFilter →
    result.client.subHandles.get i = client.subHandles.get i
  reports : result.ret = errMqttUnsubFailed ↔
    ∀ i : Fin maxSubTopics, (client.subHandles.get i).topicFilter ≠ some topicFilter

/-- The call takes exactly the slots of its filter when the filter has no wildcard
behind a separator, or when a slot holds it and no slot holds another. -/
theorem uiotMqttUnsubscribe_exact_iff (client : Client) (topicFilter : CString) (env : Env)
    (checked : FilterLength topicFilter) :
    UnsubscribesExactly client topicFilter (uiotMqttUnsubscribe client topicFilter env) ↔
      ¬HasWildcard topicFilter ∨
        ((∃ i : Fin maxSubTopics, (client.subHandles.get i).topicFilter = some topicFilter) ∧
          ∀ i : Fin maxSubTopics, (client.subHandles.get i).topicFilter = none ∨
            (client.subHandles.get i).topicFilter = some topicFilter) := by
  obtain ⟨slots, reported⟩ := @uiotMqttUnsubscribe_slots client topicFilter env checked
  have after : ∀ i : Fin maxSubTopics,
      (uiotMqttUnsubscribe client topicFilter env).client.subHandles.get i =
        if unsubscribes topicFilter (client.subHandles.get i) then
          { client.subHandles.get i with topicFilter := none }
        else client.subHandles.get i := by
    intro i
    rw [slots]
    exact clearSlots_getElem client topicFilter i
  constructor
  · intro exactly
    by_cases wild : HasWildcard topicFilter
    · right
      have taken : ∀ i : Fin maxSubTopics, unsubscribes topicFilter (client.subHandles.get i) = true :=
        fun i => unsubscribes_iff.mpr (.inr wild)
      refine ⟨?_, fun i => ?_⟩
      · have notReported := mt reported.mp (not_not.mpr ⟨0, taken 0⟩)
        simpa using mt exactly.reports.mpr notReported
      · by_cases holds : (client.subHandles.get i).topicFilter = some topicFilter
        · exact .inr holds
        · left
          have cleared := (after i).symm.trans (exactly.keeps i holds)
          rw [if_pos (taken i)] at cleared
          exact (congrArg SubTopicHandle.topicFilter cleared).symm
    · exact .inl wild
  · intro condition
    have takenIff : ∀ i : Fin maxSubTopics, (client.subHandles.get i).topicFilter ≠ none →
        unsubscribes topicFilter (client.subHandles.get i) = true →
        (client.subHandles.get i).topicFilter = some topicFilter := by
      intro i occupied taken
      rcases condition with plain | ⟨-, alone⟩
      · exact (unsubscribes_iff.mp taken).resolve_right plain
      · exact (alone i).resolve_left occupied
    refine ⟨fun i holds => ?_, fun i other => ?_, reported.trans ⟨fun none i holds => ?_, ?_⟩⟩
    · rw [after, if_pos (unsubscribes_iff.mpr (.inl holds))]
    · rw [after]
      split
      · rename_i taken
        by_cases free : (client.subHandles.get i).topicFilter = none
        · exact clear_of_free free
        · exact absurd (takenIff i free taken) other
      · rfl
    · exact none ⟨i, unsubscribes_iff.mpr (.inl holds)⟩
    · rintro noneHolds ⟨i, taken⟩
      rcases condition with plain | ⟨⟨j, holds⟩, -⟩
      · exact noneHolds i ((unsubscribes_iff.mp taken).resolve_right plain)
      · exact noneHolds j holds

/-- A client that holds `a` and unsubscribes from it. -/
theorem uiotMqttUnsubscribe_exact_plain :
    UnsubscribesExactly (clientWithFilter [0x61]) [0x61]
      (uiotMqttUnsubscribe (clientWithFilter [0x61]) [0x61] (calm 7)) :=
  (uiotMqttUnsubscribe_exact_iff (clientWithFilter [0x61]) [0x61] (calm 7)
    ⟨by decide, by decide⟩).mpr (.inl (by decide))

/-- Unsubscribing from `b/#`, to which there is no subscription, ends the
subscription to `a`. -/
theorem unsubscribe_wildcard_clears_other :
    FilterLength [0x62, slash, hash] ∧
      ¬UnsubscribesExactly (clientWithFilter [0x61]) [0x62, slash, hash]
        (uiotMqttUnsubscribe (clientWithFilter [0x61]) [0x62, slash, hash] (calm 9)) ∧
      ((uiotMqttUnsubscribe (clientWithFilter [0x61]) [0x62, slash, hash]
        (calm 9)).client.subHandles[0]).topicFilter = none := by
  have checked : FilterLength [0x62, slash, hash] := ⟨by decide, by decide⟩
  have cleared : ((uiotMqttUnsubscribe (clientWithFilter [0x61]) [0x62, slash, hash]
      (calm 9)).client.subHandles[0]).topicFilter = none := by
    have wild : HasWildcard [0x62, slash, hash] := by decide
    rw [(uiotMqttUnsubscribe_slots checked).1]
    exact congrArg SubTopicHandle.topicFilter ((clearSlots_getElem _ _ 0).trans
      (if_pos (unsubscribes_iff.mpr (.inr wild))))
  refine ⟨checked, fun exactly => ?_, cleared⟩
  have kept := congrArg SubTopicHandle.topicFilter (exactly.keeps 0 (by decide))
  exact absurd (cleared.symm.trans kept) (by decide)

/-! ## Calls that return a code -/

/-- An UNSUBSCRIBE packet with one filter. -/
def unsubscribePacket (packetId : UInt16) (topicFilter : CString) : List UInt8 :=
  0xA2 :: (mqttWritePacketRemLen (topicFilter.length + 4) ++ mqttWriteUint16 packetId ++
    mqttWriteUtf8String topicFilter)

/-- The length of an UNSUBSCRIBE packet. -/
def unsubscribePacketLen (topicFilter : CString) : Nat :=
  topicFilter.length + 5 + (mqttWritePacketRemLen (topicFilter.length + 4)).length

theorem unsubscribePacket_length (packetId : UInt16) (topicFilter : CString) :
    (unsubscribePacket packetId topicFilter).length = unsubscribePacketLen topicFilter := by
  simp only [unsubscribePacket, unsubscribePacketLen, mqttWriteUint16, mqttWriteUtf8String,
    List.length_cons, List.length_append, List.length_nil]
  omega

theorem unsubscribePacketLen_lt {topicFilter : CString} (checked : FilterLength topicFilter) :
    unsubscribePacketLen topicFilter < uiotMqttTxBufLen := by
  have short : topicFilter.length ≤ 128 := checked.2
  have field : (encode (topicFilter.length + 4)).length ≤ 2 :=
    (encode_length_le_iff 1 _).mpr (by omega)
  rw [unsubscribePacketLen, mqttWritePacketRemLen_eq_encode]
  have size : uiotMqttTxBufLen = 2048 := rfl
  omega

/-- An UNSUBSCRIBE packet for a filter that the requests accept is built. -/
theorem serializeUnsubscribePacket_ok {topicFilter : CString} (checked : FilterLength topicFilter)
    (packetId : UInt16) :
    serializeUnsubscribePacket uiotMqttTxBufLen 0 packetId 1 [topicFilter] [] =
      .ok (unsubscribePacket packetId topicFilter) := by
  have short : topicFilter.length ≤ 128 := checked.2
  have remLen : getUnsubscribePacketRemLen [] 1 [topicFilter] = topicFilter.length + 4 := by
    simp only [getUnsubscribePacketRemLen, filterAt, List.range_one, List.map_cons, List.map_nil,
      List.sum_cons, List.sum_nil, Nat.zero_le, if_true, List.drop_zero, List.headD_cons]
    omega
  have fits : ¬uiotMqttTxBufLen < getMqttPacketLen (topicFilter.length + 4) := by
    have size : uiotMqttTxBufLen = 2048 := rfl
    rw [getMqttPacketLen]
    split
    · omega
    split
    · omega
    · omega
  have header : mqttInitPacketHeader .unsubscribe .qos1 0 0 = .ok 0xA2 := rfl
  simp only [serializeUnsubscribePacket, remLen, if_neg fits, header]
  simp [unsubscribePacket, filterAt, List.range_one, bind, Except.bind, pure, Except.pure]

/-- An unsubscription is served: the client is connected, the wait list has room,
the allocations succeed and the packet is accepted. -/
structure UnsubscribeServed (client : Client) (topicFilter : CString) (env : Env) : Prop where
  connected : client.isConnected = true
  room : client.listSubWaitAck.length < maxSubTopics
  allocates : env.malloc 0 = true ∧ env.malloc 1 = true ∧ env.malloc 2 = true
  accepts : acceptedBytes (unsubscribePacketLen topicFilter) (env.writes 0) 0 =
    unsubscribePacketLen topicFilter

section Served

variable {client : Client} {topicFilter : CString} {env : Env}

/-- An unsubscription that finds a slot to take returns an id exactly when it is
served. -/
theorem uiotMqttUnsubscribe_nonneg_iff (bufSize : client.writeBufSize = uiotMqttTxBufLen)
    (checked : FilterLength topicFilter)
    (found : ∃ i : Fin maxSubTopics, unsubscribes topicFilter (client.subHandles.get i) = true) :
    0 ≤ (uiotMqttUnsubscribe client topicFilter env).ret ↔
      UnsubscribeServed client topicFilter env := by
  have nonempty : topicFilter.length ≠ 0 := Nat.pos_iff_ne_zero.mp checked.1
  have short : ¬maxSizeOfCloudTopic < topicFilter.length := Nat.not_lt.mpr checked.2
  have held := any_unsubscribes_iff.mpr found
  have size : (getNextPacketId (clearSlots client topicFilter)).2.writeBufSize =
      uiotMqttTxBufLen := bufSize
  have fits : (unsubscribePacket (getNextPacketId (clearSlots client topicFilter)).1
      topicFilter).length < (getNextPacketId (clearSlots client topicFilter)).2.writeBufSize := by
    rw [unsubscribePacket_length, size]
    exact unsubscribePacketLen_lt checked
  have unfolded : uiotMqttUnsubscribe client topicFilter env =
      if ¬client.isConnected then ⟨errMqttNoConn, clearSlots client topicFilter, []⟩
      else if ¬env.malloc 0 then ⟨failureRet, clearSlots client topicFilter, []⟩
      else
        sendSubRequest (getNextPacketId (clearSlots client topicFilter)).2
          (unsubscribePacket (getNextPacketId (clearSlots client topicFilter)).1 topicFilter)
          (getNextPacketId (clearSlots client topicFilter)).1 .unsubscribe
          ⟨some topicFilter, none, 0, env.stackQos⟩ env := by
    rw [uiotMqttUnsubscribe, if_neg nonempty, if_neg short]
    simp only [held, not_true_eq_false, if_false]
    rw [← clearSlots]
    simp only [size, serializeUnsubscribePacket_ok checked]
  rw [unfolded]
  constructor
  · intro returned
    split at returned
    · exact absurd returned (show ¬0 ≤ errMqttNoConn by decide)
    rename_i connected
    split at returned
    · exact absurd returned (show ¬0 ≤ failureRet by decide)
    rename_i malloc0
    obtain ⟨room, allocates, accepts⟩ := accepted_of_sendSubRequest fits returned
    rw [unsubscribePacket_length] at accepts
    exact ⟨by simpa using connected, room, ⟨by simpa using malloc0, allocates⟩, accepts⟩
  · intro served
    have accepts := served.accepts
    rw [← unsubscribePacket_length (getNextPacketId (clearSlots client topicFilter)).1 topicFilter]
      at accepts
    obtain ⟨buf, timer, accepted⟩ := sendSubRequest_of_accepted fits served.room
      served.allocates.2 accepts
    rw [if_neg (by simp [served.connected]), if_neg (by simp [served.allocates.1]), accepted]
    exact Int.natCast_nonneg _

/-- A filter that is refused changes nothing. -/
theorem uiotMqttUnsubscribe_of_refused (refused : ¬FilterLength topicFilter) :
    (uiotMqttUnsubscribe client topicFilter env).client = client := by
  unfold uiotMqttUnsubscribe
  split
  · rfl
  rename_i nonempty
  split
  · rfl
  · rename_i short
    exact absurd ⟨Nat.pos_iff_ne_zero.mpr nonempty, Nat.not_lt.mp short⟩ refused

end Served

/-- A client after a call that returned a code: the table and the wait list are as
they were, messages reach the handlers they reached, and the slots that are
subscribed again after a reconnection are the same. -/
structure Undone (client after : Client) : Prop where
  slots : after.subHandles = client.subHandles
  entries : after.listSubWaitAck = client.listSubWaitAck
  delivers : ∀ memory len message before,
    (deliverMessage after memory len message before).outputs =
      (deliverMessage client memory len message before).outputs
  resubscribes : occupied after (List.finRange maxSubTopics) =
    occupied client (List.finRange maxSubTopics)

theorem Undone.of_eq {client after : Client} (slots : after.subHandles = client.subHandles)
    (entries : after.listSubWaitAck = client.listSubWaitAck)
    (handler : after.eventHandler = client.eventHandler) : Undone client after where
  slots := slots
  entries := entries
  delivers memory len message before := by
    simp only [deliverMessage, slots]
    split
    · rfl
    · rw [handler]
  resubscribes := by
    rw [occupied, occupied, slots]

/-- In every state that a run reaches, an unsubscription that returns a code leaves
the client as it was exactly when its filter is refused, or no occupied slot is
taken, or it is served and so returns none. -/
theorem uiotMqttUnsubscribe_undone_iff (params : InitParams) (inputs : List Act)
    (topicFilter : CString) (env : Env) :
    let client := (run step (uiotMqttInit params) inputs).1
    let result := uiotMqttUnsubscribe client topicFilter env
    (result.ret < 0 → Undone client result.client) ↔
      ¬FilterLength topicFilter ∨
        (∀ i : Fin maxSubTopics, (client.subHandles.get i).topicFilter ≠ none →
          unsubscribes topicFilter (client.subHandles.get i) = false) ∨
        UnsubscribeServed client topicFilter env := by
  intro client result
  have numbered := (run_valid params inputs).numbered
  have sound : client.Sound := (Steps.sound ⟨inputs, rfl, rfl⟩ (uiotMqttInit_valid params)
    (uiotMqttInit_sound params)).2
  constructor
  · intro undone
    by_cases checked : FilterLength topicFilter
    · right
      by_cases noneTaken : ∀ i : Fin maxSubTopics, (client.subHandles.get i).topicFilter ≠ none →
          unsubscribes topicFilter (client.subHandles.get i) = false
      · exact .inl noneTaken
      · right
        push Not at noneTaken
        obtain ⟨i, isOccupied, taken⟩ := noneTaken
        rw [ne_eq, Bool.not_eq_false] at taken
        rw [← uiotMqttUnsubscribe_nonneg_iff sound.writeBufSize checked ⟨i, taken⟩]
        by_contra negative
        have same := (undone (Int.not_le.mp negative)).slots
        rw [(uiotMqttUnsubscribe_slots checked).1] at same
        have cleared := clearSlots_getElem client topicFilter i
        rw [if_pos taken, same] at cleared
        exact isOccupied (congrArg SubTopicHandle.topicFilter cleared)
    · exact .inl checked
  · intro condition negative
    obtain ⟨-, same | outcome⟩ := uiotMqttUnsubscribe_outcome topicFilter env numbered.sub
    · exact .of_eq (congrArg Client.subHandles same) (congrArg Client.listSubWaitAck same)
        (congrArg Client.eventHandler same)
    by_cases checked : FilterLength topicFilter
    · by_cases noneTaken : ∀ i : Fin maxSubTopics, (client.subHandles.get i).topicFilter ≠ none →
          unsubscribes topicFilter (client.subHandles.get i) = false
      · have slots := clearSlots_of_noneTaken noneTaken
        cases outcome with
        | untouched buf same =>
            exact .of_eq (by rw [same]; exact slots) (by rw [same]; rfl) (by rw [same]; rfl)
        | failed buf took =>
            exact .of_eq (by rw [took]; exact slots) (by rw [took]; rfl) (by rw [took]; rfl)
        | accepted id after =>
            have returned : 0 ≤ result.ret := id ▸ Int.natCast_nonneg _
            exact absurd negative (Int.not_lt.mpr returned)
      · have served := (condition.resolve_left (not_not.mpr checked)).resolve_left noneTaken
        push Not at noneTaken
        obtain ⟨i, -, taken⟩ := noneTaken
        rw [ne_eq, Bool.not_eq_false] at taken
        have returned := (uiotMqttUnsubscribe_nonneg_iff sound.writeBufSize checked ⟨i, taken⟩).mpr
          served
        exact absurd negative (Int.not_lt.mpr returned)
    · have same := @uiotMqttUnsubscribe_of_refused client topicFilter env checked
      exact .of_eq (congrArg Client.subHandles same) (congrArg Client.listSubWaitAck same)
        (congrArg Client.eventHandler same)

/-- A subscription to `a` is granted, and the connection is lost. -/
def subscribedAndLost : List Act :=
  connectActs ++ [subscribeAct, subackAct 2, .subInfoProc (calm 0), .handleDisconnect (calm 2)]

/-- Without a connection the call returns a code, and the slot is gone. -/
theorem unsubscribe_offline_clears :
    let client := (run step (uiotMqttInit ⟨2000, true⟩) subscribedAndLost).1
    let result := uiotMqttUnsubscribe client [0x61] (calm 7)
    result.ret = errMqttNoConn ∧ client.subHandles[0].topicFilter = some [0x61] ∧
      result.client.subHandles[0].topicFilter = none ∧
      ¬(result.ret < 0 → Undone client result.client) := by
  intro client result
  have lost : result.ret = errMqttNoConn ∧ client.subHandles[0].topicFilter = some [0x61] ∧
      result.client.subHandles[0].topicFilter = none := by decide +kernel
  refine ⟨lost.1, lost.2.1, lost.2.2, fun undone => ?_⟩
  have negative : result.ret < 0 := by
    rw [lost.1]
    decide
  have same := lost.2.2
  rw [(undone negative).slots, lost.2.1] at same
  cases same

end UIoT.Mqtt
