import UIoT.Mqtt.Admission
import UIoT.Mqtt.Reconnect
import UIoT.Mqtt.Unsubscribing
import UIoT.Mqtt.SubackEvents
import UIoT.Mqtt.TopicCopy

/-!
# What becomes of a subscription

A SUBACK that grants a subscription puts its handle into the first free slot,
unless a slot holds the topic with the handler already: such a slot stays as it
is, with the user data and the quality of service of an earlier subscription,
and the new handle is freed. A slot that is occupied is not touched again until
an unsubscription clears it. So the messages on the topic reach the handler with
the user data that the subscription has named, and the quality of service is the
one that is subscribed again, exactly when the SUBACK leaves the handle in the
table (`subscription_served_iff`).
-/

set_option autoImplicit false

namespace UIoT.Mqtt

open Runs

/-! ## Occupied slots -/

/-- Every occupied slot is as it was. -/
def KeepsSlots (client after : Client) : Prop :=
  ∀ i : Fin maxSubTopics, (client.subHandles.get i).topicFilter ≠ none →
    after.subHandles.get i = client.subHandles.get i

theorem KeepsSlots.of_eq {client after : Client} (same : after.subHandles = client.subHandles) :
    KeepsSlots client after := by
  intro i _
  rw [same]

theorem KeepsSlots.trans {client middle after : Client} (first : KeepsSlots client middle)
    (second : KeepsSlots middle after) : KeepsSlots client after := by
  intro i occupied
  have kept := first i occupied
  rw [← kept] at occupied
  exact (second i occupied).trans kept

section Slots

variable {client : Client}

/-- A handle that is added takes a free slot. -/
theorem addSubHandle_keeps {subHandles slots : Vector SubTopicHandle maxSubTopics}
    {handle : SubTopicHandle} (added : addSubHandle subHandles handle = some slots)
    (i : Fin maxSubTopics) (occupied : (subHandles.get i).topicFilter ≠ none) :
    slots.get i = subHandles.get i := by
  unfold addSubHandle at added
  simp only at added
  split at added
  · obtain rfl := Option.some.inj added
    rfl
  · split at added
    · cases added
    · rename_i iFree isFree
      obtain rfl := Option.some.inj added
      obtain ⟨inRange, free, -⟩ := List.findIdx?_eq_some_iff_getElem.mp isFree
      have apart : iFree ≠ i.val := by
        intro same
        apply occupied
        simpa [same] using free
      exact Vector.getElem_setIfInBounds_ne i.isLt apart

/-- The slots once a handle has been added: those that were occupied, and the
handle when its topic with its handler was not there. -/
theorem exists_addSubHandle_iff {subHandles slots : Vector SubTopicHandle maxSubTopics}
    {handle : SubTopicHandle} (added : addSubHandle subHandles handle = some slots)
    (hasFilter : handle.topicFilter ≠ none) {other : SubTopicHandle}
    (otherFilter : other.topicFilter ≠ none) :
    (∃ i : Fin maxSubTopics, slots.get i = other) ↔
      (∃ i : Fin maxSubTopics, subHandles.get i = other) ∨
        handle = other ∧ ¬HoldsHandle subHandles handle := by
  constructor
  · rintro ⟨i, isOther⟩
    rcases addSubHandle_cases added i with was | isHandle
    · exact .inl ⟨i, was.symm.trans isOther⟩
    by_cases held : HoldsHandle subHandles handle
    · left
      rw [addSubHandle] at added
      simp only [any_identical_iff hasFilter, if_pos held, Option.some.injEq] at added
      exact ⟨i, by rw [added]; exact isOther⟩
    · exact .inr ⟨isHandle.symm.trans isOther, held⟩
  · rintro (⟨i, isOther⟩ | ⟨rfl, notHeld⟩)
    · exact ⟨i, (addSubHandle_keeps added i (isOther ▸ otherFilter)).trans isOther⟩
    · obtain ⟨i, identical⟩ := (holdsHandle_addSubHandle_iff added hasFilter hasFilter).mpr
        (.inr (checkHandleIsIdentical_iff.mpr ⟨rfl, rfl⟩))
      rcases addSubHandle_cases added i with was | isHandle
      · rw [was] at identical
        exact absurd ⟨i, identical⟩ notHeld
      · exact ⟨i, isHandle⟩

/-- A packet keeps the occupied slots. -/
theorem cycle_keepsSlots (client : Client) (read : PacketRead) (env : Env) :
    KeepsSlots client (cycleForReadWith client read env).client := by
  cases ack : ackIn client.readBufSize read with
  | none => exact .of_eq (cycle_of_ackIn_none env ack).subHandles
  | some found =>
      obtain ⟨type, packetId⟩ := found
      rcases ackIn_type ack with rfl | rfl | rfl
      · exact .of_eq (cycle_of_puback env ack).2.1
      · obtain ⟨-, -, same | ⟨handle, -, added⟩, -⟩ := cycle_of_suback env ack
        · exact .of_eq same
        · exact addSubHandle_keeps added
      · exact .of_eq (cycle_of_unsuback env ack).2.1

theorem uiotMqttSubscribe_subHandles (topicFilter : CString) (params : SubscribeParams) (env : Env) :
    (uiotMqttSubscribe client topicFilter params env).client.subHandles = client.subHandles := by
  unfold uiotMqttSubscribe
  split
  · rfl
  split
  · rfl
  split
  · rfl
  split
  · rfl
  split
  · rfl
  simp only
  split
  · rfl
  · exact (sendSubRequest_ret (getNextPacketId client).2 _ _ _ _ env).1

/-- An unsubscription keeps the occupied slots of other topics, unless its filter
has a wildcard. -/
theorem uiotMqttUnsubscribe_keeps {other : CString} {env : Env} (i : Fin maxSubTopics)
    (spares : unsubscribes other (client.subHandles.get i) = false) :
    (uiotMqttUnsubscribe client other env).client.subHandles.get i = client.subHandles.get i := by
  by_cases checked : FilterLength other
  · rw [(uiotMqttUnsubscribe_slots checked).1, clearSlots_getElem,
      if_neg (Bool.eq_false_iff.mp spares)]
  · rw [uiotMqttUnsubscribe_of_refused checked]

/-! ## Connecting again -/

theorem waitForRead_keepsSlots (packetType : MessageTypes) (client : Client) (readPacketType : Nat)
    (reads : List (PacketRead × Env)) :
    KeepsSlots client (waitForRead packetType client readPacketType reads).client := by
  induction reads generalizing client readPacketType with
  | nil => exact .of_eq rfl
  | cons head reads inductionHypothesis =>
      obtain ⟨read, env⟩ := head
      have cycle := cycle_keepsSlots client read env
      simp only [waitForRead]
      split
      · exact cycle.trans (inductionHypothesis _ _)
      · exact cycle

theorem uiotMqttConnect_keepsSlots (client : Client) (params : ConnectParams) (world : ConnectEnv) :
    KeepsSlots client (uiotMqttConnect client params world).client := by
  have connected : KeepsSlots client (mqttConnect client params world).client := by
    have sent : KeepsSlots client
        (sendConnect client params world.netConnectRet world.env).client :=
      .of_eq (subHandles_of_standing
        (step_standing client (.sendConnect params world.netConnectRet world.env) trivial))
    have waited := waitForRead_keepsSlots .connack
      (sendConnect client params world.netConnectRet world.env).client 0 world.reads
    simp only [mqttConnect]
    split
    · exact sent
    split
    · exact sent.trans waited
    · exact (sent.trans waited).trans
        (.of_eq (subHandles_of_standing (step_standing _ (.acceptConnack world.env) trivial)))
  unfold uiotMqttConnect
  split
  · exact .of_eq rfl
  · simp only
    split <;> exact connected

theorem resubscribeLoop_subHandles (envs : Nat → Env) (client : Client)
    (slots : List (Fin maxSubTopics)) :
    (resubscribeLoop envs client slots).client.subHandles = client.subHandles := by
  induction slots generalizing client with
  | nil => rfl
  | cons itr slots inductionHypothesis =>
      simp only [resubscribeLoop]
      split
      · exact inductionHypothesis client
      · rename_i topic _
        have subscribed := @uiotMqttSubscribe_subHandles client topic
          (client.subHandles.get itr).params (envs itr)
        split
        · exact subscribed
        · exact (inductionHypothesis _).trans subscribed

theorem uiotMqttAttemptReconnect_keepsSlots (client : Client) (world : ReconnectEnv) :
    KeepsSlots client (uiotMqttAttemptReconnect client world).client := by
  have connected := uiotMqttConnect_keepsSlots client client.options world.connect
  have resubscribed : KeepsSlots (uiotMqttConnect client client.options world.connect).client
      (uiotMqttResubscribe (uiotMqttConnect client client.options world.connect).client
        world.subscribe).client := by
    apply KeepsSlots.of_eq
    rw [uiotMqttResubscribe]
    split
    · rfl
    · exact resubscribeLoop_subHandles _ _ _
  simp only [uiotMqttAttemptReconnect]
  split
  · exact .of_eq rfl
  split
  · exact connected
  split
  · exact connected.trans resubscribed
  · exact connected.trans resubscribed

theorem handleReconnect_keepsSlots (client : Client) (world : ReconnectEnv) :
    KeepsSlots client (handleReconnect client world).client := by
  have attempted := uiotMqttAttemptReconnect_keepsSlots client world
  simp only [handleReconnect]
  split
  · exact .of_eq rfl
  split
  · exact attempted
  · exact attempted.trans
      (.of_eq (subHandles_of_standing (step_standing _ (.backOff world.env) trivial)))

/-! ## Calls that spare a topic -/

/-- A call is no unsubscription that clears the slots of a topic: neither one from
the topic nor one with a wildcard. -/
def Call.Spares (topicFilter : CString) : Call → Prop
  | .act (.unsubscribe other _) => other ≠ topicFilter ∧ ¬HasWildcard other
  | _ => True

instance (topicFilter : CString) : (input : Call) → Decidable (input.Spares topicFilter)
  | .act (.unsubscribe other _) => (inferInstance : Decidable (other ≠ topicFilter ∧ ¬HasWildcard other))
  | .act (.publish ..) | .act (.subscribe ..) | .act (.cycle ..) | .act (.pubInfoProc ..)
  | .act (.subInfoProc ..) | .act (.keepAlive ..) | .act (.disconnect ..) | .act (.handleDisconnect ..)
  | .act (.sendConnect ..) | .act (.acceptConnack ..) | .act .closeNetwork | .act .raiseReconnect
  | .act (.backOff ..) | .act .countDisconnect | .act (.scheduleReconnect ..)
  | .attemptReconnect _ | .handleReconnect _ => instDecidableTrue

/-- The act is an unsubscription. -/
def Act.IsUnsubscribe : Act → Prop
  | .unsubscribe .. => True
  | _ => False

/-- An act that is no unsubscription keeps the occupied slots. -/
theorem step_keepsSlots (input : Act) (numbered : client.waiting.Numbered)
    (noUnsubscribe : ¬input.IsUnsubscribe) : KeepsSlots client (step client input).1 := by
  cases input with
  | unsubscribe => exact absurd trivial noUnsubscribe
  | cycle read env => exact cycle_keepsSlots client read env
  | subscribe topicFilter params env =>
      exact .of_eq (uiotMqttSubscribe_subHandles topicFilter params env)
  | publish topicName params env =>
      apply KeepsSlots.of_eq
      obtain ⟨-, outcome⟩ := uiotMqttPublish_outcome topicName params env numbered.pub
      simp only [step, act]
      cases outcome with
      | untouched buf same => rw [same]
      | failed buf took => rw [took]; rfl
      | accepted id after =>
          obtain ⟨-, buf, timer, same⟩ := after
          rw [same]
          rfl
  | pubInfoProc env =>
      apply KeepsSlots.of_eq
      simp only [step, act]
      rcases uiotMqttPubInfoProc_swept client env with same | ⟨kept, outputs, timedOut, same, -⟩ <;>
        rw [same]
  | subInfoProc env =>
      apply KeepsSlots.of_eq
      simp only [step, act]
      rcases uiotMqttSubInfoProc_swept client env with same | ⟨kept, outputs, timedOut, same, -⟩ <;>
        rw [same]
  | _ => exact .of_eq (subHandles_of_standing (step_standing client _ trivial))

/-- A slot that holds a topic stays as it is through a call that spares the topic. -/
theorem call_keepsSlot (valid : client.waiting.Valid) {topicFilter : CString} {i : Fin maxSubTopics}
    (holds : (client.subHandles.get i).topicFilter = some topicFilter) (input : Call)
    (spares : input.Spares topicFilter) :
    (call client input).client.subHandles.get i = client.subHandles.get i := by
  have occupied : (client.subHandles.get i).topicFilter ≠ none := holds ▸ Option.some_ne_none topicFilter
  cases input with
  | attemptReconnect world => exact uiotMqttAttemptReconnect_keepsSlots client world i occupied
  | handleReconnect world => exact handleReconnect_keepsSlots client world i occupied
  | act input =>
      by_cases isUnsubscribe : input.IsUnsubscribe
      · cases input with
        | unsubscribe other env =>
            apply uiotMqttUnsubscribe_keeps
            apply Bool.eq_false_iff.mpr
            intro taken
            rcases unsubscribes_iff.mp taken with same | wild
            · exact spares.1 (Option.some.inj (same.symm.trans holds))
            · exact spares.2 wild
        | _ => exact isUnsubscribe.elim
      · exact step_keepsSlots input valid.numbered isUnsubscribe i occupied

/-- Runs of calls keep the wait lists valid and the table sound. -/
theorem run_sound (valid : client.waiting.Valid) (sound : client.Sound) (calls : List Call) :
    (run callStep client calls).1.waiting.Valid ∧ (run callStep client calls).1.Sound :=
  ((along_true callStep client calls).invariant
    (fun client => client.waiting.Valid ∧ client.Sound) ⟨valid, sound⟩
    fun client input inv _ => (call_steps client input).sound inv.1 inv.2).2

/-- A slot that holds a topic stays as it is through calls that spare the topic. -/
theorem run_keepsSlot (valid : client.waiting.Valid) (sound : client.Sound) {topicFilter : CString}
    {i : Fin maxSubTopics} (holds : (client.subHandles.get i).topicFilter = some topicFilter)
    {after : List Call} (spares : ∀ input ∈ after, input.Spares topicFilter) :
    (run callStep client after).1.subHandles.get i = client.subHandles.get i := by
  have start : (client.waiting.Valid ∧ client.Sound) ∧ client.subHandles.get i = client.subHandles.get i :=
    ⟨⟨valid, sound⟩, rfl⟩
  refine ((along_of_forall callStep client fun input among _ => spares input among).invariant
    (fun later => (later.waiting.Valid ∧ later.Sound) ∧ later.subHandles.get i = client.subHandles.get i)
    start fun later input inv spares => ?_).2.2
  obtain ⟨⟨valid, sound⟩, same⟩ := inv
  have holds : (later.subHandles.get i).topicFilter = some topicFilter := by rw [same, holds]
  exact ⟨(call_steps later input).sound valid sound,
    (call_keepsSlot valid holds input spares).trans same⟩

/-! ## The entry of a subscription -/

/-- Every entry behind an act was there before with its handle, or is new. -/
theorem step_entries (input : Act) (numbered : client.waiting.Numbered) :
    ∀ entry ∈ (step client input).1.listSubWaitAck,
      (∃ old ∈ client.listSubWaitAck, old.issue = entry.issue ∧ old.handler = entry.handler) ∨
        client.issued < entry.issue := by
  have stays : ∀ {list : List SubInfo}, list = client.listSubWaitAck → ∀ entry ∈ list,
      (∃ old ∈ client.listSubWaitAck, old.issue = entry.issue ∧ old.handler = entry.handler) ∨
        client.issued < entry.issue := by
    rintro _ rfl entry among
    exact .inl ⟨entry, among, rfl, rfl⟩
  have enters : ∀ {list : List SubInfo} {type timer handler},
      list = client.listSubWaitAck ++ [subEntry client type timer handler] → ∀ entry ∈ list,
      (∃ old ∈ client.listSubWaitAck, old.issue = entry.issue ∧ old.handler = entry.handler) ∨
        client.issued < entry.issue := by
    rintro _ type timer handler rfl entry among
    rcases List.mem_append.mp among with was | isNew
    · exact .inl ⟨entry, was, rfl, rfl⟩
    · rw [List.mem_singleton.mp isNew]
      exact .inr (Nat.lt_succ_self client.issued)
  by_cases onlyConnection : input.OnlyConnection
  · have same := waiting_of_standing (step_standing client input onlyConnection)
    exact stays (congrArg Waiting.sub same)
  cases input with
  | publish topicName params env =>
      obtain ⟨-, outcome⟩ := uiotMqttPublish_outcome topicName params env numbered.pub
      simp only [step, act]
      cases outcome with
      | untouched buf same => exact stays (by rw [same])
      | failed buf took => exact stays (by rw [took]; rfl)
      | accepted id after =>
          obtain ⟨-, buf, timer, same⟩ := after
          exact stays (by rw [same]; rfl)
  | subscribe topicFilter params env =>
      obtain ⟨-, outcome⟩ := uiotMqttSubscribe_outcome topicFilter params env numbered.sub
      simp only [step, act]
      cases outcome with
      | untouched buf same => exact stays (by rw [same])
      | failed buf took => exact stays (by rw [took]; rfl)
      | accepted id after =>
          obtain ⟨-, buf, timer, same⟩ := after
          exact enters (by rw [same])
  | unsubscribe topicFilter env =>
      obtain ⟨-, same | outcome⟩ := uiotMqttUnsubscribe_outcome topicFilter env numbered.sub
      · simp only [step, act, same]
        exact stays rfl
      · simp only [step, act]
        cases outcome with
        | untouched buf same => exact stays (by rw [same]; rfl)
        | failed buf took => exact stays (by rw [took]; rfl)
        | accepted id after =>
            obtain ⟨-, buf, timer, same⟩ := after
            exact enters (by rw [same])
  | cycle read env =>
      intro entry among
      exact .inl (cycle_entries read env entry among)
  | pubInfoProc env =>
      simp only [step, act]
      rcases uiotMqttPubInfoProc_swept client env with same | ⟨kept, outputs, timedOut, same, -⟩
      · exact stays (by rw [same])
      · exact stays (by rw [same])
  | subInfoProc env =>
      simp only [step, act]
      rcases uiotMqttSubInfoProc_swept client env with same | ⟨kept, outputs, timedOut, same, swept⟩
      · exact stays (by rw [same])
      · rw [same]
        intro entry among
        exact .inl ⟨entry, swept.keptSublist.subset among, rfl, rfl⟩
  | _ => exact absurd trivial onlyConnection

/-- The entries with a number that has been given out have a handle. -/
structure Enters (issue : Nat) (handle : SubTopicHandle) (client : Client) : Prop where
  given : issue ≤ client.issued
  handler : ∀ entry ∈ client.listSubWaitAck, entry.issue = issue → entry.handler = handle

theorem step_enters {issue : Nat} {handle : SubTopicHandle} (enters : Enters issue handle client)
    (numbered : client.waiting.Numbered) (input : Act) :
    Enters issue handle (step client input).1 := by
  refine ⟨Nat.le_trans enters.given (step_issued_le input numbered), ?_⟩
  intro entry among isIssue
  rcases step_entries input numbered entry among with ⟨old, was, sameIssue, sameHandler⟩ | isNew
  · rw [← sameHandler]
    exact enters.handler old was (sameIssue.trans isIssue)
  · rw [isIssue] at isNew
    exact absurd enters.given (Nat.not_le.mpr isNew)

/-- An entry keeps its handle through every run. -/
theorem Steps.enters {client' : Client} {outputs : List Output}
    (steps : Steps client client' outputs) (valid : client.waiting.Valid) {issue : Nat}
    {handle : SubTopicHandle} (enters : Enters issue handle client) : Enters issue handle client' := by
  obtain ⟨inputs, rfl, -⟩ := steps
  exact ((along_true step client inputs).invariant
    (fun client => client.waiting.Valid ∧ Enters issue handle client) ⟨valid, enters⟩
    fun _ input inv _ => ⟨(step_moves input inv.1.numbered).valid inv.1,
      step_enters inv.2 inv.1.numbered input⟩).2.2

theorem run_enters (valid : client.waiting.Valid) (sound : client.Sound) {issue : Nat}
    {handle : SubTopicHandle} (enters : Enters issue handle client) (calls : List Call) :
    Enters issue handle (run callStep client calls).1 :=
  ((along_true callStep client calls).invariant
    (fun client => (client.waiting.Valid ∧ client.Sound) ∧ Enters issue handle client)
    ⟨⟨valid, sound⟩, enters⟩
    fun client input inv _ => ⟨(call_steps client input).sound inv.1.1 inv.1.2,
      (call_steps client input).enters inv.1.1 inv.2⟩).2.2

/-- A subscription that is accepted has left an entry with its handle. -/
theorem uiotMqttSubscribe_enters (valid : client.waiting.Valid) {topicFilter : CString}
    {params : SubscribeParams} {env : Env}
    (accepted : 0 ≤ (uiotMqttSubscribe client topicFilter params env).ret) :
    Enters (client.issued + 1)
      ⟨some topicFilter, params.onMessageHandler, params.userData, params.qos⟩
      (uiotMqttSubscribe client topicFilter params env).client := by
  obtain ⟨-, outcome⟩ := uiotMqttSubscribe_outcome topicFilter params env valid.numbered.sub
  obtain ⟨-, grown⟩ := uiotMqttSubscribe_grows accepted
  cases outcome with
  | untouched buf same =>
      rw [same] at grown
      exact absurd grown (Nat.ne_of_lt (Nat.lt_succ_self _))
  | failed buf took =>
      rw [took] at grown
      exact absurd grown (Nat.ne_of_lt (Nat.lt_succ_self _))
  | accepted id after =>
      obtain ⟨-, buf, timer, same⟩ := after
      rw [same]
      refine ⟨Nat.le_refl _, fun entry among isIssue => ?_⟩
      rcases List.mem_append.mp among with was | isNew
      · have given := valid.numbered.sub entry was
        rw [isIssue] at given
        exact absurd given (Nat.not_le.mpr (Nat.lt_succ_self _))
      · rw [List.mem_singleton.mp isNew]
        rfl

end Slots

/-! ## The SUBACK of a subscription -/

/-- A SUBACK that grants the request with an id is read. -/
structure Grants (readBufSize : Nat) (read : PacketRead) (packetId : UInt16) : Prop where
  success : read.ret = successRet
  isSuback : MessageTypes.ofHeader (read.packetType.getD 0) = some .suback
  granted : ∃ grantedQoS, deserializeSubackPacket 1 read.readBuf readBufSize =
    .ok (packetId, grantedQoS) ∧ 0x80 ∉ grantedQoS

/-- The SUBACK puts a handle into a free slot: the wait list can be walked, the
entry found under the id is the one of the subscription, or one with the same
handle, and no slot holds its topic with its handler. -/
structure Fills (client : Client) (packetId : UInt16) (issue : Nat) (handle : SubTopicHandle)
    (env : Env) : Prop where
  walks : env.malloc 0 = true
  found : ∃ entry, subEntryOf client packetId = some entry ∧
    (entry.issue = issue ∨ entry.handler = handle)
  isNew : ¬HoldsHandle client.subHandles handle
  free : ∃ i : Fin maxSubTopics, (client.subHandles.get i).topicFilter = none

/-- The SUBACK leaves a handle in the table: a slot equals it already, or it is put
into a free one. -/
def Stores (client : Client) (packetId : UInt16) (issue : Nat) (handle : SubTopicHandle)
    (env : Env) : Prop :=
  (∃ i : Fin maxSubTopics, client.subHandles.get i = handle) ∨ Fills client packetId issue handle env

section Suback

variable {client : Client} {read : PacketRead} {packetId : UInt16} {env : Env}

/-- The table behind a SUBACK that grants. -/
theorem cycle_of_grants (grants : Grants client.readBufSize read packetId) :
    (cycleForReadWith client read env).client.subHandles =
      match if env.malloc 0 then subEntryOf client packetId else none with
      | none => client.subHandles
      | some entry =>
          if entry.handler.topicFilter = none then client.subHandles
          else (addSubHandle client.subHandles entry.handler).getD client.subHandles := by
  obtain ⟨success, isSuback, grantedQoS, parsed, granted⟩ := grants
  have notNack : (grantedQoS.any fun code => code = 0x80) = false := by
    rw [List.any_eq_false]
    intro code among isNack
    exact granted (of_decide_eq_true isNack ▸ among)
  rw [cycleForReadWith_of_type env success isSuback]
  simp only [dispatch, handleSubackPacket, parsed, notNack, Bool.false_eq_true, if_false,
    subHandles_of_standing (standing_notePing _ _ _)]
  cases walks : env.malloc 0 with
  | false => simp [maskSubInfoFrom_of_not_malloc walks, SubTopicHandle.zero]
  | true =>
      have handle := (@maskSubInfoFrom_of_malloc { client with readBuf := read.readBuf } packetId env
        walks).1
      have same : (maskSubInfoFrom { client with readBuf := read.readBuf } packetId env
          0).2.subHandles = client.subHandles := by
        rw [maskSubInfoFrom]
        split <;> rfl
      have found : subEntryOf { client with readBuf := read.readBuf } packetId =
        subEntryOf client packetId := rfl
      rw [found] at handle
      simp only [handle, same, if_true]
      cases subEntryOf client packetId with
      | none => simp [SubTopicHandle.zero, same]
      | some entry =>
          simp only [Option.map_some, Option.getD_some]
          split
          · exact same
          · split
            · rename_i full
              rw [full]
              exact same
            · rename_i slots added
              rw [added]
              rfl

/-- A SUBACK that grants leaves a handle in the table exactly when it stores it. -/
theorem exists_granted_iff (grants : Grants client.readBufSize read packetId) {issue : Nat}
    {handle : SubTopicHandle} (enters : Enters issue handle client)
    (hasFilter : handle.topicFilter ≠ none) :
    (∃ i : Fin maxSubTopics, (cycleForReadWith client read env).client.subHandles.get i = handle) ↔
      Stores client packetId issue handle env := by
  have isHandle : ∀ entry, subEntryOf client packetId = some entry →
      (entry.issue = issue ∨ entry.handler = handle ↔ entry.handler = handle) := by
    intro entry found
    refine ⟨fun either => ?_, .inr⟩
    exact either.elim (enters.handler entry (mem_subEntryOf found).1) id
  have unchanged : ∀ {slots : Vector SubTopicHandle maxSubTopics}, slots = client.subHandles →
      ¬Fills client packetId issue handle env →
      ((∃ i : Fin maxSubTopics, slots.get i = handle) ↔ Stores client packetId issue handle env) := by
    rintro _ rfl notFilled
    exact (or_iff_left notFilled).symm
  rw [cycle_of_grants grants]
  cases walks : env.malloc 0 with
  | false =>
      apply unchanged rfl
      intro fills
      exact Bool.false_ne_true (walks.symm.trans fills.walks)
  | true =>
      simp only [if_true]
      cases found : subEntryOf client packetId with
      | none =>
          apply unchanged rfl
          intro fills
          obtain ⟨entry, isEntry, -⟩ := fills.found
          exact Option.some_ne_none entry (isEntry.symm.trans found)
      | some entry =>
          have fillsIff : Fills client packetId issue handle env ↔
              entry.handler = handle ∧ ¬HoldsHandle client.subHandles handle ∧
                ∃ i : Fin maxSubTopics, (client.subHandles.get i).topicFilter = none := by
            constructor
            · rintro ⟨-, ⟨other, isOther, either⟩, isNew, free⟩
              obtain rfl := Option.some.inj (isOther.symm.trans found)
              exact ⟨(isHandle other found).mp either, isNew, free⟩
            · rintro ⟨same, isNew, free⟩
              exact ⟨walks, ⟨entry, found, .inr same⟩, isNew, free⟩
          simp only
          split
          · rename_i noFilter
            apply unchanged rfl
            intro fills
            exact hasFilter ((fillsIff.mp fills).1 ▸ noFilter)
          rename_i entryFilter
          cases added : addSubHandle client.subHandles entry.handler with
          | none =>
              apply unchanged rfl
              intro fills
              exact (addSubHandle_eq_none_iff entryFilter).mp added (.inr (fillsIff.mp fills).2.2)
          | some slots =>
              have room : HoldsHandle client.subHandles entry.handler ∨
                  ∃ i : Fin maxSubTopics, (client.subHandles.get i).topicFilter = none := by
                by_contra full
                exact Option.some_ne_none _
                  (added.symm.trans ((addSubHandle_eq_none_iff entryFilter).mpr full))
              rw [Option.getD_some, exists_addSubHandle_iff added entryFilter hasFilter, Stores,
                fillsIff]
              apply or_congr_right
              constructor
              · rintro ⟨rfl, notHeld⟩
                exact ⟨rfl, notHeld, room.resolve_left notHeld⟩
              · rintro ⟨rfl, notHeld, -⟩
                exact ⟨rfl, notHeld⟩

end Suback

/-! ## Serving a subscription -/

/-- A publication is read. -/
structure ReadsPublish (client : Client) (read : PacketRead) (message : Message) : Prop where
  success : read.ret = successRet
  isPublish : MessageTypes.ofHeader (read.packetType.getD 0) = some .publish
  parsed : deserializePublishPacket read.readBuf client.readBufSize = .ok message

/-- A name is on the topic of a filter: it is the filter, or the filter matches it
and the test of a slot gets that right. -/
def OnTopic (before : UInt8) (topicFilter name : CString) : Prop :=
  name = topicFilter ∨
    WellFormedFilter topicFilter ∧ TopicMatches topicFilter name ∧ ¬Misjudged before topicFilter name

/-- A subscription is served: a slot holds it as it was made; a message on its topic
that fits the copy of the topic is passed to its handler with its user data unless a
slot in front takes it; and a reconnection that subscribes again asks for its quality
of service. -/
structure Served (client : Client) (topicFilter : CString) (handler data : Nat) (qos : QoS) :
    Prop where
  slot : ∃ i : Fin maxSubTopics, client.subHandles.get i = ⟨some topicFilter, some handler, data, qos⟩
  delivers : ∀ (read : PacketRead) (env : Env) (message : Message),
    ReadsPublish client read message → 0 ∉ message.topic →
    message.topic.length < maxSizeOfCloudTopic →
    OnTopic env.stackBefore topicFilter message.topic →
    ∀ i : Fin maxSubTopics, client.subHandles.get i = ⟨some topicFilter, some handler, data, qos⟩ →
      (Output.delivered i handler data message ∈ (call client (.act (.cycle read env))).outputs ↔
        ¬∃ j : Fin maxSubTopics, j < i ∧ takes (fixTopic message.topic ++ env.stack)
          (fixTopicLen message.topic) env.stackBefore (client.subHandles.get j) = true)
  resubscribes : ∀ input : Call, input.IsReconnect →
    (call client input).client.isConnected = true → (call client input).ret = mqttReconnected →
    ∃ packetId, Output.wire (subscribePacket packetId topicFilter qos) ∈ (call client input).outputs

section Serve

variable {client : Client} {topicFilter : CString} {handler data : Nat} {qos : QoS}
  {i : Fin maxSubTopics}

/-- A name on the topic passes the test of a slot that holds the topic. -/
theorem topicPasses_of_onTopic {name : CString} {before : UInt8}
    (onTopic : OnTopic before topicFilter name) (noNul : 0 ∉ name) (after : List UInt8) :
    topicPasses topicFilter (name ++ 0 :: after) name.length before = true := by
  rcases onTopic with rfl | ⟨wellFormed, isMatch, judged⟩
  · exact topicPasses_self noNul before
  · exact ((topicPasses_iff wellFormed noNul after before).mpr judged).mpr isMatch

/-- A message on the topic of a slot is passed to its handler with its data exactly
when no slot in front takes it. -/
theorem cycle_delivers_iff
    (holds : client.subHandles.get i = ⟨some topicFilter, some handler, data, qos⟩)
    {read : PacketRead} {env : Env} {message : Message} (reads : ReadsPublish client read message)
    (noNul : 0 ∉ message.topic) (short : message.topic.length < maxSizeOfCloudTopic)
    (onTopic : OnTopic env.stackBefore topicFilter message.topic) :
    Output.delivered i handler data message ∈ (cycleForReadWith client read env).outputs ↔
      ¬∃ j : Fin maxSubTopics, j < i ∧ takes (fixTopic message.topic ++ env.stack)
        (fixTopicLen message.topic) env.stackBefore (client.subHandles.get j) = true := by
  obtain ⟨success, isPublish, parsed⟩ := reads
  let reading : Client := { client with readBuf := read.readBuf }
  have holds : reading.subHandles.get i = ⟨some topicFilter, some handler, data, qos⟩ := holds
  have isHandler : (reading.subHandles.get i).messageHandler = some handler :=
    congrArg SubTopicHandle.messageHandler holds
  have isData : (reading.subHandles.get i).messageHandlerData = data :=
    congrArg SubTopicHandle.messageHandlerData holds
  rw [cycleForReadWith_of_type env success isPublish]
  simp only [dispatch]
  rw [@delivered_mem_handlePublishPacket_iff reading env message parsed]
  obtain ⟨len, copy⟩ := fixTopic_of_short short
  rw [copy, len, List.append_assoc]
  have passes := topicPasses_of_onTopic onTopic noNul
    (List.replicate (maxSizeOfCloudTopic - 1 - message.topic.length) 0 ++ env.stack)
  have reached := delivered_mem_deliverMessage_iff reading (message.topic ++ 0 ::
    (List.replicate (maxSizeOfCloudTopic - 1 - message.topic.length) 0 ++ env.stack))
    message.topic.length message env.stackBefore i isHandler
  rw [List.take_left, isData] at reached
  refine reached.trans (and_iff_right ?_)
  simp only [takes, holds, passes, Option.isSome_some, Bool.and_true]

/-- The loop over the slots ends with success or with a code. -/
theorem resubscribeLoop_code (envs : Nat → Env) (client : Client) (slots : List (Fin maxSubTopics)) :
    (resubscribeLoop envs client slots).ret = successRet ∨
      (resubscribeLoop envs client slots).ret < 0 := by
  induction slots generalizing client with
  | nil => exact .inl rfl
  | cons itr slots inductionHypothesis =>
      simp only [resubscribeLoop]
      split
      · exact inductionHypothesis client
      · split
        · rename_i failed
          exact .inr failed
        · exact inductionHypothesis _

/-- An attempt that subscribes again asks for the quality of service of a slot. -/
theorem uiotMqttAttemptReconnect_resubscribes (valid : client.waiting.Valid) (sound : client.Sound)
    (holds : client.subHandles.get i = ⟨some topicFilter, some handler, data, qos⟩)
    {world : ReconnectEnv}
    (connects : (uiotMqttAttemptReconnect client world).client.isConnected = true)
    (returned : (uiotMqttAttemptReconnect client world).ret = mqttReconnected) :
    ∃ packetId, Output.wire (subscribePacket packetId topicFilter qos) ∈
      (uiotMqttAttemptReconnect client world).outputs := by
  have already : mqttAlreadyConnected ≠ mqttReconnected := by decide
  have madeSound := ((uiotMqttConnect_steps client client.options world.connect).sound valid sound).2
  have kept := uiotMqttConnect_keepsSlots client client.options world.connect i
    (holds ▸ Option.some_ne_none topicFilter)
  rw [holds] at kept
  unfold uiotMqttAttemptReconnect at connects returned ⊢
  split at returned
  · exact absurd returned already
  rename_i disconnected
  rw [if_neg disconnected] at connects ⊢
  simp only at connects returned ⊢
  split at connects
  · rename_i failed
    exact absurd connects failed
  rename_i made
  rw [if_neg made] at returned ⊢
  have succeeds : (uiotMqttResubscribe (uiotMqttConnect client client.options world.connect).client
      world.subscribe).ret = successRet := by
    by_contra failed
    rw [if_pos failed] at returned
    rw [uiotMqttResubscribe, if_neg (by simpa using made)] at failed returned
    have negative := (resubscribeLoop_code _ _ _).resolve_left failed
    rw [returned] at negative
    exact absurd negative (by decide)
  rw [if_neg (not_not.mpr succeeds)]
  obtain ⟨packetId, isSent⟩ := ((uiotMqttResubscribe_success_iff (not_not.mp made) madeSound).2
    succeeds).sent i (List.mem_finRange i) topicFilter (by rw [kept])
  rw [kept] at isSent
  exact ⟨packetId, List.mem_append_right _ isSent⟩

/-- A slot that holds a subscription serves it. -/
theorem served_of_slot (valid : client.waiting.Valid) (sound : client.Sound)
    (holds : client.subHandles.get i = ⟨some topicFilter, some handler, data, qos⟩) :
    Served client topicFilter handler data qos where
  slot := ⟨i, holds⟩
  delivers _ _ _ reads noNul short onTopic _ isSlot :=
    cycle_delivers_iff isSlot reads noNul short onTopic
  resubscribes input reconnects connects returned := by
    cases input with
    | act input => exact reconnects.elim
    | attemptReconnect world =>
        exact uiotMqttAttemptReconnect_resubscribes valid sound holds connects returned
    | handleReconnect world =>
        have early : errMqttAttemptingReconnect ≠ mqttReconnected := by decide
        simp only [call, handleReconnect] at connects returned ⊢
        split at returned
        · exact absurd returned early
        rename_i expired
        rw [if_neg expired] at connects ⊢
        split at returned
        · rename_i attempted
          rw [if_pos attempted] at connects ⊢
          obtain ⟨packetId, isSent⟩ :=
            uiotMqttAttemptReconnect_resubscribes valid sound holds connects attempted
          exact ⟨packetId, List.mem_append_left _ isSent⟩
        · have backedOff : ∀ client, (backOff client world.env).ret ≠ mqttReconnected := by
            intro client
            have codes : errMqttReconnectTimeout ≠ mqttReconnected := by decide
            simp only [backOff]
            split
            · exact codes
            · exact early
          exact absurd returned (backedOff _)

end Serve

/-- In every run in which a subscription is accepted and a SUBACK with its id grants
it, the subscription is served from then on, through every later run without an
unsubscription that clears its topic, exactly when that SUBACK stores its handle. -/
theorem subscription_served_iff (params : InitParams) (before middle : List Call)
    (topicFilter : CString) (subscribeParams : SubscribeParams) (env env' : Env) (handler : Nat)
    (packetId : UInt16) (read : PacketRead)
    (isHandler : subscribeParams.onMessageHandler = some handler)
    (accepted : (uiotMqttSubscribe (run callStep (uiotMqttInit params) before).1 topicFilter
      subscribeParams env).ret = packetId.toNat)
    (grants : Grants (run callStep (uiotMqttInit params) (before ++
      .act (.subscribe topicFilter subscribeParams env) :: middle)).1.readBufSize read packetId) :
    let subscriber := (run callStep (uiotMqttInit params) before).1
    let acked := (run callStep (uiotMqttInit params) (before ++
      .act (.subscribe topicFilter subscribeParams env) :: middle)).1
    let data := subscribeParams.userData
    let qos := subscribeParams.qos
    (∀ after : List Call, (∀ input ∈ after, input.Spares topicFilter) →
        Served (run callStep (call acked (.act (.cycle read env'))).client after).1 topicFilter handler
          data qos) ↔
      Stores acked packetId (subscriber.issued + 1) ⟨some topicFilter, some handler, data, qos⟩
        env' := by
  intro subscriber acked data qos
  obtain ⟨valid, sound⟩ := run_sound (uiotMqttInit_valid params) (uiotMqttInit_sound params) before
  have ackedInv := run_sound (uiotMqttInit_valid params) (uiotMqttInit_sound params)
    (before ++ .act (.subscribe topicFilter subscribeParams env) :: middle)
  have enters : Enters (subscriber.issued + 1) ⟨some topicFilter, some handler, data, qos⟩ acked := by
    have entered := uiotMqttSubscribe_enters valid (accepted.symm ▸ Int.natCast_nonneg _)
    rw [isHandler] at entered
    have subscribed := Steps.one subscriber (.subscribe topicFilter subscribeParams env)
    obtain ⟨valid', sound'⟩ := subscribed.sound valid sound
    have later := run_enters valid' sound' entered middle
    have isRun : acked = (run callStep (uiotMqttSubscribe subscriber topicFilter subscribeParams
        env).client middle).1 := run_append_fst _ _ _ _
    rw [isRun]
    exact later
  have storesIff := @exists_granted_iff acked read packetId env' grants _ _ enters
    (Option.some_ne_none topicFilter)
  rw [← storesIff]
  constructor
  · intro served
    exact (served [] fun input among => nomatch among).slot
  · rintro ⟨i, holds⟩ after spares
    obtain ⟨valid', sound'⟩ := (call_steps acked (.act (.cycle read env'))).sound ackedInv.1 ackedInv.2
    have isTopic := congrArg SubTopicHandle.topicFilter holds
    have kept := run_keepsSlot valid' sound' isTopic spares
    obtain ⟨validAfter, soundAfter⟩ := run_sound valid' sound' after
    exact served_of_slot validAfter soundAfter (kept.trans holds)

/-- A subscription to `a` with an empty table, and the loss of the connection. -/
theorem subscription_served_empty_table :
    let acked := (run callStep (uiotMqttInit ⟨2000, true⟩) (connectActs.map .act ++
      [.act subscribeAct])).1
    Served (run callStep (call acked (.act (.cycle (received [0x90, 3, 0, 2, 1]) (calm 0)))).client
      [.act (.handleDisconnect (calm 2))]).1 [0x61] 7 0 .qos1 := by
  refine (subscription_served_iff ⟨2000, true⟩ (connectActs.map .act) [] [0x61] ⟨.qos1, some 7, 0⟩
    (calm 8) (calm 0) 7 2 (received [0x90, 3, 0, 2, 1]) rfl (by decide +kernel)
    ⟨rfl, rfl, [1], by decide +kernel, by decide⟩).mpr (.inr ?_)
    [.act (.handleDisconnect (calm 2))] (by decide)
  have entered : (subEntryOf (run callStep (uiotMqttInit ⟨2000, true⟩) (connectActs.map .act ++
      [.act subscribeAct])).1 2).map SubInfo.handler = some ⟨some [0x61], some 7, 0, .qos1⟩ := by
    decide +kernel
  obtain ⟨entry, found, same⟩ := Option.map_eq_some_iff.mp entered
  exact ⟨rfl, ⟨entry, found, .inr same⟩, by decide +kernel, ⟨0, by decide +kernel⟩⟩

/-- A component has subscribed to `a`, and is destroyed. -/
def leftBehind : List Call :=
  (connectActs ++ [subscribeAct, subackAct 2]).map .act

/-- The component is created again, and subscribes again with user data of its own
and quality of service 0. -/
def createdAgain : List Call :=
  leftBehind ++ [.act (.subscribe [0x61] ⟨.qos0, some 7, 9⟩ (calm 8)), .act (subackAct 3)]

/-- The second subscription is accepted, granted and reported, but the slot of the
first one stays: a message goes to the handler with the user data of the component
that is destroyed, and its quality of service is subscribed again. -/
theorem subscription_left_behind :
    let subscriber := (run callStep (uiotMqttInit ⟨2000, true⟩) leftBehind).1
    let served := (run callStep (uiotMqttInit ⟨2000, true⟩) createdAgain).1
    let lost := (run callStep served [.act (.handleDisconnect (calm 2))]).1
    (uiotMqttSubscribe subscriber [0x61] ⟨.qos0, some 7, 9⟩ (calm 8)).ret = 3 ∧
      (run callStep (uiotMqttInit ⟨2000, true⟩) createdAgain).2.getLast? =
        some [.event .subscribeSuccess 3] ∧
      (call served (.act (.cycle (received (shortPublish [0x61])) (calm 0)))).outputs =
        [.delivered 0 7 0 ⟨0, 0, 0, none, [0x61], []⟩] ∧
      (call lost (.attemptReconnect (reconnecting 8))).outputs.getLast? =
        some (.wire (subscribePacket 4 [0x61] .qos1)) ∧
      ¬Served served [0x61] 7 9 .qos0 ∧ ¬Served lost [0x61] 7 9 .qos0 := by
  intro subscriber served lost
  have noSlot : (¬∃ i : Fin maxSubTopics, served.subHandles.get i = ⟨some [0x61], some 7, 9, .qos0⟩) ∧
      ¬∃ i : Fin maxSubTopics, lost.subHandles.get i = ⟨some [0x61], some 7, 9, .qos0⟩ := by
    decide +kernel
  refine ⟨by decide +kernel, by decide +kernel, by decide +kernel, by decide +kernel, ?_, ?_⟩
  · intro serves
    exact noSlot.1 serves.slot
  · intro serves
    exact noSlot.2 serves.slot

end UIoT.Mqtt
