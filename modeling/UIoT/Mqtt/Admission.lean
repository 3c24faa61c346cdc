import UIoT.Mqtt.Codes
import UIoT.Mqtt.Machine

/-!
# What a request leaves

A publication or a subscription that returns a code has left the wait lists and
the subscription table alone, and one that returns an id has appended its entry.
The lists are bounded, since an entry is only appended where there is room
(`requests_accounted`).
-/

set_option autoImplicit false

namespace UIoT.Mqtt

open Tickets Runs

/-! ## Room -/

/-- The entries that a request may find in the wait lists. -/
structure Waiting.Bounded (waiting : Waiting) : Prop where
  pub : waiting.pub.length ≤ maxRepubNum
  sub : waiting.sub.length ≤ maxSubTopics

section Room

variable {client : Client} {env : Env}

/-- An entry is pushed where there is room, or a code is returned. -/
theorem maskPushPubInfoTo_pushes (client : Client) (len : Nat) (msgId : UInt16) (env : Env)
    (alloc : Nat) :
    (maskPushPubInfoTo client len msgId env alloc).1 < 0 ∨
      client.listPubWaitAck.length < maxRepubNum ∧
        ∃ entry, maskPushPubInfoTo client len msgId env alloc =
          (successRet, { client with listPubWaitAck := client.listPubWaitAck ++ [entry] }) := by
  rcases maskPushPubInfoTo_ends client len msgId env alloc with refused | ⟨room, timer, pushed⟩
  · rw [refused]
    exact .inl (show failureRet < 0 by decide)
  · exact .inr ⟨room, _, pushed⟩

theorem pushSubInfoTo_pushes (client : Client) (msgId : UInt16) (type : MessageTypes)
    (handler : SubTopicHandle) (env : Env) (alloc : Nat) :
    (pushSubInfoTo client msgId type handler env alloc).1 < 0 ∨
      client.listSubWaitAck.length < maxSubTopics ∧
        ∃ entry, pushSubInfoTo client msgId type handler env alloc =
          (successRet, { client with listSubWaitAck := client.listSubWaitAck ++ [entry] }) := by
  rcases pushSubInfoTo_ends client msgId type handler env alloc with
    ⟨ret, isCode, refused⟩ | ⟨room, timer, pushed⟩
  · rw [refused]
    rcases isCode with rfl | rfl
    · exact .inl (show errMqttMaxSubscriptionsReached < 0 by decide)
    · exact .inl (show failureRet < 0 by decide)
  · exact .inr ⟨room, _, pushed⟩

/-- A publication that returns no code has found room, and has appended an
entry. -/
theorem uiotMqttPublish_grows {topicName : CString} {params : PublishParams}
    (quality : params.qos = .qos1)
    (returned : 0 ≤ (uiotMqttPublish client topicName params env).ret) :
    client.listPubWaitAck.length < maxRepubNum ∧
      (uiotMqttPublish client topicName params env).client.listPubWaitAck.length =
        client.listPubWaitAck.length + 1 := by
  have notQos2 : ¬QoS.qos1 = .qos2 := by decide
  have notQos0 : QoS.qos1 ≠ .qos0 := by decide
  unfold uiotMqttPublish at returned ⊢
  simp only [quality, if_neg notQos2, if_pos notQos0, if_true] at returned ⊢
  split at returned
  · exact absurd returned (show ¬0 ≤ errParamInvalid by decide)
  rename_i nonempty
  rw [if_neg nonempty]
  split at returned
  · exact absurd returned (show ¬0 ≤ errMaxTopicLength by decide)
  rename_i short
  rw [if_neg short]
  split at returned
  · exact absurd returned (show ¬0 ≤ errMqttNoConn by decide)
  rename_i connected
  rw [if_neg connected]
  split at returned
  · rename_i failed
    exact absurd returned
      (Int.not_le.mpr (serializePublishPacket_fails _ _ _ _ _ _ _ _ failed).neg)
  rename_i packet serialized
  rcases maskPushPubInfoTo_pushes ((getNextPacketId client).2.store packet) packet.length
      (getNextPacketId client).1 env 0 with negative | ⟨room, entry, pushed⟩
  · simp only [if_pos (Int.ne_of_lt negative)] at returned
    exact absurd returned (Int.not_le.mpr negative)
  · simp only [pushed, ne_eq, not_true_eq_false, if_false] at returned ⊢
    refine ⟨room, ?_⟩
    split at returned
    · rename_i notSent
      exact absurd returned
        (Int.not_le.mpr ((sendMqttPacket_code _ _ _).resolve_left notSent).neg)
    · rename_i sent
      rw [if_neg sent]
      exact List.length_append

/-- A request that has its packet finds room and appends an entry, or returns a
code. -/
theorem sendSubRequest_grows {packet : List UInt8} {packetId : UInt16} {type : MessageTypes}
    {handler : SubTopicHandle}
    (returned : 0 ≤ (sendSubRequest client packet packetId type handler env).ret) :
    client.listSubWaitAck.length < maxSubTopics ∧
      (sendSubRequest client packet packetId type handler env).client.listSubWaitAck.length =
        client.listSubWaitAck.length + 1 := by
  unfold sendSubRequest at returned ⊢
  rcases pushSubInfoTo_pushes (client.store packet) packetId type handler env 1 with
    negative | ⟨room, entry, pushed⟩
  · simp only [if_pos (Int.ne_of_lt negative)] at returned
    exact absurd returned (Int.not_le.mpr negative)
  · simp only [pushed, ne_eq, not_true_eq_false, if_false] at returned ⊢
    refine ⟨room, ?_⟩
    split at returned
    · rename_i notSent
      exact absurd returned
        (Int.not_le.mpr ((sendMqttPacket_code _ _ _).resolve_left notSent).neg)
    · rename_i sent
      rw [if_neg sent]
      exact List.length_append

theorem uiotMqttSubscribe_grows {topicFilter : CString} {params : SubscribeParams}
    (returned : 0 ≤ (uiotMqttSubscribe client topicFilter params env).ret) :
    client.listSubWaitAck.length < maxSubTopics ∧
      (uiotMqttSubscribe client topicFilter params env).client.listSubWaitAck.length =
        client.listSubWaitAck.length + 1 := by
  unfold uiotMqttSubscribe at returned ⊢
  split at returned
  · exact absurd returned (show ¬0 ≤ errParamInvalid by decide)
  rename_i nonempty
  rw [if_neg nonempty]
  split at returned
  · exact absurd returned (show ¬0 ≤ errMaxTopicLength by decide)
  rename_i short
  rw [if_neg short]
  split at returned
  · exact absurd returned (show ¬0 ≤ errMqttQosNotSupport by decide)
  rename_i quality
  rw [if_neg quality]
  split at returned
  · exact absurd returned (show ¬0 ≤ errMqttNoConn by decide)
  rename_i connected
  rw [if_neg connected]
  split at returned
  · exact absurd returned (show ¬0 ≤ failureRet by decide)
  rename_i allocated
  rw [if_neg allocated]
  simp only at returned ⊢
  split at returned
  · rename_i failed
    exact absurd returned
      (Int.not_le.mpr (serializeSubscribePacket_fails _ _ _ _ _ _ _ _ failed).neg)
  · rename_i packet serialized
    exact sendSubRequest_grows returned

theorem uiotMqttUnsubscribe_grows {topicFilter : CString}
    (returned : 0 ≤ (uiotMqttUnsubscribe client topicFilter env).ret) :
    client.listSubWaitAck.length < maxSubTopics ∧
      (uiotMqttUnsubscribe client topicFilter env).client.listSubWaitAck.length =
        client.listSubWaitAck.length + 1 := by
  unfold uiotMqttUnsubscribe at returned ⊢
  split at returned
  · exact absurd returned (show ¬0 ≤ errParamInvalid by decide)
  rename_i nonempty
  rw [if_neg nonempty]
  split at returned
  · exact absurd returned (show ¬0 ≤ errMaxTopicLength by decide)
  rename_i short
  rw [if_neg short]
  simp only at returned ⊢
  split at returned
  · exact absurd returned (show ¬0 ≤ errMqttUnsubFailed by decide)
  rename_i held
  rw [if_neg held]
  split at returned
  · exact absurd returned (show ¬0 ≤ errMqttNoConn by decide)
  rename_i connected
  rw [if_neg connected]
  split at returned
  · exact absurd returned (show ¬0 ≤ failureRet by decide)
  rename_i allocated
  rw [if_neg allocated]
  split at returned
  · rename_i failed
    exact absurd returned
      (Int.not_le.mpr (serializeUnsubscribePacket_fails _ _ _ _ _ _ _ failed).neg)
  · exact sendSubRequest_grows returned

end Room

/-! ## Bounds along runs -/

section Bounds

variable {client : Client}

/-- Settled lists are no longer than they were. -/
theorem Waiting.Settles.bounded {before after : Waiting} (settles : before.Settles after)
    (bounded : before.Bounded) : after.Bounded := by
  have pub := settles.pub.issues_sublist.length_le
  have sub := settles.sub.issues_sublist.length_le
  simp only [Waiting.pubTickets, Waiting.subTickets, List.length_map] at pub sub
  exact ⟨pub.trans bounded.pub, sub.trans bounded.sub⟩

theorem Waiting.Bounded.of_eq {waiting : Waiting} (bounded : waiting.Bounded) {after : Waiting}
    (pub : after.pub = waiting.pub) (sub : after.sub = waiting.sub) : after.Bounded :=
  ⟨pub ▸ bounded.pub, sub ▸ bounded.sub⟩

/-- An accepted subscription or unsubscription has found room. -/
theorem Waiting.Bounded.enter {waiting after : Waiting} (bounded : waiting.Bounded) {entry : SubInfo}
    (pub : after.pub = waiting.pub) (sub : after.sub = waiting.sub ++ [entry])
    (room : waiting.sub.length < maxSubTopics) : after.Bounded := by
  refine ⟨pub ▸ bounded.pub, ?_⟩
  rw [sub, List.length_append]
  exact room

/-- Every act keeps the lists within their bounds. -/
theorem step_bounded (input : Act) (numbered : client.waiting.Numbered)
    (bounded : client.waiting.Bounded) : (step client input).1.waiting.Bounded := by
  have returned : ∀ {id : UInt16} {ret : Int}, ret = id.toNat → 0 ≤ ret := by
    rintro id _ rfl
    exact Int.natCast_nonneg _
  cases input with
  | publish topicName params env =>
      obtain ⟨-, outcome⟩ := uiotMqttPublish_outcome topicName params env numbered.pub
      simp only [step, act]
      cases outcome with
      | untouched buf same => exact bounded.of_eq (by rw [same]; rfl) (by rw [same]; rfl)
      | failed buf took => exact bounded.of_eq (by rw [took]; rfl) (by rw [took]; rfl)
      | accepted id after =>
          obtain ⟨quality, buf, timer, same⟩ := after
          obtain ⟨room, grown⟩ := uiotMqttPublish_grows quality (returned id)
          exact ⟨Nat.le_trans (Nat.le_of_eq grown) room, by rw [same]; exact bounded.sub⟩
  | subscribe topicFilter params env =>
      obtain ⟨-, outcome⟩ := uiotMqttSubscribe_outcome topicFilter params env numbered.sub
      simp only [step, act]
      cases outcome with
      | untouched buf same => exact bounded.of_eq (by rw [same]; rfl) (by rw [same]; rfl)
      | failed buf took => exact bounded.of_eq (by rw [took]; rfl) (by rw [took]; rfl)
      | accepted id after =>
          obtain ⟨-, buf, timer, same⟩ := after
          obtain ⟨room, -⟩ := uiotMqttSubscribe_grows (returned id)
          exact bounded.enter (by rw [same]; rfl) (by rw [same]; rfl) room
  | unsubscribe topicFilter env =>
      obtain ⟨-, same | outcome⟩ := uiotMqttUnsubscribe_outcome topicFilter env numbered.sub
      · simp only [step, act, same]
        exact bounded
      · simp only [step, act]
        cases outcome with
        | untouched buf same => exact bounded.of_eq (by rw [same]; rfl) (by rw [same]; rfl)
        | failed buf took => exact bounded.of_eq (by rw [took]; rfl) (by rw [took]; rfl)
        | accepted id after =>
            obtain ⟨-, buf, timer, same⟩ := after
            obtain ⟨room, -⟩ := uiotMqttUnsubscribe_grows (returned id)
            exact bounded.enter (by rw [same]; rfl) (by rw [same]; rfl) room
  | _ => exact (step_settles _ id).bounded bounded

/-- The lists are within their bounds in every state that a run reaches. -/
theorem run_bounded (params : InitParams) (inputs : List Act) :
    (run step (uiotMqttInit params) inputs).1.waiting.Bounded := by
  have start : (uiotMqttInit params).waiting.Valid ∧ (uiotMqttInit params).waiting.Bounded :=
    ⟨uiotMqttInit_valid params, Nat.zero_le _, Nat.zero_le _⟩
  exact ((along_true step (uiotMqttInit params) inputs).invariant
    (fun client => client.waiting.Valid ∧ client.waiting.Bounded) start fun _ input inv _ =>
      ⟨(step_moves input inv.1.numbered).valid inv.1,
        step_bounded input inv.1.numbered inv.2⟩).2.2

end Bounds

/-! ## Requests and what they leave -/

/-- Both wait lists and the subscription table are as they were. -/
structure Untouched (client after : Client) : Prop where
  pub : after.listPubWaitAck = client.listPubWaitAck
  sub : after.listSubWaitAck = client.listSubWaitAck
  subHandles : after.subHandles = client.subHandles

/-- What a publication leaves. -/
structure PublishAccounted (client : Client) (params : PublishParams) (result : Result) : Prop where
  refused : result.ret < 0 → Untouched client result.client
  unacknowledged : params.qos = .qos0 → Untouched client result.client
  acknowledged : params.qos = .qos1 → 0 ≤ result.ret →
    ∃ entry : PubInfo, entry.nodeState = .normal ∧ (entry.msgId.toNat : Int) = result.ret ∧
      result.client.listPubWaitAck = client.listPubWaitAck ++ [entry] ∧
      result.client.listSubWaitAck = client.listSubWaitAck ∧
      result.client.subHandles = client.subHandles

/-- What a subscription leaves. -/
structure SubscribeAccounted (client : Client) (result : Result) : Prop where
  refused : result.ret < 0 → Untouched client result.client
  acknowledged : 0 ≤ result.ret →
    ∃ entry : SubInfo, entry.nodeState = .normal ∧ (entry.msgId.toNat : Int) = result.ret ∧
      result.client.listSubWaitAck = client.listSubWaitAck ++ [entry] ∧
      result.client.listPubWaitAck = client.listPubWaitAck ∧
      result.client.subHandles = client.subHandles

section Accounted

variable {client : Client}

theorem uiotMqttPublish_accounted (topicName : CString) (params : PublishParams) (env : Env)
    (numbered : client.waiting.Numbered) :
    PublishAccounted client params (uiotMqttPublish client topicName params env) := by
  obtain ⟨-, outcome⟩ := uiotMqttPublish_outcome topicName params env numbered.pub
  have grows := fun quality returned => (@uiotMqttPublish_grows client env topicName params
    quality returned).2
  cases outcome with
  | untouched buf same =>
      have stays : Untouched client (uiotMqttPublish client topicName params env).client := by
        rw [same]
        exact ⟨rfl, rfl, rfl⟩
      refine ⟨fun _ => stays, fun _ => stays, fun quality returned => ?_⟩
      have grown := grows quality returned
      rw [stays.pub] at grown
      omega
  | failed buf took =>
      have stays : Untouched client (uiotMqttPublish client topicName params env).client := by
        rw [took]
        exact ⟨rfl, rfl, rfl⟩
      refine ⟨fun _ => stays, fun _ => stays, fun quality returned => ?_⟩
      have grown := grows quality returned
      rw [stays.pub] at grown
      omega
  | accepted id after =>
      obtain ⟨quality, buf, timer, same⟩ := after
      refine ⟨fun negative => ?_, fun isQos0 => ?_, fun _ _ => ?_⟩
      · rw [id] at negative
        exact absurd negative (Int.not_lt.mpr (Int.natCast_nonneg _))
      · rw [quality] at isQos0
        cases isQos0
      · refine ⟨pubEntry client timer, rfl, id.symm, ?_, ?_, ?_⟩ <;> rw [same] <;> rfl

theorem uiotMqttSubscribe_accounted (topicFilter : CString) (params : SubscribeParams) (env : Env)
    (numbered : client.waiting.Numbered) :
    SubscribeAccounted client (uiotMqttSubscribe client topicFilter params env) := by
  obtain ⟨-, outcome⟩ := uiotMqttSubscribe_outcome topicFilter params env numbered.sub
  have grows := fun returned => (@uiotMqttSubscribe_grows client env topicFilter params returned).2
  cases outcome with
  | untouched buf same =>
      have stays : Untouched client (uiotMqttSubscribe client topicFilter params env).client := by
        rw [same]
        exact ⟨rfl, rfl, rfl⟩
      refine ⟨fun _ => stays, fun returned => ?_⟩
      have grown := grows returned
      rw [stays.sub] at grown
      omega
  | failed buf took =>
      have stays : Untouched client (uiotMqttSubscribe client topicFilter params env).client := by
        rw [took]
        exact ⟨rfl, rfl, rfl⟩
      refine ⟨fun _ => stays, fun returned => ?_⟩
      have grown := grows returned
      rw [stays.sub] at grown
      omega
  | accepted id after =>
      obtain ⟨-, buf, timer, same⟩ := after
      refine ⟨fun negative => ?_, fun _ => ?_⟩
      · rw [id] at negative
        exact absurd negative (Int.not_lt.mpr (Int.natCast_nonneg _))
      · refine ⟨subEntry client .subscribe timer
          ⟨some topicFilter, params.onMessageHandler, params.userData, params.qos⟩, rfl, id.symm,
          ?_, ?_, ?_⟩ <;> rw [same] <;> rfl

end Accounted

/-- In every state that a run reaches, a publication or subscription that returns
a code leaves the lists and the table alone, one that returns an id has appended
its entry at the tail, and the lists are within their bounds. -/
theorem requests_accounted (params : InitParams) (inputs : List Act) :
    let client := (run step (uiotMqttInit params) inputs).1
    (∀ topicName publishParams env, PublishAccounted client publishParams
        (uiotMqttPublish client topicName publishParams env)) ∧
      (∀ topicFilter subscribeParams env, SubscribeAccounted client
        (uiotMqttSubscribe client topicFilter subscribeParams env)) ∧
      client.listPubWaitAck.length ≤ maxRepubNum ∧ client.listSubWaitAck.length ≤ maxSubTopics := by
  intro client
  have numbered := (run_valid params inputs).numbered
  have bounded := run_bounded params inputs
  exact ⟨fun topicName publishParams env =>
      uiotMqttPublish_accounted topicName publishParams env numbered,
    fun topicFilter subscribeParams env =>
      uiotMqttSubscribe_accounted topicFilter subscribeParams env numbered,
    bounded.pub, bounded.sub⟩

end UIoT.Mqtt
