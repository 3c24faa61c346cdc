import UIoT.Mqtt.AckEvents
import UIoT.Mqtt.PacketIds

/-!
# How subscriptions end

A SUBACK or UNSUBACK ends the request that waits under its id. In every run in
which the entry found under the id is pending and of the type of the
acknowledgement, nothing else happens: slots, entries and events change only for
such an entry, and no entry is ended twice (`subscription_ends_once`). The
client does not look at state and type: an UNSUBACK ends a subscription
(`unsuback_ends_subscription`).
-/

set_option autoImplicit false

namespace UIoT.Mqtt

open Tickets Runs

/-! ## The ends of requests -/

/-- The pending requests that a sweep removes. -/
def timedOutSubs (client : Client) (env : Env) : List SubInfo :=
  let left := (uiotMqttSubInfoProc client env).client.listSubWaitAck.map SubInfo.issue
  client.listSubWaitAck.filter fun entry => entry.nodeState = .normal ∧ entry.issue ∉ left

/-- The entries that an acknowledgement ends: the one whose handle it uses, and
the pending ones that it marks. -/
def ackedSubs (client : Client) (packetId : UInt16) (env : Env) : List SubInfo :=
  if env.malloc 0 then
    client.listSubWaitAck.filter fun entry =>
      entry.msgId = packetId ∧ (entry.nodeState = .normal ∨ subEntryOf client packetId = some entry)
  else []

/-- The numbers of the requests that an act ends. -/
def subscriptionEnds (client : Client) : Act → List Nat
  | .cycle read env =>
      match ackIn client.readBufSize read with
      | some (.subscribe, packetId) | some (.unsubscribe, packetId) =>
          (ackedSubs client packetId env).map SubInfo.issue
      | _ => []
  | .subInfoProc env => (timedOutSubs client env).map SubInfo.issue
  | _ => []

/-- An acknowledgement finds a pending request of its type under its id; a
SUBACK may find none. -/
def subackAnswers (client : Client) : Act → Bool
  | .cycle read env =>
      match ackIn client.readBufSize read with
      | some (.subscribe, packetId) =>
          !env.malloc 0 || (subEntryOf client packetId).all fun entry =>
            entry.nodeState = .normal ∧ entry.type = .subscribe
      | some (.unsubscribe, packetId) =>
          env.malloc 0 && (subEntryOf client packetId).any fun entry =>
            entry.nodeState = .normal ∧ entry.type = .unsubscribe
      | _ => true
  | _ => true

/-! ## One acknowledgement -/

section Step

variable {client : Client}

theorem mem_subEntryOf {packetId : UInt16} {entry : SubInfo}
    (found : subEntryOf client packetId = some entry) :
    entry ∈ client.listSubWaitAck ∧ entry.msgId = packetId := by
  have holds := List.find?_some found
  simp only [decide_eq_true_eq] at holds
  exact ⟨List.mem_of_find?_eq_some found, holds⟩

theorem Waiting.Valid.sub_apart (valid : client.waiting.Valid) :
    (client.listSubWaitAck.map SubInfo.issue).Nodup := by
  have apart := valid.desk.apart
  rw [Waiting.desk, List.map_append, List.nodup_append, Waiting.subTickets, List.map_map] at apart
  exact apart.2.1

/-- Marking finds the first entry, and leaves the list alone without one. -/
theorem maskSubInfoFrom_of_malloc {packetId : UInt16} {env : Env} (walks : env.malloc 0 = true) :
    (maskSubInfoFrom client packetId env 0).1 = (subEntryOf client packetId).map SubInfo.handler ∧
      (maskSubInfoFrom client packetId env 0).2.listSubWaitAck =
        client.listSubWaitAck.map (SubInfo.mask packetId) := by
  unfold maskSubInfoFrom subEntryOf
  split
  · exact ⟨rfl, rfl⟩
  · rename_i stays
    have empty : client.listSubWaitAck = [] := by
      by_contra nonempty
      exact stays ⟨fun none => nonempty (List.length_eq_zero_iff.mp none), walks⟩
    rw [empty]
    exact ⟨rfl, rfl⟩

theorem maskSubInfoFrom_of_not_malloc {packetId : UInt16} {env : Env}
    (fails : env.malloc 0 = false) : maskSubInfoFrom client packetId env 0 = (none, client) := by
  rw [maskSubInfoFrom, if_neg (by simp [fails])]

theorem map_mask_of_subEntryOf_none {packetId : UInt16} (none : subEntryOf client packetId = none) :
    client.listSubWaitAck.map (SubInfo.mask packetId) = client.listSubWaitAck := by
  refine (List.map_congr_left fun entry among => ?_).trans (List.map_id _)
  have other : entry.msgId ≠ packetId := by simpa using List.find?_eq_none.mp none entry among
  exact if_neg other

/-- What an acknowledgement of a subscription or unsubscription does: nothing,
or it ends the pending request of its type under its id. -/
inductive AckOutcome (client : Client) (type : MessageTypes) (packetId : UInt16) (env : Env)
    (result : Result) : Prop where
  | nothing (list : result.client.listSubWaitAck = client.listSubWaitAck)
      (slots : result.client.subHandles = client.subHandles) (silent : result.outputs = [])
      (ends : ackedSubs client packetId env = [])
  | answered (entry : SubInfo) (found : subEntryOf client packetId = some entry)
      (normal : entry.nodeState = .normal) (isType : entry.type = type)
      (walks : env.malloc 0 = true)
      (marked : result.client.listSubWaitAck = client.listSubWaitAck.map (SubInfo.mask packetId))
      (events : ∀ output ∈ result.outputs, ∃ event, output = .event event packetId)

theorem raise_event (client : Client) (type : EventType) (packetId : UInt16) :
    ∀ output ∈ client.raise type packetId, ∃ event, output = .event event packetId := by
  intro output raised
  rw [Client.raise] at raised
  split at raised
  · exact ⟨type, List.mem_singleton.mp raised⟩
  · cases raised

theorem cycle_of_subAck {read : PacketRead} {env : Env} {type : MessageTypes} {packetId : UInt16}
    (ack : ackIn client.readBufSize read = some (type, packetId)) (notPublish : type ≠ .publish)
    (answers : subackAnswers client (.cycle read env) = true) :
    AckOutcome client type packetId env (cycleForReadWith client read env) := by
  rcases ackIn_type ack with rfl | rfl | rfl
  · exact absurd rfl notPublish
  · obtain ⟨waiting, quiet, -, outputs⟩ := cycle_of_suback env ack
    have list := congrArg Waiting.sub waiting
    simp only [Client.waiting] at list
    simp only [subackAnswers, ack] at answers
    cases walks : env.malloc 0 with
    | false =>
        rw [maskSubInfoFrom_of_not_malloc walks] at quiet list
        obtain ⟨slots, silent⟩ := quiet rfl
        refine .nothing list slots silent ?_
        rw [ackedSubs, if_neg (by simp [walks])]
    | true =>
        obtain ⟨handle, marked⟩ := @maskSubInfoFrom_of_malloc client packetId env walks
        cases found : subEntryOf client packetId with
        | none =>
            obtain ⟨slots, silent⟩ := quiet (by rw [handle, found]; rfl)
            refine .nothing (by rw [list, marked, map_mask_of_subEntryOf_none found]) slots silent ?_
            rw [ackedSubs, if_pos walks]
            refine List.filter_eq_nil_iff.mpr fun entry among => ?_
            have other := List.find?_eq_none.mp found entry among
            simp only [decide_eq_true_eq] at other
            simp [other]
        | some entry =>
            simp only [found, walks, Bool.not_true, Bool.false_or, Option.all_some,
              decide_eq_true_eq] at answers
            refine .answered entry found answers.1 answers.2 walks (list.trans marked) ?_
            rcases outputs with outputs | outputs | outputs <;> rw [outputs]
            · intro output among
              cases among
            · exact raise_event client _ packetId
            · exact raise_event client _ packetId
  · obtain ⟨waiting, -, outputs⟩ := cycle_of_unsuback env ack
    have list := congrArg Waiting.sub waiting
    simp only [Client.waiting] at list
    simp only [subackAnswers, ack, Bool.and_eq_true, Option.any_eq_true, decide_eq_true_eq] at answers
    obtain ⟨walks, entry, found, normal, isType⟩ := answers
    obtain ⟨-, marked⟩ := @maskSubInfoFrom_of_malloc client packetId env walks
    refine .answered entry found normal isType walks (list.trans marked) ?_
    rw [outputs]
    exact raise_event client _ packetId

/-! ## One step -/

theorem mem_ackedSubs {packetId : UInt16} {env : Env} {entry : SubInfo} :
    entry ∈ ackedSubs client packetId env ↔
      env.malloc 0 = true ∧ entry ∈ client.listSubWaitAck ∧ entry.msgId = packetId ∧
        (entry.nodeState = .normal ∨ subEntryOf client packetId = some entry) := by
  rw [ackedSubs]
  split
  · rename_i walks
    simp [walks]
  · rename_i fails
    simp [fails]

/-- The acknowledgement behind an end. -/
theorem mem_subscriptionEnds_cycle {read : PacketRead} {env : Env} {issue : Nat} :
    issue ∈ subscriptionEnds client (.cycle read env) ↔
      ∃ type packetId, ackIn client.readBufSize read = some (type, packetId) ∧ type ≠ .publish ∧
        ∃ entry ∈ ackedSubs client packetId env, entry.issue = issue := by
  cases ack : ackIn client.readBufSize read with
  | none => simp [subscriptionEnds, ack]
  | some found =>
      obtain ⟨type, packetId⟩ := found
      rcases ackIn_type ack with rfl | rfl | rfl <;> simp [subscriptionEnds, ack]

/-- An end is of a pending request, which is not pending any more. -/
theorem subscriptionEnds_pending (valid : client.waiting.Valid) (input : Act)
    (answers : subackAnswers client input = true) {issue : Nat}
    (ends : issue ∈ subscriptionEnds client input) :
    issue ∈ pendingSub client ∧ issue ∉ pendingSub (step client input).1 := by
  cases input with
  | cycle read env =>
      obtain ⟨type, packetId, ack, notPublish, entry, acked, rfl⟩ :=
        mem_subscriptionEnds_cycle.mp ends
      cases cycle_of_subAck ack notPublish answers with
      | nothing list slots silent none =>
          rw [none] at acked
          cases acked
      | answered first found normal isType walks marked events =>
          obtain ⟨-, among, hasId, state⟩ := mem_ackedSubs.mp acked
          have pending : entry.nodeState = .normal := by
            rcases state with pending | isFirst
            · exact pending
            · rw [found] at isFirst
              exact Option.some.inj isFirst ▸ normal
          refine ⟨mem_pendingSub.mpr ⟨entry, among, pending, rfl⟩, fun again => ?_⟩
          obtain ⟨other, isOther, otherNormal, sameIssue⟩ := mem_pendingSub.mp again
          have marked : (step client (.cycle read env)).1.listSubWaitAck =
              client.listSubWaitAck.map (SubInfo.mask packetId) := marked
          rw [marked] at isOther
          obtain ⟨old, was, rfl⟩ := List.mem_map.mp isOther
          have keepsIssue : (old.mask packetId).issue = old.issue := by
            rw [SubInfo.mask]
            split <;> rfl
          obtain rfl := List.inj_on_of_nodup_map valid.sub_apart was among
            (keepsIssue.symm.trans sameIssue)
          rw [SubInfo.mask, if_pos hasId] at otherNormal
          cases otherNormal
  | subInfoProc env =>
      obtain ⟨entry, timedOut, rfl⟩ := List.mem_map.mp ends
      obtain ⟨among, state⟩ := List.mem_filter.mp timedOut
      obtain ⟨normal, gone⟩ := of_decide_eq_true state
      refine ⟨mem_pendingSub.mpr ⟨entry, among, normal, rfl⟩, fun again => ?_⟩
      obtain ⟨other, isOther, -, sameIssue⟩ := mem_pendingSub.mp again
      exact gone (sameIssue ▸ List.mem_map_of_mem isOther)
  | _ => cases ends

/-- A step ends a request once. -/
theorem subscriptionEnds_once (valid : client.waiting.Valid) (input : Act) :
    (subscriptionEnds client input).Nodup := by
  have acked : ∀ packetId env, ((ackedSubs client packetId env).map SubInfo.issue).Nodup := by
    intro packetId env
    rw [ackedSubs]
    split
    · exact valid.sub_apart.sublist (List.filter_sublist.map _)
    · exact List.nodup_nil
  cases input with
  | cycle read env =>
      rw [subscriptionEnds]
      split
      · exact acked _ env
      · exact acked _ env
      · exact List.nodup_nil
  | subInfoProc env => exact valid.sub_apart.sublist (List.filter_sublist.map _)
  | _ => exact List.nodup_nil

/-- An event about subscriptions is of a pending request that the step ends. -/
theorem step_subEvents (valid : client.waiting.Valid) (input : Act)
    (answers : subackAnswers client input = true) {type : EventType} {packetId : UInt16}
    (raised : Output.event type packetId ∈ (step client input).2)
    (isSub : isSubEvent (.event type packetId) = true) :
    ∃ entry ∈ client.listSubWaitAck, entry.nodeState = .normal ∧ entry.msgId = packetId ∧
      entry.issue ∈ subscriptionEnds client input := by
  have quiet : NoAckEvent (step client input).2 → False := fun none => by
    rw [(none _ raised).2] at isSub
    cases isSub
  by_cases answersNone : input.AnswersNone
  · exact (quiet (step_noAckEvent input valid.numbered answersNone)).elim
  cases input with
  | cycle read env =>
      cases ack : ackIn client.readBufSize read with
      | none => exact (quiet (cycle_of_ackIn_none env ack).noEvent).elim
      | some found =>
          obtain ⟨ackType, ackId⟩ := found
          by_cases isPublish : ackType = .publish
          · subst isPublish
            have outputs : (step client (.cycle read env)).2 = _ := (cycle_of_puback env ack).2.2
            rw [outputs, Client.raise] at raised
            split at raised
            · rw [List.mem_singleton.mp raised] at isSub
              cases isSub
            · cases raised
          · cases cycle_of_subAck ack isPublish answers with
            | nothing list slots silent none =>
                have silent : (step client (.cycle read env)).2 = [] := silent
                rw [silent] at raised
                cases raised
            | answered entry found normal isType walks marked events =>
                obtain ⟨event, same⟩ := events _ raised
                obtain ⟨-, rfl⟩ := Output.event.inj same
                obtain ⟨among, hasId⟩ := mem_subEntryOf found
                exact ⟨entry, among, normal, hasId, mem_subscriptionEnds_cycle.mpr
                  ⟨ackType, packetId, ack, isPublish, entry,
                    mem_ackedSubs.mpr ⟨walks, among, hasId, .inl normal⟩, rfl⟩⟩
  | pubInfoProc env =>
      have isEvent := List.mem_filter.mpr ⟨raised, isSub⟩
      have none : (step client (.pubInfoProc env)).2.filter isSubEvent = [] :=
        uiotMqttPubInfoProc_subEvents env
      rw [none] at isEvent
      cases isEvent
  | subInfoProc env =>
      simp only [step, act] at raised
      rcases uiotMqttSubInfoProc_swept client env with same | ⟨kept, outputs, timedOut, same, swept⟩
      · rw [same] at raised
        cases raised
      · rw [same, swept.outputs] at raised
        obtain ⟨entry, isTimedOut, reported⟩ := List.mem_flatMap.mp raised
        have removed : entry ∈ timedOutSubs client env := by
          have timedOutAre := swept.timedOut_perm valid.sub_apart
          simp only [timedOutSubs, same]
          exact timedOutAre.subset isTimedOut
        obtain ⟨among, state⟩ := List.mem_filter.mp removed
        obtain ⟨normal, -⟩ := of_decide_eq_true state
        have hasId : entry.msgId = packetId := by
          rw [reportSub] at reported
          split at reported
          · obtain ⟨event, sameEvent⟩ := raise_event client _ _ _ reported
            exact (Output.event.inj sameEvent).2.symm
          · obtain ⟨event, sameEvent⟩ := raise_event client _ _ _ reported
            exact (Output.event.inj sameEvent).2.symm
        exact ⟨entry, among, normal, hasId, List.mem_map_of_mem removed⟩
  | _ => exact absurd trivial answersNone

/-- A packet changes slots, entries or raises an event only when it is an
acknowledgement that finds a pending request of its type. -/
theorem cycle_changes {read : PacketRead} {env : Env}
    (answers : subackAnswers client (.cycle read env) = true)
    (changes : (cycleForReadWith client read env).client.subHandles ≠ client.subHandles ∨
      (cycleForReadWith client read env).client.listSubWaitAck ≠ client.listSubWaitAck ∨
      ∃ output ∈ (cycleForReadWith client read env).outputs, isSubEvent output = true) :
    ∃ type packetId, ackIn client.readBufSize read = some (type, packetId) ∧
      (type = .subscribe ∨ type = .unsubscribe) ∧
      ∃ entry ∈ client.listSubWaitAck,
        entry.nodeState = .normal ∧ entry.msgId = packetId ∧ entry.type = type := by
  have unchanged : ¬((cycleForReadWith client read env).client.subHandles = client.subHandles ∧
      (cycleForReadWith client read env).client.listSubWaitAck = client.listSubWaitAck ∧
      ∀ output ∈ (cycleForReadWith client read env).outputs, isSubEvent output = false) := by
    rintro ⟨slots, list, silent⟩
    rcases changes with changed | changed | ⟨output, among, isSub⟩
    · exact changed slots
    · exact changed list
    · rw [silent output among] at isSub
      cases isSub
  cases ack : ackIn client.readBufSize read with
  | none =>
      obtain ⟨waiting, slots, silent⟩ := cycle_of_ackIn_none env ack
      exact absurd ⟨slots, congrArg Waiting.sub waiting,
        fun output among => (silent output among).2⟩ unchanged
  | some found =>
      obtain ⟨type, packetId⟩ := found
      by_cases isPublish : type = .publish
      · subst isPublish
        obtain ⟨waiting, slots, outputs⟩ := cycle_of_puback env ack
        have list : (maskPubInfoFrom client packetId env 0).listSubWaitAck =
            client.listSubWaitAck := by
          rw [maskPubInfoFrom]
          split <;> rfl
        refine absurd ⟨slots, (congrArg Waiting.sub waiting).trans list, ?_⟩ unchanged
        rw [outputs, Client.raise]
        split
        · intro output among
          rw [List.mem_singleton.mp among]
          rfl
        · intro output among
          cases among
      · cases cycle_of_subAck ack isPublish answers with
        | nothing list slots silent none =>
            refine absurd ⟨slots, list, ?_⟩ unchanged
            rw [silent]
            intro output among
            cases among
        | answered entry found normal isType walks marked events =>
            obtain ⟨among, hasId⟩ := mem_subEntryOf found
            exact ⟨type, packetId, rfl, (ackIn_type ack).resolve_left isPublish, entry, among,
              normal, hasId, isType⟩

/-! ## Runs -/

/-- What a run may rely on. -/
abbrev SubackAnswers (client : Client) (input : Act) : Prop := subackAnswers client input = true

end Step

/-- In every run whose acknowledgements answer pending requests of their type, a
packet changes slots or entries of subscriptions, or raises an event about them,
only when it is a SUBACK or UNSUBACK whose id a normal entry of the type has;
every such event is of a request that the step ends; and no request is ended
twice, be it by an acknowledgement or by a sweep. -/
theorem subscription_ends_once (params : InitParams) (inputs : List Act)
    (answers : Along step SubackAnswers (uiotMqttInit params) inputs) :
    let start := uiotMqttInit params
    (logOf step subscriptionEnds start inputs).Nodup ∧
      ∀ before input after, inputs = before ++ input :: after →
        let client := (run step start before).1
        let client' := (step client input).1
        (∀ type packetId, Output.event type packetId ∈ (step client input).2 →
            isSubEvent (.event type packetId) = true →
            ∃ entry ∈ client.listSubWaitAck, entry.nodeState = .normal ∧
              entry.msgId = packetId ∧ entry.issue ∈ subscriptionEnds client input) ∧
          ∀ read env, input = .cycle read env →
            (client'.subHandles ≠ client.subHandles ∨
              client'.listSubWaitAck ≠ client.listSubWaitAck ∨
              ∃ output ∈ (step client input).2, isSubEvent output = true) →
            ∃ type packetId, input.ackOf client = some (type, packetId) ∧
              (type = .subscribe ∨ type = .unsubscribe) ∧
              ∃ entry ∈ client.listSubWaitAck,
                entry.nodeState = .normal ∧ entry.msgId = packetId ∧ entry.type = type := by
  intro start
  have startValid : start.waiting.Valid := uiotMqttInit_valid params
  have valid := (answers.invariant (fun client => client.waiting.Valid) startValid
    fun _ input valid _ => (step_moves input valid.numbered).valid valid).1
  refine ⟨?_, ?_⟩
  · exact (logOf_nodup (valid.mono fun client input holds =>
      fresh_pendingSub holds.1.numbered
        (fun issue ends => (subscriptionEnds_pending holds.1 input holds.2 ends).1)
        (subscriptionEnds_once holds.1 input)
        (fun issue ends => (subscriptionEnds_pending holds.1 input holds.2 ends).2))).1
  · rintro before input after rfl
    obtain ⟨reached, answered⟩ := valid.at
    refine ⟨fun type packetId raised isSub => step_subEvents reached input answered raised isSub, ?_⟩
    rintro read env rfl changes
    exact cycle_changes answered changes

/-- A subscription to `a`. -/
def subscribeAct : Act := .subscribe [0x61] ⟨.qos1, some 7, 0⟩ (calm 8)

/-- A SUBACK and an UNSUBACK with an id are read. -/
def subackAct (packetId : UInt8) : Act := .cycle (received [0x90, 3, 0, packetId, 1]) (calm 0)

def unsubackAct (packetId : UInt8) : Act := .cycle (received [0xB0, 2, 0, packetId]) (calm 0)

/-- A subscription that is answered, and one that runs out of time. -/
def subscribingActs : List Act :=
  connectActs ++ [subscribeAct, subackAct 2, subscribeAct, .subInfoProc { calm 0 with tick _ := 5000 }]

theorem subscription_ends_once_two_subscriptions :
    (run step (uiotMqttInit ⟨2000, true⟩) subscribingActs).2.flatten.filter isSubEvent =
        [.event .subscribeSuccess 2, .event .subscribeTimeout 3] ∧
      (logOf step subscriptionEnds (uiotMqttInit ⟨2000, true⟩) subscribingActs).Nodup :=
  ⟨by decide +kernel, (subscription_ends_once ⟨2000, true⟩ subscribingActs (by decide +kernel)).1⟩

/-- An UNSUBACK with the id of a subscription ends it, and is reported as the end
of an unsubscription. -/
theorem unsuback_ends_subscription :
    let client := (run step (uiotMqttInit ⟨2000, true⟩) (connectActs ++ [subscribeAct])).1
    (unsubackAct 2).ackOf client = some (.unsubscribe, 2) ∧
      (∀ entry ∈ client.listSubWaitAck, ¬(entry.msgId = 2 ∧ entry.type = .unsubscribe)) ∧
      (step client (unsubackAct 2)).1.listSubWaitAck ≠ client.listSubWaitAck ∧
      Output.event .unsubscribeSuccess 2 ∈ (step client (unsubackAct 2)).2 := by
  decide +kernel

end UIoT.Mqtt
