import UIoT.Mqtt.AckEvents
import UIoT.Mqtt.PacketIds

/-!
# How publications end

A publication with quality of service 1 that is accepted is answered by a
PUBACK or runs out of time. In every run whose PUBACKs meet a pending
publication it is reported once, by one of the two events
(`publication_ends_once`). The client does not look: a PUBACK that answers
nothing is reported as a success too (`publication_ends_twice`).
-/

set_option autoImplicit false

namespace UIoT.Mqtt

open Tickets Runs

/-! ## Accepted publications and their ends -/

/-- The publication that an act accepts: its number and the id returned. -/
def acceptedPublication (client : Client) : Act → List (Nat × UInt16)
  | .publish topicName params env =>
      let ret := (uiotMqttPublish client topicName params env).ret
      if params.qos = .qos1 ∧ 0 ≤ ret then [(client.issued + 1, UInt16.ofNat ret.toNat)] else []
  | _ => []

/-- The pending publication that a PUBACK answers. -/
def pubEntryOf (client : Client) (packetId : UInt16) : Option PubInfo :=
  client.listPubWaitAck.find? fun entry => entry.nodeState = .normal ∧ entry.msgId = packetId

/-- The pending publications that a sweep removes. -/
def timedOutPubs (client : Client) (env : Env) : List PubInfo :=
  let left := (uiotMqttPubInfoProc client env).client.listPubWaitAck.map PubInfo.issue
  client.listPubWaitAck.filter fun entry => entry.nodeState = .normal ∧ entry.issue ∉ left

/-- The events that end publications in an act, each with the number of the
publication it ends. -/
def publicationEnds (client : Client) : Act → List (Nat × Output)
  | .cycle read _ =>
      match ackIn client.readBufSize read with
      | some (.publish, packetId) =>
          (pubEntryOf client packetId).toList.flatMap fun entry =>
            (client.raise .publishSuccess packetId).map (entry.issue, ·)
      | _ => []
  | .pubInfoProc env =>
      (timedOutPubs client env).flatMap fun entry => (reportPub client entry).map (entry.issue, ·)
  | _ => []

/-- A PUBACK that will be reported meets a pending publication with its id, and
the list can be walked. -/
def pubackAnswers (client : Client) : Act → Bool
  | .cycle read env =>
      match ackIn client.readBufSize read with
      | some (.publish, packetId) =>
          !client.eventHandler || env.malloc 0 && (pubEntryOf client packetId).isSome
      | _ => true
  | _ => true

/-! ## One step -/

section Step

variable {client : Client}

theorem mem_pubEntryOf {packetId : UInt16} {entry : PubInfo}
    (found : pubEntryOf client packetId = some entry) :
    entry ∈ client.listPubWaitAck ∧ entry.nodeState = .normal ∧ entry.msgId = packetId := by
  have holds := List.find?_some found
  simp only [decide_eq_true_eq] at holds
  exact ⟨List.mem_of_find?_eq_some found, holds⟩

theorem Waiting.Valid.pub_apart (valid : client.waiting.Valid) :
    (client.listPubWaitAck.map PubInfo.issue).Nodup := by
  have apart := valid.desk.apart
  rw [Waiting.desk, List.map_append, List.nodup_append, Waiting.pubTickets, List.map_map] at apart
  exact apart.1

theorem raise_map_snd (type : EventType) (packetId : UInt16) (issue : Nat) :
    ((client.raise type packetId).map (issue, ·)).map Prod.snd = client.raise type packetId := by
  simp [List.map_map, Function.comp_def]

/-- A sweep reports the publications that it removes while they are pending. -/
theorem uiotMqttPubInfoProc_ends (valid : client.waiting.Valid) (env : Env) :
    (uiotMqttPubInfoProc client env).outputs.Perm
      ((timedOutPubs client env).flatMap (reportPub client)) := by
  rcases uiotMqttPubInfoProc_swept client env with same | ⟨kept, outputs, timedOut, same, swept⟩
  · have noneLeft : timedOutPubs client env = [] := by
      simp only [timedOutPubs, same]
      refine List.filter_eq_nil_iff.mpr fun entry among => ?_
      have stays : entry.issue ∈ client.listPubWaitAck.map PubInfo.issue :=
        List.mem_map_of_mem among
      simp only [stays, not_true_eq_false, and_false, decide_false, Bool.false_eq_true,
        not_false_eq_true]
    rw [same, noneLeft]
    exact .nil
  · have timedOutAre : timedOut.Perm (timedOutPubs client env) := by
      simp only [timedOutPubs, same]
      exact swept.timedOut_perm valid.pub_apart
    rw [same, swept.outputs]
    exact timedOutAre.flatMap_right _

/-- The events about publications in a step are those that end publications. -/
theorem step_pubEvents (valid : client.waiting.Valid) (input : Act)
    (answers : pubackAnswers client input = true) :
    ((step client input).2.filter isPubEvent).Perm ((publicationEnds client input).map Prod.snd) := by
  by_cases answersNone : input.AnswersNone
  · rw [(step_noAckEvent input valid.numbered answersNone).filter_pub]
    cases input with
    | cycle | pubInfoProc | subInfoProc => exact answersNone.elim
    | _ => exact .nil
  cases input with
  | cycle read env =>
      simp only [step, act, publicationEnds]
      cases ack : ackIn client.readBufSize read with
      | none => rw [(cycle_of_ackIn_none env ack).noEvent.filter_pub]; exact .nil
      | some found =>
          obtain ⟨type, packetId⟩ := found
          rcases ackIn_type ack with rfl | rfl | rfl
          · obtain ⟨-, -, outputs⟩ := cycle_of_puback env ack
            have counts : isPubEvent (.event .publishSuccess packetId) = true := rfl
            rw [outputs, raise_filter, if_pos counts]
            simp only [pubackAnswers, ack, Bool.or_eq_true, Bool.and_eq_true,
              Bool.not_eq_true'] at answers
            rcases answers with deaf | ⟨-, isPending⟩
            · simp [Client.raise, deaf]
            · obtain ⟨entry, isEntry⟩ := Option.isSome_iff_exists.mp isPending
              simp only [isEntry, Option.toList_some, List.flatMap_cons, List.flatMap_nil,
                List.append_nil, raise_map_snd]
              exact .refl _
          · obtain ⟨-, -, -, outputs⟩ := cycle_of_suback env ack
            rcases outputs with outputs | outputs | outputs
            · rw [outputs]; exact .nil
            · rw [outputs, raise_filter]; exact .nil
            · rw [outputs, raise_filter]; exact .nil
          · obtain ⟨-, -, outputs⟩ := cycle_of_unsuback env ack
            rw [outputs, raise_filter]
            exact .nil
  | pubInfoProc env =>
      have ends := (uiotMqttPubInfoProc_ends valid env).filter isPubEvent
      refine ends.trans (List.Perm.of_eq ?_)
      simp only [publicationEnds, List.map_flatMap, List.filter_flatMap, reportPub, raise_filter,
        raise_map_snd]
      rfl
  | subInfoProc env =>
      simp only [step, act, publicationEnds, uiotMqttSubInfoProc_pubEvents]
      exact .nil
  | _ => exact absurd trivial answersNone

/-- An end is of a pending publication, which is not pending any more. -/
theorem publicationEnds_pending (valid : client.waiting.Valid) (input : Act)
    (answers : pubackAnswers client input = true) {issue : Nat} {output : Output}
    (ends : (issue, output) ∈ publicationEnds client input) :
    (∃ entry ∈ client.listPubWaitAck, entry.nodeState = .normal ∧ entry.issue = issue ∧
        ∃ type, output = .event type entry.msgId) ∧
      issue ∉ pendingPub (step client input).1 := by
  cases input with
  | cycle read env =>
      simp only [publicationEnds] at ends
      split at ends
      · rename_i packetId ack
        obtain ⟨entry, isEntry, raised⟩ := List.mem_flatMap.mp ends
        obtain ⟨among, normal, hasId⟩ := mem_pubEntryOf (Option.mem_toList.mp isEntry)
        obtain ⟨event, isRaised, same⟩ := List.mem_map.mp raised
        obtain ⟨rfl, rfl⟩ := Prod.mk.inj same
        simp only [Client.raise] at isRaised
        split at isRaised
        · rename_i hears
          refine ⟨⟨entry, among, normal, rfl, _, hasId ▸ List.mem_singleton.mp isRaised⟩, ?_⟩
          simp only [pubackAnswers, ack, hears, Bool.not_true, Bool.false_or,
            Bool.and_eq_true] at answers
          have walked : client.listPubWaitAck.length ≠ 0 ∧ env.malloc 0 = true :=
            ⟨List.length_pos_of_mem among |>.ne', answers.1⟩
          have marked : (step client (.cycle read env)).1.listPubWaitAck =
              client.listPubWaitAck.map (PubInfo.mask packetId) := by
            have waiting := (cycle_of_puback env ack).1
            rw [maskPubInfoFrom, if_pos walked] at waiting
            exact congrArg Waiting.pub waiting
          intro again
          obtain ⟨other, isOther, otherNormal, sameIssue⟩ := mem_pendingPub.mp again
          rw [marked] at isOther
          obtain ⟨old, was, rfl⟩ := List.mem_map.mp isOther
          have keepsIssue : (old.mask packetId).issue = old.issue := by
            rw [PubInfo.mask]
            split <;> rfl
          obtain rfl := List.inj_on_of_nodup_map valid.pub_apart was among
            (keepsIssue.symm.trans sameIssue)
          rw [PubInfo.mask, if_pos hasId] at otherNormal
          cases otherNormal
        · cases isRaised
      · cases ends
  | pubInfoProc env =>
      obtain ⟨entry, timedOut, raised⟩ := List.mem_flatMap.mp ends
      obtain ⟨event, isRaised, same⟩ := List.mem_map.mp raised
      obtain ⟨rfl, rfl⟩ := Prod.mk.inj same
      obtain ⟨among, normal⟩ := List.mem_filter.mp timedOut
      obtain ⟨normal, gone⟩ := of_decide_eq_true normal
      refine ⟨⟨entry, among, normal, rfl, ?_⟩, ?_⟩
      · simp only [reportPub, Client.raise] at isRaised
        split at isRaised
        · exact ⟨_, List.mem_singleton.mp isRaised⟩
        · cases isRaised
      · intro again
        obtain ⟨other, isOther, -, sameIssue⟩ := mem_pendingPub.mp again
        exact gone (sameIssue ▸ List.mem_map_of_mem isOther)
  | _ => cases ends

theorem raise_map_fst (type : EventType) (packetId : UInt16) (issue : Nat) :
    ((client.raise type packetId).map (issue, ·)).map Prod.fst =
      if client.eventHandler then [issue] else [] := by
  rw [Client.raise]
  split <;> rfl

/-- A step ends a publication once. -/
theorem publicationEnds_once (valid : client.waiting.Valid) (input : Act) :
    ((publicationEnds client input).map Prod.fst).Nodup := by
  cases input with
  | cycle read env =>
      simp only [publicationEnds]
      split
      · rename_i packetId ack
        cases pubEntryOf client packetId with
        | none => exact List.nodup_nil
        | some entry =>
            simp only [Option.toList_some, List.flatMap_cons, List.flatMap_nil, List.append_nil,
              raise_map_fst]
            split
            · exact List.nodup_singleton _
            · exact List.nodup_nil
      · exact List.nodup_nil
  | pubInfoProc env =>
      simp only [publicationEnds, List.map_flatMap, reportPub, raise_map_fst]
      by_cases hears : client.eventHandler
      · simp only [hears, if_true, ← List.map_eq_flatMap]
        exact valid.pub_apart.sublist (List.filter_sublist.map _)
      · have silent : (timedOutPubs client env).flatMap (fun _ => ([] : List Nat)) = [] :=
          List.flatMap_eq_nil_iff.mpr fun _ _ => rfl
        simp only [hears, Bool.false_eq_true, if_false, silent]
        exact List.nodup_nil
  | _ => exact List.nodup_nil

/-- A success is reported by a cycle that answers a pending publication. -/
theorem publishSuccess_answers (valid : client.waiting.Valid) (input : Act)
    (answers : pubackAnswers client input = true) {packetId : UInt16}
    (raised : Output.event .publishSuccess packetId ∈ (step client input).2) :
    input.ackOf client = some (.publish, packetId) ∧
      ∃ entry ∈ client.listPubWaitAck, entry.nodeState = .normal ∧ entry.msgId = packetId := by
  have isEvent : Output.event .publishSuccess packetId ∈ (step client input).2.filter isPubEvent :=
    List.mem_filter.mpr ⟨raised, rfl⟩
  have isEnd := (step_pubEvents valid input answers).subset isEvent
  obtain ⟨⟨issue, output⟩, ended, rfl⟩ := List.mem_map.mp isEnd
  obtain ⟨⟨entry, among, normal, -, type, same⟩, -⟩ :=
    publicationEnds_pending valid input answers ended
  obtain ⟨rfl, rfl⟩ := Output.event.inj same
  refine ⟨?_, entry, among, normal, rfl⟩
  cases input with
  | cycle read env =>
      simp only [publicationEnds] at ended
      split at ended
      · rename_i packetId ack
        obtain ⟨found, isEntry, mapped⟩ := List.mem_flatMap.mp ended
        obtain ⟨event, isRaised, same⟩ := List.mem_map.mp mapped
        obtain ⟨-, rfl⟩ := Prod.mk.inj same
        simp only [Client.raise] at isRaised
        split at isRaised
        · obtain ⟨-, sameId⟩ := Output.event.inj (List.mem_singleton.mp isRaised)
          rw [Act.ackOf, ack, sameId]
        · cases isRaised
      · cases ended
  | pubInfoProc env =>
      obtain ⟨found, isEntry, mapped⟩ := List.mem_flatMap.mp ended
      obtain ⟨event, isRaised, same⟩ := List.mem_map.mp mapped
      obtain ⟨-, rfl⟩ := Prod.mk.inj same
      simp only [reportPub, Client.raise] at isRaised
      split at isRaised
      · cases (Output.event.inj (List.mem_singleton.mp isRaised)).1
      · cases isRaised
  | _ => cases ended

/-! ## Accepted publications -/

/-- An accepted publication has taken a number. -/
theorem uiotMqttPublish_numbered {topicName : CString} {params : PublishParams} {env : Env}
    (quality : params.qos = .qos1) (returned : 0 ≤ (uiotMqttPublish client topicName params env).ret) :
    (uiotMqttPublish client topicName params env).client.issued = client.issued + 1 := by
  have refused : ¬0 ≤ errParamInvalid ∧ ¬0 ≤ errMaxTopicLength ∧ ¬0 ≤ errMqttNoConn := by decide
  unfold uiotMqttPublish at returned ⊢
  split
  · rename_i empty
    rw [if_pos empty] at returned
    exact absurd returned refused.1
  rename_i nonempty
  rw [if_neg nonempty] at returned
  split
  · rename_i long
    rw [if_pos long] at returned
    exact absurd returned refused.2.1
  rename_i short
  rw [if_neg short, if_neg (by simp [quality])] at returned
  rw [if_neg (by simp [quality])]
  split
  · rename_i disconnected
    rw [if_pos disconnected] at returned
    exact absurd returned refused.2.2
  simp only [quality, if_true, ne_eq, reduceCtorEq, not_false_eq_true]
  split
  · rfl
  · rename_i packet _
    rcases maskPushPubInfoTo_cases ((getNextPacketId client).2.store packet) packet.length
        (getNextPacketId client).1 env 0 with ⟨ret, failed, pushed⟩ | ⟨timer, pushed⟩
    · simp only [pushed, if_pos failed]
      rfl
    · simp only [pushed, not_true_eq_false, if_false]
      split <;> rfl

/-- The entries of a list were there, or are of the publication just accepted. -/
theorem step_pubEntries (numbered : client.waiting.Numbered) (input : Act) {entry : PubInfo}
    (among : entry ∈ (step client input).1.listPubWaitAck) :
    (∃ old ∈ client.listPubWaitAck, old.issue = entry.issue ∧ old.msgId = entry.msgId) ∨
      (entry.issue, entry.msgId) ∈ acceptedPublication client input := by
  have stays : ∀ {after : Client}, (step client input).1 = after →
      after.listPubWaitAck = client.listPubWaitAck →
      ∃ old ∈ client.listPubWaitAck, old.issue = entry.issue ∧ old.msgId = entry.msgId := by
    rintro _ rfl same
    exact ⟨entry, same ▸ among, rfl, rfl⟩
  by_cases isRequest : input.IsRequest
  · cases input with
    | publish topicName params env =>
        obtain ⟨-, outcome⟩ := uiotMqttPublish_outcome topicName params env numbered.pub
        cases outcome with
        | untouched buf same => exact .inl (stays same rfl)
        | failed buf took => exact .inl (stays took rfl)
        | accepted id after =>
            obtain ⟨quality, buf, timer, same⟩ := after
            have appended : (step client (.publish topicName params env)).1.listPubWaitAck =
                client.listPubWaitAck ++ [pubEntry client timer] :=
              congrArg Client.listPubWaitAck same
            rw [appended] at among
            rcases List.mem_append.mp among with was | isNew
            · exact .inl ⟨entry, was, rfl, rfl⟩
            · right
              rw [List.mem_singleton.mp isNew, acceptedPublication]
              simp only [quality, id, true_and, Int.natCast_nonneg, if_true, Int.toNat_natCast,
                UInt16.ofNat_toNat]
              exact List.mem_singleton.mpr rfl
    | subscribe topicFilter params env =>
        obtain ⟨-, outcome⟩ := uiotMqttSubscribe_outcome topicFilter params env numbered.sub
        cases outcome with
        | untouched buf same => exact .inl (stays same rfl)
        | failed buf took => exact .inl (stays took rfl)
        | accepted id after =>
            obtain ⟨-, buf, timer, same⟩ := after
            exact .inl (stays same rfl)
    | unsubscribe topicFilter env =>
        obtain ⟨-, same | outcome⟩ := uiotMqttUnsubscribe_outcome topicFilter env numbered.sub
        · exact .inl (stays same rfl)
        · cases outcome with
          | untouched buf same => exact .inl (stays same rfl)
          | failed buf took => exact .inl (stays took rfl)
          | accepted id after =>
              obtain ⟨-, buf, timer, same⟩ := after
              exact .inl (stays same rfl)
    | _ => exact isRequest.elim
  · left
    have isTicket : entry.ticket ∈ (step client input).1.waiting.pubTickets :=
      List.mem_map_of_mem among
    obtain ⟨ticket, was, sameIssue, sameId⟩ :=
      (step_settles input isRequest).pub.exists_of_mem isTicket
    obtain ⟨old, wasThere, rfl⟩ := List.mem_map.mp was
    exact ⟨old, wasThere, sameIssue, UInt16.toNat_inj.mp sameId⟩

/-- The entries after a run were there at its start, or are of publications
accepted on the way. -/
theorem run_pubEntries {inputs : List Act} (valid : client.waiting.Valid) {entry : PubInfo}
    (among : entry ∈ (run step client inputs).1.listPubWaitAck) :
    (∃ old ∈ client.listPubWaitAck, old.issue = entry.issue ∧ old.msgId = entry.msgId) ∨
      (entry.issue, entry.msgId) ∈ logOf step acceptedPublication client inputs := by
  induction inputs generalizing client with
  | nil => exact .inl ⟨entry, among, rfl, rfl⟩
  | cons input inputs inductionHypothesis =>
      have next := (step_moves input valid.numbered).valid valid
      rcases inductionHypothesis next among with ⟨old, was, sameIssue, sameId⟩ | later
      · rw [← sameIssue, ← sameId]
        exact (step_pubEntries valid.numbered input was).imp id (List.mem_append_left _)
      · exact .inr (List.mem_append_right _ later)

theorem acceptedPublication_fresh (valid : client.waiting.Valid) (input : Act) :
    Fresh (fun client => [client.issued + 1])
      (fun client input => (acceptedPublication client input).map Prod.fst)
      (fun client issue => issue ≤ client.issued + 1) client input (step client input).1 := by
  have grows := step_issued_le input valid.numbered
  have numbered : ∀ issue ∈ (acceptedPublication client input).map Prod.fst,
      issue = client.issued + 1 ∧ (step client input).1.issued = client.issued + 1 := by
    intro issue among
    cases input with
    | publish topicName params env =>
        simp only [acceptedPublication] at among
        split at among
        · rename_i accepts
          exact ⟨List.mem_singleton.mp among, uiotMqttPublish_numbered accepts.1 accepts.2⟩
        · cases among
    | _ => cases among
  refine ⟨fun issue among => ?_, ?_, fun issue among => ?_, fun issue live => ?_,
    fun issue below => ?_, fun issue live below => ?_⟩
  · exact List.mem_singleton.mpr (numbered issue among).1
  · cases input with
    | publish topicName params env =>
        simp only [acceptedPublication]
        split
        · exact List.nodup_singleton _
        · exact List.nodup_nil
    | _ => exact List.nodup_nil
  · obtain ⟨rfl, next⟩ := numbered issue among
    simp only [next, List.mem_singleton]
    omega
  · exact Nat.le_of_eq (List.mem_singleton.mp live)
  · omega
  · have isNext := List.mem_singleton.mp live
    exact List.mem_singleton.mpr (by omega)

/-! ## Runs -/

/-- What a run may rely on. -/
abbrev PubackAnswers (client : Client) (input : Act) : Prop := pubackAnswers client input = true

/-- The events about publications in a run are those that end publications. -/
theorem run_pubEvents {inputs : List Act} (valid : client.waiting.Valid)
    (answers : Along step PubackAnswers client inputs) :
    ((run step client inputs).2.flatten.filter isPubEvent).Perm
      ((logOf step publicationEnds client inputs).map Prod.snd) := by
  induction inputs generalizing client with
  | nil => exact .nil
  | cons input inputs inductionHypothesis =>
      have next := (step_moves input valid.numbered).valid valid
      rw [run_cons_snd, List.flatten_cons, List.filter_append, logOf, List.map_append]
      exact (step_pubEvents valid input answers.1).append (inductionHypothesis next answers.2)

end Step

/-- In every run whose PUBACKs answer a pending publication, the events about
publications each end a publication that was accepted before with the id of the
event, no publication is ended twice, and a success is reported only while a
PUBACK is processed for a normal entry with its id. -/
theorem publication_ends_once (params : InitParams) (inputs : List Act)
    (answers : Along step PubackAnswers (uiotMqttInit params) inputs) :
    let start := uiotMqttInit params
    let ends := logOf step publicationEnds start inputs
    ((logOf step acceptedPublication start inputs).map Prod.fst).Nodup ∧
      ((run step start inputs).2.flatten.filter isPubEvent).Perm (ends.map Prod.snd) ∧
      (ends.map Prod.fst).Nodup ∧
      ∀ before input after, inputs = before ++ input :: after →
        let client := (run step start before).1
        (∀ issue output, (issue, output) ∈ publicationEnds client input →
            ∃ type packetId, output = .event type packetId ∧
              (issue, packetId) ∈ logOf step acceptedPublication start before) ∧
          ∀ packetId, Output.event .publishSuccess packetId ∈ (step client input).2 →
            input.ackOf client = some (.publish, packetId) ∧
              ∃ entry ∈ client.listPubWaitAck,
                entry.nodeState = .normal ∧ entry.msgId = packetId := by
  intro start ends
  have startValid : start.waiting.Valid := uiotMqttInit_valid params
  have valid := (answers.invariant (fun client => client.waiting.Valid) startValid
    fun _ input valid _ => (step_moves input valid.numbered).valid valid).1
  refine ⟨?_, run_pubEvents startValid answers, ?_, ?_⟩
  · rw [logOf_map]
    exact (logOf_nodup (valid.mono fun client input holds =>
      acceptedPublication_fresh holds.1 input)).1
  · rw [logOf_map]
    refine (logOf_nodup (valid.mono fun client input holds =>
      fresh_pendingPub holds.1.numbered ?_ (publicationEnds_once holds.1 input) ?_)).1
    · intro issue among
      obtain ⟨⟨_, output⟩, ended, rfl⟩ := List.mem_map.mp among
      obtain ⟨entry, isEntry, normal, sameIssue, -⟩ :=
        (publicationEnds_pending holds.1 input holds.2 ended).1
      exact mem_pendingPub.mpr ⟨entry, isEntry, normal, sameIssue⟩
    · intro issue among
      obtain ⟨⟨_, output⟩, ended, rfl⟩ := List.mem_map.mp among
      exact (publicationEnds_pending holds.1 input holds.2 ended).2
  · rintro before input after rfl
    obtain ⟨reached, answered⟩ := valid.at
    refine ⟨fun issue output ended => ?_, fun packetId raised => ?_⟩
    · obtain ⟨entry, isEntry, -, rfl, type, rfl⟩ :=
        (publicationEnds_pending reached input answered ended).1
      refine ⟨type, entry.msgId, rfl, (run_pubEntries startValid isEntry).resolve_left ?_⟩
      rintro ⟨old, was, -⟩
      cases was
    · exact publishSuccess_answers reached input answered raised

/-- A PUBACK with an id is read. -/
def pubackAct (packetId : UInt8) : Act := .cycle (received [0x40, 2, 0, packetId]) (calm 0)

/-- Two publications; the first is answered, the second runs out of time. -/
def endingActs : List Act :=
  connectActs ++ [publishAct, publishAct, pubackAct 2, .pubInfoProc { calm 0 with tick _ := 5000 }]

theorem publication_ends_once_two_publications :
    (run step (uiotMqttInit ⟨2000, true⟩) endingActs).2.flatten.filter isPubEvent =
        [.event .publishSuccess 2, .event .publishTimeout 3] ∧
      ((logOf step publicationEnds (uiotMqttInit ⟨2000, true⟩) endingActs).map Prod.fst).Nodup :=
  ⟨by decide +kernel, (publication_ends_once ⟨2000, true⟩ endingActs (by decide +kernel)).2.2.1⟩

/-- A second PUBACK finds no pending publication and is reported all the same. -/
theorem publication_ends_twice :
    let start := uiotMqttInit ⟨2000, true⟩
    let inputs := connectActs ++ [publishAct, pubackAct 2, pubackAct 2]
    logOf step acceptedPublication start inputs = [(1, 2)] ∧
      (run step start inputs).2.flatten.filter isPubEvent =
        [.event .publishSuccess 2, .event .publishSuccess 2] ∧
      ∀ entry ∈ (run step start (connectActs ++ [publishAct, pubackAct 2])).1.listPubWaitAck,
        ¬(entry.nodeState = .normal ∧ entry.msgId = 2) := by
  decide +kernel

end UIoT.Mqtt
