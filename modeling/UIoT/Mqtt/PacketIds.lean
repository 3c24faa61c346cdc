import UIoT.Mqtt.Machine

/-!
# Packet ids of outstanding requests

The ids of the normal entries of both wait lists are distinct and not zero
along every run in which no id is taken while a normal entry has it
(`normalIds_nodup`). Nothing in the client ensures that: ids are taken by
requests that fail too, so a request that stays pending meets its own id again
(`normalIds_wrap`).
-/

set_option autoImplicit false

namespace UIoT.Mqtt

open Tickets Runs

/-! ## Which acts take an id -/

/-- The checks in front of `get_next_packet_id` pass. -/
def Act.takesId (client : Client) : Act → Bool
  | .publish topicName params _ =>
      0 < topicName.length && topicName.length ≤ maxSizeOfCloudTopic && params.qos = .qos1 &&
        client.isConnected
  | .subscribe topicFilter params env =>
      0 < topicFilter.length && topicFilter.length ≤ maxSizeOfCloudTopic && params.qos ≠ .qos2 &&
        client.isConnected && env.malloc 0
  | .unsubscribe topicFilter env =>
      0 < topicFilter.length && topicFilter.length ≤ maxSizeOfCloudTopic &&
        client.subHandles.toList.any (unsubscribes topicFilter) && client.isConnected &&
        env.malloc 0
  | _ => false

theorem uiotMqttPublish_issued {client : Client} {topicName : CString} {params : PublishParams}
    {env : Env} (takesNone : (Act.publish topicName params env).takesId client = false) :
    (uiotMqttPublish client topicName params env).client.issued = client.issued := by
  unfold uiotMqttPublish
  split
  · rfl
  split
  · rfl
  split
  · rfl
  split
  · rfl
  rename_i nonempty short notQos2 connected
  cases quality : params.qos with
  | qos2 => exact absurd quality notQos2
  | qos1 =>
      simp only [Act.takesId, quality] at takesNone
      simp_all [Nat.pos_iff_ne_zero]
  | qos0 =>
      simp only [reduceCtorEq, if_false, ne_eq, not_true_eq_false]
      split
      · rfl
      · split <;> rfl

theorem uiotMqttSubscribe_issued {client : Client} {topicFilter : CString}
    {params : SubscribeParams} {env : Env}
    (takesNone : (Act.subscribe topicFilter params env).takesId client = false) :
    (uiotMqttSubscribe client topicFilter params env).client.issued = client.issued := by
  unfold uiotMqttSubscribe
  split
  · rfl
  split
  · rfl
  split
  · rfl
  split
  · rfl
  split
  · rfl
  rename_i nonempty short notQos2 connected allocated
  simp only [Act.takesId] at takesNone
  simp_all [Nat.pos_iff_ne_zero]

theorem uiotMqttUnsubscribe_issued {client : Client} {topicFilter : CString} {env : Env}
    (takesNone : (Act.unsubscribe topicFilter env).takesId client = false) :
    (uiotMqttUnsubscribe client topicFilter env).client.issued = client.issued := by
  unfold uiotMqttUnsubscribe
  split
  · rfl
  split
  · rfl
  simp only
  split
  · rfl
  split
  · rfl
  split
  · rfl
  rename_i nonempty short exists_ connected allocated
  simp only [Act.takesId] at takesNone
  simp_all [Nat.pos_iff_ne_zero]

theorem step_issued_of_not_takesId {client : Client} {input : Act}
    (takesNone : input.takesId client = false) :
    (step client input).1.issued = client.issued := by
  by_cases isRequest : input.IsRequest
  · cases input with
    | publish topicName params env => exact uiotMqttPublish_issued takesNone
    | subscribe topicFilter params env => exact uiotMqttSubscribe_issued takesNone
    | unsubscribe topicFilter env => exact uiotMqttUnsubscribe_issued takesNone
    | _ => exact isRequest.elim
  · exact (step_settles input isRequest).issued

/-! ## Distinct ids -/

/-- The ids of the normal entries of both wait lists. -/
def normalIds (client : Client) : List UInt16 :=
  (client.listPubWaitAck.filter (·.nodeState = .normal)).map PubInfo.msgId ++
    (client.listSubWaitAck.filter (·.nodeState = .normal)).map SubInfo.msgId

/-- The number that is given out next does not have the id of the number of a
normal entry: their difference is no multiple of the number of ids. -/
abbrev FreshNumber (client : Client) (issue : Nat) : Prop :=
  (client.issued + 1 - issue) % maxPacketId.toNat ≠ 0

/-- An act takes an id only when no normal entry has it. -/
def TakesUnusedId (client : Client) (input : Act) : Prop :=
  input.takesId client = true →
    (∀ entry ∈ client.listPubWaitAck, entry.nodeState = .normal → FreshNumber client entry.issue) ∧
      ∀ entry ∈ client.listSubWaitAck, entry.nodeState = .normal → FreshNumber client entry.issue

/-- The pending identifiers of the desk are the ids of the normal entries. -/
theorem normalIds_toNat (client : Client) :
    (normalIds client).map UInt16.toNat =
      (client.waiting.desk.tickets.filter Ticket.pending).map Ticket.id := by
  have pub : (client.listPubWaitAck.filter (·.nodeState = .normal)).map PubInfo.ticket =
      (client.listPubWaitAck.map PubInfo.ticket).filter Ticket.pending := by
    rw [List.filter_map]
    rfl
  have sub : (client.listSubWaitAck.filter (·.nodeState = .normal)).map SubInfo.ticket =
      (client.listSubWaitAck.map SubInfo.ticket).filter Ticket.pending := by
    rw [List.filter_map]
    rfl
  simp only [normalIds, Waiting.desk, Waiting.pubTickets, Waiting.subTickets, Client.waiting,
    List.filter_append, List.map_append, ← pub, ← sub, List.map_map]
  rfl

instance (client : Client) (input : Act) : Decidable (TakesUnusedId client input) :=
  inferInstanceAs (Decidable (_ → _ ∧ _))

/-- A step that takes no used id keeps the ids distinct. -/
theorem step_distinct {client : Client} {input : Act} (valid : client.waiting.Valid)
    (distinct : client.waiting.desk.Distinct) (unused : TakesUnusedId client input) :
    (step client input).1.waiting.desk.Distinct := by
  have move := (step_moves input valid.numbered).desk valid.counter
  refine move.distinct valid.desk distinct fun taken ticket onDesk pending => ?_
  have takes : input.takesId client = true := by
    by_contra takesNone
    exact taken (step_issued_of_not_takesId (by simpa using takesNone))
  have ordered : ticket.issue ≤ client.issued + 1 :=
    Nat.le_succ_of_le (valid.desk.bounds ticket onDesk).2
  refine (cyclicId_ne_iff ordered).mpr ?_
  rcases List.mem_append.mp onDesk with isPub | isSub
  · obtain ⟨entry, among, rfl⟩ := List.mem_map.mp isPub
    exact (unused takes).1 entry among (by simpa [PubInfo.ticket] using pending)
  · obtain ⟨entry, among, rfl⟩ := List.mem_map.mp isSub
    exact (unused takes).2 entry among (by simpa [SubInfo.ticket] using pending)

/-- In every run that takes no used id, the normal entries of both lists have
distinct ids other than zero, in every state on the way. -/
theorem normalIds_nodup (params : InitParams) (inputs : List Act)
    (unused : Along step TakesUnusedId (uiotMqttInit params) inputs) (before : List Act)
    (onTheWay : before <+: inputs) :
    let client := (run step (uiotMqttInit params) before).1
    (normalIds client).Nodup ∧ ∀ id ∈ normalIds client, id ≠ 0 := by
  intro client
  obtain ⟨after, rfl⟩ := onTheWay
  have start : (uiotMqttInit params).waiting.Valid ∧ (uiotMqttInit params).waiting.desk.Distinct :=
    ⟨uiotMqttInit_valid params, List.nodup_nil⟩
  obtain ⟨valid, distinct⟩ := ((along_append.mp unused).1.invariant
    (fun client => client.waiting.Valid ∧ client.waiting.desk.Distinct) start
    fun client input inv unused => ⟨(step_moves input inv.1.numbered).valid inv.1,
      step_distinct inv.1 inv.2 unused⟩).2
  have numbers := normalIds_toNat client
  refine ⟨List.Nodup.of_map UInt16.toNat (numbers ▸ distinct), ?_⟩
  rintro id among rfl
  have isNumber : (0 : UInt16).toNat ∈ (normalIds client).map UInt16.toNat :=
    List.mem_map_of_mem among
  rw [numbers] at isNumber
  obtain ⟨ticket, pending, isZero⟩ := List.mem_map.mp isNumber
  have positive : 1 ≤ packetIdOf ticket.issue := (cyclicId_bounds (by decide) ticket.issue).1
  rw [← valid.desk.ids ticket (List.mem_filter.mp pending).1, isZero] at positive
  exact absurd positive (by decide)

/-! ## A run that uses an id twice -/

/-- A world in which nothing fails and no time passes. Each packet sent is
accepted by one write of the given length. -/
def calm (length : Nat) : Env where
  tick _ := 0
  rtTickFromMillisecond ms := ms
  malloc _ := true
  writes _ := [length]
  stack := []
  stackBefore := 0
  stackQos := .qos0

/-- What `_read_mqtt_packet` makes of a packet read into an empty buffer. -/
def received (packet : List UInt8) : PacketRead :=
  ⟨successRet, some (headerType (packet.headD 0)),
    overwrite (List.replicate uiotMqttRxBufLen 0) 0 packet⟩

/-- A connection is made: CONNECT is sent and CONNACK comes back. -/
def connectActs : List Act :=
  [.sendConnect ⟨[0x63], none, none, 4, 240, 1, 1⟩ successRet (calm 15),
    .cycle (received [0x20, 2, 0, 0]) (calm 0),
    .acceptConnack (calm 0)]

/-- A publication of no bytes on `a`, with quality of service 1. -/
def publishAct : Act := .publish [0x61] ⟨.qos1, 0, 0, some []⟩ (calm 7)

/-- The parameters of a publication that does not fit the send buffer. -/
def tooLong : PublishParams := ⟨.qos1, 0, 0, some (List.replicate 2048 0)⟩

def publishTooLong : Act := .publish [0x61] tooLong (calm 0)

/-- A publication whose packet is not built takes an id and does nothing else. -/
theorem uiotMqttPublish_error {client : Client} {topicName : CString} {params : PublishParams}
    {ret : Int} (env : Env) (takes : (Act.publish topicName params env).takesId client = true)
    (failed : serializePublishPacket client.writeBufSize 0 .qos1 params.retained
      (getNextPacketId client).1 topicName params.payload = .error ret) :
    uiotMqttPublish client topicName params env = ⟨ret, (getNextPacketId client).2, []⟩ := by
  simp only [Act.takesId, Bool.and_eq_true, decide_eq_true_eq] at takes
  obtain ⟨⟨⟨nonempty, short⟩, quality⟩, connected⟩ := takes
  have bufSize : (getNextPacketId client).2.writeBufSize = client.writeBufSize := rfl
  rw [uiotMqttPublish, if_neg (Nat.pos_iff_ne_zero.mp nonempty), if_neg (Nat.not_lt.mpr short)]
  simp only [quality, connected, reduceCtorEq, not_true_eq_false, if_false, if_true, bufSize,
    failed]

/-- A publication that is too long takes an id and does nothing else. -/
theorem step_publishTooLong {client : Client} (connected : client.isConnected = true)
    (bufSize : client.writeBufSize = uiotMqttTxBufLen) :
    (step client publishTooLong).1 = (getNextPacketId client).2 := by
  have failed : serializePublishPacket client.writeBufSize 0 .qos1 tooLong.retained
      (getNextPacketId client).1 [0x61] tooLong.payload = .error errMqttBufferTooShort := by
    have length : uiotMqttTxBufLen < getMqttPacketLen (getPublishPacketLen .qos1 [0x61] 2048) := by
      decide
    simp only [tooLong, bufSize, serializePublishPacket, List.length_replicate, if_pos length]
    rfl
  have quality : tooLong.qos = .qos1 := rfl
  have takes : publishTooLong.takesId client = true := by
    simp [publishTooLong, quality, Act.takesId, connected]
  exact congrArg Result.client (uiotMqttPublish_error (calm 0) takes failed)

theorem run_publishTooLong (times : Nat) {client : Client} (connected : client.isConnected = true)
    (bufSize : client.writeBufSize = uiotMqttTxBufLen) :
    ∃ nextPacketId, (run step client (List.replicate times publishTooLong)).1 =
      { client with nextPacketId := nextPacketId, issued := client.issued + times } := by
  induction times generalizing client with
  | zero => exact ⟨client.nextPacketId, rfl⟩
  | succ times inductionHypothesis =>
      obtain ⟨nextPacketId, rest⟩ :=
        @inductionHypothesis (getNextPacketId client).2 connected bufSize
      refine ⟨nextPacketId, ?_⟩
      rw [List.replicate_succ, run_cons_fst, step_publishTooLong connected bufSize, rest]
      have count : (getNextPacketId client).2.issued + times = client.issued + (times + 1) := by
        simp only [getNextPacketId]
        omega
      rw [count]
      rfl

/-- Two publications that both stay pending. -/
theorem normalIds_nodup_two_publications :
    let client := (run step (uiotMqttInit ⟨2000, true⟩)
      (connectActs ++ [publishAct, publishAct])).1
    (normalIds client).Nodup ∧ ∀ id ∈ normalIds client, id ≠ 0 :=
  normalIds_nodup ⟨2000, true⟩ (connectActs ++ [publishAct, publishAct]) (by decide +kernel) _
    (List.prefix_refl _)

/-- One publication that stays pending, as many that fail as there are other ids,
and one more. -/
def wrapActs : List Act :=
  connectActs ++ [publishAct] ++ List.replicate 65534 publishTooLong ++ [publishAct]

/-- The client once the first publication has been accepted. -/
def pendingClient : Client := (run step (uiotMqttInit ⟨2000, true⟩) (connectActs ++ [publishAct])).1

theorem pendingClient_state :
    pendingClient.isConnected = true ∧ pendingClient.writeBufSize = uiotMqttTxBufLen ∧
      pendingClient.issued = 1 := by
  decide +kernel

/-- The second publication gets the id that the first one still waits for. -/
theorem normalIds_wrap : ¬(normalIds (run step (uiotMqttInit ⟨2000, true⟩) wrapActs).1).Nodup := by
  obtain ⟨connected, bufSize, issued⟩ := pendingClient_state
  obtain ⟨nextPacketId, failures⟩ := run_publishTooLong 65534 connected bufSize
  have reached : (run step (uiotMqttInit ⟨2000, true⟩)
      (connectActs ++ [publishAct] ++ List.replicate 65534 publishTooLong)).1 =
        { pendingClient with nextPacketId := nextPacketId, issued := 65535 } := by
    rw [run_append_fst, ← pendingClient, failures, issued]
  have counter : nextPacketId = 1 := by
    have valid := (run_valid ⟨2000, true⟩
      (connectActs ++ [publishAct] ++ List.replicate 65534 publishTooLong)).counter
    rw [reached] at valid
    have number : nextPacketId.toNat = packetIdOf 65535 := valid
    exact UInt16.toNat_inj.mp (number.trans rfl)
  rw [wrapActs, run_append_fst, reached, counter]
  decide +kernel

end UIoT.Mqtt
