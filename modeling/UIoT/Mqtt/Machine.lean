import UIoT.Lib.Runs
import UIoT.Lib.Tickets
import UIoT.Mqtt.Yield

/-!
# The client as a machine

An act is a call of the client or a piece of one, and a run is any sequence of
acts. Every function of the API is a run of acts (`uiotMqttYield_steps`,
`handleReconnect_steps`), so what holds along runs of acts holds along runs of
API calls in any order, with whatever the world does in between.

Seen from the wait lists, an act is a move of a desk of tickets: entries are
settled, or an id is taken and at most one entry with it is admitted
(`step_moves`). What a step does to the lists is derived here once.
-/

set_option autoImplicit false

namespace UIoT.Mqtt

open Tickets Runs

/-! ## Acts -/

/-- A call, or a piece of one between which nothing else happens. -/
inductive Act where
  | publish (topicName : CString) (params : PublishParams) (env : Env)
  | subscribe (topicFilter : CString) (params : SubscribeParams) (env : Env)
  | unsubscribe (topicFilter : CString) (env : Env)
  | cycle (read : PacketRead) (env : Env)
  | pubInfoProc (env : Env)
  | subInfoProc (env : Env)
  | keepAlive (env : Env)
  | disconnect (env : Env)
  | handleDisconnect (env : Env)
  | sendConnect (options : ConnectParams) (netConnectRet : Int) (env : Env)
  | acceptConnack (env : Env)
  | closeNetwork
  | raiseReconnect
  | backOff (env : Env)
  | countDisconnect
  | scheduleReconnect (env : Env)

/-- What an act does. -/
def act (client : Client) : Act → Result
  | .publish topicName params env => uiotMqttPublish client topicName params env
  | .subscribe topicFilter params env => uiotMqttSubscribe client topicFilter params env
  | .unsubscribe topicFilter env => uiotMqttUnsubscribe client topicFilter env
  | .cycle read env => cycleForReadWith client read env
  | .pubInfoProc env => uiotMqttPubInfoProc client env
  | .subInfoProc env => uiotMqttSubInfoProc client env
  | .keepAlive env => mqttKeepAlive client env
  | .disconnect env => uiotMqttDisconnect client env 0
  | .handleDisconnect env => UIoT.Mqtt.handleDisconnect client env 0
  | .sendConnect options netConnectRet env =>
      UIoT.Mqtt.sendConnect client options netConnectRet env
  | .acceptConnack env => UIoT.Mqtt.acceptConnack client env
  | .closeNetwork => ⟨successRet, client, [.netDisconnect]⟩
  | .raiseReconnect => ⟨successRet, client, client.raise .reconnect 0⟩
  | .backOff env => UIoT.Mqtt.backOff client env
  | .countDisconnect =>
      ⟨successRet, { client with
        counterNetworkDisconnected := client.counterNetworkDisconnected + 1 }, []⟩
  | .scheduleReconnect env => ⟨successRet, UIoT.Mqtt.scheduleReconnect client env, []⟩

/-- A step of the machine. -/
def step (client : Client) (input : Act) : Client × List Output :=
  ((act client input).client, (act client input).outputs)

/-! ## The wait lists -/

/-- The part of a client that is about outstanding requests. -/
structure Waiting where
  pub : List PubInfo
  sub : List SubInfo
  nextPacketId : UInt16
  issued : Nat

def Client.waiting (client : Client) : Waiting :=
  ⟨client.listPubWaitAck, client.listSubWaitAck, client.nextPacketId, client.issued⟩

def PubInfo.ticket (repubInfo : PubInfo) : Ticket :=
  ⟨repubInfo.issue, repubInfo.msgId.toNat, repubInfo.nodeState = .normal⟩

def SubInfo.ticket (subInfo : SubInfo) : Ticket :=
  ⟨subInfo.issue, subInfo.msgId.toNat, subInfo.nodeState = .normal⟩

def Waiting.pubTickets (waiting : Waiting) : List Ticket := waiting.pub.map PubInfo.ticket

def Waiting.subTickets (waiting : Waiting) : List Ticket := waiting.sub.map SubInfo.ticket

/-- The id `get_next_packet_id` gives out next. -/
def nextId (nextPacketId : UInt16) : UInt16 :=
  if maxPacketId = nextPacketId then 1 else nextPacketId + 1

/-- Entries are settled and removed, and no id is taken. -/
structure Waiting.Settles (before after : Waiting) : Prop where
  pub : Shrinks before.pubTickets after.pubTickets
  sub : Shrinks before.subTickets after.subTickets
  nextPacketId : after.nextPacketId = before.nextPacketId
  issued : after.issued = before.issued

/-- What an act can do to the wait lists. -/
inductive Waiting.Moves (before : Waiting) : Waiting → Prop where
  | settle {after : Waiting} (settles : before.Settles after) : Moves before after
  | take : Moves before
      { before with nextPacketId := nextId before.nextPacketId, issued := before.issued + 1 }
  | admitPub (timer : Timer) : Moves before
      { pub := before.pub ++ [⟨before.issued + 1, timer, .normal, nextId before.nextPacketId⟩]
        sub := before.sub
        nextPacketId := nextId before.nextPacketId
        issued := before.issued + 1 }
  | admitSub (type : MessageTypes) (timer : Timer) (handler : SubTopicHandle) : Moves before
      { pub := before.pub
        sub := before.sub ++
          [⟨before.issued + 1, type, nextId before.nextPacketId, timer, .normal, handler⟩]
        nextPacketId := nextId before.nextPacketId
        issued := before.issued + 1 }

theorem Waiting.Settles.refl (waiting : Waiting) : waiting.Settles waiting :=
  ⟨Shrinks.refl _, Shrinks.refl _, rfl, rfl⟩

theorem Waiting.Moves.refl (waiting : Waiting) : waiting.Moves waiting := .settle (.refl waiting)

/-- The numbers of the entries have been given out. -/
structure Waiting.Numbered (waiting : Waiting) : Prop where
  pub : ∀ entry ∈ waiting.pub, entry.issue ≤ waiting.issued
  sub : ∀ entry ∈ waiting.sub, entry.issue ≤ waiting.issued

/-! ## Frames -/

/-- The part of a client that connections leave alone. -/
structure Standing where
  waiting : Waiting
  subHandles : Vector SubTopicHandle maxSubTopics
  eventHandler : Bool
  writeBufSize : Nat
  readBufSize : Nat

def Client.standing (client : Client) : Standing :=
  ⟨client.waiting, client.subHandles, client.eventHandler, client.writeBufSize, client.readBufSize⟩

section Frames

variable (client : Client)

@[simp] theorem standing_store (packet : List UInt8) : (client.store packet).standing =
    client.standing := rfl

theorem standing_sendAnswer (packet : Except Int (List UInt8)) (env : Env) :
    (sendAnswer client packet env).client.standing = client.standing := by
  cases packet <;> rfl

theorem deliverMessage_client (memory : List UInt8) (len : Nat) (message : Message)
    (before : UInt8) : (deliverMessage client memory len message before).client = client := by
  unfold deliverMessage
  simp only
  split <;> rfl

theorem standing_handlePublishPacket (env : Env) :
    (handlePublishPacket client env).client.standing = client.standing := by
  unfold handlePublishPacket
  split
  · rfl
  · simp only
    split
    · rw [deliverMessage_client]
    · rw [standing_sendAnswer, deliverMessage_client]

theorem standing_handlePubrecPacket (env : Env) :
    (handlePubrecPacket client env).client.standing = client.standing := by
  unfold handlePubrecPacket
  split
  · rfl
  · rw [standing_sendAnswer]

theorem standing_notePing (packetType : MessageTypes) (env : Env) :
    (notePing client packetType env).standing = client.standing := by
  cases packetType <;> rfl

theorem standing_uiotMqttDisconnect (env : Env) (send : Nat) :
    (uiotMqttDisconnect client env send).client.standing = client.standing := by
  unfold uiotMqttDisconnect
  split
  · rfl
  · simp only
    split <;> rfl

theorem standing_handleDisconnect (env : Env) (send : Nat) :
    (handleDisconnect client env send).client.standing = client.standing := by
  have disconnects := standing_uiotMqttDisconnect client env send
  unfold handleDisconnect
  split
  · rfl
  · simp only
    split
    · exact disconnects
    · exact disconnects

theorem standing_mqttKeepAlive (env : Env) :
    (mqttKeepAlive client env).client.standing = client.standing := by
  unfold mqttKeepAlive
  simp only
  split
  · rfl
  · split
    · rfl
    · split
      · exact standing_handleDisconnect client env 0
      · split
        · rfl
        · split
          · exact standing_handleDisconnect _ env 4
          · rfl

theorem standing_sendConnect (options : ConnectParams) (netConnectRet : Int) (env : Env) :
    (sendConnect client options netConnectRet env).client.standing = client.standing := by
  unfold sendConnect
  simp only
  split
  · rfl
  · split <;> rfl

theorem standing_acceptConnack (env : Env) :
    (acceptConnack client env).client.standing = client.standing := by
  unfold acceptConnack
  split
  · rfl
  · split <;> rfl

theorem standing_backOff (env : Env) : (backOff client env).client.standing = client.standing := by
  unfold backOff
  simp only
  split <;> rfl

/-- An act that is about the connection only. -/
def Act.OnlyConnection : Act → Prop
  | .publish .. | .subscribe .. | .unsubscribe .. | .cycle .. | .pubInfoProc _ | .subInfoProc _ =>
      False
  | _ => True

theorem step_standing (input : Act) (onlyConnection : input.OnlyConnection) :
    (step client input).1.standing = client.standing := by
  cases input with
  | publish | subscribe | unsubscribe | cycle | pubInfoProc | subInfoProc =>
      exact onlyConnection.elim
  | keepAlive env => exact standing_mqttKeepAlive client env
  | disconnect env => exact standing_uiotMqttDisconnect client env 0
  | handleDisconnect env => exact standing_handleDisconnect client env 0
  | sendConnect options netConnectRet env =>
      exact standing_sendConnect client options netConnectRet env
  | acceptConnack env => exact standing_acceptConnack client env
  | backOff env => exact standing_backOff client env
  | closeNetwork | raiseReconnect | countDisconnect | scheduleReconnect => rfl

variable {client}

theorem waiting_of_standing {client' : Client} (same : client'.standing = client.standing) :
    client'.waiting = client.waiting :=
  congrArg Standing.waiting same

theorem subHandles_of_standing {client' : Client} (same : client'.standing = client.standing) :
    client'.subHandles = client.subHandles :=
  congrArg Standing.subHandles same

theorem settles_of_standing {client' : Client} (same : client'.standing = client.standing) :
    client.waiting.Settles client'.waiting := by
  rw [waiting_of_standing same]
  exact .refl _

end Frames

/-! ## Moves -/

section Moves

variable {client : Client}

/-- Marking an entry settles its ticket. -/
theorem PubInfo.ticket_mask (msgId : UInt16) (repubInfo : PubInfo) :
    (repubInfo.mask msgId).ticket =
      if decide (repubInfo.ticket.id = msgId.toNat) then { repubInfo.ticket with pending := false }
      else repubInfo.ticket := by
  by_cases same : repubInfo.msgId = msgId
  · simp [PubInfo.mask, PubInfo.ticket, same]
  · simp [PubInfo.mask, PubInfo.ticket, same, UInt16.toNat_inj]

theorem SubInfo.ticket_mask (msgId : UInt16) (subInfo : SubInfo) :
    (subInfo.mask msgId).ticket =
      if decide (subInfo.ticket.id = msgId.toNat) then { subInfo.ticket with pending := false }
      else subInfo.ticket := by
  by_cases same : subInfo.msgId = msgId
  · simp [SubInfo.mask, SubInfo.ticket, same]
  · simp [SubInfo.mask, SubInfo.ticket, same, UInt16.toNat_inj]

/-- Marking the entries with an id settles tickets. -/
theorem maskPubInfoFrom_settles (msgId : UInt16) (env : Env) (alloc : Nat) :
    client.waiting.Settles (maskPubInfoFrom client msgId env alloc).waiting := by
  unfold maskPubInfoFrom
  split
  · refine ⟨?_, Shrinks.refl _, rfl, rfl⟩
    have settled := Shrinks.of_map (fun ticket => decide (ticket.id = msgId.toNat))
      client.waiting.pubTickets
    rw [Waiting.pubTickets, List.map_map] at settled
    change Shrinks _ ((client.listPubWaitAck.map (PubInfo.mask msgId)).map PubInfo.ticket)
    rw [List.map_map]
    have same : PubInfo.ticket ∘ PubInfo.mask msgId = _ :=
      funext fun repubInfo => repubInfo.ticket_mask msgId
    rwa [same]
  · exact .refl _

theorem maskSubInfoFrom_settles (msgId : UInt16) (env : Env) (alloc : Nat) :
    client.waiting.Settles (maskSubInfoFrom client msgId env alloc).2.waiting := by
  unfold maskSubInfoFrom
  split
  · refine ⟨Shrinks.refl _, ?_, rfl, rfl⟩
    have settled := Shrinks.of_map (fun ticket => decide (ticket.id = msgId.toNat))
      client.waiting.subTickets
    rw [Waiting.subTickets, List.map_map] at settled
    change Shrinks _ ((client.listSubWaitAck.map (SubInfo.mask msgId)).map SubInfo.ticket)
    rw [List.map_map]
    have same : SubInfo.ticket ∘ SubInfo.mask msgId = _ :=
      funext fun subInfo => subInfo.ticket_mask msgId
    rwa [same]
  · exact .refl _

theorem handlePubackPacket_settles (env : Env) :
    client.waiting.Settles (handlePubackPacket client env).client.waiting := by
  unfold handlePubackPacket
  split
  · exact .refl _
  · exact maskPubInfoFrom_settles _ env 0

theorem handleSubackPacket_waiting (client : Client) (env : Env) :
    (handleSubackPacket client env).client.waiting = client.waiting ∨
      ∃ packetId, (handleSubackPacket client env).client.waiting =
        (maskSubInfoFrom client packetId env 0).2.waiting := by
  unfold handleSubackPacket
  split
  · exact .inl rfl
  · rename_i packetId grantedQoS _
    refine .inr ⟨packetId, ?_⟩
    simp only
    split
    · rfl
    split
    · rfl
    split <;> rfl

theorem handleSubackPacket_settles (env : Env) :
    client.waiting.Settles (handleSubackPacket client env).client.waiting := by
  rcases handleSubackPacket_waiting client env with same | ⟨packetId, same⟩
  · rw [same]
    exact .refl _
  · rw [same]
    exact maskSubInfoFrom_settles packetId env 0

theorem handleUnsubackPacket_settles (env : Env) :
    client.waiting.Settles (handleUnsubackPacket client env).client.waiting := by
  unfold handleUnsubackPacket
  split
  · exact .refl _
  · exact maskSubInfoFrom_settles _ env 0

theorem dispatch_settles (client : Client) {packetType : MessageTypes} {env : Env} {handled : Result}
    (dispatched : dispatch client packetType env = some handled) :
    client.waiting.Settles handled.client.waiting := by
  cases packetType <;> simp only [dispatch, Option.some.injEq, reduceCtorEq] at dispatched
  case puback => exact dispatched ▸ handlePubackPacket_settles env
  case suback => exact dispatched ▸ handleSubackPacket_settles env
  case unsuback => exact dispatched ▸ handleUnsubackPacket_settles env
  case publish =>
    exact dispatched ▸ settles_of_standing (standing_handlePublishPacket client env)
  case pubrec =>
    exact dispatched ▸ settles_of_standing (standing_handlePubrecPacket client env)
  all_goals exact dispatched ▸ .refl _

theorem cycleForReadWith_settles (read : PacketRead) (env : Env) :
    client.waiting.Settles (cycleForReadWith client read env).client.waiting := by
  unfold cycleForReadWith
  simp only
  split
  · exact .refl _
  split
  · exact .refl _
  split
  · exact .refl _
  split
  · exact .refl _
  · rename_i handled dispatched
    rw [waiting_of_standing (standing_notePing _ _ env)]
    exact dispatch_settles { client with readBuf := read.readBuf } dispatched

theorem uiotMqttPublish_moves (topicName : CString) (params : PublishParams) (env : Env)
    (numbered : client.waiting.Numbered) :
    client.waiting.Moves (uiotMqttPublish client topicName params env).client.waiting := by
  obtain ⟨-, outcome⟩ := uiotMqttPublish_outcome topicName params env numbered.pub
  cases outcome with
  | untouched buf same => exact same ▸ .refl _
  | failed buf took => exact took ▸ .take
  | accepted id after =>
      obtain ⟨-, buf, timer, same⟩ := after
      exact same ▸ .admitPub timer

theorem uiotMqttSubscribe_moves (topicFilter : CString) (params : SubscribeParams) (env : Env)
    (numbered : client.waiting.Numbered) :
    client.waiting.Moves (uiotMqttSubscribe client topicFilter params env).client.waiting := by
  obtain ⟨-, outcome⟩ := uiotMqttSubscribe_outcome topicFilter params env numbered.sub
  cases outcome with
  | untouched buf same => exact same ▸ .refl _
  | failed buf took => exact took ▸ .take
  | accepted id after =>
      obtain ⟨-, buf, timer, same⟩ := after
      exact same ▸ .admitSub .subscribe timer _

theorem uiotMqttUnsubscribe_moves (topicFilter : CString) (env : Env)
    (numbered : client.waiting.Numbered) :
    client.waiting.Moves (uiotMqttUnsubscribe client topicFilter env).client.waiting := by
  obtain ⟨-, same | outcome⟩ := uiotMqttUnsubscribe_outcome topicFilter env numbered.sub
  · rw [same]
    exact .refl _
  · cases outcome with
    | untouched buf same => exact same ▸ .refl _
    | failed buf took => exact took ▸ .take
    | accepted id after =>
        obtain ⟨-, buf, timer, same⟩ := after
        exact same ▸ .admitSub .unsubscribe timer _

/-- An act that makes a request, and so may take an id. -/
def Act.IsRequest : Act → Prop
  | .publish .. | .subscribe .. | .unsubscribe .. => True
  | _ => False

/-- An act other than a request settles. -/
theorem step_settles (input : Act) (notRequest : ¬input.IsRequest) :
    client.waiting.Settles (step client input).1.waiting := by
  cases input with
  | publish | subscribe | unsubscribe => exact absurd trivial notRequest
  | cycle read env => exact cycleForReadWith_settles read env
  | pubInfoProc env =>
      rcases uiotMqttPubInfoProc_swept client env with same | ⟨kept, outputs, timedOut, same, swept⟩
      · simp only [step, act, same]
        exact .refl _
      · simp only [step, act, same]
        exact ⟨Shrinks.of_sublist (swept.keptSublist.map _), Shrinks.refl _, rfl, rfl⟩
  | subInfoProc env =>
      rcases uiotMqttSubInfoProc_swept client env with same | ⟨kept, outputs, timedOut, same, swept⟩
      · simp only [step, act, same]
        exact .refl _
      · simp only [step, act, same]
        exact ⟨Shrinks.refl _, Shrinks.of_sublist (swept.keptSublist.map _), rfl, rfl⟩
  | _ => exact settles_of_standing (step_standing client _ trivial)

/-- Every act moves the wait lists. -/
theorem step_moves (input : Act) (numbered : client.waiting.Numbered) :
    client.waiting.Moves (step client input).1.waiting := by
  cases input with
  | publish topicName params env => exact uiotMqttPublish_moves topicName params env numbered
  | subscribe topicFilter params env => exact uiotMqttSubscribe_moves topicFilter params env numbered
  | unsubscribe topicFilter env => exact uiotMqttUnsubscribe_moves topicFilter env numbered
  | _ => exact .settle (step_settles _ id)

end Moves

/-! ## The desk behind the lists -/

/-- Both wait lists, as one desk of tickets. -/
def Waiting.desk (waiting : Waiting) : Desk :=
  ⟨waiting.issued, waiting.pubTickets ++ waiting.subTickets⟩

/-- The identifiers `get_next_packet_id` gives out. -/
abbrev packetIdOf : Nat → Nat := cyclicId maxPacketId.toNat

/-- The tickets are valid, and the next id is the one of the count. -/
structure Waiting.Valid (waiting : Waiting) : Prop where
  desk : waiting.desk.Valid packetIdOf
  counter : waiting.nextPacketId.toNat = packetIdOf waiting.issued

theorem Waiting.Valid.numbered {waiting : Waiting} (valid : waiting.Valid) : waiting.Numbered where
  pub entry among := by
    have isTicket : entry.ticket ∈ waiting.desk.tickets :=
      List.mem_append_left _ (List.mem_map_of_mem among)
    exact (valid.desk.bounds _ isTicket).2
  sub entry among := by
    have isTicket : entry.ticket ∈ waiting.desk.tickets :=
      List.mem_append_right _ (List.mem_map_of_mem among)
    exact (valid.desk.bounds _ isTicket).2

/-- The counter runs through the identifiers. -/
theorem nextId_toNat {nextPacketId : UInt16} {issued : Nat}
    (counter : nextPacketId.toNat = packetIdOf issued) :
    (nextId nextPacketId).toNat = packetIdOf (issued + 1) := by
  have period : maxPacketId.toNat = 65535 := rfl
  rw [packetIdOf, cyclicId_succ (by decide), ← packetIdOf, ← counter, nextId]
  by_cases last : maxPacketId = nextPacketId
  · rw [if_pos last, if_pos (by rw [← last])]
    rfl
  · have notLast : nextPacketId.toNat ≠ maxPacketId.toNat :=
      fun same => last (UInt16.toNat_inj.mp same.symm)
    have small := nextPacketId.toNat_lt
    rw [if_neg last, if_neg notLast, UInt16.toNat_add]
    have one : (1 : UInt16).toNat = 1 := rfl
    omega

/-- A move of the lists is a move of the desk. -/
theorem Waiting.Moves.desk {before after : Waiting} (moves : before.Moves after)
    (counter : before.nextPacketId.toNat = packetIdOf before.issued) :
    Move packetIdOf before.desk after.desk := by
  have next := nextId_toNat counter
  cases moves with
  | settle settles =>
      rw [Waiting.desk, Waiting.desk, settles.issued]
      exact .settle (settles.pub.append settles.sub)
  | take => exact .take
  | admitPub timer =>
      refine .enter ?_
      simp only [Waiting.pubTickets, Waiting.subTickets, List.map_append, List.map_cons,
        List.map_nil, PubInfo.ticket, next, List.append_assoc, List.singleton_append]
      exact List.perm_middle
  | admitSub type timer handler =>
      refine .enter ?_
      simp only [Waiting.pubTickets, Waiting.subTickets, List.map_append, List.map_cons,
        List.map_nil, SubInfo.ticket, next]
      rw [← List.append_assoc]
      exact List.perm_append_comm

theorem Waiting.Moves.valid {before after : Waiting} (moves : before.Moves after)
    (valid : before.Valid) : after.Valid := by
  refine ⟨(moves.desk valid.counter).valid valid.desk, ?_⟩
  have next := nextId_toNat valid.counter
  cases moves with
  | settle settles => rw [settles.nextPacketId, settles.issued, valid.counter]
  | take | admitPub | admitSub => exact next

/-- A client that has just been initialised has nothing outstanding. -/
theorem uiotMqttInit_valid (params : InitParams) : (uiotMqttInit params).waiting.Valid := by
  refine ⟨⟨?_, ?_, ?_⟩, rfl⟩
  · intro ticket among
    cases among
  · intro ticket among
    cases among
  · exact List.nodup_nil

/-- The tickets are valid in every state that a run reaches. -/
theorem run_valid (params : InitParams) (inputs : List Act) :
    (run step (uiotMqttInit params) inputs).1.waiting.Valid :=
  ((along_true step (uiotMqttInit params) inputs).invariant
    (fun client => client.waiting.Valid) (uiotMqttInit_valid params)
    fun _ input valid _ => (step_moves input valid.numbered).valid valid).2

/-! ## The API as runs of acts -/

/-- Some run of acts takes the client to another with these outputs. -/
abbrev Steps (client client' : Client) (outputs : List Output) : Prop :=
  Reaches step client client' outputs

theorem Steps.one (client : Client) (input : Act) :
    Steps client (act client input).client (act client input).outputs :=
  Reaches.one client input

section Api

variable (client : Client)

theorem waitForRead_steps (packetType : MessageTypes) (readPacketType : Nat)
    (reads : List (PacketRead × Env)) :
    let waited := waitForRead packetType client readPacketType reads
    Steps client waited.client waited.outputs := by
  induction reads generalizing client readPacketType with
  | nil => exact .refl client
  | cons head reads inductionHypothesis =>
      obtain ⟨read, env⟩ := head
      have cycle := Steps.one client (.cycle read env)
      simp only [waitForRead]
      split
      · exact cycle.trans (inductionHypothesis _ _)
      · exact cycle

theorem mqttConnect_steps (options : ConnectParams) (world : ConnectEnv) :
    let connected := mqttConnect client options world
    Steps client connected.client connected.outputs := by
  intro connected
  have sent := Steps.one client (.sendConnect options world.netConnectRet world.env)
  simp only [connected, mqttConnect]
  split
  · exact sent
  · have waited := waitForRead_steps
      (sendConnect client options world.netConnectRet world.env).client .connack 0 world.reads
    split
    · exact sent.trans waited
    · exact (sent.trans waited).trans (Steps.one _ (.acceptConnack world.env))

theorem uiotMqttConnect_steps (params : ConnectParams) (world : ConnectEnv) :
    let connected := uiotMqttConnect client params world
    Steps client connected.client connected.outputs := by
  intro connected
  have made := mqttConnect_steps client params world
  simp only [connected, uiotMqttConnect]
  split
  · exact .refl client
  · split
    · exact made.trans (Steps.one _ .closeNetwork)
    · exact made

theorem resubscribeLoop_steps (envs : Nat → Env) (slots : List (Fin maxSubTopics)) :
    let resubscribed := resubscribeLoop envs client slots
    Steps client resubscribed.client resubscribed.outputs := by
  induction slots generalizing client with
  | nil => exact .refl client
  | cons itr slots inductionHypothesis =>
      simp only [resubscribeLoop]
      split
      · exact inductionHypothesis client
      · rename_i topic _
        have subscribed := Steps.one client (.subscribe topic
          ⟨(client.subHandles.get itr).qos, (client.subHandles.get itr).messageHandler,
            (client.subHandles.get itr).messageHandlerData⟩ (envs itr))
        split
        · exact subscribed
        · exact subscribed.trans (inductionHypothesis _)

theorem uiotMqttResubscribe_steps (envs : Nat → Env) :
    let resubscribed := uiotMqttResubscribe client envs
    Steps client resubscribed.client resubscribed.outputs := by
  intro resubscribed
  simp only [resubscribed, uiotMqttResubscribe]
  split
  · exact .refl client
  · exact resubscribeLoop_steps client envs _

theorem uiotMqttAttemptReconnect_steps (world : ReconnectEnv) :
    let attempted := uiotMqttAttemptReconnect client world
    Steps client attempted.client attempted.outputs := by
  intro attempted
  have connected := uiotMqttConnect_steps client client.options world.connect
  have resubscribed := uiotMqttResubscribe_steps
    (uiotMqttConnect client client.options world.connect).client world.subscribe
  simp only [attempted, uiotMqttAttemptReconnect]
  split
  · exact .refl client
  · split
    · exact connected
    · split
      · exact connected.trans resubscribed
      · exact connected.trans resubscribed

theorem handleReconnect_steps (world : ReconnectEnv) :
    let reconnected := handleReconnect client world
    Steps client reconnected.client reconnected.outputs := by
  intro reconnected
  have attempted := uiotMqttAttemptReconnect_steps client world
  simp only [reconnected, handleReconnect]
  split
  · exact .refl client
  · split
    · exact attempted.trans (Steps.one _ .raiseReconnect)
    · exact attempted.trans (Steps.one _ (.backOff world.env))

theorem afterCycle_steps (ret : Int) (world : PassEnv) :
    let after := afterCycle client ret world
    Steps client after.client after.outputs := by
  intro after
  simp only [after, afterCycle]
  split
  · exact ((Steps.one client (.pubInfoProc world.pubInfoProc)).trans
      (Steps.one _ (.subInfoProc world.subInfoProc))).trans
        (Steps.one _ (.keepAlive world.keepAlive))
  split
  · exact Steps.one client (.handleDisconnect world.disconnect)
  split <;> exact .refl client

theorem endOfPass_steps (ret : Int) (env : Env) : Steps client (endOfPass client ret env).2.2 [] := by
  have counted := Steps.one client .countDisconnect
  unfold endOfPass
  split
  · simp only
    split
    · exact counted.trans (Steps.one _ (.scheduleReconnect env))
    · exact counted
  · exact .refl client

theorem readPassWith_steps (read : PacketRead) (world : PassEnv) :
    let pass := (readPassWith client read world).2
    Steps client pass.client pass.outputs := by
  intro pass
  have cycle := Steps.one client (.cycle read world.cycle)
  have after := afterCycle_steps (cycleForReadWith client read world.cycle).client
    (cycleForReadWith client read world.cycle).ret world
  have ended := (cycle.trans after).trans
    (endOfPass_steps _ (afterCycle (cycleForReadWith client read world.cycle).client
      (cycleForReadWith client read world.cycle).ret world).ret world.env)
  rwa [List.append_nil] at ended

variable {σ : Type} (net : NetworkStack σ)

theorem yieldPass_steps (s : σ) (world : PassEnv) :
    let pass := (yieldPass net client s world).2.1
    Steps client pass.client pass.outputs := by
  intro pass
  simp only [pass, yieldPass]
  split
  · split
    · exact .refl client
    · exact handleReconnect_steps client world.reconnect
  · exact readPassWith_steps client _ world

theorem yieldLoop_steps (ret : Int) (s : σ) (worlds : List PassEnv) :
    let yielded := (yieldLoop net client ret s worlds).1
    Steps client yielded.client yielded.outputs := by
  induction worlds generalizing client ret s with
  | nil => exact .refl client
  | cons world worlds inductionHypothesis =>
      have pass := yieldPass_steps client net s world
      simp only [yieldLoop]
      split
      · exact pass.trans (inductionHypothesis _ _ _)
      · exact pass

/-- A yield is a run of acts. -/
theorem uiotMqttYield_steps (timeoutMs : UInt32) (s : σ) (worlds : List PassEnv) :
    let yielded := (uiotMqttYield net client timeoutMs s worlds).1
    Steps client yielded.client yielded.outputs := by
  intro yielded
  simp only [yielded, uiotMqttYield]
  split
  · exact .refl client
  split
  · exact .refl client
  split
  · exact .refl client
  · exact yieldLoop_steps client net successRet s worlds

end Api

end UIoT.Mqtt
