import UIoT.Mqtt.Machine

/-!
# Which acts raise which events

Events about requests come from two places only: a cycle that processes an
acknowledgement (`cycle_of_puback`, `cycle_of_suback`, `cycle_of_unsuback`), and
the two sweeps. No other act raises one (`step_noAckEvent`,
`cycle_of_ackIn_none`).

A request stays pending until its entry is marked or removed. What a step takes
out of the pending requests of a list stays out of them, so that numbers
emitted on the way are emitted once (`fresh_pendingPub`, `fresh_pendingSub`).
-/

set_option autoImplicit false

namespace UIoT.Mqtt

open Tickets Runs

/-! ## Acknowledgements -/

/-- The well-formed acknowledgement in a packet that has been read: the type of
the request it answers and its id. -/
def ackIn (readBufSize : Nat) (read : PacketRead) : Option (MessageTypes × UInt16) :=
  if read.ret = successRet then
    match MessageTypes.ofHeader (read.packetType.getD 0) with
    | some .puback =>
        (deserializeAckPacket read.readBuf readBufSize).toOption.map fun ack =>
          (.publish, ack.packetId)
    | some .suback =>
        (deserializeSubackPacket 1 read.readBuf readBufSize).toOption.map fun ack =>
          (.subscribe, ack.1)
    | some .unsuback =>
        (deserializeUnsubackPacket read.readBuf readBufSize).toOption.map fun packetId =>
          (.unsubscribe, packetId)
    | _ => none
  else none

/-- The acknowledgement that an act processes. -/
def Act.ackOf (client : Client) : Act → Option (MessageTypes × UInt16)
  | .cycle read _ => ackIn client.readBufSize read
  | _ => none

/-! ## Events -/

/-- The events about publications. -/
def isPubEvent : Output → Bool
  | .event .publishSuccess _ | .event .publishTimeout _ => true
  | _ => false

/-- The events about subscriptions and unsubscriptions. -/
def isSubEvent : Output → Bool
  | .event .subscribeSuccess _ | .event .subscribeNack _ | .event .subscribeTimeout _
  | .event .unsubscribeSuccess _ | .event .unsubscribeNack _ | .event .unsubscribeTimeout _ => true
  | _ => false

/-- No event about a request. -/
def NoAckEvent (outputs : List Output) : Prop :=
  ∀ output ∈ outputs, isPubEvent output = false ∧ isSubEvent output = false

theorem NoAckEvent.nil : NoAckEvent [] := fun _ among => nomatch among

theorem NoAckEvent.append {first second : List Output} (none : NoAckEvent first)
    (none' : NoAckEvent second) : NoAckEvent (first ++ second) := fun output among =>
  (List.mem_append.mp among).elim (none output) (none' output)

theorem WireOnly.noAckEvent {outputs : List Output} (wires : WireOnly outputs) :
    NoAckEvent outputs := by
  intro output among
  obtain ⟨bytes, rfl⟩ := wires output among
  exact ⟨rfl, rfl⟩

theorem NoAckEvent.filter_pub {outputs : List Output} (none : NoAckEvent outputs) :
    outputs.filter isPubEvent = [] :=
  List.filter_eq_nil_iff.mpr fun output among => by simp [(none output among).1]

theorem noAckEvent_raise_connection (client : Client) :
    NoAckEvent (client.raise .disconnect 0) ∧ NoAckEvent (client.raise .reconnect 0) := by
  by_cases hears : client.eventHandler <;> simp [Client.raise, hears, NoAckEvent, isPubEvent, isSubEvent]

section Quiet

variable (client : Client) (env : Env)

theorem noAckEvent_sendAnswer (packet : Except Int (List UInt8)) :
    NoAckEvent (sendAnswer client packet env).outputs := by
  cases packet with
  | error ret => exact .nil
  | ok packet => exact (wireOnly_sendMqttPacket _ _ _).noAckEvent

theorem noAckEvent_deliverMessage (memory : List UInt8) (len : Nat) (message : Message)
    (before : UInt8) : NoAckEvent (deliverMessage client memory len message before).outputs := by
  unfold deliverMessage
  simp only
  split
  · intro output among
    rw [List.mem_singleton.mp among]
    exact ⟨rfl, rfl⟩
  · by_cases hears : client.eventHandler <;> simp [hears, NoAckEvent, isPubEvent, isSubEvent]

theorem noAckEvent_handlePublishPacket : NoAckEvent (handlePublishPacket client env).outputs := by
  unfold handlePublishPacket
  split
  · exact .nil
  · simp only
    split
    · exact noAckEvent_deliverMessage client _ _ _ _
    · exact (noAckEvent_deliverMessage client _ _ _ _).append (noAckEvent_sendAnswer _ _ _)

theorem noAckEvent_handlePubrecPacket : NoAckEvent (handlePubrecPacket client env).outputs := by
  unfold handlePubrecPacket
  split
  · exact .nil
  · exact noAckEvent_sendAnswer client env _

theorem noAckEvent_uiotMqttDisconnect (send : Nat) :
    NoAckEvent (uiotMqttDisconnect client env send).outputs := by
  have closed : NoAckEvent [.netDisconnect] := by simp [NoAckEvent, isPubEvent, isSubEvent]
  unfold uiotMqttDisconnect
  split
  · exact .nil
  · simp only
    split
    · exact NoAckEvent.nil.append closed
    · exact (wireOnly_sendMqttPacket _ _ _).noAckEvent.append closed

theorem noAckEvent_handleDisconnect (send : Nat) :
    NoAckEvent (handleDisconnect client env send).outputs := by
  have closed : NoAckEvent [.netDisconnect] := by simp [NoAckEvent, isPubEvent, isSubEvent]
  have disconnects := noAckEvent_uiotMqttDisconnect client env send
  unfold handleDisconnect
  split
  · exact .nil
  · simp only
    split
    · exact (disconnects.append closed).append (noAckEvent_raise_connection _).1
    · exact disconnects.append (noAckEvent_raise_connection _).1

theorem noAckEvent_sendPing (length tries send : Nat) :
    NoAckEvent (sendPing client length env tries send).2 := by
  induction tries generalizing send with
  | zero =>
      unfold sendPing
      simp only
      split <;> exact (wireOnly_sendMqttPacket _ _ _).noAckEvent
  | succ tries inductionHypothesis =>
      unfold sendPing
      simp only
      split
      · exact (wireOnly_sendMqttPacket _ _ _).noAckEvent
      · exact (wireOnly_sendMqttPacket _ _ _).noAckEvent.append (inductionHypothesis _)

theorem noAckEvent_mqttKeepAlive : NoAckEvent (mqttKeepAlive client env).outputs := by
  unfold mqttKeepAlive
  simp only
  split
  · exact .nil
  split
  · exact .nil
  split
  · exact noAckEvent_handleDisconnect client env 0
  split
  · exact .nil
  split
  · exact (noAckEvent_sendPing _ _ _ _ _).append (noAckEvent_handleDisconnect _ env 4)
  · exact noAckEvent_sendPing _ _ _ _ _

theorem noAckEvent_sendConnect (options : ConnectParams) (netConnectRet : Int) :
    NoAckEvent (sendConnect client options netConnectRet env).outputs := by
  have opened : NoAckEvent [.netConnect] := by simp [NoAckEvent, isPubEvent, isSubEvent]
  unfold sendConnect
  simp only
  split
  · exact .nil
  split
  · exact opened
  · exact opened.append (wireOnly_sendMqttPacket _ _ _).noAckEvent

theorem noAckEvent_acceptConnack : NoAckEvent (acceptConnack client env).outputs := by
  unfold acceptConnack
  split
  · exact .nil
  · split <;> exact .nil

theorem noAckEvent_backOff : NoAckEvent (backOff client env).outputs := by
  unfold backOff
  simp only
  split <;> exact .nil

end Quiet

/-! ## What a cycle does with an acknowledgement -/

section Cycle

variable {client : Client} {read : PacketRead} {packetId : UInt16} (env : Env)

/-- A cycle that reads no packet does nothing but keep the buffer. -/
theorem cycleForReadWith_of_failed (failed : read.ret ≠ successRet) :
    (cycleForReadWith client read env).client = { client with readBuf := read.readBuf } ∧
      (cycleForReadWith client read env).outputs = [] := by
  unfold cycleForReadWith
  simp only [if_pos failed]
  split <;> exact ⟨rfl, rfl⟩

/-- A cycle that reads a packet dispatches it. -/
theorem cycleForReadWith_of_type {packetType : MessageTypes} (success : read.ret = successRet)
    (isType : MessageTypes.ofHeader (read.packetType.getD 0) = some packetType) :
    cycleForReadWith client read env =
      match dispatch { client with readBuf := read.readBuf } packetType env with
      | none =>
          ⟨errMqttRxMessagePacketTypeInvalid, { client with readBuf := read.readBuf }, []⟩
      | some handled => { handled with client := notePing handled.client packetType env } := by
  have somethingRead : successRet ≠ errMqttNothingToRead := by decide
  unfold cycleForReadWith
  rw [if_neg (success ▸ somethingRead), if_neg (not_not.mpr success)]
  split
  · rename_i noType
    cases noType.symm.trans isType
  · rename_i other isOther
    obtain rfl := Option.some.inj (isOther.symm.trans isType)
    rfl

/-- Nothing about requests and subscriptions happens. -/
structure Quiet (client : Client) (result : Result) : Prop where
  waiting : result.client.waiting = client.waiting
  subHandles : result.client.subHandles = client.subHandles
  noEvent : NoAckEvent result.outputs

/-- A packet that is no acknowledgement is dispatched quietly. -/
theorem dispatch_quiet {packetType : MessageTypes} {handled : Result}
    (dispatched : dispatch client packetType env = some handled)
    (noPuback : packetType = .puback →
      ∃ ret, deserializeAckPacket client.readBuf client.readBufSize = .error ret)
    (noSuback : packetType = .suback →
      ∃ ret, deserializeSubackPacket 1 client.readBuf client.readBufSize = .error ret)
    (noUnsuback : packetType = .unsuback →
      ∃ ret, deserializeUnsubackPacket client.readBuf client.readBufSize = .error ret) :
    Quiet client handled := by
  have silent : ∀ ret, Quiet client ⟨ret, client, []⟩ := fun _ => ⟨rfl, rfl, .nil⟩
  cases packetType <;> simp only [dispatch, Option.some.injEq, reduceCtorEq] at dispatched
  case puback =>
    obtain ⟨ret, malformed⟩ := noPuback rfl
    rw [handlePubackPacket, malformed] at dispatched
    exact dispatched ▸ silent ret
  case suback =>
    obtain ⟨ret, malformed⟩ := noSuback rfl
    rw [handleSubackPacket, malformed] at dispatched
    exact dispatched ▸ silent ret
  case unsuback =>
    obtain ⟨ret, malformed⟩ := noUnsuback rfl
    rw [handleUnsubackPacket, malformed] at dispatched
    exact dispatched ▸ silent ret
  case publish =>
    have standing := standing_handlePublishPacket client env
    exact dispatched ▸ ⟨waiting_of_standing standing, subHandles_of_standing standing,
      noAckEvent_handlePublishPacket client env⟩
  case pubrec =>
    have standing := standing_handlePubrecPacket client env
    exact dispatched ▸ ⟨waiting_of_standing standing, subHandles_of_standing standing,
      noAckEvent_handlePubrecPacket client env⟩
  all_goals exact dispatched ▸ silent successRet

/-- What a packet without an acknowledgement in it is not. -/
theorem malformed_of_ackIn_none {bufSize : Nat} (noAck : ackIn bufSize read = none)
    (success : read.ret = successRet) :
    (MessageTypes.ofHeader (read.packetType.getD 0) = some .puback →
        ∃ ret, deserializeAckPacket read.readBuf bufSize = .error ret) ∧
      (MessageTypes.ofHeader (read.packetType.getD 0) = some .suback →
        ∃ ret, deserializeSubackPacket 1 read.readBuf bufSize = .error ret) ∧
      (MessageTypes.ofHeader (read.packetType.getD 0) = some .unsuback →
        ∃ ret, deserializeUnsubackPacket read.readBuf bufSize = .error ret) := by
  rw [ackIn, if_pos success] at noAck
  refine ⟨fun isType => ?_, fun isType => ?_, fun isType => ?_⟩ <;> simp only [isType] at noAck
  · cases parsed : deserializeAckPacket read.readBuf bufSize with
    | error ret => exact ⟨ret, rfl⟩
    | ok ack => simp [parsed, Except.toOption] at noAck
  · cases parsed : deserializeSubackPacket 1 read.readBuf bufSize with
    | error ret => exact ⟨ret, rfl⟩
    | ok ack => simp [parsed, Except.toOption] at noAck
  · cases parsed : deserializeUnsubackPacket read.readBuf bufSize with
    | error ret => exact ⟨ret, rfl⟩
    | ok ack => simp [parsed, Except.toOption] at noAck

/-- A cycle that processes no acknowledgement leaves requests and slots alone. -/
theorem cycle_of_ackIn_none (noAck : ackIn client.readBufSize read = none) :
    Quiet client (cycleForReadWith client read env) := by
  by_cases success : read.ret = successRet
  · cases isType : MessageTypes.ofHeader (read.packetType.getD 0) with
    | none =>
        have somethingRead : successRet ≠ errMqttNothingToRead := by decide
        simp only [cycleForReadWith, success, isType, if_neg somethingRead, ne_eq,
          not_true_eq_false, if_false]
        exact ⟨rfl, rfl, .nil⟩
    | some packetType =>
        obtain ⟨noPuback, noSuback, noUnsuback⟩ := malformed_of_ackIn_none noAck success
        rw [isType] at noPuback noSuback noUnsuback
        rw [cycleForReadWith_of_type env success isType]
        split
        · exact ⟨rfl, rfl, .nil⟩
        · rename_i handled dispatched
          have quiet := dispatch_quiet env dispatched (fun same => noPuback (congrArg some same))
            (fun same => noSuback (congrArg some same)) (fun same => noUnsuback (congrArg some same))
          have standing := standing_notePing handled.client packetType env
          exact ⟨(waiting_of_standing standing).trans quiet.waiting,
            (subHandles_of_standing standing).trans quiet.subHandles, quiet.noEvent⟩
  · obtain ⟨same, silent⟩ := @cycleForReadWith_of_failed client read env success
    refine ⟨?_, ?_, ?_⟩
    · rw [same]
      rfl
    · rw [same]
    · rw [silent]
      exact .nil

/-- The packet behind an acknowledgement. -/
theorem ackIn_eq_some {bufSize : Nat} {type : MessageTypes}
    (ack : ackIn bufSize read = some (type, packetId)) :
    read.ret = successRet ∧
      ((type = .publish ∧ MessageTypes.ofHeader (read.packetType.getD 0) = some .puback ∧
          ∃ packet, deserializeAckPacket read.readBuf bufSize = .ok packet ∧
            packet.packetId = packetId) ∨
        (type = .subscribe ∧ MessageTypes.ofHeader (read.packetType.getD 0) = some .suback ∧
          ∃ grantedQoS, deserializeSubackPacket 1 read.readBuf bufSize = .ok (packetId, grantedQoS)) ∨
        (type = .unsubscribe ∧ MessageTypes.ofHeader (read.packetType.getD 0) = some .unsuback ∧
          deserializeUnsubackPacket read.readBuf bufSize = .ok packetId)) := by
  unfold ackIn at ack
  split at ack
  · rename_i success
    refine ⟨success, ?_⟩
    split at ack
    · rename_i isType
      cases parsed : deserializeAckPacket read.readBuf bufSize with
      | error ret => simp [parsed, Except.toOption] at ack
      | ok packet =>
          obtain ⟨rfl, rfl⟩ : MessageTypes.publish = type ∧ packet.packetId = packetId := by
            simpa [parsed, Except.toOption] using ack
          exact .inl ⟨rfl, isType, packet, rfl, rfl⟩
    · rename_i isType
      cases parsed : deserializeSubackPacket 1 read.readBuf bufSize with
      | error ret => simp [parsed, Except.toOption] at ack
      | ok packet =>
          obtain ⟨rfl, rfl⟩ : MessageTypes.subscribe = type ∧ packet.1 = packetId := by
            simpa [parsed, Except.toOption] using ack
          exact .inr (.inl ⟨rfl, isType, packet.2, rfl⟩)
    · rename_i isType
      cases parsed : deserializeUnsubackPacket read.readBuf bufSize with
      | error ret => simp [parsed, Except.toOption] at ack
      | ok packet =>
          obtain ⟨rfl, rfl⟩ : MessageTypes.unsubscribe = type ∧ packet = packetId := by
            simpa [parsed, Except.toOption] using ack
          exact .inr (.inr ⟨rfl, isType, rfl⟩)
    · cases ack
  · cases ack

theorem ackIn_type {bufSize : Nat} {type : MessageTypes}
    (ack : ackIn bufSize read = some (type, packetId)) :
    type = .publish ∨ type = .subscribe ∨ type = .unsubscribe := by
  obtain ⟨-, ⟨same, -⟩ | ⟨same, -⟩ | ⟨same, -⟩⟩ := ackIn_eq_some ack
  · exact .inl same
  · exact .inr (.inl same)
  · exact .inr (.inr same)

/-- A PUBACK marks the entries with its id, and its event is raised whatever
the mark has met. -/
theorem cycle_of_puback (ack : ackIn client.readBufSize read = some (.publish, packetId)) :
    let result := cycleForReadWith client read env
    result.client.waiting = (maskPubInfoFrom client packetId env 0).waiting ∧
      result.client.subHandles = client.subHandles ∧
      result.outputs = client.raise .publishSuccess packetId := by
  intro result
  obtain ⟨success, ⟨-, isType, packet, parsed, rfl⟩ | ⟨wrong, -⟩ | ⟨wrong, -⟩⟩ := ackIn_eq_some ack
  · simp only [result, cycleForReadWith_of_type env success isType, dispatch, handlePubackPacket,
      parsed, waiting_of_standing (standing_notePing _ _ _),
      subHandles_of_standing (standing_notePing _ _ _)]
    unfold maskPubInfoFrom
    split <;> exact ⟨rfl, rfl, rfl⟩
  · cases wrong
  · cases wrong

/-- The first entry that `_mask_sub_info_from` finds under an id. -/
def subEntryOf (client : Client) (packetId : UInt16) : Option SubInfo :=
  client.listSubWaitAck.find? (·.msgId = packetId)

/-- A SUBACK marks the entries with its id; the slots change and an event is
raised only with the handle of the first such entry. -/
theorem cycle_of_suback (ack : ackIn client.readBufSize read = some (.subscribe, packetId)) :
    let result := cycleForReadWith client read env
    let masked := maskSubInfoFrom client packetId env 0
    result.client.waiting = masked.2.waiting ∧
      (masked.1 = none → result.client.subHandles = client.subHandles ∧ result.outputs = []) ∧
      (result.client.subHandles = client.subHandles ∨
        ∃ handle, masked.1 = some handle ∧
          addSubHandle client.subHandles handle = some result.client.subHandles) ∧
      (result.outputs = [] ∨ result.outputs = client.raise .subscribeNack packetId ∨
        result.outputs = client.raise .subscribeSuccess packetId) := by
  intro result masked
  obtain ⟨success, ⟨wrong, -⟩ | ⟨-, isType, grantedQoS, parsed⟩ | ⟨wrong, -⟩⟩ := ackIn_eq_some ack
  · cases wrong
  · have sameMask : ∀ buf, maskSubInfoFrom { client with readBuf := buf } packetId env 0 =
        (masked.1, { masked.2 with readBuf := buf }) := by
      intro buf
      simp only [masked, maskSubInfoFrom]
      split <;> rfl
    have heard : masked.2.eventHandler = client.eventHandler ∧
        masked.2.subHandles = client.subHandles := by
      simp only [masked, maskSubInfoFrom]
      split <;> exact ⟨rfl, rfl⟩
    simp only [result, cycleForReadWith_of_type env success isType, dispatch, handleSubackPacket,
      parsed, sameMask, waiting_of_standing (standing_notePing _ _ _),
      subHandles_of_standing (standing_notePing _ _ _), Client.raise, heard.1]
    split
    · exact ⟨rfl, fun _ => ⟨heard.2, rfl⟩, .inl heard.2, .inl rfl⟩
    · rename_i found
      obtain ⟨handle, isHandle⟩ : ∃ handle, masked.1 = some handle :=
        Option.ne_none_iff_exists'.mp fun none => found (by rw [none]; rfl)
      have notNone : masked.1 ≠ none := fun none => Option.some_ne_none _ (isHandle.symm.trans none)
      split
      · exact ⟨rfl, fun none => absurd none notNone, .inl heard.2, .inr (.inl rfl)⟩
      · split
        · exact ⟨rfl, fun none => absurd none notNone, .inl heard.2, .inl rfl⟩
        · rename_i slots added
          rw [heard.2, isHandle] at added
          exact ⟨rfl, fun none => absurd none notNone, .inr ⟨handle, isHandle, added⟩, .inr (.inr rfl)⟩
  · cases wrong

/-- An UNSUBACK marks the entries with its id, and its event is raised whatever
the mark has met. -/
theorem cycle_of_unsuback (ack : ackIn client.readBufSize read = some (.unsubscribe, packetId)) :
    let result := cycleForReadWith client read env
    result.client.waiting = (maskSubInfoFrom client packetId env 0).2.waiting ∧
      result.client.subHandles = client.subHandles ∧
      result.outputs = client.raise .unsubscribeSuccess packetId := by
  intro result
  obtain ⟨success, ⟨wrong, -⟩ | ⟨wrong, -⟩ | ⟨-, isType, parsed⟩⟩ := ackIn_eq_some ack
  · cases wrong
  · cases wrong
  · simp only [result, cycleForReadWith_of_type env success isType, dispatch, handleUnsubackPacket,
      parsed, waiting_of_standing (standing_notePing _ _ _),
      subHandles_of_standing (standing_notePing _ _ _)]
    unfold maskSubInfoFrom
    split <;> exact ⟨rfl, rfl, rfl⟩

end Cycle

/-! ## Acts without acknowledgements -/

/-- An act that reads no packet and sweeps no list. -/
def Act.AnswersNone : Act → Prop
  | .cycle .. | .pubInfoProc _ | .subInfoProc _ => False
  | _ => True

section Step

variable {client : Client}

theorem step_noAckEvent (input : Act) (numbered : client.waiting.Numbered)
    (answersNone : input.AnswersNone) : NoAckEvent (step client input).2 := by
  cases input with
  | cycle | pubInfoProc | subInfoProc => exact answersNone.elim
  | publish topicName params env =>
      exact (uiotMqttPublish_outcome topicName params env numbered.pub).1.noAckEvent
  | subscribe topicFilter params env =>
      exact (uiotMqttSubscribe_outcome topicFilter params env numbered.sub).1.noAckEvent
  | unsubscribe topicFilter env =>
      exact (uiotMqttUnsubscribe_outcome topicFilter env numbered.sub).1.noAckEvent
  | keepAlive env => exact noAckEvent_mqttKeepAlive client env
  | disconnect env => exact noAckEvent_uiotMqttDisconnect client env 0
  | handleDisconnect env => exact noAckEvent_handleDisconnect client env 0
  | sendConnect options netConnectRet env =>
      exact noAckEvent_sendConnect client env options netConnectRet
  | acceptConnack env => exact noAckEvent_acceptConnack client env
  | backOff env => exact noAckEvent_backOff client env
  | raiseReconnect => exact (noAckEvent_raise_connection client).2
  | closeNetwork => simp [step, act, NoAckEvent, isPubEvent, isSubEvent]
  | countDisconnect | scheduleReconnect => exact .nil

theorem raise_filter (type : EventType) (packetId : UInt16) (isEvent : Output → Bool) :
    (client.raise type packetId).filter isEvent =
      if isEvent (.event type packetId) then client.raise type packetId else [] := by
  by_cases hears : client.eventHandler <;> by_cases counts : isEvent (.event type packetId) <;>
    simp [Client.raise, hears, counts]

/-- The sweep of one list raises no event about the other. -/
theorem uiotMqttPubInfoProc_subEvents (env : Env) :
    (uiotMqttPubInfoProc client env).outputs.filter isSubEvent = [] := by
  rcases uiotMqttPubInfoProc_swept client env with same | ⟨kept, outputs, timedOut, same, swept⟩
  · rw [same]
    rfl
  · rw [same, swept.outputs, List.filter_flatMap, List.flatMap_eq_nil_iff]
    intro entry _
    exact raise_filter _ _ _

theorem uiotMqttSubInfoProc_pubEvents (env : Env) :
    (uiotMqttSubInfoProc client env).outputs.filter isPubEvent = [] := by
  rcases uiotMqttSubInfoProc_swept client env with same | ⟨kept, outputs, timedOut, same, swept⟩
  · rw [same]
    rfl
  · rw [same, swept.outputs, List.filter_flatMap, List.flatMap_eq_nil_iff]
    intro entry _
    rw [reportSub]
    split <;> exact raise_filter _ _ _

/-! ## Pending requests -/

/-- The numbers of the publications that are pending. -/
def pendingPub (client : Client) : List Nat :=
  (client.listPubWaitAck.filter (·.nodeState = .normal)).map PubInfo.issue

/-- The numbers of the subscriptions and unsubscriptions that are pending. -/
def pendingSub (client : Client) : List Nat :=
  (client.listSubWaitAck.filter (·.nodeState = .normal)).map SubInfo.issue

theorem mem_pendingPub {issue : Nat} :
    issue ∈ pendingPub client ↔
      ∃ entry ∈ client.listPubWaitAck, entry.nodeState = .normal ∧ entry.issue = issue := by
  simp [pendingPub, and_assoc]

theorem mem_pendingSub {issue : Nat} :
    issue ∈ pendingSub client ↔
      ∃ entry ∈ client.listSubWaitAck, entry.nodeState = .normal ∧ entry.issue = issue := by
  simp [pendingSub, and_assoc]

theorem pendingPub_eq (client : Client) :
    pendingPub client = pendingIssues client.waiting.pubTickets := by
  rw [pendingIssues, Waiting.pubTickets, List.filter_map, List.map_map]
  rfl

theorem pendingSub_eq (client : Client) :
    pendingSub client = pendingIssues client.waiting.subTickets := by
  rw [pendingIssues, Waiting.subTickets, List.filter_map, List.map_map]
  rfl

/-- A request is pending that was, or has just been numbered. -/
theorem step_pending (input : Act) (numbered : client.waiting.Numbered) :
    (∀ issue ∈ pendingPub (step client input).1,
        issue ∈ pendingPub client ∨ client.issued < issue) ∧
      ∀ issue ∈ pendingSub (step client input).1,
        issue ∈ pendingSub client ∨ client.issued < issue := by
  have moves := step_moves input numbered
  simp only [pendingPub_eq, pendingSub_eq]
  generalize (step client input).1.waiting = after at moves
  cases moves with
  | settle settles =>
      exact ⟨fun issue among => .inl (settles.pub.pendingIssues_sublist.subset among),
        fun issue among => .inl (settles.sub.pendingIssues_sublist.subset among)⟩
  | take => exact ⟨fun _ among => .inl among, fun _ among => .inl among⟩
  | admitPub timer =>
      refine ⟨fun issue among => ?_, fun _ among => .inl among⟩
      simp only [pendingIssues, Waiting.pubTickets, List.map_append, List.filter_append,
        List.mem_append] at among
      refine among.imp id fun isNew => ?_
      have isNumber : issue = client.waiting.issued + 1 := by simpa [PubInfo.ticket] using isNew
      rw [isNumber]
      exact Nat.lt_succ_self _
  | admitSub type timer handler =>
      refine ⟨fun _ among => .inl among, fun issue among => ?_⟩
      simp only [pendingIssues, Waiting.subTickets, List.map_append, List.filter_append,
        List.mem_append] at among
      refine among.imp id fun isNew => ?_
      have isNumber : issue = client.waiting.issued + 1 := by simpa [SubInfo.ticket] using isNew
      rw [isNumber]
      exact Nat.lt_succ_self _

theorem step_issued_le (input : Act) (numbered : client.waiting.Numbered) :
    client.issued ≤ (step client input).1.issued := by
  have moves := step_moves input numbered
  change client.waiting.issued ≤ (step client input).1.waiting.issued
  generalize (step client input).1.waiting = after at moves
  cases moves with
  | settle settles => exact Nat.le_of_eq settles.issued.symm
  | take | admitPub | admitSub => exact Nat.le_succ _

variable {emit : Client → Act → List Nat} {input : Act}

/-- Numbers emitted while they are pending, and not pending afterwards. -/
theorem fresh_pendingPub (numbered : client.waiting.Numbered)
    (emitsLive : ∀ issue ∈ emit client input, issue ∈ pendingPub client)
    (emitsOnce : (emit client input).Nodup)
    (retires : ∀ issue ∈ emit client input, issue ∉ pendingPub (step client input).1) :
    Fresh pendingPub emit (fun client issue => issue ≤ client.issued) client input
      (step client input).1 where
  emitsLive := emitsLive
  emitsOnce := emitsOnce
  retires := retires
  liveBelow issue live := by
    obtain ⟨entry, among, -, rfl⟩ := mem_pendingPub.mp live
    exact numbered.pub entry among
  belowGrows issue below := Nat.le_trans below (step_issued_le input numbered)
  startsFresh issue live below :=
    ((step_pending input numbered).1 issue live).resolve_right (Nat.not_lt.mpr below)

theorem fresh_pendingSub (numbered : client.waiting.Numbered)
    (emitsLive : ∀ issue ∈ emit client input, issue ∈ pendingSub client)
    (emitsOnce : (emit client input).Nodup)
    (retires : ∀ issue ∈ emit client input, issue ∉ pendingSub (step client input).1) :
    Fresh pendingSub emit (fun client issue => issue ≤ client.issued) client input
      (step client input).1 where
  emitsLive := emitsLive
  emitsOnce := emitsOnce
  retires := retires
  liveBelow issue live := by
    obtain ⟨entry, among, -, rfl⟩ := mem_pendingSub.mp live
    exact numbered.sub entry among
  belowGrows issue below := Nat.le_trans below (step_issued_le input numbered)
  startsFresh issue live below :=
    ((step_pending input numbered).2 issue live).resolve_right (Nat.not_lt.mpr below)

end Step

end UIoT.Mqtt
