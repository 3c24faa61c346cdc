import UIoT.Mqtt.AckEvents
import UIoT.Mqtt.Broker
import UIoT.Mqtt.KeepAlive

/-!
# Publications that are confirmed

Client and broker run in any order, and the connection may break and be made again at any time. In
every run the broker has publications that were accepted by `uiot_mqtt_publish`, in that order and each
at most once, and the events `PUBLISH_SUCCESS` confirm publications that the broker has, in that order
and each at most once. Up to the first break none of them is passed over (`publications_confirmed`).

The world of the two parties is shown to be an exchange of publications for packet ids (`step_shows`).
-/

set_option autoImplicit false

namespace UIoT.Mqtt

open Exchanges Runs

/-! ## The world -/

/-- The client, the bytes on their way in both directions, and what has happened so far: the
publications accepted, those the broker has, and the events that confirm some. -/
structure World where
  client : Client
  upstream : List UInt8
  downstream : List UInt8
  broken : Bool
  published : List Message
  received : List Message
  confirmed : List UInt16
  intact : Bool

/-- A client at the beginning of a connection. -/
def World.start (client : Client) : World := ⟨client, [], [], false, [], [], [], true⟩

/-- An act that reads nothing. -/
def Act.ReadsNothing : Act → Prop
  | .cycle .. => False
  | _ => True

/-- What happens next: an act of the client, a read of the client from what the broker has sent, a
packet that the broker takes, one that it sends of itself, or a break of the connection. -/
inductive WorldInput where
  | act (input : Act) (readsNothing : input.ReadsNothing)
  | read (schedule : List Delivery) (env : Env)
  | broker
  | send (packet : FramedPacket) (notAck : typeOf packet.header ≠ some .puback)
  | sever

/-- What an output of the client does. On a connection that is broken nothing arrives. -/
def World.emit (world : World) : Output → World
  | .wire bytes =>
      if world.broken then { world with intact := false }
      else { world with upstream := world.upstream ++ bytes }
  | .netConnect => { world with upstream := [], downstream := [], broken := false, intact := false }
  | .netDisconnect => { world with downstream := [], broken := true, intact := false }
  | .event .publishSuccess packetId => { world with confirmed := world.confirmed ++ [packetId] }
  | _ => world

/-- The publication that an act has accepted. -/
def Act.accepted (client : Client) : Act → Option Message
  | .publish topicName params env =>
      if 0 ≤ (uiotMqttPublish client topicName params env).ret then
        params.payload.map (publicationOf client topicName params)
      else none
  | _ => none

/-- What `_read_mqtt_packet` makes of the bytes that arrive. -/
def World.receive (world : World) (schedule : List Delivery) : PacketRead × Wire :=
  readMqttPacket wireNetwork world.client.readBufSize world.client.readBuf ⟨world.downstream, schedule⟩

/-- What the client does in a step. -/
def World.call (world : World) : WorldInput → Client × List Output
  | .act input _ => step world.client input
  | .read schedule env => step world.client (.cycle (world.receive schedule).1 env)
  | _ => (world.client, [])

/-- The broker takes the packet at the front. -/
def World.brokerTakes (world : World) : World :=
  match takeFrame world.upstream with
  | none => world
  | some (frame, rest) =>
      match decodePublish frame with
      | none => { world with upstream := rest }
      | some message =>
          let acks := (noteOf message).toList.flatMap fun packetId => (pubackFrame packetId).bytes
          { world with
            upstream := rest
            received := world.received ++ [message]
            downstream := if world.broken then world.downstream else world.downstream ++ acks
            intact := world.intact && !world.broken }

def worldStep (world : World) (input : WorldInput) : World × List Output :=
  let (client, outputs) := world.call input
  let next :=
    match input with
    | .act input _ =>
        { world with
          client := client
          published := world.published ++ (input.accepted world.client).toList }
    | .read schedule _ =>
        let (read, wire) := world.receive schedule
        let lost := dropsConnection read.ret
        { world with
          client := client
          downstream := if lost then [] else wire.bytes
          broken := world.broken || lost
          intact := world.intact && !lost }
    | .broker => world.brokerTakes
    | .send packet _ =>
        if world.broken then world else { world with downstream := world.downstream ++ packet.bytes }
    | .sever => { world with downstream := [], broken := true, intact := false }
  (outputs.foldl World.emit next, outputs)

/-- Packets are written whole or not at all and are not cut when they are read, and no payload is longer
than an array can be. -/
def WorldInput.Regular (world : World) (input : WorldInput) : Prop :=
  WholeWrites (world.call input).2 ∧
    match input with
    | .act (.publish _ params _) _ => ∀ payload ∈ params.payload, payload.length < 2 ^ 31
    | .read schedule _ => wholeCall world.client.readBufSize ⟨world.downstream, schedule⟩ = true
    | _ => True

instance (world : World) : (input : WorldInput) → Decidable (input.Regular world)
  | .act (.publish ..) _ => inferInstanceAs (Decidable (_ ∧ ∀ payload ∈ _, _))
  | .act (.subscribe ..) _ | .act (.unsubscribe ..) _ | .act (.cycle ..) _ | .act (.pubInfoProc _) _
  | .act (.subInfoProc _) _ | .act (.keepAlive _) _ | .act (.disconnect _) _
  | .act (.handleDisconnect _) _ | .act (.sendConnect ..) _ | .act (.acceptConnack _) _
  | .act .closeNetwork _ | .act .raiseReconnect _ | .act (.backOff _) _ | .act .countDisconnect _
  | .act (.scheduleReconnect _) _ => inferInstanceAs (Decidable (_ ∧ True))
  | .read .. => inferInstanceAs (Decidable (_ ∧ _ = true))
  | .broker | .send .. | .sever => inferInstanceAs (Decidable (_ ∧ True))

/-! ## The client -/

section EventHandler

variable {client : Client} (env : Env)

theorem eventHandler_of_standing {client' : Client} (same : client'.standing = client.standing) :
    client'.eventHandler = client.eventHandler :=
  congrArg Standing.eventHandler same

theorem eventHandler_maskSubInfoFrom (packetId : UInt16) (alloc : Nat) :
    (maskSubInfoFrom client packetId env alloc).2.eventHandler = client.eventHandler := by
  rw [maskSubInfoFrom]
  split <;> rfl

theorem dispatch_eventHandler {packetType : MessageTypes} {handled : Result}
    (dispatched : dispatch client packetType env = some handled) :
    handled.client.eventHandler = client.eventHandler := by
  have masked := @eventHandler_maskSubInfoFrom client env
  cases packetType <;> simp only [dispatch, Option.some.injEq, reduceCtorEq] at dispatched
  case publish =>
    exact dispatched ▸ eventHandler_of_standing (standing_handlePublishPacket client env)
  case pubrec =>
    exact dispatched ▸ eventHandler_of_standing (standing_handlePubrecPacket client env)
  case puback =>
    subst dispatched
    rw [handlePubackPacket]
    split
    · rfl
    · simp only [maskPubInfoFrom]
      split <;> rfl
  case suback =>
    subst dispatched
    rw [handleSubackPacket]
    split
    · rfl
    · simp only
      split
      · exact masked _ 0
      split
      · exact masked _ 0
      split
      · exact masked _ 0
      · exact masked _ 0
  case unsuback =>
    subst dispatched
    rw [handleUnsubackPacket]
    split
    · rfl
    · exact masked _ 0
  all_goals exact dispatched ▸ rfl

theorem cycle_eventHandler (read : PacketRead) :
    (cycleForReadWith client read env).client.eventHandler = client.eventHandler := by
  rw [cycleForReadWith]
  split
  · rfl
  split
  · rfl
  split
  · rfl
  split
  · rfl
  · rename_i handled dispatched
    have noted : ∀ packetType,
        (notePing handled.client packetType env).eventHandler = handled.client.eventHandler :=
      fun packetType => eventHandler_of_standing (standing_notePing handled.client packetType env)
    have handles := dispatch_eventHandler env dispatched
    exact (noted _).trans handles

theorem RequestOutcome.eventHandler {accepts : Client → Prop} {result : Result}
    (outcome : RequestOutcome client accepts result)
    (accepted : accepts result.client → result.client.eventHandler = client.eventHandler) :
    result.client.eventHandler = client.eventHandler := by
  cases outcome with
  | untouched buf same => rw [same]
  | failed buf took => rw [took]; rfl
  | accepted id after => exact accepted after

/-- No act registers an event handler, and none removes it. -/
theorem step_eventHandler (input : Act) (numbered : client.waiting.Numbered) :
    (step client input).1.eventHandler = client.eventHandler := by
  cases input with
  | publish topicName params env =>
      refine (uiotMqttPublish_outcome topicName params env numbered.pub).2.eventHandler ?_
      rintro ⟨-, buf, timer, same⟩
      rw [same]
      rfl
  | subscribe topicFilter params env =>
      refine (uiotMqttSubscribe_outcome topicFilter params env numbered.sub).2.eventHandler ?_
      rintro ⟨-, buf, timer, same⟩
      rw [same]
      rfl
  | unsubscribe topicFilter env =>
      rcases (uiotMqttUnsubscribe_outcome topicFilter env numbered.sub).2 with same | outcome
      · exact congrArg Client.eventHandler same
      · refine outcome.eventHandler ?_
        rintro ⟨-, buf, timer, same⟩
        rw [same]
        rfl
  | cycle read env => exact cycle_eventHandler env read
  | pubInfoProc env =>
      rcases uiotMqttPubInfoProc_swept client env with same | ⟨_, _, _, same, _⟩
      · exact congrArg (fun result => result.client.eventHandler) same
      · exact congrArg (fun result => result.client.eventHandler) same
  | subInfoProc env =>
      rcases uiotMqttSubInfoProc_swept client env with same | ⟨_, _, _, same, _⟩
      · exact congrArg (fun result => result.client.eventHandler) same
      · exact congrArg (fun result => result.client.eventHandler) same
  | _ => exact eventHandler_of_standing (step_standing client _ trivial)

end EventHandler

/-- What holds of a client with an event handler in all that it does. -/
structure Client.Kept (client : Client) : Prop where
  ready : client.Ready
  sound : client.Sound
  hears : client.eventHandler = true
  room : uiotMqttTxBufLen ≤ client.writeBuf.length
  pings : client.isPingOutstanding ≤ mqttPingRetryTimes

theorem step_kept {client : Client} (input : Act) (kept : client.Kept) :
    (step client input).1.Kept := by
  have numbered := kept.ready.valid.numbered
  obtain ⟨grows, pings, -⟩ := step_pings input (Nat.le_trans (by decide) kept.room) kept.pings
  exact ⟨(Steps.one client input).ready kept.ready, step_sound input numbered kept.sound,
    (step_eventHandler input numbered).trans kept.hears, Nat.le_trans kept.room grows, pings⟩

theorem Steps.kept {client client' : Client} {outputs : List Output}
    (steps : Steps client client' outputs) (kept : client.Kept) : client'.Kept := by
  obtain ⟨inputs, rfl, -⟩ := steps
  exact ((along_true step client inputs).invariant Client.Kept kept
    fun _ input kept _ => step_kept input kept).2

theorem uiotMqttInit_kept {params : InitParams} (hears : params.eventHandler = true) :
    (uiotMqttInit params).Kept where
  ready := ⟨uiotMqttInit_valid params, rfl⟩
  sound := uiotMqttInit_sound params
  hears := hears
  room := Nat.le_of_eq List.length_replicate.symm
  pings := UInt8.zero_le

/-! ## Outputs without publications -/

/-- An output that is no publication on the wire and confirms none. -/
def Output.Plain (output : Output) : Prop :=
  (∀ bytes, output = .wire bytes → publicationIn bytes = none) ∧
    ∀ packetId, output ≠ .event .publishSuccess packetId

theorem NeverSends.noPublication {outputs : List Output} (never : NeverSends .publish outputs)
    {bytes : List UInt8} (among : .wire bytes ∈ outputs) : publicationIn bytes = none := by
  cases bytes with
  | nil => rfl
  | cons header rest =>
      have other := never header rest among
      cases isFrame : decodeFrame (header :: rest) with
      | none => rw [publicationIn, isFrame, Option.bind_none]
      | some frame =>
          rw [publicationIn, isFrame, Option.bind_some]
          rw [decodeFrame, Option.bind_eq_some_iff] at isFrame
          obtain ⟨⟨remLen, body⟩, -, isFrame⟩ := isFrame
          dsimp only at isFrame
          split at isFrame
          · cases isFrame
            rw [decodePublish, if_pos other]
          · cases isFrame

theorem NoAckEvent.unconfirming {outputs : List Output} (noAck : NoAckEvent outputs)
    (packetId : UInt16) : .event .publishSuccess packetId ∉ outputs := fun among =>
  absurd (noAck _ among).1 Bool.noConfusion

theorem mem_raise {client : Client} {type : EventType} {packetId : UInt16} {output : Output}
    (among : output ∈ client.raise type packetId) : output = .event type packetId := by
  rw [Client.raise] at among
  split at among
  · exact List.mem_singleton.mp among
  · cases among

/-- Only a packet that is read confirms a publication. -/
theorem step_unconfirming {client : Client} {input : Act} (readsNothing : input.ReadsNothing)
    (numbered : client.waiting.Numbered) (packetId : UInt16) :
    .event .publishSuccess packetId ∉ (step client input).2 := by
  cases input with
  | cycle => exact readsNothing.elim
  | pubInfoProc env =>
      simp only [step, act]
      rcases uiotMqttPubInfoProc_swept client env with same | ⟨_, _, timedOut, same, swept⟩
      · rw [same]
        exact List.not_mem_nil
      · rw [same, swept.outputs]
        intro among
        obtain ⟨entry, -, reported⟩ := List.mem_flatMap.mp among
        cases mem_raise reported
  | subInfoProc env =>
      intro among
      have none := List.filter_eq_nil_iff.mp (@uiotMqttSubInfoProc_pubEvents client env)
      exact none _ among rfl
  | _ =>
      refine NoAckEvent.unconfirming (step_noAckEvent _ numbered ?_) packetId
      exact trivial

/-- An act that is no publication sends none. -/
theorem step_plain {client : Client} {input : Act} (readsNothing : input.ReadsNothing)
    (noPublication : .publish ∉ input.sends) (numbered : client.waiting.Numbered) :
    ∀ output ∈ (step client input).2, output.Plain := by
  refine fun output among => ⟨?_, ?_⟩
  · rintro bytes rfl
    exact (step_neverSends client noPublication).noPublication among
  · rintro packetId rfl
    exact step_unconfirming readsNothing numbered packetId among

/-! ## The world as an exchange -/

/-- The PUBACKs among the packets of the broker are those that answer publications. -/
def IsAnswer (packet : FramedPacket) : Prop :=
  typeOf packet.header ≠ some .puback ∨ ∃ packetId, packet = pubackFrame packetId

/-- The publications and the packet ids that are under way are those in the bytes. -/
structure World.Shows (world : World) (exchange : Exchange Message UInt16) : Prop where
  offered : exchange.offered = world.published
  taken : exchange.taken = world.received
  reported : exchange.reported = world.confirmed
  intact : world.intact = true → exchange.intact = true
  upstream : ∃ packets : List (List UInt8), world.upstream = packets.flatten ∧
    (∀ packet ∈ packets, (decodeFrame packet).isSome) ∧
      exchange.toTake = packets.filterMap publicationIn
  downstream : ∃ packets : List FramedPacket, world.downstream = packets.flatMap FramedPacket.bytes ∧
    (∀ packet ∈ packets, IsAnswer packet) ∧ exchange.toReport = packets.filterMap ackOf

variable {world : World} {exchange : Exchange Message UInt16}

/-- Some moves of the exchange show what has become of the world. -/
def Continues (exchange : Exchange Message UInt16) (world : World) : Prop :=
  ∃ after, Moves noteOf exchange after ∧ world.Shows after

theorem World.Shows.continues (shows : world.Shows exchange) : Continues exchange world :=
  ⟨exchange, .refl, shows⟩

/-- What is under way towards the client is lost. -/
theorem World.Shows.loseDownstream (shows : world.Shows exchange) (client : Client) : Continues exchange
    { world with client := client, downstream := [], broken := true, intact := false } := by
  refine ⟨_, .single (.lose (List.Sublist.refl _) (List.nil_sublist _)), shows.offered, shows.taken,
    shows.reported, fun intact => Bool.noConfusion intact, shows.upstream, [], rfl, ?_, rfl⟩
  exact fun _ among => absurd among List.not_mem_nil

/-- Something is under way in neither direction any more. -/
theorem World.Shows.loseBoth (shows : world.Shows exchange) : Continues exchange
    { world with upstream := [], downstream := [], broken := false, intact := false } := by
  refine ⟨_, .single (.lose (List.nil_sublist _) (List.nil_sublist _)), shows.offered, shows.taken,
    shows.reported, fun intact => Bool.noConfusion intact, ⟨[], rfl, ?_, rfl⟩, [], rfl, ?_, rfl⟩
  · exact fun _ among => absurd among List.not_mem_nil
  · exact fun _ among => absurd among List.not_mem_nil

/-- A packet without a publication is written. -/
theorem World.Shows.write (shows : world.Shows exchange) {bytes : List UInt8}
    (whole : bytes = [] ∨ (decodeFrame bytes).isSome) (noPublication : publicationIn bytes = none) :
    Continues exchange (world.emit (.wire bytes)) := by
  rw [World.emit]
  split
  · exact ⟨exchange, .refl, shows.offered, shows.taken, shows.reported,
      fun intact => Bool.noConfusion intact, shows.upstream, shows.downstream⟩
  · obtain ⟨packets, isUpstream, frames, toTake⟩ := shows.upstream
    refine ⟨exchange, .refl, shows.offered, shows.taken, shows.reported, shows.intact, ?_,
      shows.downstream⟩
    rcases whole with rfl | isFrame
    · exact ⟨packets, by rw [List.append_nil, isUpstream], frames, toTake⟩
    · refine ⟨packets ++ [bytes], ?_, ?_, ?_⟩
      · rw [isUpstream, List.flatten_append, List.flatten_singleton]
      · intro packet among
        rcases List.mem_append.mp among with old | new
        · exact frames packet old
        · exact List.mem_singleton.mp new ▸ isFrame
      · rw [List.filterMap_append, List.filterMap_cons_none noPublication, List.filterMap_nil,
          List.append_nil, toTake]

theorem World.Shows.emit (shows : world.Shows exchange) {output : Output}
    (whole : wholeWrite output = true) (plain : output.Plain) : Continues exchange (world.emit output) := by
  cases output with
  | wire bytes =>
      rw [wholeWrite, Bool.or_eq_true, decide_eq_true_eq] at whole
      exact shows.write whole (plain.1 bytes rfl)
  | netConnect => exact shows.loseBoth
  | netDisconnect => exact shows.loseDownstream world.client
  | event type packetId =>
      cases type with
      | publishSuccess => exact absurd rfl (plain.2 packetId)
      | _ => exact shows.continues
  | received | delivered => exact shows.continues

theorem World.Shows.emits {outputs : List Output} (whole : WholeWrites outputs)
    (plain : ∀ output ∈ outputs, output.Plain) (continues : Continues exchange world) :
    Continues exchange (outputs.foldl World.emit world) := by
  induction outputs generalizing world with
  | nil => exact continues
  | cons output outputs inductionHypothesis =>
      obtain ⟨middle, moves, shows⟩ := continues
      obtain ⟨after, more, shown⟩ :=
        shows.emit (whole output List.mem_cons_self) (plain output List.mem_cons_self)
      exact inductionHypothesis (fun other among => whole other (List.mem_cons_of_mem _ among))
        (fun other among => plain other (List.mem_cons_of_mem _ among)) ⟨after, moves.trans more, shown⟩

/-! ## The steps -/

/-- The client does something that neither offers a publication nor reports one. -/
theorem World.Shows.withClient (shows : world.Shows exchange) (client : Client) :
    World.Shows { world with client := client, published := world.published ++ [] } exchange :=
  ⟨by rw [List.append_nil]; exact shows.offered, shows.taken, shows.reported, shows.intact,
    shows.upstream, shows.downstream⟩

/-- A publication is accepted and written. -/
theorem World.Shows.publish (shows : world.Shows exchange) (client : Client) {packet : List UInt8}
    {message : Message} (isFrame : (decodeFrame packet).isSome)
    (content : publicationIn packet = some message) :
    Continues exchange (World.emit
      { world with client := client, published := world.published ++ [message] } (.wire packet)) := by
  have offered : exchange.offered ++ [message] = world.published ++ [message] := by
    rw [shows.offered]
  rw [World.emit]
  split
  · refine ⟨_, .tail (.single (.offer message)) (.lose (List.sublist_append_left _ _) (List.Sublist.refl _)),
      offered, shows.taken, shows.reported, fun intact => Bool.noConfusion intact, shows.upstream,
      shows.downstream⟩
  · obtain ⟨packets, isUpstream, frames, toTake⟩ := shows.upstream
    refine ⟨_, .single (.offer message), offered, shows.taken, shows.reported, shows.intact,
      ⟨packets ++ [packet], ?_, ?_, ?_⟩, shows.downstream⟩
    · rw [List.flatten_append, List.flatten_singleton, ← isUpstream]
    · intro other among
      rcases List.mem_append.mp among with old | new
      · exact frames other old
      · exact List.mem_singleton.mp new ▸ isFrame
    · rw [List.filterMap_append, List.filterMap_cons_some content, List.filterMap_nil, ← toTake]

theorem plain_nothing {outputs : List Output} (nothing : outputs = [] ∨ outputs = [.wire []]) :
    ∀ output ∈ outputs, output.Plain := by
  rcases nothing with rfl | rfl
  · exact fun _ among => absurd among List.not_mem_nil
  · intro output among
    rw [List.mem_singleton.mp among]
    refine ⟨fun bytes same => ?_, fun packetId same => ?_⟩
    · cases same
      rfl
    · cases same

theorem act_shows (shows : world.Shows exchange) (kept : world.client.Kept) {input : Act}
    {readsNothing : input.ReadsNothing} (regular : WorldInput.Regular world (.act input readsNothing)) :
    Continues exchange (worldStep world (.act input readsNothing)).1 := by
  have others : .publish ∉ input.sends → input.accepted world.client = none →
      Continues exchange (worldStep world (.act input readsNothing)).1 := by
    intro noPublication accepted
    have plain := step_plain readsNothing noPublication kept.ready.valid.numbered
    simp only [worldStep, World.call, accepted]
    exact World.Shows.emits regular.1 plain (shows.withClient _).continues
  cases input with
  | publish topicName params env =>
      have room : world.client.writeBufSize ≤ world.client.writeBuf.length :=
        kept.sound.writeBufSize ▸ kept.room
      have ends := uiotMqttPublish_ends kept.sound.writeBufSize room
        (fun payload isPayload => regular.2 payload isPayload) regular.1
      simp only [worldStep, World.call, step, act, Act.accepted]
      cases ends with
      | sent packet payload accepted outputs isPayload isFrame content =>
          rw [if_pos accepted, isPayload, outputs]
          exact shows.publish _ isFrame content
      | failed refused nothing =>
          rw [if_neg (Int.not_le.mpr refused)]
          exact World.Shows.emits regular.1 (plain_nothing nothing) (shows.withClient _).continues
  | cycle => exact readsNothing.elim
  | _ => exact others (by simp [Act.sends]) rfl

theorem broker_shows (shows : world.Shows exchange) : Continues exchange (worldStep world .broker).1 := by
  obtain ⟨packets, isUpstream, frames, toTake⟩ := shows.upstream
  change Continues exchange world.brokerTakes
  rw [World.brokerTakes]
  cases packets with
  | nil =>
      rw [isUpstream]
      exact shows.continues
  | cons packet packets =>
      obtain ⟨frame, isFrame⟩ := Option.isSome_iff_exists.mp (frames packet List.mem_cons_self)
      have later : ∀ other ∈ packets, (decodeFrame other).isSome :=
        fun other among => frames other (List.mem_cons_of_mem _ among)
      have content : publicationIn packet = decodePublish frame := by
        rw [publicationIn, isFrame, Option.bind_some]
      rw [isUpstream, List.flatten_cons, takeFrame_append isFrame]
      dsimp only
      cases reads : decodePublish frame with
      | none =>
          rw [List.filterMap_cons_none (content.trans reads)] at toTake
          exact ⟨exchange, .refl, shows.offered, shows.taken, shows.reported, shows.intact,
            ⟨packets, rfl, later, toTake⟩, shows.downstream⟩
      | some message =>
          rw [List.filterMap_cons_some (content.trans reads)] at toTake
          have taken : exchange.taken ++ [message] = world.received ++ [message] := by
            rw [shows.taken]
          dsimp only
          cases broken : world.broken with
          | true =>
              refine ⟨_, .tail (.single (.take toTake)) (.lose (List.Sublist.refl _)
                (List.sublist_append_left _ _)), shows.offered, taken, shows.reported, ?_,
                ⟨packets, rfl, later, rfl⟩, shows.downstream⟩
              intro intact
              rw [Bool.not_true, Bool.and_false] at intact
              cases intact
          | false =>
              obtain ⟨sent, isDownstream, answers, toReport⟩ := shows.downstream
              refine ⟨_, .single (.take toTake), shows.offered, taken, shows.reported, ?_,
                ⟨packets, rfl, later, rfl⟩,
                sent ++ (noteOf message).toList.map pubackFrame, ?_, ?_, ?_⟩
              · intro intact
                rw [Bool.not_false, Bool.and_true] at intact
                exact shows.intact intact
              · rw [List.flatMap_append, List.flatMap_map, ← isDownstream]
                rfl
              · intro other among
                rcases List.mem_append.mp among with old | new
                · exact answers other old
                · obtain ⟨packetId, _, rfl⟩ := List.mem_map.mp new
                  exact .inr ⟨packetId, rfl⟩
              · rw [List.filterMap_append, ← toReport]
                cases noteOf message with
                | none => rfl
                | some packetId => simp [ackOf_pubackFrame]

theorem send_shows (shows : world.Shows exchange) {packet : FramedPacket}
    {notAck : typeOf packet.header ≠ some .puback} :
    Continues exchange (worldStep world (.send packet notAck)).1 := by
  simp only [worldStep, World.call, List.foldl_nil]
  split
  · exact shows.continues
  · obtain ⟨sent, isDownstream, answers, toReport⟩ := shows.downstream
    refine ⟨exchange, .refl, shows.offered, shows.taken, shows.reported, shows.intact,
      shows.upstream, sent ++ [packet], ?_, ?_, ?_⟩
    · rw [List.flatMap_append, List.flatMap_singleton, ← isDownstream]
    · intro other among
      rcases List.mem_append.mp among with old | new
      · exact answers other old
      · exact .inl (List.mem_singleton.mp new ▸ notAck)
    · have noAck : ackOf packet = none := if_neg notAck
      rw [List.filterMap_append, List.filterMap_cons_none noAck, List.filterMap_nil, List.append_nil,
        toReport]

/-! ## A read -/

theorem readMqttPacket_type {σ : Type} (net : NetworkStack σ) (size : Nat) (readBuf : List UInt8) (s : σ)
    (success : (readMqttPacket net size readBuf s).1.ret = successRet) :
    (readMqttPacket net size readBuf s).1.packetType =
      some (headerType ((readMqttPacket net size readBuf s).1.readBuf.headD 0)) := by
  have short : errMqttBufferTooShort ≠ successRet := by decide
  have nothing : errMqttNothingToRead ≠ successRet := by decide
  have negative : ∀ {ret : Int}, ret < 0 → ret ≠ successRet := fun below same => by
    rw [same] at below
    cases below
  unfold readMqttPacket at success ⊢
  dsimp only at success ⊢
  split
  · rename_i below
    rw [if_pos below] at success
    exact absurd success (negative below)
  rename_i notBelow
  rw [if_neg notBelow] at success
  split
  · rename_i empty
    rw [if_pos empty] at success
    exact absurd success nothing
  rename_i notEmpty
  rw [if_neg notEmpty] at success
  split
  · rename_i failed
    rw [if_pos failed] at success
    exact absurd success failed
  rename_i decoded
  rw [if_neg decoded] at success
  split
  · rename_i large
    rw [if_pos large] at success
    exact absurd success short
  rename_i notLarge
  rw [if_neg notLarge] at success
  split
  · rename_i tooLong
    rw [if_pos tooLong] at success
    exact absurd success short
  rename_i fits
  rw [if_neg fits] at success
  split
  · rename_i hasBody
    rw [if_pos hasBody] at success
    split
    · rename_i below
      rw [if_pos below] at success
      exact absurd success (negative below)
    rename_i notBelow'
    rw [if_neg notBelow'] at success
    split
    · rename_i empty
      rw [if_pos empty] at success
      exact absurd success nothing
    · rfl
  · rfl

theorem packetInBuf_header {buf body : List UInt8} {header : UInt8}
    (content : packetInBuf buf = some (header, body)) : buf.headD 0 = header := by
  rw [packetInBuf] at content
  dsimp only at content
  split at content
  · exact congrArg Prod.fst (Option.some.inj content)
  · cases content

theorem pubackFrame_fits (packetId : UInt16) :
    (pubackFrame packetId).fits uiotMqttRxBufLen = true := by
  have two : (pubackFrame packetId).body.length = 2 := rfl
  rw [FramedPacket.fits, two, Base128.encode_of_lt (by decide)]
  decide

/-- A call takes packets off the front: the one it hands on, or one that does not fit. -/
inductive World.Receives (packets : List FramedPacket) (read : PacketRead) (wire : Wire) : Prop where
  | lost (code : dropsConnection read.ret = true)
  | passed (failed : read.ret ≠ successRet) (front left : List FramedPacket)
      (isStream : packets = front ++ left) (noAck : ∀ packet ∈ front, ackOf packet = none)
      (bytes : wire.bytes = left.flatMap FramedPacket.bytes)
  | handed (success : read.ret = successRet) (packet : FramedPacket) (left : List FramedPacket)
      (isStream : packets = packet :: left) (content : packetInBuf read.readBuf = some packet.content)
      (isType : read.packetType = some (headerType packet.header))
      (bytes : wire.bytes = left.flatMap FramedPacket.bytes)

theorem World.receive_cases {packets : List FramedPacket} (schedule : List Delivery)
    (isDownstream : world.downstream = packets.flatMap FramedPacket.bytes)
    (answers : ∀ packet ∈ packets, IsAnswer packet) (size : world.client.readBufSize = uiotMqttRxBufLen)
    (whole : wholeCall world.client.readBufSize ⟨world.downstream, schedule⟩ = true) :
    World.Receives packets (world.receive schedule).1 (world.receive schedule).2 := by
  rw [World.receive, isDownstream]
  rw [isDownstream] at whole
  cases packets with
  | nil =>
      obtain ⟨failed, nothing⟩ := @readMqttPacket_empty world.client.readBufSize world.client.readBuf
        ⟨[], schedule⟩ rfl
      exact .passed failed [] [] rfl (fun _ among => absurd among List.not_mem_nil) nothing
  | cons packet left =>
      rw [List.flatMap_cons] at whole ⊢
      have typed := readMqttPacket_type wireNetwork world.client.readBufSize world.client.readBuf
        ⟨packet.bytes ++ left.flatMap FramedPacket.bytes, schedule⟩
      rw [size] at whole typed ⊢
      cases readMqttPacket_whole (by decide) world.client.readBuf whole with
      | nothing failed bytes =>
          exact .passed failed [] (packet :: left) rfl (fun _ among => absurd among List.not_mem_nil) bytes
      | taken fits success content bytes =>
          refine .handed success packet left rfl content ?_ bytes
          rw [typed success, packetInBuf_header content]
      | dropped tooLong failed bytes =>
          refine .passed (by rw [failed]; decide) [packet] left rfl ?_ bytes
          intro other among
          rw [List.mem_singleton.mp among]
          rcases answers packet List.mem_cons_self with notAck | ⟨packetId, rfl⟩
          · exact if_neg notAck
          · rw [pubackFrame_fits] at tooLong
            cases tooLong
      | lost code => exact .lost code

/-- A PUBACK of the broker in the receive buffer is read with its id. -/
theorem deserializeAckPacket_puback {buf : List UInt8} {packetId : UInt16}
    (content : packetInBuf buf = some (pubackFrame packetId).content) :
    ∃ ack, deserializeAckPacket buf uiotMqttRxBufLen = .ok ack ∧ ack.packetId = packetId := by
  have large : ¬uiotMqttRxBufLen < 4 := by decide
  rw [packetInBuf] at content
  cases isRead : mqttReadPacketRemLenFromBuf (mqttReadChar buf).2 with
  | mk ret rest =>
      obtain ⟨remLen, curdata⟩ := rest
      dsimp only at content
      rw [isRead] at content
      dsimp only at content
      split at content
      · rename_i success
        have body : curdata.take remLen = mqttWriteUint16 packetId :=
          congrArg Prod.snd (Option.some.inj content)
        have two : (curdata.take remLen).length = 2 := by
          rw [body]
          rfl
        rw [List.length_take] at two
        -- Behind the id there is nothing, unless the packet ends with it.
        obtain ⟨rest, isData, ends⟩ : ∃ rest, curdata = mqttWriteUint16 packetId ++ rest ∧
            (remLen = 2 ∨ rest = []) := by
          refine ⟨curdata.drop remLen, by rw [← body, List.take_append_drop], ?_⟩
          by_cases exactly : remLen = 2
          · exact .inl exactly
          · exact .inr (List.drop_eq_nil_iff.mpr (by omega))
        have noMore : ¬(1 ≤ remLen - 2 ∧ (mqttReadChar rest).1 ≠ 0) := by
          rintro ⟨more, notZero⟩
          rcases ends with isTwo | none
          · omega
          · rw [none] at notZero
            exact notZero rfl
        let header := (mqttReadChar buf).1
        refine ⟨⟨headerType header, (header &&& 0x08) >>> 3, UInt16.ofNat packetId.toNat⟩, ?_,
          UInt16.ofNat_toNat⟩
        simp only [deserializeAckPacket, if_neg large, readFixedHeader, isRead, if_pos success, bind,
          Except.bind, pure, Except.pure, if_neg (show ¬remLen < 2 by omega), isData, mqttReadUint16_id,
          if_neg noMore]
        rfl
      · cases content

/-- What a read of the client does that confirms no publication. -/
theorem cycle_plain {client : Client} {read : PacketRead} {env : Env}
    (noPuback : ∀ packetId, ackIn client.readBufSize read ≠ some (.publish, packetId)) :
    ∀ output ∈ (cycleForReadWith client read env).outputs, output.Plain := by
  have silent : ∀ packetId, .event .publishSuccess packetId ∉ (cycleForReadWith client read env).outputs := by
    intro packetId
    cases isAck : ackIn client.readBufSize read with
    | none => exact (cycle_of_ackIn_none env isAck).noEvent.unconfirming packetId
    | some ack =>
        obtain ⟨type, ackId⟩ := ack
        intro among
        rcases ackIn_type isAck with rfl | rfl | rfl
        · exact noPuback ackId isAck
        · rcases (cycle_of_suback env isAck).2.2.2 with same | same | same
          · rw [same] at among
            cases among
          · rw [same] at among
            cases mem_raise among
          · rw [same] at among
            cases mem_raise among
        · rw [(cycle_of_unsuback env isAck).2.2] at among
          cases mem_raise among
  refine fun output among => ⟨?_, ?_⟩
  · rintro bytes rfl
    have never := @step_neverSends client (.cycle read env) .publish (by simp [Act.sends])
    exact never.noPublication among
  · rintro packetId rfl
    exact silent packetId among

theorem read_shows (shows : world.Shows exchange) (kept : world.client.Kept) {schedule : List Delivery}
    {env : Env} (regular : WorldInput.Regular world (.read schedule env)) :
    Continues exchange (worldStep world (.read schedule env)).1 := by
  obtain ⟨packets, isDownstream, answers, toReport⟩ := shows.downstream
  have whole := regular.1
  simp only [World.call, step, act] at whole
  simp only [worldStep, World.call, step, act]
  have size := kept.ready.readBufSize
  cases World.receive_cases schedule isDownstream answers size regular.2 with
  | lost code =>
      have failed : (world.receive schedule).1.ret ≠ successRet := by
        intro success
        rw [success] at code
        cases code
      obtain ⟨sameClient, noOutputs⟩ := cycleForReadWith_of_failed env failed
      rw [noOutputs, code, Bool.or_true, Bool.not_true, Bool.and_false, List.foldl_nil, if_pos rfl]
      exact shows.loseDownstream _
  | passed failed front left isStream noAck bytes =>
      obtain ⟨sameClient, noOutputs⟩ := cycleForReadWith_of_failed env failed
      rw [noOutputs, List.foldl_nil]
      cases code : dropsConnection (world.receive schedule).1.ret with
      | true =>
          rw [Bool.or_true, Bool.not_true, Bool.and_false, if_pos rfl]
          exact shows.loseDownstream _
      | false =>
          have nothing : front.filterMap ackOf = [] := List.filterMap_eq_nil_iff.mpr noAck
          rw [Bool.or_false, Bool.not_false, Bool.and_true, if_neg Bool.noConfusion, bytes]
          refine ⟨exchange, .refl, shows.offered, shows.taken, shows.reported, shows.intact,
            shows.upstream, left, rfl, fun packet among => ?_, ?_⟩
          · exact answers packet (isStream ▸ List.mem_append_right front among)
          · rw [toReport, isStream, List.filterMap_append, nothing, List.nil_append]
  | handed success packet left isStream content isType bytes =>
      have keepsConnection : dropsConnection (world.receive schedule).1.ret = false := by
        rw [success]
        rfl
      rw [keepsConnection, Bool.or_false, Bool.not_false, Bool.and_true, if_neg Bool.noConfusion, bytes]
      subst isStream
      have later : ∀ other ∈ left, IsAnswer other :=
        fun other among => answers other (List.mem_cons_of_mem _ among)
      have header : MessageTypes.ofHeader ((world.receive schedule).1.packetType.getD 0) =
          typeOf packet.header := by
        rw [isType]
        rfl
      rcases answers packet List.mem_cons_self with notAck | ⟨packetId, rfl⟩
      · -- Any other packet leaves what is to be reported as it is.
        have noAck : ackOf packet = none := if_neg notAck
        rw [List.filterMap_cons_none noAck] at toReport
        have plain := @cycle_plain world.client (world.receive schedule).1 env (by
          intro packetId isAck
          obtain ⟨-, ⟨-, isPuback, -⟩ | ⟨wrong, -⟩ | ⟨wrong, -⟩⟩ := ackIn_eq_some isAck
          · exact notAck (header.symm.trans isPuback)
          · cases wrong
          · cases wrong)
        refine World.Shows.emits whole plain (World.Shows.continues ?_)
        exact ⟨shows.offered, shows.taken, shows.reported, shows.intact, shows.upstream, left, rfl, later,
          toReport⟩
      · obtain ⟨ack, parsed, rfl⟩ := deserializeAckPacket_puback content
        have isAck : ackIn world.client.readBufSize (world.receive schedule).1 =
            some (.publish, ack.packetId) := by
          have isPuback : typeOf 0x40 = some .puback := by decide
          rw [size, ackIn, if_pos success, header, pubackFrame]
          dsimp only
          rw [isPuback]
          dsimp only
          rw [parsed]
          rfl
        have raised := (cycle_of_puback env isAck).2.2
        rw [Client.raise, if_pos kept.hears] at raised
        rw [List.filterMap_cons_some (ackOf_pubackFrame _)] at toReport
        rw [raised, List.foldl_cons, List.foldl_nil, World.emit]
        refine ⟨_, .single (.report toReport), shows.offered, shows.taken, ?_, shows.intact,
          shows.upstream, left, rfl, later, rfl⟩
        rw [shows.reported]

/-! ## The runs -/

/-- Every step of the world is a move of the exchange, or some of them. -/
theorem step_shows {input : WorldInput} (shows : world.Shows exchange) (kept : world.client.Kept)
    (regular : input.Regular world) : Continues exchange (worldStep world input).1 := by
  cases input with
  | act input readsNothing => exact act_shows shows kept regular
  | read schedule env => exact read_shows shows kept regular
  | broker => exact broker_shows shows
  | send packet notAck => exact send_shows shows
  | sever => exact shows.loseDownstream world.client

theorem emit_client (world : World) (outputs : List Output) :
    (outputs.foldl World.emit world).client = world.client := by
  induction outputs generalizing world with
  | nil => rfl
  | cons output outputs inductionHypothesis =>
      rw [List.foldl_cons, inductionHypothesis]
      cases output with
      | wire bytes =>
          rw [World.emit]
          split <;> rfl
      | event type packetId => cases type <;> rfl
      | _ => rfl

theorem worldStep_kept (input : WorldInput) (kept : world.client.Kept) :
    (worldStep world input).1.client.Kept := by
  rw [worldStep, emit_client]
  cases input with
  | act input readsNothing => exact step_kept input kept
  | read schedule env => exact step_kept (.cycle (world.receive schedule).1 env) kept
  | broker =>
      dsimp only
      rw [World.brokerTakes]
      split
      · exact kept
      · split <;> exact kept
  | send packet notAck =>
      dsimp only
      split <;> exact kept
  | sever => exact kept

/-- The world is an exchange all along. -/
theorem run_shows (inputs : List WorldInput) (kept : world.client.Kept) (shows : world.Shows exchange)
    (regular : Along worldStep (fun world input => input.Regular world) world inputs) :
    Continues exchange (run worldStep world inputs).1 := by
  induction inputs generalizing world exchange with
  | nil => exact shows.continues
  | cons input inputs inductionHypothesis =>
      obtain ⟨middle, moves, shown⟩ := step_shows shows kept regular.1
      obtain ⟨after, more, last⟩ := inductionHypothesis (worldStep_kept input kept) shown regular.2
      exact ⟨after, moves.trans more, last⟩

theorem World.start_shows (client : Client) : (World.start client).Shows Exchange.start where
  offered := rfl
  taken := rfl
  reported := rfl
  intact := fun _ => rfl
  upstream := ⟨[], rfl, fun _ among => absurd among List.not_mem_nil, rfl⟩
  downstream := ⟨[], rfl, fun _ among => absurd among List.not_mem_nil, rfl⟩

/-- The broker has publications that were accepted, in their order and each at most once, and the events
of the client confirm publications that the broker has, in their order and each at most once. Until
something is lost none is passed over. -/
theorem publications_confirmed (params : InitParams) (hears : params.eventHandler = true) (client : Client)
    (outputs : List Output) (reachable : Steps (uiotMqttInit params) client outputs)
    (inputs : List WorldInput)
    (regular : Along worldStep (fun world input => input.Regular world) (World.start client) inputs) :
    let reached := (run worldStep (World.start client) inputs).1
    reached.received.Sublist reached.published ∧
      reached.confirmed.Sublist (reached.received.filterMap noteOf) ∧
      (reached.intact = true → reached.received <+: reached.published ∧
        reached.confirmed <+: reached.received.filterMap noteOf) := by
  intro reached
  obtain ⟨after, moves, shows⟩ :=
    run_shows inputs (reachable.kept (uiotMqttInit_kept hears)) (World.start_shows client) regular
  have sound := Moves.sound moves sound_start
  rw [← shows.offered, ← shows.taken, ← shows.reported]
  refine ⟨(List.sublist_append_left _ _).trans sound.taken,
    (List.sublist_append_left _ _).trans sound.reported, fun intact => ?_⟩
  have nothingLost := shows.intact intact
  exact ⟨⟨_, sound.allTaken nothingLost⟩, ⟨_, sound.allReported nothingLost⟩⟩

/-- Two publications are accepted, and the connection breaks between them: the first one is confirmed, and
the second one does not arrive. -/
theorem publications_confirmed_broken :
    let inputs : List WorldInput := [.act publishAct trivial, .broker,
      .read [.delivers 1, .delivers 1, .delivers 2] (calm 0), .sever, .act publishAct trivial]
    let reached := (run worldStep (World.start connectedClient) inputs).1
    (reached.received.Sublist reached.published ∧
      reached.confirmed.Sublist (reached.received.filterMap noteOf) ∧
      (reached.intact = true → reached.received <+: reached.published ∧
        reached.confirmed <+: reached.received.filterMap noteOf)) ∧
      reached.published.length = 2 ∧ reached.confirmed = [2] := by
  intro inputs reached
  exact ⟨publications_confirmed ⟨2000, true⟩ rfl connectedClient _ ⟨connectActs, rfl, rfl⟩ inputs
    (by decide +kernel), by decide +kernel⟩

end UIoT.Mqtt
