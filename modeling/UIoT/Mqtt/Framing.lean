import UIoT.Mqtt.Reconnect
import UIoT.Mqtt.Stream

/-!
# The packets that a connection hands on

A link is a connected client and the wire behind it. Passes of `uiot_mqtt_yield`
read from the wire, and requests of the application run between them. When no
call cuts a packet, the packets handed on are those of the stream in order, up
to the ones longer than the receive buffer, and the client stays at the start of
a packet or has dropped the connection (`passes_hand_packets_in_order`). A body
that arrives in part is handed on all the same (`pass_hands_cut_packet`).
-/

set_option autoImplicit false

namespace UIoT.Mqtt

open Runs

/-! ## Connecting and disconnecting -/

section Connected

variable {client : Client}

theorem RequestOutcome.connection {accepts : Client → Prop} {result : Result}
    (outcome : RequestOutcome client accepts result)
    (accepted : accepts result.client → result.client.connection = client.connection) :
    result.client.connection = client.connection := by
  cases outcome with
  | untouched buf same => rw [same]; rfl
  | failed buf took => rw [took]; rfl
  | accepted id after => exact accepted after

theorem uiotMqttDisconnect_isConnected (client : Client) (env : Env) (send : Nat) :
    (uiotMqttDisconnect client env send).client.isConnected = false := by
  unfold uiotMqttDisconnect
  split
  · rename_i disconnected
    exact Bool.not_eq_true _ ▸ disconnected
  · rfl

theorem handleDisconnect_isConnected (client : Client) (env : Env) (send : Nat) :
    (handleDisconnect client env send).client.isConnected = false := by
  have disconnects := uiotMqttDisconnect_isConnected client env send
  unfold handleDisconnect
  split
  · rename_i disconnected
    exact Bool.not_eq_true _ ▸ disconnected
  · simp only
    split
    · rfl
    · exact disconnects

theorem mqttKeepAlive_isConnected (env : Env) :
    (mqttKeepAlive client env).client.isConnected = true → client.isConnected = true := by
  have never : ∀ {client' : Client} {send : Nat},
      (handleDisconnect client' env send).client.isConnected = true → client.isConnected = true := by
    intro client' send connected
    rw [handleDisconnect_isConnected] at connected
    cases connected
  unfold mqttKeepAlive
  simp only
  split
  · exact id
  split
  · exact id
  split
  · exact never
  split
  · exact id
  split
  · exact never
  · exact id

/-- Acts that read nothing from the connection and make none. -/
def Act.LeavesWire : Act → Prop
  | .cycle .. | .sendConnect .. | .acceptConnack _ => False
  | _ => True

/-- The size of the receive buffer stays, and only a CONNACK connects. -/
theorem step_connection (input : Act) (numbered : client.waiting.Numbered) :
    (step client input).1.readBufSize = client.readBufSize ∧
      (input.LeavesWire → (step client input).1.isConnected = true → client.isConnected = true) := by
  have ofConnection : (step client input).1.connection = client.connection →
      (step client input).1.readBufSize = client.readBufSize ∧
        (input.LeavesWire → (step client input).1.isConnected = true →
          client.isConnected = true) := by
    intro same
    refine ⟨congrArg Connection.readBufSize same, fun _ connected => ?_⟩
    exact (congrArg Connection.isConnected same).symm.trans connected
  have ofStanding : (step client input).1.standing = client.standing →
      (step client input).1.readBufSize = client.readBufSize := congrArg Standing.readBufSize
  have never : ∀ {isConnected : Bool}, isConnected = false → isConnected = true →
      client.isConnected = true := by
    rintro _ rfl wrong
    cases wrong
  cases input with
  | publish topicName params env =>
      apply ofConnection
      refine (uiotMqttPublish_outcome topicName params env numbered.pub).2.connection ?_
      rintro ⟨-, buf, timer, same⟩
      rw [same]
      rfl
  | subscribe topicFilter params env =>
      apply ofConnection
      refine (uiotMqttSubscribe_outcome topicFilter params env numbered.sub).2.connection ?_
      rintro ⟨-, buf, timer, same⟩
      rw [same]
      rfl
  | unsubscribe topicFilter env =>
      apply ofConnection
      obtain ⟨-, same | outcome⟩ := uiotMqttUnsubscribe_outcome topicFilter env numbered.sub
      · exact congrArg Client.connection same
      · refine outcome.connection ?_
        rintro ⟨-, buf, timer, same⟩
        rw [same]
        rfl
  | cycle read env => exact ofConnection (cycle_connection env client read)
  | pubInfoProc env =>
      apply ofConnection
      simp only [step, act]
      rcases uiotMqttPubInfoProc_swept client env with same | ⟨kept, outputs, timedOut, same, -⟩
      · rw [same]
      · rw [same]
        rfl
  | subInfoProc env =>
      apply ofConnection
      simp only [step, act]
      rcases uiotMqttSubInfoProc_swept client env with same | ⟨kept, outputs, timedOut, same, -⟩
      · rw [same]
      · rw [same]
        rfl
  | keepAlive env =>
      exact ⟨ofStanding (step_standing client _ trivial), fun _ => mqttKeepAlive_isConnected env⟩
  | disconnect env =>
      exact ⟨ofStanding (step_standing client _ trivial), fun _ =>
        never (uiotMqttDisconnect_isConnected client env 0)⟩
  | handleDisconnect env =>
      exact ⟨ofStanding (step_standing client _ trivial), fun _ =>
        never (handleDisconnect_isConnected client env 0)⟩
  | sendConnect options netConnectRet env =>
      exact ⟨ofStanding (step_standing client _ trivial), fun leaves => leaves.elim⟩
  | acceptConnack env =>
      exact ⟨ofStanding (step_standing client _ trivial), fun leaves => leaves.elim⟩
  | backOff env =>
      exact ⟨ofStanding (step_standing client _ trivial), fun _ connected =>
        (backOff_isConnected env).symm.trans connected⟩
  | closeNetwork | raiseReconnect | countDisconnect | scheduleReconnect =>
      exact ⟨rfl, fun _ connected => connected⟩

/-- A client whose wait lists are in order and whose receive buffer has the size
it got at the start. -/
structure Client.Ready (client : Client) : Prop where
  valid : client.waiting.Valid
  readBufSize : client.readBufSize = uiotMqttRxBufLen

theorem Steps.ready {client' : Client} {outputs : List Output} (steps : Steps client client' outputs)
    (ready : client.Ready) : client'.Ready := by
  obtain ⟨inputs, rfl, -⟩ := steps
  refine ((along_true step client inputs).invariant Client.Ready ready ?_).2
  intro client input ready _
  exact ⟨(step_moves input ready.valid.numbered).valid ready.valid,
    (step_connection input ready.valid.numbered).1.trans ready.readBufSize⟩

/-- A failed read with one of the four codes drops the connection. -/
theorem readPassWith_lost {read : PacketRead} (world : PassEnv)
    (code : dropsConnection read.ret = true) :
    (readPassWith client read world).2.client.isConnected = false := by
  rw [dropsConnection, decide_eq_true_eq] at code
  have failed : read.ret ≠ errMqttNothingToRead ∧ read.ret ≠ successRet := by
    rcases code with code | code | code | code <;> rw [code] <;> decide
  have after : afterCycle { client with readBuf := read.readBuf } read.ret world =
      handleDisconnect { client with readBuf := read.readBuf } world.disconnect 0 := by
    rw [afterCycle, if_neg failed.2, if_pos code]
  have lost := handleDisconnect_isConnected { client with readBuf := read.readBuf } world.disconnect 0
  simp only [readPassWith, cycleForReadWith, if_neg failed.1, if_pos failed.2, after]
  unfold endOfPass
  split
  · simp only
    split <;> exact lost
  · exact lost

end Connected

/-! ## Links -/

/-- A client and the wire of its connection. -/
structure Link where
  client : Client
  wire : Wire

/-- A pass of a yield, or an act of the application. -/
inductive LinkInput where
  | pass (world : PassEnv)
  | request (input : Act) (leavesWire : input.LeavesWire)

/-- What `cycle_for_read` hands on after a call of `_read_mqtt_packet`: the
packet in the receive buffer when the call has succeeded. -/
def handed (read : PacketRead) : List (UInt8 × List UInt8) :=
  if read.ret = successRet then (packetInBuf read.readBuf).toList else []

/-- A step on a connection. Once the connection is lost its wire is not read. -/
def linkStep (link : Link) : LinkInput → Link × List (UInt8 × List UInt8)
  | .pass world =>
      if link.client.isConnected then
        let (_, result, wire) := yieldPass wireNetwork link.client link.wire world
        let (read, _) :=
          readMqttPacket wireNetwork link.client.readBufSize link.client.readBuf link.wire
        (⟨result.client, wire⟩, handed read)
      else (link, [])
  | .request input _ => (⟨(step link.client input).1, link.wire⟩, [])

/-- A pass of a connected client does not cut the packet it reads. -/
def LinkInput.Whole (link : Link) : LinkInput → Prop
  | .pass _ =>
      link.client.isConnected = true → wholeCall link.client.readBufSize link.wire = true
  | .request _ _ => True

instance (link : Link) : (input : LinkInput) → Decidable (input.Whole link)
  | .pass _ => inferInstanceAs (Decidable (_ → _))
  | .request _ _ => inferInstanceAs (Decidable True)

theorem linkStep_pass {link : Link} (connected : link.client.isConnected = true) (world : PassEnv) :
    let read := readMqttPacket wireNetwork link.client.readBufSize link.client.readBuf link.wire
    linkStep link (.pass world) =
      (⟨(readPassWith link.client read.1 world).2.client, read.2⟩, handed read.1) := by
  simp only [linkStep, yieldPass, connected, not_true_eq_false, if_true, if_false]

/-- A call on a wire with nothing left takes nothing. -/
theorem readMqttPacket_empty (size : Nat) (readBuf : List UInt8) {wire : Wire}
    (empty : wire.bytes = []) :
    (readMqttPacket wireNetwork size readBuf wire).1.ret ≠ successRet ∧
      (readMqttPacket wireNetwork size readBuf wire).2.bytes = [] := by
  obtain ⟨ret, after, read, none, left⟩ : ∃ ret after,
      wireNetwork.read wire 1 = (ret, [], after) ∧ ret ≤ 0 ∧ after.bytes = [] := by
    obtain ⟨bytes, schedule⟩ := wire
    cases empty
    cases schedule with
    | nil => exact ⟨0, _, rfl, Int.le_refl 0, rfl⟩
    | cons delivery schedule =>
        cases delivery with
        | delivers count => exact ⟨0, ⟨[], schedule⟩, by simp [wireNetwork, Wire.read], Int.le_refl 0, rfl⟩
        | fails code =>
            exact ⟨failCode code, ⟨[], schedule⟩, rfl, Int.le_of_lt (Int.negSucc_lt_zero code), rfl⟩
  obtain ⟨failed, same⟩ := readMqttPacket_nothing size readBuf read none
  exact ⟨failed, by rw [same, left]⟩

/-! ## The invariant -/

/-- The link is at the start of the packets left, unless the connection is lost. -/
structure Link.AtPacket (left : List FramedPacket) (link : Link) : Prop where
  ready : link.client.Ready
  bytes : link.client.isConnected = true → link.wire.bytes = left.flatMap FramedPacket.bytes

/-- The packets that fit the receive buffer, as they are handed on. -/
def handedOf (packets : List FramedPacket) : List (UInt8 × List UInt8) :=
  (packets.filter (FramedPacket.fits uiotMqttRxBufLen)).map FramedPacket.content

theorem handedOf_append (first second : List FramedPacket) :
    handedOf (first ++ second) = handedOf first ++ handedOf second := by
  rw [handedOf, List.filter_append, List.map_append, handedOf, handedOf]

/-- What a step does: some packets are taken off the front, and those that fit
are handed on. -/
def Link.Takes (left : List FramedPacket) (link' : Link) (log : List (UInt8 × List UInt8)) : Prop :=
  ∃ taken left', left = taken ++ left' ∧ link'.AtPacket left' ∧ log = handedOf taken

theorem Link.AtPacket.takesNone {left : List FramedPacket} {link : Link}
    (atPacket : link.AtPacket left) : link.Takes left [] :=
  ⟨[], left, rfl, atPacket, rfl⟩

/-- A pass of a connected client takes at most the packet at the front. -/
theorem pass_takes {link : Link} {left : List FramedPacket} (atPacket : link.AtPacket left)
    (connected : link.client.isConnected = true) (world : PassEnv)
    (whole : wholeCall link.client.readBufSize link.wire = true) :
    (linkStep link (.pass world)).1.Takes left (linkStep link (.pass world)).2 := by
  have front := atPacket.bytes connected
  have size := atPacket.ready.readBufSize
  have silent : ∀ {read : PacketRead}, read.ret ≠ successRet → handed read = [] :=
    fun failed => if_neg failed
  have ready : ∀ read, (readPassWith link.client read world).2.client.Ready :=
    fun read => (readPassWith_steps link.client read world).ready atPacket.ready
  rw [linkStep_pass connected]
  cases left with
  | nil =>
      obtain ⟨failed, nothing⟩ :=
        readMqttPacket_empty link.client.readBufSize link.client.readBuf front
      rw [silent failed]
      exact Link.AtPacket.takesNone ⟨ready _, fun _ => nothing⟩
  | cons packet rest =>
      have isWire : link.wire =
          ⟨packet.bytes ++ rest.flatMap FramedPacket.bytes, link.wire.schedule⟩ := by
        rw [← List.flatMap_cons, ← front]
      rw [isWire, size] at whole
      have outcome := readMqttPacket_whole (by decide) link.client.readBuf whole
      rw [← isWire, ← size] at outcome
      cases outcome with
      | nothing failed bytes =>
          rw [silent failed]
          exact Link.AtPacket.takesNone ⟨ready _, fun _ => bytes⟩
      | taken fits success content bytes =>
          refine ⟨[packet], rest, rfl, ⟨ready _, fun _ => bytes⟩, ?_⟩
          rw [size] at fits
          rw [handed, if_pos success, content, handedOf, List.filter_cons_of_pos fits]
          rfl
      | dropped tooLong failed bytes =>
          refine ⟨[packet], rest, rfl, ⟨ready _, fun _ => bytes⟩, ?_⟩
          rw [size] at tooLong
          rw [silent (by rw [failed]; decide), handedOf, List.filter_cons_of_neg (by simp [tooLong])]
          rfl
      | lost code =>
          have unsuccessful : ∀ {read : PacketRead}, dropsConnection read.ret = true →
              read.ret ≠ successRet := by
            intro read code success
            rw [success] at code
            cases code
          rw [silent (unsuccessful code)]
          refine Link.AtPacket.takesNone ⟨ready _, fun still => ?_⟩
          rw [readPassWith_lost world code] at still
          cases still

theorem linkStep_takes {link : Link} {left : List FramedPacket} (atPacket : link.AtPacket left)
    {input : LinkInput} (whole : input.Whole link) :
    (linkStep link input).1.Takes left (linkStep link input).2 := by
  cases input with
  | request input leavesWire =>
      have numbered := atPacket.ready.valid.numbered
      apply Link.AtPacket.takesNone
      refine ⟨(Steps.one _ input).ready atPacket.ready, fun connected => ?_⟩
      exact atPacket.bytes ((step_connection input numbered).2 leavesWire connected)
  | pass world =>
      by_cases connected : link.client.isConnected = true
      · exact pass_takes atPacket connected world (whole connected)
      · rw [linkStep, if_neg connected]
        exact atPacket.takesNone

/-- What a run does, in which no call cuts a packet. -/
theorem linkRun_takes {link : Link} {left : List FramedPacket} (atPacket : link.AtPacket left)
    {inputs : List LinkInput} (whole : Along linkStep (fun link input => input.Whole link) link inputs) :
    (run linkStep link inputs).1.Takes left (run linkStep link inputs).2.flatten := by
  induction inputs generalizing link left with
  | nil => exact atPacket.takesNone
  | cons input inputs inductionHypothesis =>
      obtain ⟨taken, rest, rfl, atRest, log⟩ := linkStep_takes atPacket whole.1
      obtain ⟨later, last, rfl, atLast, logs⟩ := inductionHypothesis atRest whole.2
      refine ⟨taken ++ later, last, (List.append_assoc _ _ _).symm, atLast, ?_⟩
      rw [run_cons_snd, List.flatten_cons, log, logs, handedOf_append]

/-! ## Runs on one connection -/

/-- A yield is a run of passes, as long as the connection is not lost. -/
theorem yieldLoop_passes (client : Client) (ret : Int) (wire : Wire) (worlds : List PassEnv) :
    let yielded := yieldLoop wireNetwork client ret wire worlds
    ∃ passes, passes <+: worlds ∧
      let last := (run linkStep ⟨client, wire⟩ (passes.map .pass)).1
      last.client.isConnected = false ∨ last = ⟨yielded.1.client, yielded.2⟩ := by
  induction worlds generalizing client ret wire with
  | nil => exact ⟨[], List.prefix_refl _, .inr rfl⟩
  | cons world worlds inductionHypothesis =>
      by_cases connected : client.isConnected = true
      · have pass := @linkStep_pass ⟨client, wire⟩ connected world
        simp only [yieldLoop, yieldPass, connected, not_true_eq_false, if_false]
        split
        · obtain ⟨passes, among, last⟩ := inductionHypothesis
            (readPassWith client (readMqttPacket wireNetwork client.readBufSize client.readBuf wire).1
              world).2.client
            (readPassWith client (readMqttPacket wireNetwork client.readBufSize client.readBuf wire).1
              world).2.ret
            (readMqttPacket wireNetwork client.readBufSize client.readBuf wire).2
          refine ⟨world :: passes, List.cons_prefix_cons.mpr ⟨rfl, among⟩, ?_⟩
          rw [List.map_cons, run_cons_fst, pass]
          exact last
        · refine ⟨[world], List.cons_prefix_cons.mpr ⟨rfl, List.nil_prefix⟩, .inr ?_⟩
          rw [List.map_cons, run_cons_fst, pass]
          rfl
      · exact ⟨[], List.nil_prefix, .inl (Bool.not_eq_true _ ▸ connected)⟩

theorem uiotMqttYield_passes (client : Client) (timeoutMs : UInt32) (wire : Wire)
    (worlds : List PassEnv) :
    let yielded := uiotMqttYield wireNetwork client timeoutMs wire worlds
    ∃ passes, passes <+: worlds ∧
      let last := (run linkStep ⟨client, wire⟩ (passes.map .pass)).1
      last.client.isConnected = false ∨ last = ⟨yielded.1.client, yielded.2⟩ := by
  intro yielded
  simp only [yielded, uiotMqttYield]
  split
  · exact ⟨[], List.nil_prefix, .inr rfl⟩
  split
  · exact ⟨[], List.nil_prefix, .inr rfl⟩
  split
  · exact ⟨[], List.nil_prefix, .inr rfl⟩
  · exact yieldLoop_passes client successRet wire worlds

/-- When no call cuts a packet, then at every point of every run on a connection
the packets handed on are those in front of some point of the stream, without
the ones longer than the receive buffer, and the client is at that point or has
lost the connection. When every packet fits, they are a prefix of the stream. -/
theorem passes_hand_packets_in_order (params : InitParams) (client : Client)
    (outputs : List Output) (reachable : Steps (uiotMqttInit params) client outputs)
    (packets : List FramedPacket) (schedule : List Delivery) (inputs : List LinkInput)
    (whole : Along linkStep (fun link input => input.Whole link)
      ⟨client, ⟨packets.flatMap FramedPacket.bytes, schedule⟩⟩ inputs)
    (before after : List LinkInput) (isRun : inputs = before ++ after) :
    let reached := run linkStep ⟨client, ⟨packets.flatMap FramedPacket.bytes, schedule⟩⟩ before
    (∃ taken left, packets = taken ++ left ∧
      reached.2.flatten =
        (taken.filter (FramedPacket.fits uiotMqttRxBufLen)).map FramedPacket.content ∧
      (reached.1.client.isConnected = true →
        reached.1.wire.bytes = left.flatMap FramedPacket.bytes)) ∧
    ((∀ packet ∈ packets, packet.fits uiotMqttRxBufLen = true) →
      reached.2.flatten <+: packets.map FramedPacket.content) := by
  intro reached
  subst isRun
  have ready : client.Ready := reachable.ready ⟨uiotMqttInit_valid params, rfl⟩
  have start : Link.AtPacket packets
      ⟨client, ⟨packets.flatMap FramedPacket.bytes, schedule⟩⟩ := ⟨ready, fun _ => rfl⟩
  obtain ⟨taken, left, isStream, atLeft, log⟩ := linkRun_takes start (along_append.mp whole).1
  refine ⟨⟨taken, left, isStream, log, atLeft.bytes⟩, fun fit => ?_⟩
  have all : taken.filter (FramedPacket.fits uiotMqttRxBufLen) = taken :=
    List.filter_eq_self.mpr fun packet among =>
      fit packet (isStream ▸ List.mem_append_left left among)
  refine ⟨left.map FramedPacket.content, ?_⟩
  rw [show reached.2.flatten = handedOf taken from log, handedOf, all, isStream, List.map_append]

/-! ## A packet that is cut -/

/-- A client that has just been connected. -/
def connectedClient : Client := (run step (uiotMqttInit ⟨2000, true⟩) connectActs).1

/-- A message `xy` on the topic `a`. -/
def publishedPacket : FramedPacket :=
  ⟨0x30, [5], [0, 1, 0x61, 0x78, 0x79], by decide, by decide⟩

/-- Two messages come in, the second one after a read that delivers nothing. -/
theorem passes_hand_two_packets :
    let reached := run linkStep
      ⟨connectedClient, ⟨[publishedPacket, publishedPacket].flatMap FramedPacket.bytes,
        [.delivers 1, .delivers 1, .delivers 5, .delivers 0, .delivers 1, .delivers 1, .delivers 7]⟩⟩
      [.pass quietPass, .request publishAct trivial, .pass quietPass, .pass quietPass]
    (∃ taken left, [publishedPacket, publishedPacket] = taken ++ left ∧
      reached.2.flatten =
        (taken.filter (FramedPacket.fits uiotMqttRxBufLen)).map FramedPacket.content ∧
      (reached.1.client.isConnected = true →
        reached.1.wire.bytes = left.flatMap FramedPacket.bytes)) ∧
    ((∀ packet ∈ [publishedPacket, publishedPacket], packet.fits uiotMqttRxBufLen = true) →
      reached.2.flatten <+: [publishedPacket, publishedPacket].map FramedPacket.content) :=
  passes_hand_packets_in_order ⟨2000, true⟩ connectedClient _ ⟨connectActs, rfl, rfl⟩
    [publishedPacket, publishedPacket] _
    ([.pass quietPass, .request publishAct trivial, .pass quietPass, .pass quietPass] ++ [])
    (by decide +kernel) _ [] rfl

/-- The wire of one message, of whose body only three bytes come in time. -/
def cutWire : Wire := ⟨publishedPacket.bytes, [.delivers 1, .delivers 1, .delivers 3]⟩

/-- The message is handed on with what the buffer held in place of its payload,
and the client stays connected with the payload still to be read. -/
theorem pass_hands_cut_packet :
    let reached := linkStep ⟨connectedClient, cutWire⟩ (.pass quietPass)
    reached.2 = [(0x30, [0, 1, 0x61, 0, 0])] ∧
      ¬reached.2 <+: [publishedPacket].map FramedPacket.content ∧
      (yieldPass wireNetwork connectedClient cutWire quietPass).2.1.outputs =
        [.received ⟨0, 0, 0, none, [0x61], [0, 0]⟩] ∧
      reached.1.client.isConnected = true ∧ reached.1.wire.bytes = [0x78, 0x79] := by
  decide +kernel

end UIoT.Mqtt
