import UIoT.Mqtt.Codes
import UIoT.Mqtt.Framing

/-!
# Waiting between attempts to reconnect

A pass of `uiot_mqtt_yield` that loses the connection arms the delay timer with
one second, and each attempt that fails doubles the interval, up to a minute.
The interval is read and clamped in `_handle_reconnect` and tested and reset in
`uiot_mqtt_yield`; a session counts the attempts that have failed since the
connection was lost, and the interval is a function of that count
(`Session.Paced`). So the branch that gives up is never reached
(`reconnect_backs_off`).
-/

set_option autoImplicit false

namespace UIoT.Mqtt

open Runs

/-! ## What packets and requests leave alone -/

/-- What the passes of a yield reconnect by. -/
structure Pace where
  options : ConnectParams
  currentReconnectWaitInterval : UInt32
  reconnectDelayTimer : Timer

def Client.pace (client : Client) : Pace :=
  ⟨client.options, client.currentReconnectWaitInterval, client.reconnectDelayTimer⟩

/-- The connection and the pace have not changed. -/
structure Client.SameLink (client client' : Client) : Prop where
  isConnected : client'.isConnected = client.isConnected
  pace : client'.pace = client.pace

theorem Client.SameLink.refl (client : Client) : client.SameLink client := ⟨rfl, rfl⟩

theorem Client.SameLink.trans {client client' client'' : Client} (first : client.SameLink client')
    (second : client'.SameLink client'') : client.SameLink client'' :=
  ⟨second.isConnected.trans first.isConnected, second.pace.trans first.pace⟩

section Frames

variable {client : Client} (env : Env)

theorem pace_maskSubInfoFrom (packetId : UInt16) (alloc : Nat) :
    (maskSubInfoFrom client packetId env alloc).2.pace = client.pace := by
  rw [maskSubInfoFrom]
  split <;> rfl

theorem pace_sendAnswer (packet : Except Int (List UInt8)) :
    (sendAnswer client packet env).client.pace = client.pace := by
  cases packet <;> rfl

theorem dispatch_pace {packetType : MessageTypes} {handled : Result}
    (dispatched : dispatch client packetType env = some handled) :
    handled.client.pace = client.pace := by
  cases packetType <;> simp only [dispatch, Option.some.injEq, reduceCtorEq] at dispatched
  case puback =>
    rw [← dispatched, handlePubackPacket]
    split
    · rfl
    · simp only [maskPubInfoFrom]
      split <;> rfl
  case suback =>
    rw [← dispatched, handleSubackPacket]
    split
    · rfl
    · rename_i packetId grantedQoS _
      have masked := @pace_maskSubInfoFrom client env packetId 0
      simp only
      split
      · exact masked
      split
      · exact masked
      split
      · exact masked
      · exact masked
  case unsuback =>
    rw [← dispatched, handleUnsubackPacket]
    split
    · rfl
    · exact pace_maskSubInfoFrom env _ 0
  case publish =>
    rw [← dispatched, handlePublishPacket]
    split
    · rfl
    · simp only
      split
      · rw [deliverMessage_client]
      · rw [pace_sendAnswer, deliverMessage_client]
  case pubrec =>
    rw [← dispatched, handlePubrecPacket]
    split
    · rfl
    · rw [pace_sendAnswer]
  all_goals exact dispatched ▸ rfl

/-- A packet that comes in changes neither. -/
theorem cycle_sameLink (client : Client) (read : PacketRead) :
    client.SameLink (cycleForReadWith client read env).client := by
  refine ⟨congrArg Connection.isConnected (cycle_connection env client read), ?_⟩
  rw [cycleForReadWith]
  split
  · rfl
  split
  · rfl
  split
  · rfl
  split
  · rfl
  · rename_i handled dispatched
    have noted : ∀ packetType,
        (notePing handled.client packetType env).pace = handled.client.pace := by
      intro packetType
      cases packetType <;> rfl
    have handles := dispatch_pace env dispatched
    exact (noted _).trans handles

theorem uiotMqttPublish_sameLink (topicName : CString) (params : PublishParams) :
    client.SameLink (uiotMqttPublish client topicName params env).client := by
  unfold uiotMqttPublish
  split
  · exact .refl client
  split
  · exact .refl client
  split
  · exact .refl client
  split
  · exact .refl client
  rename_i notQos2 connected
  cases quality : params.qos with
  | qos2 => exact absurd quality notQos2
  | qos0 =>
      simp only [reduceCtorEq, if_false, ne_eq, not_true_eq_false]
      split
      · exact .refl client
      · split <;> exact ⟨rfl, rfl⟩
  | qos1 =>
      simp only [if_true, ne_eq, reduceCtorEq, not_false_eq_true]
      split
      · exact ⟨rfl, rfl⟩
      · rename_i packet built
        rcases maskPushPubInfoTo_cases ((getNextPacketId client).2.store packet) packet.length
            (getNextPacketId client).1 env 0 with ⟨ret, failed, pushed⟩ | ⟨timer, pushed⟩
        · simp only [pushed, if_pos failed]
          exact ⟨rfl, rfl⟩
        · simp only [pushed, not_true_eq_false, if_false]
          split <;> exact ⟨rfl, rfl⟩

theorem sendSubRequest_sameLink (client : Client) (packet : List UInt8) (packetId : UInt16)
    (request : MessageTypes) (handler : SubTopicHandle) :
    client.SameLink (sendSubRequest client packet packetId request handler env).client := by
  unfold sendSubRequest
  rcases pushSubInfoTo_cases (client.store packet) packetId request handler env 1 with
    ⟨ret, failed, pushed⟩ | ⟨timer, pushed⟩
  · simp only [pushed, if_pos failed]
    exact ⟨rfl, rfl⟩
  · simp only [pushed, ne_eq, not_true_eq_false, if_false]
    split <;> exact ⟨rfl, rfl⟩

theorem uiotMqttSubscribe_sameLink (topicFilter : CString) (params : SubscribeParams) :
    client.SameLink (uiotMqttSubscribe client topicFilter params env).client := by
  have taken : client.SameLink (getNextPacketId client).2 := ⟨rfl, rfl⟩
  unfold uiotMqttSubscribe
  split
  · exact .refl client
  split
  · exact .refl client
  split
  · exact .refl client
  split
  · exact .refl client
  split
  · exact .refl client
  simp only
  split
  · exact taken
  · exact taken.trans (sendSubRequest_sameLink env _ _ _ _ _)

theorem uiotMqttUnsubscribe_sameLink (topicFilter : CString) :
    client.SameLink (uiotMqttUnsubscribe client topicFilter env).client := by
  have taken : client.SameLink (getNextPacketId (clearSlots client topicFilter)).2 := ⟨rfl, rfl⟩
  unfold uiotMqttUnsubscribe
  split
  · exact .refl client
  split
  · exact .refl client
  simp only
  split
  · exact ⟨rfl, rfl⟩
  split
  · exact ⟨rfl, rfl⟩
  split
  · exact ⟨rfl, rfl⟩
  split
  · exact taken
  · exact taken.trans (sendSubRequest_sameLink env _ _ _ _ _)

/-- Neither does a request. -/
theorem request_sameLink {input : Act} (isRequest : input.IsRequest) :
    client.SameLink (act client input).client := by
  cases input with
  | publish topicName params env => exact uiotMqttPublish_sameLink env topicName params
  | subscribe topicFilter params env => exact uiotMqttSubscribe_sameLink env topicFilter params
  | unsubscribe topicFilter env => exact uiotMqttUnsubscribe_sameLink env topicFilter
  | _ => exact isRequest.elim

theorem uiotMqttPubInfoProc_sameLink :
    client.SameLink (uiotMqttPubInfoProc client env).client := by
  unfold uiotMqttPubInfoProc
  split <;> exact ⟨rfl, rfl⟩

theorem uiotMqttSubInfoProc_sameLink :
    client.SameLink (uiotMqttSubInfoProc client env).client := by
  unfold uiotMqttSubInfoProc
  split <;> exact ⟨rfl, rfl⟩

end Frames

/-! ## Losing the connection -/

section Lost

variable {client : Client}

theorem uiotMqttDisconnect_pace (env : Env) (send : Nat) :
    (uiotMqttDisconnect client env send).client.pace = client.pace := by
  unfold uiotMqttDisconnect
  split
  · rfl
  · simp only
    split <;> rfl

/-- What is left of a connected client after a packet has been read: the same
connection and an ordinary code, or no connection and the code that tells so. -/
inductive Kept (client : Client) (result : Result) : Prop where
  | stays (same : client.SameLink result.client) (ordinary : Ordinary result.ret)
  | lost (noConn : result.ret = errMqttNoConn) (disconnected : result.client.isConnected = false)
      (pace : result.client.pace = client.pace)

theorem Kept.of_sameLink {client' : Client} {result : Result} (same : client.SameLink client')
    (kept : Kept client' result) : Kept client result := by
  cases kept with
  | stays still ordinary => exact .stays (same.trans still) ordinary
  | lost noConn disconnected pace => exact .lost noConn disconnected (pace.trans same.pace)

theorem Kept.withOutputs {result : Result} (kept : Kept client result) (outputs : List Output) :
    Kept client { result with outputs := outputs } := by
  cases kept with
  | stays same ordinary => exact .stays same ordinary
  | lost noConn disconnected pace => exact .lost noConn disconnected pace

theorem handleDisconnect_kept (env : Env) (send : Nat) :
    Kept client (handleDisconnect client env send) := by
  refine .lost ?_ (handleDisconnect_isConnected client env send) ?_
  · unfold handleDisconnect
    split <;> rfl
  · have disconnects := @uiotMqttDisconnect_pace client env send
    unfold handleDisconnect
    split
    · rfl
    · simp only
      split
      · exact disconnects
      · exact disconnects

theorem mqttKeepAlive_kept (env : Env) : Kept client (mqttKeepAlive client env) := by
  have stored : ∀ packet, client.SameLink (client.store packet) := fun _ => ⟨rfl, rfl⟩
  unfold mqttKeepAlive
  simp only
  split
  · exact .stays (.refl client) ordinary_successRet
  split
  · exact .stays (.refl client) ordinary_successRet
  split
  · exact handleDisconnect_kept env 0
  split
  · rename_i ret failed
    exact .stays (.refl client) (serializePacketWithZeroPayload_fails _ _ ret failed).ordinary
  · split
    · exact ((handleDisconnect_kept env 4).of_sameLink (stored _)).withOutputs _
    · exact .stays ⟨rfl, rfl⟩ ordinary_successRet

theorem afterCycle_kept {ret : Int} (ordinary : Ordinary ret) (world : PassEnv) :
    Kept client (afterCycle client ret world) := by
  unfold afterCycle
  split
  · have swept := (uiotMqttPubInfoProc_sameLink world.pubInfoProc).trans
      (@uiotMqttSubInfoProc_sameLink (uiotMqttPubInfoProc client world.pubInfoProc).client
        world.subInfoProc)
    exact ((mqttKeepAlive_kept world.keepAlive).of_sameLink swept).withOutputs _
  split
  · exact handleDisconnect_kept world.disconnect 0
  split
  · exact .stays (.refl client) ordinary_successRet
  · exact .stays (.refl client) ordinary

/-- The pace of a client whose connection has just been lost. -/
def firstPace (client : Client) (env : Env) : Pace :=
  ⟨client.options, minReconnectWaitInterval,
    countdownMs env.rtTickFromMillisecond (env.tick 0) minReconnectWaitInterval⟩

/-- A pass that reads keeps the connection and the pace, or it loses the
connection and arms the delay timer. -/
theorem readPassWith_paces {read : PacketRead} (code : ReadCode read.ret)
    (enabled : client.options.autoConnectEnable = 1) (world : PassEnv) :
    let pass := (readPassWith client read world).2
    (client.SameLink pass.client ∧ Ordinary pass.ret) ∨
      (pass.ret = errMqttAttemptingReconnect ∧ pass.client.isConnected = false ∧
        pass.client.pace = firstPace client world.env) := by
  intro pass
  have cycled := cycle_sameLink world.cycle client read
  have ordinary := @cycle_ordinary client world.cycle read code
  have kept := (afterCycle_kept ordinary world).of_sameLink cycled
  cases kept with
  | stays same ordinary =>
      left
      simp only [pass, readPassWith, endOfPass, if_neg ordinary.noConn]
      exact ⟨same, ordinary⟩
  | lost noConn disconnected pace =>
      have options := congrArg Pace.options pace
      simp only [Client.pace] at options
      right
      simp only [pass, readPassWith, endOfPass, if_pos noConn, options, if_pos enabled]
      refine ⟨trivial, disconnected, ?_⟩
      simp only [Client.pace, scheduleReconnect, firstPace]

end Lost

/-! ## Attempts -/

/-- What the network tells while a connection is made: `utils_net_connect`
succeeds or fails, and each packet is read with a code of its own. -/
structure ConnectCodes (world : ConnectEnv) : Prop where
  netConnectRet : world.netConnectRet = successRet ∨ world.netConnectRet = failureRet
  reads : ∀ read ∈ world.reads, ReadCode read.1.ret

section Attempts

variable {client : Client}

theorem waitForRead_sameLink (packetType : MessageTypes) (readPacketType : Nat)
    (reads : List (PacketRead × Env)) (codes : ∀ read ∈ reads, ReadCode read.1.ret) :
    let waited := waitForRead packetType client readPacketType reads
    client.SameLink waited.client ∧ Ordinary waited.ret := by
  have timedOut : Ordinary errMqttRequestTimeout := ⟨by decide, by decide, by decide⟩
  induction reads generalizing client readPacketType with
  | nil => exact ⟨.refl client, timedOut⟩
  | cons head reads ih =>
      obtain ⟨read, env⟩ := head
      have same := cycle_sameLink env client read
      have ordinary := @cycle_ordinary client env read (codes _ List.mem_cons_self)
      simp only [waitForRead]
      split
      · have later := @ih (cycleForReadWith client read env).client
          (read.packetType.getD readPacketType)
          fun other member => codes other (List.mem_cons_of_mem _ member)
        exact ⟨same.trans later.1, later.2⟩
      · exact ⟨same, ordinary⟩

theorem sendConnect_paces (options : ConnectParams) {world : ConnectEnv}
    (codes : ConnectCodes world) :
    let sent := sendConnect client options world.netConnectRet world.env
    sent.client.pace = { client.pace with options := options } ∧ Ordinary sent.ret ∧
      (sent.ret = successRet → .netConnect ∈ sent.outputs) := by
  intro sent
  have opens := @sendConnect_opens client world.env options world.netConnectRet
  refine ⟨?_, ?_, fun success => ?_⟩
  · simp only [sent, sendConnect]
    split
    · rfl
    · split <;> rfl
  · simp only [sent, sendConnect]
    split
    · rcases codes.netConnectRet with isSuccess | isFailure
      · exact isSuccess ▸ ordinary_successRet
      · exact isFailure ▸ PacketError.failure.ordinary
    · split
      · rename_i ret failed
        exact (serializeConnectPacket_fails _ _ ret failed).ordinary
      · rename_i packet built
        rcases sendMqttPacket_code _ packet.length (world.env.writes 0) with isSuccess | isError
        · exact isSuccess ▸ ordinary_successRet
        · exact isError.ordinary
  · obtain ⟨later, isOpened, _⟩ := opens success
    rw [isOpened]
    exact List.mem_cons_self

theorem acceptConnack_paces (env : Env) :
    (acceptConnack client env).client.pace = client.pace ∧
      Ordinary (acceptConnack client env).ret ∧
      ((acceptConnack client env).ret = successRet →
        (acceptConnack client env).client.isConnected = true) := by
  obtain ⟨fails, refused⟩ := deserializeConnackPacket_ordinary client.readBuf client.readBufSize
  unfold acceptConnack
  split
  · rename_i ret malformed
    exact ⟨rfl, (fails ret malformed).ordinary, fun success =>
      absurd success (fails ret malformed).ne_success⟩
  · rename_i flags connackRc parsed
    split
    · have code := refused flags connackRc parsed
      exact ⟨rfl, code.1, fun success => absurd success code.2⟩
    · exact ⟨rfl, ordinary_successRet, fun _ => rfl⟩

/-- A call that connects keeps the pace but for the options, and where it
succeeds it has opened the network connection and the client is connected. -/
theorem mqttConnect_paces (options : ConnectParams) {world : ConnectEnv}
    (codes : ConnectCodes world) :
    let connected := mqttConnect client options world
    connected.client.pace = { client.pace with options := options } ∧ Ordinary connected.ret ∧
      (connected.ret = successRet →
        connected.client.isConnected = true ∧ .netConnect ∈ connected.outputs) := by
  intro connected
  obtain ⟨sentPace, sentOrdinary, opens⟩ := @sendConnect_paces client options world codes
  obtain ⟨waitedSame, waitedOrdinary⟩ := @waitForRead_sameLink
    (sendConnect client options world.netConnectRet world.env).client .connack 0 world.reads codes.reads
  obtain ⟨acceptedPace, acceptedOrdinary, connects⟩ := @acceptConnack_paces
    (waitForRead .connack (sendConnect client options world.netConnectRet world.env).client 0
      world.reads).client world.env
  simp only [connected, mqttConnect]
  split
  · rename_i failed
    exact ⟨sentPace, sentOrdinary, fun success => absurd success failed⟩
  rename_i sent
  have opened := opens (not_not.mp sent)
  split
  · rename_i failed
    exact ⟨waitedSame.pace.trans sentPace, waitedOrdinary, fun success => absurd success failed⟩
  · refine ⟨acceptedPace.trans (waitedSame.pace.trans sentPace), acceptedOrdinary, fun success => ?_⟩
    exact ⟨connects success, List.mem_append_left _ (List.mem_append_left _ opened)⟩

theorem uiotMqttConnect_paces (options : ConnectParams) {world : ConnectEnv}
    (codes : ConnectCodes world) (disconnected : client.isConnected = false) :
    let connected := uiotMqttConnect client options world
    connected.client.pace = { client.pace with options := options } ∧ Ordinary connected.ret ∧
      (connected.ret = successRet → connected.client.isConnected = true) ∧
      ¬KeepsNetwork connected.outputs := by
  intro connected
  obtain ⟨pace, ordinary, success⟩ := @mqttConnect_paces client options world codes
  simp only [connected, uiotMqttConnect, disconnected, Bool.false_eq_true, if_false]
  split
  · rename_i failed
    exact ⟨pace, ordinary, fun isSuccess => absurd isSuccess failed, fun keeps =>
      keeps.2 (List.mem_append_right _ List.mem_cons_self)⟩
  · rename_i succeeds
    have both := success (not_not.mp succeeds)
    exact ⟨pace, ordinary, fun _ => both.1, fun keeps => keeps.1 both.2⟩

theorem resubscribeLoop_sameLink (envs : Nat → Env) (slots : List (Fin maxSubTopics)) :
    client.SameLink (resubscribeLoop envs client slots).client := by
  induction slots generalizing client with
  | nil => exact .refl client
  | cons itr slots ih =>
      simp only [resubscribeLoop]
      split
      · exact ih
      · rename_i topic _
        have subscribed := @uiotMqttSubscribe_sameLink client (envs itr) topic
          ⟨(client.subHandles.get itr).qos, (client.subHandles.get itr).messageHandler,
            (client.subHandles.get itr).messageHandlerData⟩
        split
        · exact subscribed
        · exact subscribed.trans ih

theorem uiotMqttResubscribe_sameLink (envs : Nat → Env) :
    client.SameLink (uiotMqttResubscribe client envs).client := by
  unfold uiotMqttResubscribe
  split
  · exact .refl client
  · exact resubscribeLoop_sameLink envs _

/-- An attempt keeps the pace, opens or closes the network connection, and tells
that the client is connected again only if it is. -/
theorem attemptReconnect_paces {world : ReconnectEnv} (codes : ConnectCodes world.connect)
    (disconnected : client.isConnected = false) :
    let attempted := uiotMqttAttemptReconnect client world
    attempted.client.pace = client.pace ∧ ¬KeepsNetwork attempted.outputs ∧
      (attempted.ret = mqttReconnected → attempted.client.isConnected = true) := by
  intro attempted
  obtain ⟨pace, ordinary, -, touches⟩ :=
    @uiotMqttConnect_paces client client.options world.connect codes disconnected
  have resubscribed := @uiotMqttResubscribe_sameLink
    (uiotMqttConnect client client.options world.connect).client world.subscribe
  have stillTouches : ∀ more, ¬KeepsNetwork
      ((uiotMqttConnect client client.options world.connect).outputs ++ more) := by
    intro more keeps
    exact touches ⟨fun among => keeps.1 (List.mem_append_left _ among),
      fun among => keeps.2 (List.mem_append_left _ among)⟩
  simp only [attempted, uiotMqttAttemptReconnect, disconnected, Bool.false_eq_true, if_false]
  split
  · exact ⟨pace, touches, fun reconnected => absurd reconnected ordinary.reconnected⟩
  rename_i made
  have connected := resubscribed.isConnected.trans (not_not.mp made)
  split
  · exact ⟨resubscribed.pace.trans pace, stillTouches _, fun _ => connected⟩
  · exact ⟨resubscribed.pace.trans pace, stillTouches _, fun _ => connected⟩

end Attempts

/-! ## The delays -/

/-- The delay after a number of failed attempts, in milliseconds. -/
def delayMs (failures : Nat) : Nat := min (1000 * 2 ^ failures) 60000

theorem delayMs_le (failures : Nat) : delayMs failures ≤ 60000 := Nat.min_le_right _ _

/-- Doubling a delay and cutting it at a minute gives the next one. -/
theorem delayMs_succ (failures : Nat) : delayMs (failures + 1) = min (delayMs failures * 2) 60000 := by
  rw [delayMs, delayMs, pow_succ]
  omega

/-- The delay timer counts down from the delay after a number of failures. -/
structure Armed (client : Client) (env : Env) (reading failures : Nat) : Prop where
  interval : client.currentReconnectWaitInterval.toNat = delayMs failures
  timer : client.reconnectDelayTimer = countdownMs env.rtTickFromMillisecond (env.tick reading)
    client.currentReconnectWaitInterval

theorem toNat_double {interval : UInt32} (small : interval.toNat ≤ 60000) :
    (interval * 2).toNat = interval.toNat * 2 := by
  rw [UInt32.toNat_mul]
  exact Nat.mod_eq_of_lt (by simpa using (by omega : interval.toNat * 2 < 2 ^ 32))

/-- A failed attempt arms the timer with the next delay. -/
theorem backOff_arms {client : Client} {failures : Nat}
    (isDelay : client.currentReconnectWaitInterval.toNat = delayMs failures) (env : Env) :
    let backedOff := backOff client env
    backedOff.ret = errMqttAttemptingReconnect ∧ Armed backedOff.client env 1 (failures + 1) ∧
      backedOff.client.options = client.options := by
  intro backedOff
  have double := toNat_double (isDelay ▸ delayMs_le failures)
  have next := delayMs_succ failures
  have longest : maxReconnectWaitInterval.toNat = 60000 := by decide
  have order : maxReconnectWaitInterval < client.currentReconnectWaitInterval * 2 ↔
      60000 < delayMs failures * 2 := by
    rw [UInt32.lt_iff_toNat_lt, double, isDelay, longest]
  simp only [backedOff, backOff, not_true_eq_false, and_false, if_false]
  refine ⟨trivial, ⟨?_, rfl⟩, trivial⟩
  simp only [order]
  split
  · rw [longest]
    omega
  · rw [double, isDelay]
    omega

/-! ## Sessions -/

/-- A client, the network it reads from, and the attempts to reconnect that have
failed since the connection was lost. -/
structure Session (σ : Type) where
  client : Client
  network : σ
  failures : Nat

/-- A request of the application, or a pass of a yield. -/
inductive Turn where
  | request (input : Act) (isRequest : input.IsRequest)
  | pass (world : PassEnv)

/-- A pass that loses the connection. -/
def Loses (client : Client) (pass : Result) : Prop :=
  client.isConnected = true ∧ pass.client.isConnected = false

/-- A pass that opens or closes the network connection of a client that is not
connected. -/
def Attempts (client : Client) (pass : Result) : Prop :=
  client.isConnected = false ∧ ¬KeepsNetwork pass.outputs

def Fails (client : Client) (pass : Result) : Prop :=
  Attempts client pass ∧ pass.ret ≠ mqttReconnected

instance (outputs : List Output) : Decidable (KeepsNetwork outputs) :=
  inferInstanceAs (Decidable (_ ∧ _))

instance (client : Client) (pass : Result) : Decidable (Loses client pass) :=
  inferInstanceAs (Decidable (_ ∧ _))

instance (client : Client) (pass : Result) : Decidable (Attempts client pass) :=
  inferInstanceAs (Decidable (_ ∧ _))

instance (client : Client) (pass : Result) : Decidable (Fails client pass) :=
  inferInstanceAs (Decidable (_ ∧ _))

/-- The count of failed attempts starts over when the connection is lost. -/
def failuresAfter (client : Client) (failures : Nat) (pass : Result) : Nat :=
  if Loses client pass then 0 else if Fails client pass then failures + 1 else failures

section Sessions

variable {σ : Type} (net : NetworkStack σ)

def turnStep (session : Session σ) : Turn → Session σ × Result
  | .request input _ =>
      ({ session with client := (act session.client input).client }, act session.client input)
  | .pass world =>
      let (_, pass, network) := yieldPass net session.client session.network world
      (⟨pass.client, network, failuresAfter session.client session.failures pass⟩, pass)

def Turn.TellsCodes : Turn → Prop
  | .request _ _ => True
  | .pass world => ConnectCodes world.reconnect.connect

/-- The interval is the delay after the failed attempts while the client is not
connected, and it is never longer than a minute. -/
structure Session.Paced (session : Session σ) : Prop where
  enabled : session.client.options.autoConnectEnable = 1
  interval : session.client.currentReconnectWaitInterval.toNat ≤ 60000
  delay : session.client.isConnected = false →
    session.client.currentReconnectWaitInterval.toNat = delayMs session.failures

/-- What a pass does to the delay timer, and when it attempts to reconnect. -/
structure BacksOff (session : Session σ) (world : PassEnv) (pass : Result) : Prop where
  armsFirst : Loses session.client pass → Armed pass.client world.env 0 0
  armsNext : Fails session.client pass →
    Armed pass.client world.reconnect.env 1 (session.failures + 1)
  waits : ¬Loses session.client pass → ¬Fails session.client pass →
    pass.client.pace = session.client.pace
  expired : Attempts session.client pass →
    hasExpired session.client.reconnectDelayTimer (world.reconnect.env.tick 0) = true

variable {net}

theorem Session.Paced.of_sameLink {session : Session σ} (paced : session.Paced) {client : Client}
    (same : session.client.SameLink client) :
    Session.Paced { session with client := client } := by
  have options := congrArg Pace.options same.pace
  have interval := congrArg Pace.currentReconnectWaitInterval same.pace
  simp only [Client.pace] at options interval
  refine ⟨?_, ?_, fun disconnected => ?_⟩
  · rw [options]
    exact paced.enabled
  · rw [interval]
    exact paced.interval
  · rw [interval]
    exact paced.delay (same.isConnected.symm.trans disconnected)

/-- A pass of a client that is not connected waits, or it attempts to reconnect,
and arms the timer anew when that fails. -/
theorem handleReconnect_backsOff {session : Session σ} (paced : session.Paced)
    (disconnected : session.client.isConnected = false) (world : PassEnv)
    (codes : ConnectCodes world.reconnect.connect) :
    let pass := handleReconnect session.client world.reconnect
    BacksOff session world pass ∧ pass.ret ≠ errMqttReconnectTimeout ∧
      ∀ network, Session.Paced (⟨pass.client, network,
        failuresAfter session.client session.failures pass⟩ : Session σ) := by
  intro pass
  have notLost : ¬Loses session.client pass := by
    intro lost
    rw [Loses, disconnected] at lost
    exact absurd lost.1 (by decide)
  have neverTimesOut : errMqttAttemptingReconnect ≠ errMqttReconnectTimeout ∧
      mqttReconnected ≠ errMqttReconnectTimeout ∧
      errMqttAttemptingReconnect ≠ mqttReconnected := by decide
  obtain ⟨pace, touches, tells⟩ := @attemptReconnect_paces session.client world.reconnect codes
    disconnected
  have options := congrArg Pace.options pace
  have interval := congrArg Pace.currentReconnectWaitInterval pace
  simp only [Client.pace] at options interval
  have attempts : ∀ more, ¬KeepsNetwork
      ((uiotMqttAttemptReconnect session.client world.reconnect).outputs ++ more) := by
    intro more keeps
    exact touches ⟨fun among => keeps.1 (List.mem_append_left _ among),
      fun among => keeps.2 (List.mem_append_left _ among)⟩
  by_cases expired :
      hasExpired session.client.reconnectDelayTimer (world.reconnect.env.tick 0) = true
  · by_cases success :
        (uiotMqttAttemptReconnect session.client world.reconnect).ret = mqttReconnected
    · have reconnects : pass = ⟨mqttReconnected,
          (uiotMqttAttemptReconnect session.client world.reconnect).client,
          (uiotMqttAttemptReconnect session.client world.reconnect).outputs ++
            (uiotMqttAttemptReconnect session.client world.reconnect).client.raise .reconnect 0⟩ := by
        simp only [pass, handleReconnect, expired, not_true_eq_false, if_false, if_pos success]
      have noFailure : ¬Fails session.client pass := by
        intro fails
        exact fails.2 (by rw [reconnects])
      refine ⟨⟨fun lost => absurd lost notLost, fun fails => absurd fails noFailure, fun _ _ => ?_,
        fun _ => expired⟩, ?_, fun network => ?_⟩
      · rw [reconnects]
        exact pace
      · rw [reconnects]
        exact neverTimesOut.2.1
      · rw [reconnects]
        refine ⟨?_, ?_, fun stillDisconnected => ?_⟩
        · rw [options]
          exact paced.enabled
        · rw [interval]
          exact paced.interval
        · exact absurd ((tells success).symm.trans stillDisconnected) (by decide)
    · obtain ⟨code, armed, sameOptions⟩ := backOff_arms
        ((congrArg UInt32.toNat interval).trans (paced.delay disconnected)) world.reconnect.env
      have backsOff : pass =
          { backOff (uiotMqttAttemptReconnect session.client world.reconnect).client
              world.reconnect.env with
            outputs := (uiotMqttAttemptReconnect session.client world.reconnect).outputs ++
              (backOff (uiotMqttAttemptReconnect session.client world.reconnect).client
                world.reconnect.env).outputs } := by
        simp only [pass, handleReconnect, expired, not_true_eq_false, if_false, if_neg success]
      have failure : Fails session.client pass := by
        rw [backsOff]
        exact ⟨⟨disconnected, attempts _⟩, code ▸ neverTimesOut.2.2⟩
      refine ⟨⟨fun lost => absurd lost notLost, fun _ => ?_, fun _ noFailure => absurd failure noFailure,
        fun _ => expired⟩, ?_, fun network => ?_⟩
      · rw [backsOff]
        exact armed
      · rw [backsOff]
        exact code ▸ neverTimesOut.1
      · rw [failuresAfter, if_neg notLost, if_pos failure, backsOff]
        refine ⟨?_, ?_, fun _ => armed.interval⟩
        · exact (congrArg ConnectParams.autoConnectEnable (sameOptions.trans options)).trans
            paced.enabled
        · exact armed.interval ▸ delayMs_le _
  · have waits : pass = ⟨errMqttAttemptingReconnect, session.client, []⟩ := by
      simp only [pass, handleReconnect, if_pos expired]
    have noAttempt : ¬Attempts session.client pass := by
      intro attempts
      rw [waits] at attempts
      exact attempts.2 .nil
    have noFailure : ¬Fails session.client pass := fun fails => noAttempt fails.1
    refine ⟨⟨fun lost => absurd lost notLost, fun fails => absurd fails noFailure, fun _ _ => ?_,
      fun attempts => absurd attempts noAttempt⟩, ?_, fun network => ?_⟩
    · rw [waits]
    · rw [waits]
      exact neverTimesOut.1
    · rw [failuresAfter, if_neg notLost, if_neg noFailure, waits]
      exact ⟨paced.enabled, paced.interval, paced.delay⟩

/-- A pass of a connected client keeps the pace, or it loses the connection and
arms the timer with the first delay. -/
theorem readPassWith_backsOff {session : Session σ} (paced : session.Paced)
    (connected : session.client.isConnected = true) {read : PacketRead} (code : ReadCode read.ret)
    (world : PassEnv) :
    let pass := (readPassWith session.client read world).2
    BacksOff session world pass ∧ pass.ret ≠ errMqttReconnectTimeout ∧
      ∀ network, Session.Paced (⟨pass.client, network,
        failuresAfter session.client session.failures pass⟩ : Session σ) := by
  intro pass
  have noAttempt : ¬Attempts session.client pass := by
    intro attempts
    rw [Attempts, connected] at attempts
    exact absurd attempts.1 (by decide)
  have noFailure : ¬Fails session.client pass := fun fails => noAttempt fails.1
  rcases readPassWith_paces code paced.enabled world with ⟨same, ordinary⟩ | ⟨attempting, lost, pace⟩
  · have notLost : ¬Loses session.client pass := by
      intro lost
      exact absurd (lost.2.symm.trans (same.isConnected.trans connected)) (by decide)
    refine ⟨⟨fun lost => absurd lost notLost, fun fails => absurd fails noFailure,
      fun _ _ => same.pace, fun attempts => absurd attempts noAttempt⟩, ordinary.reconnectTimeout,
      fun network => ?_⟩
    rw [failuresAfter, if_neg notLost, if_neg noFailure]
    have still := paced.of_sameLink same
    exact ⟨still.enabled, still.interval, still.delay⟩
  · have isLost : Loses session.client pass := ⟨connected, lost⟩
    have options := congrArg Pace.options pace
    have interval := congrArg Pace.currentReconnectWaitInterval pace
    have timer := congrArg Pace.reconnectDelayTimer pace
    simp only [Client.pace, firstPace] at options interval timer
    have armed : Armed pass.client world.env 0 0 := by
      refine ⟨?_, ?_⟩
      · rw [interval]
        decide
      · rw [timer, interval]
    refine ⟨⟨fun _ => armed, fun fails => absurd fails noFailure,
      fun notLost => absurd isLost notLost, fun attempts => absurd attempts noAttempt⟩, ?_,
      fun network => ?_⟩
    · rw [attempting]
      decide
    · rw [failuresAfter, if_pos isLost]
      refine ⟨?_, ?_, fun _ => armed.interval⟩
      · rw [options]
        exact paced.enabled
      · exact armed.interval ▸ delayMs_le _

/-- A pass never gives up. -/
theorem yieldPass_backsOff {session : Session σ} (paced : session.Paced) (codes : ReturnsCodes net)
    (world : PassEnv) (tellsCodes : ConnectCodes world.reconnect.connect) :
    let pass := (yieldPass net session.client session.network world).2.1
    BacksOff session world pass ∧ pass.ret ≠ errMqttReconnectTimeout ∧
      (turnStep net session (.pass world)).1.Paced := by
  intro pass
  by_cases connected : session.client.isConnected = true
  · have reads := @readMqttPacket_code σ net codes session.client.readBufSize session.client.readBuf
      session.network
    obtain ⟨backsOff, goesOn, still⟩ := readPassWith_backsOff paced connected reads world
    simp only [pass, turnStep, yieldPass, connected, not_true_eq_false, if_false]
    exact ⟨backsOff, goesOn, still _⟩
  · have disconnected := Bool.eq_false_iff.mpr connected
    have short : ¬maxReconnectWaitInterval < session.client.currentReconnectWaitInterval := by
      rw [UInt32.lt_iff_toNat_lt]
      exact Nat.not_lt.mpr paced.interval
    obtain ⟨backsOff, goesOn, still⟩ := handleReconnect_backsOff paced disconnected world tellsCodes
    simp only [pass, turnStep, yieldPass, if_pos connected, if_neg short]
    exact ⟨backsOff, goesOn, still _⟩

theorem turnStep_paced {session : Session σ} (codes : ReturnsCodes net) {turn : Turn}
    (paced : session.Paced) (tellsCodes : turn.TellsCodes) :
    (turnStep net session turn).1.Paced := by
  cases turn with
  | request input isRequest => exact paced.of_sameLink (request_sameLink isRequest)
  | pass world => exact (yieldPass_backsOff paced codes world tellsCodes).2.2

/-- The passes of the loop of a yield are turns, and none of them gives up. -/
theorem yieldLoop_turns (codes : ReturnsCodes net) (worlds : List PassEnv)
    (tellsCodes : ∀ world ∈ worlds, ConnectCodes world.reconnect.connect) :
    ∀ {session : Session σ} {ret : Int}, session.Paced → ret ≠ errMqttReconnectTimeout →
      let yielded := yieldLoop net session.client ret session.network worlds
      yielded.1.ret ≠ errMqttReconnectTimeout ∧
        ∃ passes, passes <+: worlds ∧
          (run (turnStep net) session (passes.map .pass)).1.client = yielded.1.client ∧
          (run (turnStep net) session (passes.map .pass)).1.network = yielded.2 := by
  induction worlds with
  | nil => exact fun _ goesOn => ⟨goesOn, [], List.prefix_refl _, rfl, rfl⟩
  | cons world worlds ih =>
      intro session ret paced goesOn
      obtain ⟨-, passGoesOn, still⟩ :=
        yieldPass_backsOff paced codes world (tellsCodes world List.mem_cons_self)
      simp only [yieldLoop]
      split
      · obtain ⟨later, passes, isPrefix, client, network⟩ :=
          ih (fun other member => tellsCodes other (List.mem_cons_of_mem _ member)) still passGoesOn
        exact ⟨later, world :: passes, List.cons_prefix_cons.mpr ⟨rfl, isPrefix⟩, client, network⟩
      · exact ⟨passGoesOn, [world], List.cons_prefix_cons.mpr ⟨rfl, List.nil_prefix⟩, rfl, rfl⟩

theorem uiotMqttYield_turns {session : Session σ} (paced : session.Paced) (codes : ReturnsCodes net)
    (timeoutMs : UInt32) (worlds : List PassEnv)
    (tellsCodes : ∀ world ∈ worlds, ConnectCodes world.reconnect.connect) :
    let yielded := uiotMqttYield net session.client timeoutMs session.network worlds
    yielded.1.ret ≠ errMqttReconnectTimeout ∧
      ∃ passes, passes <+: worlds ∧
        (run (turnStep net) session (passes.map .pass)).1.client = yielded.1.client ∧
        (run (turnStep net) session (passes.map .pass)).1.network = yielded.2 := by
  have refusals : errParamInvalid ≠ errMqttReconnectTimeout ∧
      mqttManuallyDisconnected ≠ errMqttReconnectTimeout ∧
      errMqttNoConn ≠ errMqttReconnectTimeout ∧ successRet ≠ errMqttReconnectTimeout := by decide
  simp only [uiotMqttYield]
  split
  · exact ⟨refusals.1, [], List.nil_prefix, rfl, rfl⟩
  split
  · exact ⟨refusals.2.1, [], List.nil_prefix, rfl, rfl⟩
  split
  · exact ⟨refusals.2.2.1, [], List.nil_prefix, rfl, rfl⟩
  · exact yieldLoop_turns codes worlds tellsCodes paced refusals.2.2.2

/-- A client that has been constructed is connected and keeps its options. -/
theorem constructed_paced {params : InitParams} {options : ConnectParams} {world : ConnectEnv}
    (enabled : options.autoConnectEnable = 1) (codes : ConnectCodes world)
    (success : (uiotMqttConnect (uiotMqttInit params) options world).ret = successRet) (network : σ) :
    Session.Paced ⟨(uiotMqttConnect (uiotMqttInit params) options world).client, network, 0⟩ := by
  obtain ⟨pace, -, connects, -⟩ :=
    @uiotMqttConnect_paces (uiotMqttInit params) options world codes rfl
  have sameOptions := congrArg Pace.options pace
  have interval := congrArg Pace.currentReconnectWaitInterval pace
  simp only [Client.pace] at sameOptions interval
  refine ⟨?_, ?_, fun disconnected => ?_⟩
  · rw [sameOptions]
    exact enabled
  · rw [interval]
    exact Nat.zero_le _
  · exact absurd ((connects success).symm.trans disconnected) (by decide)

end Sessions

/-- In every run of requests and passes of a client constructed with automatic
reconnection, a pass that loses the connection arms the delay timer with the
first delay, a pass whose attempt to reconnect fails arms it with the delay for
the attempts failed so far, no other pass touches it, and an attempt is made
only when it has expired. The interval can always be doubled, and no yield,
which is a run of passes, gives up. -/
theorem reconnect_backs_off {σ : Type} (net : NetworkStack σ) (codes : ReturnsCodes net)
    (params : InitParams) (options : ConnectParams) (world : ConnectEnv) (network : σ)
    (enabled : options.autoConnectEnable = 1) (connectCodes : ConnectCodes world)
    (constructed : (uiotMqttConnect (uiotMqttInit params) options world).ret = successRet)
    (turns : List Turn) (tellsCodes : ∀ turn ∈ turns, turn.TellsCodes) :
    let start : Session σ := ⟨(uiotMqttConnect (uiotMqttInit params) options world).client, network, 0⟩
    let last := (run (turnStep net) start turns).1
    (∀ before world after, turns = before ++ .pass world :: after →
      let session := (run (turnStep net) start before).1
      BacksOff session world (yieldPass net session.client session.network world).2.1) ∧
    (last.client.currentReconnectWaitInterval * 2).toNat =
      last.client.currentReconnectWaitInterval.toNat * 2 ∧
    ∀ timeoutMs worlds, (∀ world ∈ worlds, ConnectCodes world.reconnect.connect) →
      let yielded := uiotMqttYield net last.client timeoutMs last.network worlds
      yielded.1.ret ≠ errMqttReconnectTimeout ∧
        ∃ passes, passes <+: worlds ∧
          (run (turnStep net) last (passes.map .pass)).1.client = yielded.1.client ∧
          (run (turnStep net) last (passes.map .pass)).1.network = yielded.2 := by
  intro start last
  have along : Along (turnStep net) (fun _ turn => turn.TellsCodes) start turns :=
    along_of_forall _ start fun turn member _ => tellsCodes turn member
  obtain ⟨steps, lastPaced⟩ := along.invariant Session.Paced
    (constructed_paced enabled connectCodes constructed network)
    fun session turn paced tells => turnStep_paced codes paced tells
  refine ⟨fun before world after split => ?_, toNat_double lastPaced.interval,
    fun timeoutMs worlds tells => uiotMqttYield_turns lastPaced codes timeoutMs worlds tells⟩
  rw [split] at steps
  obtain ⟨paced, tells⟩ := steps.at
  exact (yieldPass_backsOff paced codes world tells).1

/-- A socket from which nothing can be read. -/
def brokenSocket : NetworkStack Unit := tcpNetwork fun s _ => ([.failed], s)

/-- A pass after a second and more, in which the network cannot be reached. -/
def unreachablePass : PassEnv :=
  { quietPass with
    reconnect :=
      { reconnecting 0 with
        connect := { (reconnecting 0).connect with netConnectRet := failureRet }
        env := { calm 0 with tick := fun _ => 1001 } } }

/-- A client that has just been constructed. -/
def constructedClient : Client :=
  (uiotMqttConnect (uiotMqttInit ⟨2000, true⟩) ⟨[0x63], none, none, 4, 240, 1, 1⟩
    (reconnecting 0).connect).client

/-- The connection breaks, the first attempt fails, and the timer is armed with
two seconds. -/
theorem reconnect_backs_off_once :
    let session := (run (turnStep brokenSocket) ⟨constructedClient, (), 0⟩ [.pass quietPass]).1
    let pass := (yieldPass brokenSocket session.client () unreachablePass).2.1
    Fails session.client pass ∧ Armed pass.client unreachablePass.reconnect.env 1 1 := by
  intro session pass
  have reads : ∀ world : ConnectEnv, world.reads = [(received [0x20, 2, 0, 0], calm 0)] →
      ∀ read ∈ world.reads, ReadCode read.1.ret := by
    intro world isReads read member
    rw [isReads, List.mem_singleton] at member
    exact member ▸ .success
  have backsOff := (reconnect_backs_off brokenSocket (tcpNetwork_returnsCodes _) ⟨2000, true⟩
    ⟨[0x63], none, none, 4, 240, 1, 1⟩ (reconnecting 0).connect () rfl ⟨.inl rfl, reads _ rfl⟩
    (by decide +kernel) [.pass quietPass, .pass unreachablePass] (by
      intro turn member
      rcases List.mem_pair.mp member with rfl | rfl
      · exact ⟨.inl rfl, reads _ rfl⟩
      · exact ⟨.inr rfl, reads _ rfl⟩)).1 [.pass quietPass] unreachablePass [] rfl
  have failure : Fails session.client pass := by decide +kernel
  have first : session.failures = 0 := by decide +kernel
  have armed : Armed pass.client unreachablePass.reconnect.env 1 (session.failures + 1) :=
    backsOff.armsNext failure
  rw [first] at armed
  exact ⟨failure, armed⟩

end UIoT.Mqtt
