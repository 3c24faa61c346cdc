import UIoT.Mqtt.Resubscribe
import UIoT.Mqtt.SubscribeAcks

/-!
# Subscriptions on a new connection

`uiot_mqtt_attempt_reconnect` makes a connection and then subscribes again for
every occupied slot. In every run in which all of them can be subscribed again
whenever a connection is made, a SUBSCRIBE for each is sent on it
(`reconnect_subscribes`). When one of them is not, the client stays connected
and nothing tries again (`reconnect_leaves_slots`).
-/

set_option autoImplicit false

namespace UIoT.Mqtt

open Runs

/-! ## A new connection -/

/-- The network connection is neither opened nor closed. -/
def KeepsNetwork (outputs : List Output) : Prop :=
  Output.netConnect ∉ outputs ∧ Output.netDisconnect ∉ outputs

theorem KeepsNetwork.nil : KeepsNetwork [] := ⟨List.not_mem_nil, List.not_mem_nil⟩

theorem KeepsNetwork.append {first second : List Output} (keeps : KeepsNetwork first)
    (keeps' : KeepsNetwork second) : KeepsNetwork (first ++ second) :=
  ⟨fun among => (List.mem_append.mp among).elim keeps.1 keeps'.1,
    fun among => (List.mem_append.mp among).elim keeps.2 keeps'.2⟩

theorem WireOnly.keepsNetwork {outputs : List Output} (wires : WireOnly outputs) :
    KeepsNetwork outputs := by
  refine ⟨fun among => ?_, fun among => ?_⟩
  · obtain ⟨bytes, isWire⟩ := wires _ among
    cases isWire
  · obtain ⟨bytes, isWire⟩ := wires _ among
    cases isWire

section Connect

variable {client : Client} (env : Env)

theorem keepsNetwork_raise (client : Client) (type : EventType) (packetId : UInt16) :
    KeepsNetwork (client.raise type packetId) := by
  rw [Client.raise]
  split <;> simp [KeepsNetwork]

theorem keepsNetwork_sendAnswer (packet : Except Int (List UInt8)) :
    KeepsNetwork (sendAnswer client packet env).outputs := by
  cases packet with
  | error ret => exact .nil
  | ok packet => exact (wireOnly_sendMqttPacket _ _ _).keepsNetwork

theorem keepsNetwork_deliverMessage (memory : List UInt8) (len : Nat) (message : Message)
    (before : UInt8) : KeepsNetwork (deliverMessage client memory len message before).outputs := by
  unfold deliverMessage
  simp only
  split
  · simp [KeepsNetwork]
  · by_cases hears : client.eventHandler <;> simp [hears, KeepsNetwork]

theorem dispatch_keepsNetwork {packetType : MessageTypes} {handled : Result}
    (dispatched : dispatch client packetType env = some handled) :
    KeepsNetwork handled.outputs := by
  cases packetType <;> simp only [dispatch, Option.some.injEq, reduceCtorEq] at dispatched
  case puback =>
    rw [← dispatched, handlePubackPacket]
    split
    · exact .nil
    · exact keepsNetwork_raise _ _ _
  case suback =>
    rw [← dispatched, handleSubackPacket]
    split
    · exact .nil
    · simp only
      split
      · exact .nil
      split
      · exact keepsNetwork_raise _ _ _
      split
      · exact .nil
      · exact keepsNetwork_raise _ _ _
  case unsuback =>
    rw [← dispatched, handleUnsubackPacket]
    split
    · exact .nil
    · exact keepsNetwork_raise _ _ _
  case publish =>
    rw [← dispatched, handlePublishPacket]
    split
    · exact .nil
    · simp only
      split
      · exact keepsNetwork_deliverMessage _ _ _ _
      · exact (keepsNetwork_deliverMessage _ _ _ _).append (keepsNetwork_sendAnswer _ _)
  case pubrec =>
    rw [← dispatched, handlePubrecPacket]
    split
    · exact .nil
    · exact keepsNetwork_sendAnswer _ _
  all_goals exact dispatched ▸ .nil

theorem cycle_keepsNetwork (client : Client) (read : PacketRead) :
    KeepsNetwork (cycleForReadWith client read env).outputs := by
  rw [cycleForReadWith]
  split
  · exact .nil
  split
  · exact .nil
  split
  · exact .nil
  split
  · exact .nil
  · rename_i handled dispatched
    have keeps := dispatch_keepsNetwork env dispatched
    exact keeps

/-- Waiting for a packet keeps the connection as it is. -/
theorem waitForRead_keeps (packetType : MessageTypes) (client : Client) (readPacketType : Nat)
    (reads : List (PacketRead × Env)) :
    let waited := waitForRead packetType client readPacketType reads
    waited.client.isConnected = client.isConnected ∧ KeepsNetwork waited.outputs := by
  induction reads generalizing client readPacketType with
  | nil => exact ⟨rfl, .nil⟩
  | cons head reads inductionHypothesis =>
      obtain ⟨read, env⟩ := head
      have same := congrArg Connection.isConnected (cycle_connection env client read)
      have keeps := cycle_keepsNetwork env client read
      simp only [waitForRead]
      split
      · obtain ⟨later, laterKeeps⟩ :=
          inductionHypothesis (cycleForReadWith client read env).client
            (read.packetType.getD readPacketType)
        exact ⟨later.trans same, keeps.append laterKeeps⟩
      · exact ⟨same, keeps⟩

/-- A CONNECT that is sent goes out on a connection just opened. -/
theorem sendConnect_opens {options : ConnectParams} {netConnectRet : Int}
    (success : (sendConnect client options netConnectRet env).ret = successRet) :
    ∃ later, (sendConnect client options netConnectRet env).outputs = .netConnect :: later ∧
      KeepsNetwork later := by
  unfold sendConnect at success ⊢
  simp only at success ⊢
  split at success
  · rename_i failed
    exact absurd success failed
  · rename_i opened
    rw [if_neg opened]
    split
    · exact ⟨[], rfl, .nil⟩
    · exact ⟨_, rfl, (wireOnly_sendMqttPacket _ _ _).keepsNetwork⟩

theorem sendConnect_isConnected (options : ConnectParams) (netConnectRet : Int) :
    (sendConnect client options netConnectRet env).client.isConnected = client.isConnected := by
  unfold sendConnect
  simp only
  split
  · rfl
  · split <;> rfl

/-- A CONNACK connects a client when it is accepted, and raises nothing. -/
theorem acceptConnack_connects (disconnected : client.isConnected = false)
    (connects : (acceptConnack client env).client.isConnected = true) :
    (acceptConnack client env).ret = successRet ∧ (acceptConnack client env).outputs = [] := by
  unfold acceptConnack at connects ⊢
  split
  · rename_i malformed
    rw [malformed] at connects
    exact absurd (connects.symm.trans disconnected) (by decide)
  · rename_i flags connackRc parsed
    simp only [parsed] at connects
    split
    · rename_i refused
      rw [if_pos refused] at connects
      exact absurd (connects.symm.trans disconnected) (by decide)
    · exact ⟨rfl, rfl⟩

/-- A call that connects a client has opened the network connection first, and
has kept it. -/
theorem mqttConnect_opens {options : ConnectParams} {world : ConnectEnv}
    (disconnected : client.isConnected = false)
    (connects : (mqttConnect client options world).client.isConnected = true) :
    (mqttConnect client options world).ret = successRet ∧
      ∃ later, (mqttConnect client options world).outputs = .netConnect :: later ∧
        KeepsNetwork later := by
  have never : ∀ {isConnected : Bool}, isConnected = false → isConnected = true → False := by
    rintro _ rfl wrong
    cases wrong
  have sentSame := @sendConnect_isConnected client world.env options world.netConnectRet
  unfold mqttConnect at connects ⊢
  simp only at connects ⊢
  split at connects
  · exact (never (sentSame.trans disconnected) connects).elim
  rename_i sent
  obtain ⟨opened, isOpened, openedKeeps⟩ := sendConnect_opens world.env (not_not.mp sent)
  rw [if_neg sent]
  obtain ⟨waitedSame, waitedKeeps⟩ := waitForRead_keeps .connack
    (sendConnect client options world.netConnectRet world.env).client 0 world.reads
  have still := waitedSame.trans (sentSame.trans disconnected)
  split at connects
  · exact (never still connects).elim
  rename_i waited
  rw [if_neg waited]
  obtain ⟨accepted, silent⟩ := acceptConnack_connects world.env still connects
  refine ⟨accepted, opened ++ (waitForRead .connack
    (sendConnect client options world.netConnectRet world.env).client 0 world.reads).outputs, ?_,
    openedKeeps.append waitedKeeps⟩
  rw [silent, isOpened, List.append_nil, List.cons_append]

theorem uiotMqttConnect_opens {params : ConnectParams} {world : ConnectEnv}
    (disconnected : client.isConnected = false)
    (connects : (uiotMqttConnect client params world).client.isConnected = true) :
    ∃ later, (uiotMqttConnect client params world).outputs = .netConnect :: later ∧
      KeepsNetwork later := by
  unfold uiotMqttConnect at connects ⊢
  simp only [disconnected, Bool.false_eq_true, if_false] at connects ⊢
  have connects : (mqttConnect client params world).client.isConnected = true := by
    split at connects <;> exact connects
  obtain ⟨success, opens⟩ := mqttConnect_opens disconnected connects
  simp only [success, ne_eq, not_true_eq_false, if_false]
  exact opens

end Connect

/-! ## Reconnecting -/

/-- A SUBSCRIBE for every occupied slot is sent on the connection opened last. -/
def SubscribedOnNewConnection (client : Client) (outputs : List Output) : Prop :=
  ∃ before after, outputs = before ++ .netConnect :: after ∧ KeepsNetwork after ∧
    ∀ i : Fin maxSubTopics, SubscribesSlot (client.subHandles.get i) after

/-- When an attempt makes a connection, all occupied slots can be subscribed
again at that point. -/
def CanResubscribe (client : Client) (world : ReconnectEnv) : Prop :=
  let made := (uiotMqttConnect client client.options world.connect).client
  made.isConnected = true → Resubscribable made world.subscribe (List.finRange maxSubTopics)

instance (client : Client) (world : ReconnectEnv) : Decidable (CanResubscribe client world) :=
  inferInstanceAs (Decidable (_ → _))

section Reconnect

variable {client : Client} {world : ReconnectEnv}

/-- An attempt that leaves the client connected has subscribed again. -/
theorem attemptReconnect_subscribes (disconnected : client.isConnected = false)
    (valid : client.waiting.Valid) (sound : client.Sound) (can : CanResubscribe client world)
    (connects : (uiotMqttAttemptReconnect client world).client.isConnected = true) :
    (uiotMqttAttemptReconnect client world).ret = mqttReconnected ∧
      SubscribedOnNewConnection (uiotMqttAttemptReconnect client world).client
        (uiotMqttAttemptReconnect client world).outputs := by
  have madeSound := ((uiotMqttConnect_steps client client.options world.connect).sound valid sound).2
  unfold uiotMqttAttemptReconnect at connects ⊢
  simp only [disconnected, Bool.false_eq_true, if_false] at connects ⊢
  split at connects
  · rename_i failed
    exact absurd connects failed
  rename_i made
  have made := not_not.mp made
  obtain ⟨success, resubscribed⟩ :=
    @uiotMqttResubscribe_success_iff world.subscribe _ made madeSound
  have succeeds := success.mpr (can made)
  obtain ⟨sameSlots, wires, sent⟩ := resubscribed succeeds
  obtain ⟨later, opens, keeps⟩ := uiotMqttConnect_opens disconnected made
  rw [if_neg (not_not.mpr made), if_neg (not_not.mpr succeeds)]
  refine ⟨rfl, [], _, by rw [opens]; rfl, keeps.append wires.keepsNetwork, fun i topicFilter holds => ?_⟩
  rw [sameSlots] at holds ⊢
  obtain ⟨packetId, isSent⟩ := sent i (List.mem_finRange i) topicFilter holds
  exact ⟨packetId, List.mem_append_right _ isSent⟩

theorem backOff_isConnected (env : Env) :
    (backOff client env).client.isConnected = client.isConnected := by
  unfold backOff
  simp only
  split <;> rfl

theorem handleReconnect_subscribes (disconnected : client.isConnected = false)
    (valid : client.waiting.Valid) (sound : client.Sound)
    (can : hasExpired client.reconnectDelayTimer (world.env.tick 0) = true →
      CanResubscribe client world)
    (connects : (handleReconnect client world).client.isConnected = true) :
    (handleReconnect client world).ret = mqttReconnected ∧
      SubscribedOnNewConnection (handleReconnect client world).client
        (handleReconnect client world).outputs := by
  unfold handleReconnect at connects ⊢
  split at connects
  · exact absurd (connects.symm.trans disconnected) (by decide)
  rename_i expired
  have expired := not_not.mp expired
  rw [if_neg (not_not.mpr expired)]
  simp only at connects ⊢
  have attempts : (uiotMqttAttemptReconnect client world).client.isConnected = true := by
    split at connects
    · exact connects
    · exact (backOff_isConnected world.env).symm.trans connects
  obtain ⟨success, before, after, outputs, keeps, sent⟩ :=
    attemptReconnect_subscribes disconnected valid sound (can expired) attempts
  rw [if_pos success]
  refine ⟨rfl, before, _, by rw [outputs, List.append_assoc, List.cons_append],
    keeps.append (keepsNetwork_raise _ _ _), fun i topicFilter holds => ?_⟩
  obtain ⟨packetId, isSent⟩ := sent i topicFilter holds
  exact ⟨packetId, List.mem_append_left _ isSent⟩

end Reconnect

/-! ## Runs with reconnections -/

/-- An act, or a call that reconnects. -/
inductive Call where
  | act (input : Act)
  | attemptReconnect (world : ReconnectEnv)
  | handleReconnect (world : ReconnectEnv)

def call (client : Client) : Call → Result
  | .act input => UIoT.Mqtt.act client input
  | .attemptReconnect world => uiotMqttAttemptReconnect client world
  | .handleReconnect world => UIoT.Mqtt.handleReconnect client world

def callStep (client : Client) (input : Call) : Client × List Output :=
  ((call client input).client, (call client input).outputs)

def Call.IsReconnect : Call → Prop
  | .act _ => False
  | _ => True

/-- A call that reconnects finds all occupied slots fit to be subscribed again. -/
def Call.CanResubscribe (client : Client) : Call → Prop
  | .act _ => True
  | .attemptReconnect world => client.isConnected = false → UIoT.Mqtt.CanResubscribe client world
  | .handleReconnect world =>
      client.isConnected = false →
        hasExpired client.reconnectDelayTimer (world.env.tick 0) = true →
          UIoT.Mqtt.CanResubscribe client world

instance (client : Client) : (input : Call) → Decidable (input.CanResubscribe client)
  | .act _ => inferInstanceAs (Decidable True)
  | .attemptReconnect _ => inferInstanceAs (Decidable (_ → _))
  | .handleReconnect _ => inferInstanceAs (Decidable (_ → _ → _))

/-- A call is a run of acts. -/
theorem call_steps (client : Client) (input : Call) :
    Steps client (call client input).client (call client input).outputs := by
  cases input with
  | act input => exact Steps.one client input
  | attemptReconnect world => exact uiotMqttAttemptReconnect_steps client world
  | handleReconnect world => exact handleReconnect_steps client world

/-- In every run in which the occupied slots can be subscribed again whenever a
connection is made again, every call that reconnects and leaves the client
connected has sent a SUBSCRIBE for each of them on the new connection. -/
theorem reconnect_subscribes (params : InitParams) (calls : List Call)
    (can : Along callStep (fun client input => input.CanResubscribe client) (uiotMqttInit params)
      calls)
    (before after : List Call) (input : Call) (isCall : calls = before ++ input :: after)
    (reconnects : input.IsReconnect) :
    let client := (run callStep (uiotMqttInit params) before).1
    client.isConnected = false → (call client input).client.isConnected = true →
      (call client input).ret = mqttReconnected ∧
        SubscribedOnNewConnection (call client input).client (call client input).outputs := by
  intro client disconnected connects
  subst isCall
  have start : (uiotMqttInit params).waiting.Valid ∧ (uiotMqttInit params).Sound :=
    ⟨uiotMqttInit_valid params, uiotMqttInit_sound params⟩
  obtain ⟨⟨valid, sound⟩, fit⟩ := (can.invariant
    (fun client => client.waiting.Valid ∧ client.Sound) start
    fun client input inv _ => (call_steps client input).sound inv.1 inv.2).1.at
  cases input with
  | act input => exact reconnects.elim
  | attemptReconnect world =>
      exact attemptReconnect_subscribes disconnected valid sound (fit disconnected) connects
  | handleReconnect world =>
      exact handleReconnect_subscribes disconnected valid sound (fit disconnected) connects

/-! ## Yields as runs of calls -/

/-- Acts are calls. -/
theorem Steps.calls {client client' : Client} {outputs : List Output}
    (steps : Steps client client' outputs) : Reaches callStep client client' outputs :=
  steps.embed Call.act fun _ _ => rfl

section Yield

variable {σ : Type} (net : NetworkStack σ)

theorem yieldPass_calls (client : Client) (s : σ) (world : PassEnv) :
    let pass := (yieldPass net client s world).2.1
    Reaches callStep client pass.client pass.outputs := by
  intro pass
  simp only [pass, yieldPass]
  split
  · split
    · exact .refl client
    · exact Reaches.one client (Call.handleReconnect world.reconnect)
  · exact (readPassWith_steps client _ world).calls

theorem yieldLoop_calls (client : Client) (ret : Int) (s : σ) (worlds : List PassEnv) :
    let yielded := (yieldLoop net client ret s worlds).1
    Reaches callStep client yielded.client yielded.outputs := by
  induction worlds generalizing client ret s with
  | nil => exact .refl client
  | cons world worlds inductionHypothesis =>
      have pass := yieldPass_calls net client s world
      simp only [yieldLoop]
      split
      · exact pass.trans (inductionHypothesis _ _ _)
      · exact pass

/-- A yield is a run of calls, in which its passes reconnect. -/
theorem uiotMqttYield_calls (client : Client) (timeoutMs : UInt32) (s : σ) (worlds : List PassEnv) :
    let yielded := (uiotMqttYield net client timeoutMs s worlds).1
    Reaches callStep client yielded.client yielded.outputs := by
  intro yielded
  simp only [yielded, uiotMqttYield]
  split
  · exact .refl client
  split
  · exact .refl client
  split
  · exact .refl client
  · exact yieldLoop_calls net client successRet s worlds

end Yield

/-! ## A subscription that is lost -/

/-- A subscription to `a` is made, and the connection is lost. -/
def subscribedActs : List Call :=
  (connectActs ++ [subscribeAct, subackAct 2, .subInfoProc (calm 0), .handleDisconnect (calm 2)]).map
    .act

/-- A new connection is made, on which each packet is accepted by one write of
the given length. -/
def reconnecting (length : Nat) : ReconnectEnv where
  connect := ⟨successRet, calm 15, [(received [0x20, 2, 0, 0], calm 0)]⟩
  subscribe _ := calm length
  env := calm 0

/-- The subscription is made again. -/
theorem reconnect_subscribes_one :
    let client := (run callStep (uiotMqttInit ⟨2000, true⟩) subscribedActs).1
    (call client (.attemptReconnect (reconnecting 8))).ret = mqttReconnected ∧
      SubscribedOnNewConnection (call client (.attemptReconnect (reconnecting 8))).client
        (call client (.attemptReconnect (reconnecting 8))).outputs :=
  reconnect_subscribes ⟨2000, true⟩ (subscribedActs ++ [.attemptReconnect (reconnecting 8)])
    (by decide +kernel) subscribedActs [] (.attemptReconnect (reconnecting 8)) rfl trivial
    (by decide +kernel) (by decide +kernel)

/-- A new connection is made, on which nothing else is accepted in time. -/
def reconnectingInVain : ReconnectEnv :=
  { reconnecting 0 with subscribe := fun _ => { calm 0 with writes := fun _ => [] } }

/-- The client after the reconnection, and what has gone out. -/
def afterReconnectInVain : Result :=
  call (run callStep (uiotMqttInit ⟨2000, true⟩) subscribedActs).1 (.attemptReconnect reconnectingInVain)

/-- A network on which nothing comes in. -/
def silentNetwork : NetworkStack Unit := ⟨fun _ _ => (0, [], ())⟩

/-- A pass in which no time passes. -/
def quietPass : PassEnv where
  reconnect := reconnecting 0
  cycle := calm 0
  pubInfoProc := calm 0
  subInfoProc := calm 0
  keepAlive := calm 0
  disconnect := calm 0
  env := calm 0

/-- Bytes that begin like a SUBSCRIBE. -/
def Output.isSubscribe : Output → Bool
  | .wire bytes => bytes.head? = some 0x82
  | _ => false

theorem yieldLoop_quiet (client : Client) (passes : Nat)
    (quiet : yieldPass silentNetwork client () quietPass = (true, ⟨successRet, client, []⟩, ())) :
    yieldLoop silentNetwork client successRet () (List.replicate passes quietPass) =
      (⟨successRet, client, []⟩, ()) := by
  induction passes with
  | zero => rfl
  | succ passes inductionHypothesis =>
      rw [List.replicate_succ, yieldLoop, quiet]
      simp only [if_true, inductionHypothesis, List.append_nil]

/-- The packet of the only slot is not accepted: the client stays connected with
the slot occupied, no SUBSCRIBE has gone out, and later yields, however long,
send nothing. -/
theorem reconnect_leaves_slots :
    afterReconnectInVain.client.isConnected = true ∧
      afterReconnectInVain.ret ≠ mqttReconnected ∧
      afterReconnectInVain.client.subHandles[0].topicFilter = some [0x61] ∧
      ¬SubscribedOnNewConnection afterReconnectInVain.client afterReconnectInVain.outputs ∧
      ∀ passes, (uiotMqttYield silentNetwork afterReconnectInVain.client 1000 ()
          (List.replicate passes quietPass)).1.outputs = [] := by
  have connected : afterReconnectInVain.client.isConnected = true := by decide +kernel
  have isOccupied : afterReconnectInVain.client.subHandles[0].topicFilter = some [0x61] := by
    decide +kernel
  have noSubscribe : afterReconnectInVain.outputs.any Output.isSubscribe = false := by
    decide +kernel
  have quiet : yieldPass silentNetwork afterReconnectInVain.client () quietPass =
      (true, ⟨successRet, afterReconnectInVain.client, []⟩, ()) := by decide +kernel
  refine ⟨connected, by decide +kernel, isOccupied, ?_, fun passes => ?_⟩
  · rintro ⟨before, after, outputs, -, sent⟩
    obtain ⟨packetId, isSent⟩ := sent 0 [0x61] isOccupied
    have among : Output.wire _ ∈ afterReconnectInVain.outputs :=
      outputs ▸ List.mem_append_right before (List.mem_cons_of_mem _ isSent)
    exact Bool.false_ne_true (noSubscribe.symm.trans (List.any_eq_true.mpr ⟨_, among, rfl⟩))
  · rw [uiotMqttYield, if_neg (by decide), if_neg (by simp [connected]),
      if_neg (by simp [connected]), yieldLoop_quiet _ passes quiet]

end UIoT.Mqtt
