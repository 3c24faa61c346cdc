import UIoT.Mqtt.Handlers

/-!
# Connecting, sweeping, yielding

`uiot_mqtt_yield` passes through its loop until its timer runs out: it
reconnects, or it reads a packet, sweeps both wait lists and keeps the
connection alive. What the world does during a pass is an argument, and a loop
is a recursion over the passes that happen before the timer runs out.
-/

set_option autoImplicit false

namespace UIoT.Mqtt

/-! ## The sweeps -/

/-- The loop of both sweeps, from the tail on: an invalid entry is removed, an
entry of a connected client whose time is up is reported and removed, any other
is kept. Reporting an entry reads the clock `extra` more times. -/
def sweepEntries {α : Type} (connected : Bool) (nodeState : α → NodeState) (startTime : α → Timer)
    (report : α → List Output) (extra : Nat) (tick : Nat → UInt32) (readings : Nat) :
    List α → List α × List Output
  | [] => ([], [])
  | entry :: rest =>
      if nodeState entry = .invalid then
        sweepEntries connected nodeState startTime report extra tick readings rest
      else if ¬connected then
        let (kept, outputs) :=
          sweepEntries connected nodeState startTime report extra tick readings rest
        (entry :: kept, outputs)
      else if 0 < leftMs (startTime entry) (tick readings) then
        let (kept, outputs) :=
          sweepEntries connected nodeState startTime report extra tick (readings + 1) rest
        (entry :: kept, outputs)
      else
        let (kept, outputs) :=
          sweepEntries connected nodeState startTime report extra tick (readings + 1 + extra) rest
        (kept, report entry ++ outputs)

/-- What a sweep makes of a list: of its normal entries some are kept, in order,
and the others are reported. -/
structure Swept {α : Type} (nodeState : α → NodeState) (report : α → List Output)
    (entries kept : List α) (outputs : List Output) (timedOut : List α) : Prop where
  keptSublist : kept.Sublist entries
  split : (kept ++ timedOut).Perm (entries.filter (nodeState · = .normal))
  outputs : outputs = timedOut.flatMap report

theorem sweepEntries_swept {α : Type} (connected : Bool) (nodeState : α → NodeState)
    (startTime : α → Timer) (report : α → List Output) (extra : Nat) (tick : Nat → UInt32)
    (readings : Nat) (entries : List α) :
    let swept := sweepEntries connected nodeState startTime report extra tick readings entries
    ∃ timedOut, Swept nodeState report entries swept.1 swept.2 timedOut := by
  intro swept
  induction entries generalizing readings with
  | nil => exact ⟨[], .slnil, .nil, rfl⟩
  | cons entry entries inductionHypothesis =>
      simp only [swept, sweepEntries]
      split
      · rename_i invalid
        obtain ⟨timedOut, rest⟩ := inductionHypothesis readings
        refine ⟨timedOut, .cons _ rest.keptSublist, ?_, rest.outputs⟩
        rw [List.filter_cons_of_neg (by simp [invalid])]
        exact rest.split
      · rename_i notInvalid
        have normal : nodeState entry = .normal := by
          cases state : nodeState entry with
          | normal => rfl
          | invalid => exact absurd state notInvalid
        have kept : ∀ readings,
            let swept :=
              sweepEntries connected nodeState startTime report extra tick readings entries
            ∃ timedOut,
              Swept nodeState report (entry :: entries) (entry :: swept.1) swept.2 timedOut := by
          intro readings swept
          obtain ⟨timedOut, rest⟩ := inductionHypothesis readings
          refine ⟨timedOut, .cons_cons _ rest.keptSublist, ?_, rest.outputs⟩
          rw [List.filter_cons_of_pos (by simp [normal])]
          exact rest.split.cons entry
        split
        · exact kept readings
        · split
          · exact kept (readings + 1)
          · obtain ⟨timedOut, rest⟩ := inductionHypothesis (readings + 1 + extra)
            refine ⟨entry :: timedOut, .cons _ rest.keptSublist, ?_, ?_⟩
            · rw [List.filter_cons_of_pos (by simp [normal])]
              exact List.perm_middle.trans (rest.split.cons entry)
            · rw [rest.outputs, List.flatMap_cons]

/-- A sweep from the tail, seen from the head. -/
theorem Swept.reverse {α : Type} {nodeState : α → NodeState} {report : α → List Output}
    {entries kept timedOut : List α} {outputs : List Output}
    (swept : Swept nodeState report entries.reverse kept outputs timedOut) :
    Swept nodeState report entries kept.reverse outputs timedOut := by
  refine ⟨?_, ?_, swept.outputs⟩
  · simpa using swept.keptSublist.reverse
  · have sameNormal := (List.reverse_perm entries).filter (nodeState · = .normal)
    exact ((List.reverse_perm kept).append_right timedOut).trans (swept.split.trans sameNormal)

/-- The entries whose time is up are the normal ones that are not kept. -/
theorem Swept.timedOut_perm {α : Type} {nodeState : α → NodeState} {report : α → List Output}
    {entries kept timedOut : List α} {outputs : List Output}
    (swept : Swept nodeState report entries kept outputs timedOut) {issueOf : α → Nat}
    (apart : (entries.map issueOf).Nodup) :
    timedOut.Perm
      (entries.filter fun entry => nodeState entry = .normal ∧ issueOf entry ∉ kept.map issueOf) := by
  have normalApart : ((kept ++ timedOut).map issueOf).Nodup :=
    (swept.split.map issueOf).nodup_iff.mpr (apart.sublist (List.filter_sublist.map issueOf))
  rw [List.map_append, List.nodup_append] at normalApart
  have gone := swept.split.filter fun entry => issueOf entry ∉ kept.map issueOf
  rw [List.filter_append, List.filter_filter] at gone
  have keptOut : kept.filter (fun entry => issueOf entry ∉ kept.map issueOf) = [] := by
    refine List.filter_eq_nil_iff.mpr fun entry among => ?_
    simpa using ⟨entry, among, rfl⟩
  have timedOutIn : timedOut.filter (fun entry => issueOf entry ∉ kept.map issueOf) = timedOut := by
    refine List.filter_eq_self.mpr fun entry among => ?_
    refine decide_eq_true fun again => ?_
    exact normalApart.2.2 _ again _ (List.mem_map_of_mem among) rfl
  rw [keptOut, timedOutIn, List.nil_append] at gone
  refine gone.trans (List.Perm.of_eq (List.filter_congr fun entry _ => ?_))
  simp only [Bool.decide_and, Bool.and_comm]

/-- The event of a publication whose time is up. -/
def reportPub (client : Client) (repubInfo : PubInfo) : List Output :=
  client.raise .publishTimeout repubInfo.msgId

/-- The event of a subscription or unsubscription whose time is up. -/
def reportSub (client : Client) (subInfo : SubInfo) : List Output :=
  if subInfo.type = .subscribe then client.raise .subscribeTimeout subInfo.msgId
  else client.raise .unsubscribeTimeout subInfo.msgId

/-- `uiot_mqtt_pub_info_proc` -/
def uiotMqttPubInfoProc (client : Client) (env : Env) : Result :=
  if client.listPubWaitAck.length ≠ 0 ∧ env.malloc 0 then
    let (kept, outputs) := sweepEntries client.isConnected PubInfo.nodeState PubInfo.pubStartTime
      (reportPub client) 1 env.tick 0 client.listPubWaitAck.reverse
    ⟨successRet, { client with listPubWaitAck := kept.reverse }, outputs⟩
  else ⟨successRet, client, []⟩

/-- `uiot_mqtt_sub_info_proc` -/
def uiotMqttSubInfoProc (client : Client) (env : Env) : Result :=
  if client.listSubWaitAck.length ≠ 0 ∧ env.malloc 0 then
    let (kept, outputs) := sweepEntries client.isConnected SubInfo.nodeState SubInfo.subStartTime
      (reportSub client) 0 env.tick 0 client.listSubWaitAck.reverse
    ⟨successRet, { client with listSubWaitAck := kept.reverse }, outputs⟩
  else ⟨successRet, client, []⟩

/-- A sweep does nothing, or sweeps its list. -/
theorem uiotMqttPubInfoProc_swept (client : Client) (env : Env) :
    uiotMqttPubInfoProc client env = ⟨successRet, client, []⟩ ∨
      ∃ kept outputs timedOut,
        uiotMqttPubInfoProc client env =
            ⟨successRet, { client with listPubWaitAck := kept }, outputs⟩ ∧
          Swept PubInfo.nodeState (reportPub client) client.listPubWaitAck kept outputs timedOut := by
  unfold uiotMqttPubInfoProc
  split
  · obtain ⟨timedOut, swept⟩ := sweepEntries_swept client.isConnected PubInfo.nodeState
      PubInfo.pubStartTime (reportPub client) 1 env.tick 0 client.listPubWaitAck.reverse
    exact .inr ⟨_, _, timedOut, rfl, swept.reverse⟩
  · exact .inl rfl

theorem uiotMqttSubInfoProc_swept (client : Client) (env : Env) :
    uiotMqttSubInfoProc client env = ⟨successRet, client, []⟩ ∨
      ∃ kept outputs timedOut,
        uiotMqttSubInfoProc client env =
            ⟨successRet, { client with listSubWaitAck := kept }, outputs⟩ ∧
          Swept SubInfo.nodeState (reportSub client) client.listSubWaitAck kept outputs timedOut := by
  unfold uiotMqttSubInfoProc
  split
  · obtain ⟨timedOut, swept⟩ := sweepEntries_swept client.isConnected SubInfo.nodeState
      SubInfo.subStartTime (reportSub client) 0 env.tick 0 client.listSubWaitAck.reverse
    exact .inr ⟨_, _, timedOut, rfl, swept.reverse⟩
  · exact .inl rfl

/-! ## Disconnecting and keeping alive -/

/-- `uiot_mqtt_disconnect`. Its packet is the send number `send`. -/
def uiotMqttDisconnect (client : Client) (env : Env) (send : Nat) : Result :=
  if ¬client.isConnected then ⟨errMqttNoConn, client, []⟩
  else
    let (client, outputs) :=
      match serializePacketWithZeroPayload client.writeBufSize .disconnect with
      | .error _ => (client, [])
      | .ok packet =>
          let client := client.store packet
          (client, (sendMqttPacket client packet.length (env.writes send)).2)
    let client := { client with isConnected := false, wasManuallyDisconnected := true }
    ⟨successRet, client, outputs ++ [.netDisconnect]⟩

/-- `_handle_disconnect` -/
def handleDisconnect (client : Client) (env : Env) (send : Nat) : Result :=
  if ¬client.isConnected then ⟨errMqttNoConn, client, []⟩
  else
    let disconnected := uiotMqttDisconnect client env send
    let client := disconnected.client
    let (client, outputs) :=
      if disconnected.ret ≠ successRet then
        ({ client with isConnected := false }, disconnected.outputs ++ [.netDisconnect])
      else (client, disconnected.outputs)
    let outputs := outputs ++ client.raise .disconnect 0
    ⟨errMqttNoConn, { client with wasManuallyDisconnected := false }, outputs⟩

/-- The loop of `_mqtt_keep_alive` that sends the ping, with `tries` sends
left after a failed one. -/
def sendPing (client : Client) (length : Nat) (env : Env) : Nat → Nat → Int × List Output
  | tries, send =>
      let (ret, outputs) := sendMqttPacket client length (env.writes send)
      if ret = successRet then (ret, outputs)
      else
        match tries with
        | 0 => (ret, outputs)
        | tries + 1 =>
            let (ret, later) := sendPing client length env tries (send + 1)
            (ret, outputs ++ later)

/-- `_mqtt_keep_alive` -/
def mqttKeepAlive (client : Client) (env : Env) : Result :=
  let keepAliveInterval := client.options.keepAliveInterval
  if keepAliveInterval = 0 then ⟨successRet, client, []⟩
  else if ¬hasExpired client.pingTimer (env.tick 0) then ⟨successRet, client, []⟩
  else if mqttPingRetryTimes ≤ client.isPingOutstanding then handleDisconnect client env 0
  else
    match serializePacketWithZeroPayload client.writeBufSize .pingreq with
    | .error ret => ⟨ret, client, []⟩
    | .ok packet =>
        let client := client.store packet
        let (ret, outputs) := sendPing client packet.length env 3 0
        if ret ≠ successRet then
          let disconnected := handleDisconnect client env 4
          { disconnected with outputs := outputs ++ disconnected.outputs }
        else
          let interval := UInt32.ofNat (min 5 (keepAliveInterval.toNat / 2))
          let pingTimer := countdown env.rtTickFromMillisecond (env.tick 1) interval
          let isPingOutstanding := client.isPingOutstanding + 1
          ⟨successRet, { client with isPingOutstanding, pingTimer }, outputs⟩

/-! ## Connecting -/

/-- What the world does while a connection is made: the result of opening it,
the call itself, and the passes of `wait_for_read` before the timer runs out. -/
structure ConnectEnv where
  netConnectRet : Int
  env : Env
  reads : List (PacketRead × Env)

/-- `wait_for_read`, with the packet type last stored. -/
def waitForRead (packetType : MessageTypes) : Client → Nat → List (PacketRead × Env) → Result
  | client, _, [] => ⟨errMqttRequestTimeout, client, []⟩
  | client, readPacketType, (read, env) :: reads =>
      let cycle := cycleForReadWith client read env
      let readPacketType := read.packetType.getD readPacketType
      if cycle.ret = successRet ∧ MessageTypes.ofHeader readPacketType ≠ some packetType then
        let later := waitForRead packetType cycle.client readPacketType reads
        { later with outputs := cycle.outputs ++ later.outputs }
      else cycle

/-- The end of `_mqtt_connect`: the CONNACK in the receive buffer is checked and
the client is marked as connected. -/
def acceptConnack (client : Client) (env : Env) : Result :=
  match deserializeConnackPacket client.readBuf client.readBufSize with
  | .error ret => ⟨ret, client, []⟩
  | .ok (_, connackRc) =>
      if connackRc ≠ mqttConnectionAccepted then ⟨connackRc, client, []⟩
      else
        let pingTimer := countdown env.rtTickFromMillisecond (env.tick 1)
          (UInt32.ofNat client.options.keepAliveInterval.toNat)
        let client := { client with
          isConnected := true
          wasManuallyDisconnected := false
          isPingOutstanding := 0
          pingTimer := pingTimer }
        ⟨successRet, client, []⟩

/-- The start of `_mqtt_connect`: the connection is opened and the CONNECT
packet is sent. The options are those given, which the client keeps. -/
def sendConnect (client : Client) (options : ConnectParams) (netConnectRet : Int) (env : Env) :
    Result :=
  let client := { client with options := options }
  if netConnectRet ≠ successRet then ⟨netConnectRet, client, []⟩
  else
    match serializeConnectPacket client.writeBufSize client.options with
    | .error ret => ⟨ret, client, [.netConnect]⟩
    | .ok packet =>
        let client := client.store packet
        let (ret, outputs) := sendMqttPacket client packet.length (env.writes 0)
        ⟨ret, client, .netConnect :: outputs⟩

/-- `_mqtt_connect` -/
def mqttConnect (client : Client) (options : ConnectParams) (world : ConnectEnv) : Result :=
  let sent := sendConnect client options world.netConnectRet world.env
  if sent.ret ≠ successRet then sent
  else
    let waited := waitForRead .connack sent.client 0 world.reads
    if waited.ret ≠ successRet then { waited with outputs := sent.outputs ++ waited.outputs }
    else
      let accepted := acceptConnack waited.client world.env
      { accepted with outputs := sent.outputs ++ waited.outputs ++ accepted.outputs }

/-- `uiot_mqtt_connect` -/
def uiotMqttConnect (client : Client) (params : ConnectParams) (world : ConnectEnv) : Result :=
  if client.isConnected then ⟨mqttAlreadyConnected, client, []⟩
  else
    let connected := mqttConnect client params world
    if connected.ret ≠ successRet then
      { connected with outputs := connected.outputs ++ [.netDisconnect] }
    else connected

/-- The loop of `uiot_mqtt_resubscribe` over the slots left. -/
def resubscribeLoop (envs : Nat → Env) : Client → List (Fin maxSubTopics) → Result
  | client, [] => ⟨successRet, client, []⟩
  | client, itr :: rest =>
      let slot := client.subHandles.get itr
      match slot.topicFilter with
      | none => resubscribeLoop envs client rest
      | some topic =>
          let tempParam : SubscribeParams :=
            ⟨slot.qos, slot.messageHandler, slot.messageHandlerData⟩
          let subscribed := uiotMqttSubscribe client topic tempParam (envs itr)
          if subscribed.ret < 0 then subscribed
          else
            let later := resubscribeLoop envs subscribed.client rest
            { later with outputs := subscribed.outputs ++ later.outputs }

/-- `uiot_mqtt_resubscribe` -/
def uiotMqttResubscribe (client : Client) (envs : Nat → Env) : Result :=
  if ¬client.isConnected then ⟨errMqttNoConn, client, []⟩
  else resubscribeLoop envs client (List.finRange maxSubTopics)

/-- What the world does during an attempt to reconnect. -/
structure ReconnectEnv where
  connect : ConnectEnv
  subscribe : Nat → Env
  env : Env

/-- `uiot_mqtt_attempt_reconnect` -/
def uiotMqttAttemptReconnect (client : Client) (world : ReconnectEnv) : Result :=
  if client.isConnected then ⟨mqttAlreadyConnected, client, []⟩
  else
    let connected := uiotMqttConnect client client.options world.connect
    if ¬connected.client.isConnected then connected
    else
      let resubscribed := uiotMqttResubscribe connected.client world.subscribe
      let outputs := connected.outputs ++ resubscribed.outputs
      if resubscribed.ret ≠ successRet then ⟨resubscribed.ret, resubscribed.client, outputs⟩
      else ⟨mqttReconnected, resubscribed.client, outputs⟩

/-- The interval after a failed attempt, and the timer armed with it. -/
def backOff (client : Client) (env : Env) : Result :=
  let interval := client.currentReconnectWaitInterval * 2
  if maxReconnectWaitInterval < interval ∧ ¬enableInfiniteReconnect then
    ⟨errMqttReconnectTimeout, { client with currentReconnectWaitInterval := interval }, []⟩
  else
    let interval :=
      if maxReconnectWaitInterval < interval then maxReconnectWaitInterval else interval
    let reconnectDelayTimer := countdownMs env.rtTickFromMillisecond (env.tick 1) interval
    let client :=
      { client with currentReconnectWaitInterval := interval, reconnectDelayTimer }
    ⟨errMqttAttemptingReconnect, client, []⟩

/-- `_handle_reconnect` -/
def handleReconnect (client : Client) (world : ReconnectEnv) : Result :=
  if ¬hasExpired client.reconnectDelayTimer (world.env.tick 0) then
    ⟨errMqttAttemptingReconnect, client, []⟩
  else
    let attempted := uiotMqttAttemptReconnect client world
    if attempted.ret = mqttReconnected then
      let outputs := attempted.outputs ++ attempted.client.raise .reconnect 0
      ⟨mqttReconnected, attempted.client, outputs⟩
    else
      let backedOff := backOff attempted.client world.env
      { backedOff with outputs := attempted.outputs ++ backedOff.outputs }

/-! ## Yielding -/

/-- What the world does during a pass of the loop of `uiot_mqtt_yield`: one part
for each call the pass may make, and a clock for the pass itself. -/
structure PassEnv where
  reconnect : ReconnectEnv
  cycle : Env
  pubInfoProc : Env
  subInfoProc : Env
  keepAlive : Env
  disconnect : Env
  env : Env

/-- What `uiot_mqtt_yield` does with the code of `cycle_for_read`. -/
def afterCycle (client : Client) (ret : Int) (world : PassEnv) : Result :=
  if ret = successRet then
    let swept := uiotMqttPubInfoProc client world.pubInfoProc
    let sweptSub := uiotMqttSubInfoProc swept.client world.subInfoProc
    let kept := mqttKeepAlive sweptSub.client world.keepAlive
    { kept with outputs := swept.outputs ++ sweptSub.outputs ++ kept.outputs }
  else if ret = errSslReadTimeout ∨ ret = errSslReadFailed ∨ ret = errTcpPeerShutdown ∨
      ret = errTcpReadFailed then
    handleDisconnect client world.disconnect 0
  else if ret = failureRet then ⟨successRet, client, []⟩
  else ⟨ret, client, []⟩

/-- The bookkeeping of a lost connection that will be made again. -/
def scheduleReconnect (client : Client) (env : Env) : Client :=
  { client with
    currentReconnectWaitInterval := minReconnectWaitInterval
    reconnectDelayTimer :=
      countdownMs env.rtTickFromMillisecond (env.tick 0) minReconnectWaitInterval }

/-- The end of a pass: whether the loop goes on, and with which code. -/
def endOfPass (client : Client) (ret : Int) (env : Env) : Bool × Int × Client :=
  if ret = errMqttNoConn then
    let client := { client with
      counterNetworkDisconnected := client.counterNetworkDisconnected + 1 }
    if client.options.autoConnectEnable = 1 then
      (true, errMqttAttemptingReconnect, scheduleReconnect client env)
    else (false, ret, client)
  else (decide (ret = successRet), ret, client)

/-- A pass that reads, once `_read_mqtt_packet` has returned. -/
def readPassWith (client : Client) (read : PacketRead) (world : PassEnv) : Bool × Result :=
  let cycle := cycleForReadWith client read world.cycle
  let after := afterCycle cycle.client cycle.ret world
  let (goesOn, ret, client) := endOfPass after.client after.ret world.env
  (goesOn, ⟨ret, client, cycle.outputs ++ after.outputs⟩)

/-- A pass of the loop of `uiot_mqtt_yield` on a network. -/
def yieldPass {σ : Type} (net : NetworkStack σ) (client : Client) (s : σ) (world : PassEnv) :
    Bool × Result × σ :=
  if ¬client.isConnected then
    if maxReconnectWaitInterval < client.currentReconnectWaitInterval then
      (false, ⟨errMqttReconnectTimeout, client, []⟩, s)
    else (true, handleReconnect client world.reconnect, s)
  else
    let (read, s) := readMqttPacket net client.readBufSize client.readBuf s
    let (goesOn, result) := readPassWith client read world
    (goesOn, result, s)

/-- The loop of `uiot_mqtt_yield` over the passes before its timer runs out. -/
def yieldLoop {σ : Type} (net : NetworkStack σ) : Client → Int → σ → List PassEnv → Result × σ
  | client, ret, s, [] => (⟨ret, client, []⟩, s)
  | client, _, s, world :: worlds =>
      let (goesOn, pass, s) := yieldPass net client s world
      if goesOn then
        let (later, s) := yieldLoop net pass.client pass.ret s worlds
        ({ later with outputs := pass.outputs ++ later.outputs }, s)
      else (pass, s)

/-- `uiot_mqtt_yield` -/
def uiotMqttYield {σ : Type} (net : NetworkStack σ) (client : Client) (timeoutMs : UInt32) (s : σ)
    (worlds : List PassEnv) : Result × σ :=
  if timeoutMs = 0 then (⟨errParamInvalid, client, []⟩, s)
  else if ¬client.isConnected ∧ client.wasManuallyDisconnected then
    (⟨mqttManuallyDisconnected, client, []⟩, s)
  else if ¬client.isConnected ∧ client.options.autoConnectEnable = 0 then
    (⟨errMqttNoConn, client, []⟩, s)
  else yieldLoop net client successRet s worlds

end UIoT.Mqtt
