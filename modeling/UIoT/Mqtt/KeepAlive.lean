import UIoT.Mqtt.Codes
import UIoT.Mqtt.PacketIds
import UIoT.Mqtt.Wires

/-!
# Keeping the connection alive

`is_ping_outstanding` counts the PINGREQs that went out in full since the last
packet that shows that the link is up, or the last connect. Only
`_mqtt_keep_alive` counts up, and only below `MQTT_PING_RETRY_TIMES`
(`step_pings`). It disconnects when that number is reached and the ping timer has
run out, or when all four sends of a PINGREQ have failed (`keepAlive_counts`).
-/

set_option autoImplicit false

namespace UIoT.Mqtt

open Runs

/-! ## Counting -/

/-- A PINGREQ. -/
def pingreqPacket : List UInt8 := [0xC0, 0]

/-- The PINGREQs that went out in full. -/
def pings (outputs : List Output) : Nat := outputs.count (.wire pingreqPacket)

/-- The types of the packets that show that the link is up. -/
def showsLink (packetType : MessageTypes) : Bool :=
  packetType = .puback || packetType = .suback || packetType = .unsuback ||
    packetType = .pingresp || packetType = .publish

/-- An act that processes such a packet, or connects. -/
def Act.startsOver (client : Client) : Act → Bool
  | .cycle read _ =>
      read.ret = successRet &&
        ((MessageTypes.ofHeader (read.packetType.getD 0)).map showsLink).getD false
  | .acceptConnack env => (UIoT.Mqtt.acceptConnack client env).ret = successRet
  | _ => false

/-- The PINGREQs that went out since a run last started over, after `count` at
its begin. -/
def pingsSince : Nat → Client → List Act → Nat
  | count, _, [] => count
  | count, client, input :: inputs =>
      let count := if input.startsOver client then 0 else count + pings (step client input).2
      pingsSince count (step client input).1 inputs

/-! ## Acts that leave the count -/

/-- The count stays, and the send buffer does not shrink. -/
structure Client.Unpinged (client client' : Client) : Prop where
  same : client'.isPingOutstanding = client.isPingOutstanding
  grows : client.writeBuf.length ≤ client'.writeBuf.length

section Unpinged

variable {client client' client'' : Client} (env : Env)

theorem Client.Unpinged.refl (client : Client) : client.Unpinged client := ⟨rfl, Nat.le_refl _⟩

theorem Client.Unpinged.trans (first : client.Unpinged client') (second : client'.Unpinged client'') :
    client.Unpinged client'' :=
  ⟨second.same.trans first.same, Nat.le_trans first.grows second.grows⟩

theorem store_unpinged (client : Client) (packet : List UInt8) :
    client.Unpinged (client.store packet) := by
  refine ⟨rfl, ?_⟩
  rw [store_writeBuf, List.length_append, List.length_drop]
  omega

theorem sendAnswer_unpinged (packet : Except Int (List UInt8)) :
    client.Unpinged (sendAnswer client packet env).client := by
  cases packet with
  | error ret => exact .refl client
  | ok packet => exact store_unpinged client packet

theorem maskSubInfoFrom_unpinged (packetId : UInt16) (alloc : Nat) :
    client.Unpinged (maskSubInfoFrom client packetId env alloc).2 := by
  rw [maskSubInfoFrom]
  split <;> exact ⟨rfl, Nat.le_refl _⟩

theorem dispatch_unpinged {packetType : MessageTypes} {handled : Result}
    (dispatched : dispatch client packetType env = some handled) :
    client.Unpinged handled.client := by
  cases packetType <;> simp only [dispatch, Option.some.injEq, reduceCtorEq] at dispatched
  case puback =>
    rw [← dispatched, handlePubackPacket]
    split
    · exact .refl client
    · simp only [maskPubInfoFrom]
      split <;> exact ⟨rfl, Nat.le_refl _⟩
  case suback =>
    rw [← dispatched, handleSubackPacket]
    split
    · exact .refl client
    · rename_i packetId grantedQoS _
      have masked := @maskSubInfoFrom_unpinged client env packetId 0
      simp only
      split
      · exact masked
      split
      · exact masked
      split
      · exact masked
      · exact ⟨masked.same, masked.grows⟩
  case unsuback =>
    rw [← dispatched, handleUnsubackPacket]
    split
    · exact .refl client
    · exact maskSubInfoFrom_unpinged env _ 0
  case publish =>
    rw [← dispatched, handlePublishPacket]
    split
    · exact .refl client
    · simp only
      split
      · rw [deliverMessage_client]
        exact .refl client
      · rw [deliverMessage_client]
        exact sendAnswer_unpinged env _
  case pubrec =>
    rw [← dispatched, handlePubrecPacket]
    split
    · exact .refl client
    · exact sendAnswer_unpinged env _
  all_goals exact dispatched ▸ .refl client

/-- A cycle starts the count over when it processes a packet that shows that the
link is up. -/
theorem cycle_pings (read : PacketRead) :
    let after := (cycleForReadWith client read env).client
    client.writeBuf.length ≤ after.writeBuf.length ∧
      after.isPingOutstanding =
        if (Act.cycle read env).startsOver client then 0 else client.isPingOutstanding := by
  intro after
  by_cases success : read.ret = successRet
  · cases isType : MessageTypes.ofHeader (read.packetType.getD 0) with
    | none =>
        have somethingRead : successRet ≠ errMqttNothingToRead := by decide
        have same : after = { client with readBuf := read.readBuf } := by
          simp only [after, cycleForReadWith, success, isType, if_neg somethingRead, ne_eq,
            not_true_eq_false, if_false]
        rw [same]
        exact ⟨Nat.le_refl _, by simp [Act.startsOver, isType]⟩
    | some packetType =>
        have cycle := @cycleForReadWith_of_type client read env _ success isType
        simp only [after, cycle, Act.startsOver, isType, success]
        cases dispatched : dispatch { client with readBuf := read.readBuf } packetType env with
        | none =>
            refine ⟨Nat.le_refl _, ?_⟩
            cases packetType <;> simp [dispatch] at dispatched <;> simp [showsLink]
        | some handled =>
            have unpinged := dispatch_unpinged env dispatched
            have same : handled.client.isPingOutstanding = client.isPingOutstanding := unpinged.same
            have notes : (notePing handled.client packetType env).writeBuf =
                handled.client.writeBuf := by
              cases packetType <;> rfl
            refine ⟨notes ▸ unpinged.grows, ?_⟩
            cases packetType <;> simp [showsLink, notePing, handlePingrespPacket, same]
  · have same : after = { client with readBuf := read.readBuf } :=
      (cycleForReadWith_of_failed env success).1
    rw [same]
    exact ⟨Nat.le_refl _, by simp [Act.startsOver, success]⟩

theorem uiotMqttPublish_unpinged (topicName : CString) (params : PublishParams) :
    client.Unpinged (uiotMqttPublish client topicName params env).client := by
  unfold uiotMqttPublish
  split
  · exact .refl client
  split
  · exact .refl client
  split
  · exact .refl client
  split
  · exact .refl client
  rename_i notQos2 connected
  cases quality : params.qos with
  | qos2 => exact absurd quality notQos2
  | qos0 =>
      simp only [reduceCtorEq, if_false, ne_eq, not_true_eq_false]
      split
      · exact .refl client
      · split <;> exact store_unpinged client _
  | qos1 =>
      simp only [if_true, ne_eq, reduceCtorEq, not_false_eq_true]
      split
      · exact ⟨rfl, Nat.le_refl _⟩
      · rename_i packet built
        have stored := store_unpinged (getNextPacketId client).2 packet
        rcases maskPushPubInfoTo_cases ((getNextPacketId client).2.store packet) packet.length
            (getNextPacketId client).1 env 0 with ⟨ret, failed, pushed⟩ | ⟨timer, pushed⟩
        · simp only [pushed, if_pos failed]
          exact ⟨stored.same, stored.grows⟩
        · simp only [pushed, not_true_eq_false, if_false]
          split <;> exact ⟨stored.same, stored.grows⟩

theorem sendSubRequest_unpinged (packet : List UInt8) (packetId : UInt16) (request : MessageTypes)
    (handler : SubTopicHandle) :
    client.Unpinged (sendSubRequest client packet packetId request handler env).client := by
  have stored := store_unpinged client packet
  unfold sendSubRequest
  rcases pushSubInfoTo_cases (client.store packet) packetId request handler env 1 with
    ⟨ret, failed, pushed⟩ | ⟨timer, pushed⟩
  · simp only [pushed, if_pos failed]
    exact stored
  · simp only [pushed, ne_eq, not_true_eq_false, if_false]
    split <;> exact ⟨stored.same, stored.grows⟩

theorem uiotMqttSubscribe_unpinged (topicFilter : CString) (params : SubscribeParams) :
    client.Unpinged (uiotMqttSubscribe client topicFilter params env).client := by
  unfold uiotMqttSubscribe
  split
  · exact .refl client
  split
  · exact .refl client
  split
  · exact .refl client
  split
  · exact .refl client
  split
  · exact .refl client
  simp only
  split
  · exact ⟨rfl, Nat.le_refl _⟩
  · have sent := @sendSubRequest_unpinged (getNextPacketId client).2 env
    exact ⟨(sent _ _ _ _).same, (sent _ _ _ _).grows⟩

theorem uiotMqttUnsubscribe_unpinged (topicFilter : CString) :
    client.Unpinged (uiotMqttUnsubscribe client topicFilter env).client := by
  unfold uiotMqttUnsubscribe
  split
  · exact .refl client
  split
  · exact .refl client
  simp only
  split
  · exact ⟨rfl, Nat.le_refl _⟩
  split
  · exact ⟨rfl, Nat.le_refl _⟩
  split
  · exact ⟨rfl, Nat.le_refl _⟩
  split
  · exact ⟨rfl, Nat.le_refl _⟩
  · rename_i packet built
    have sent := @sendSubRequest_unpinged (getNextPacketId (clearSlots client topicFilter)).2 env
    exact ⟨(sent _ _ _ _).same, (sent _ _ _ _).grows⟩

theorem uiotMqttDisconnect_unpinged (send : Nat) :
    client.Unpinged (uiotMqttDisconnect client env send).client := by
  unfold uiotMqttDisconnect
  split
  · exact .refl client
  · simp only
    split
    · exact ⟨rfl, Nat.le_refl _⟩
    · rename_i packet built
      have stored := store_unpinged client packet
      exact ⟨stored.same, stored.grows⟩

theorem handleDisconnect_unpinged (send : Nat) :
    client.Unpinged (handleDisconnect client env send).client := by
  have disconnects := @uiotMqttDisconnect_unpinged client env send
  unfold handleDisconnect
  split
  · exact .refl client
  · simp only
    split <;> exact ⟨disconnects.same, disconnects.grows⟩

theorem sendConnect_unpinged (options : ConnectParams) (netConnectRet : Int) :
    client.Unpinged (sendConnect client options netConnectRet env).client := by
  unfold sendConnect
  simp only
  split
  · exact ⟨rfl, Nat.le_refl _⟩
  split
  · exact ⟨rfl, Nat.le_refl _⟩
  · rename_i packet built
    have stored := store_unpinged { client with options := options } packet
    exact ⟨stored.same, stored.grows⟩

end Unpinged

/-! ## PINGREQs -/

section Pings

variable {client : Client} {rest : List UInt8} (env : Env)

theorem pings_append (first second : List Output) :
    pings (first ++ second) = pings first + pings second := List.count_append

theorem NeverSends.pings_eq_zero {outputs : List Output} (never : NeverSends .pingreq outputs) :
    pings outputs = 0 := by
  refine List.count_eq_zero.mpr fun among => never 0xC0 [0] among ?_
  decide

/-- A PINGREQ goes out in full exactly when the send succeeds. -/
theorem sendMqttPacket_pings (stored : client.writeBuf = pingreqPacket ++ rest) (more : rest ≠ [])
    (results : List Int) :
    let sent := sendMqttPacket client pingreqPacket.length results
    pings sent.2 = if sent.1 = successRet then 1 else 0 := by
  have failure : failureRet ≠ successRet := by decide
  intro sent
  simp only [sent, sendMqttPacket]
  split
  · rfl
  · rw [sendLoop_eq, stored, List.drop_zero, Nat.sub_zero]
    generalize acceptedBytes pingreqPacket.length results 0 = accepted
    by_cases all : accepted = pingreqPacket.length
    · simp [all, pings]
    · rw [if_neg all, if_neg failure, pings, List.count_eq_zero]
      intro among
      have same := congrArg List.length (Output.wire.inj (List.mem_singleton.mp among))
      have positive := List.length_pos_iff.mpr more
      rw [List.length_take, List.length_append] at same
      omega

theorem sendPing_zero (client : Client) (length send : Nat) :
    sendPing client length env 0 send = sendMqttPacket client length (env.writes send) := by
  rw [sendPing]
  simp only
  split <;> rfl

theorem sendPing_succ (client : Client) (length tries send : Nat) :
    sendPing client length env (tries + 1) send =
      let sent := sendMqttPacket client length (env.writes send)
      let later := sendPing client length env tries (send + 1)
      if sent.1 = successRet then sent else (later.1, sent.2 ++ later.2) := by
  rw [sendPing]

/-- At most one of the sends of a PINGREQ succeeds, the last one. -/
theorem sendPing_pings (stored : client.writeBuf = pingreqPacket ++ rest) (more : rest ≠ [])
    (tries send : Nat) :
    let sent := sendPing client pingreqPacket.length env tries send
    pings sent.2 = if sent.1 = successRet then 1 else 0 := by
  intro sent
  induction tries generalizing send with
  | zero =>
      simp only [sent, sendPing_zero]
      exact sendMqttPacket_pings stored more (env.writes send)
  | succ tries inductionHypothesis =>
      have one := sendMqttPacket_pings stored more (env.writes send)
      simp only [sent, sendPing_succ]
      split
      · rename_i succeeds
        exact one.trans (by rw [if_pos succeeds])
      · rename_i failed
        have later := inductionHypothesis (send + 1)
        rw [pings_append, one, if_neg failed, Nat.zero_add]
        exact later

/-- All sends of a PINGREQ have failed. -/
theorem sendPing_fails {length tries send : Nat}
    (failed : (sendPing client length env tries send).1 ≠ successRet) :
    ∀ i ≤ tries, (sendMqttPacket client length (env.writes (send + i))).1 ≠ successRet := by
  induction tries generalizing send with
  | zero =>
      intro i isZero
      obtain rfl := Nat.le_zero.mp isZero
      rwa [sendPing_zero] at failed
  | succ tries inductionHypothesis =>
      intro i within
      rw [sendPing_succ] at failed
      simp only at failed
      split at failed
      · rename_i succeeds
        exact absurd succeeds failed
      · rename_i first
        cases i with
        | zero => exact first
        | succ i =>
            have later := inductionHypothesis failed i (Nat.le_of_succ_le_succ within)
            rwa [Nat.add_assoc, Nat.add_comm 1 i] at later

/-- A PINGREQ could not be sent: none of the four attempts has succeeded. -/
def PingFails (client : Client) (env : Env) : Prop :=
  ∀ i < 4, (sendMqttPacket (client.store pingreqPacket) pingreqPacket.length (env.writes i)).1 ≠
    successRet

theorem serializePingreq {bufLen : Nat} {packet : List UInt8}
    (built : serializePacketWithZeroPayload bufLen .pingreq = .ok packet) :
    packet = pingreqPacket := by
  unfold serializePacketWithZeroPayload at built
  simp only at built
  split at built
  · cases built
  · have isPacket : mqttInitPacketHeader .pingreq .qos0 0 0 = .ok 0xC0 := rfl
    have field : mqttWritePacketRemLen 0 = [0] := by
      rw [mqttWritePacketRemLen_eq_encode, Base128.encode_of_lt (by decide)]
      rfl
    rw [isPacket] at built
    rw [← Except.ok.inj built, field]
    rfl

/-- What `_mqtt_keep_alive` does: nothing, it disconnects, or one more PINGREQ
goes out. -/
inductive KeepAliveOutcome (client : Client) (env : Env) (result : Result) : Prop where
  | nothing (same : client.Unpinged result.client) (silent : result.outputs = [])
      (connection : result.client.isConnected = client.isConnected)
  | disconnects (same : client.Unpinged result.client) (none : pings result.outputs = 0)
      (why : hasExpired client.pingTimer (env.tick 0) = true ∧
        (mqttPingRetryTimes ≤ client.isPingOutstanding ∨ PingFails client env))
  | pinged (below : client.isPingOutstanding < mqttPingRetryTimes)
      (counted : result.client.isPingOutstanding = client.isPingOutstanding + 1)
      (grows : client.writeBuf.length ≤ result.client.writeBuf.length)
      (one : pings result.outputs = 1) (keeps : Output.netDisconnect ∉ result.outputs)
      (connection : result.client.isConnected = client.isConnected)

theorem sendPing_wires (length tries send : Nat) :
    WireOnly (sendPing client length env tries send).2 := by
  induction tries generalizing send with
  | zero =>
      rw [sendPing_zero]
      exact wireOnly_sendMqttPacket client length (env.writes send)
  | succ tries inductionHypothesis =>
      have one := wireOnly_sendMqttPacket client length (env.writes send)
      rw [sendPing_succ]
      simp only
      split
      · exact one
      · intro output among
        exact (List.mem_append.mp among).elim (one output) (inductionHypothesis (send + 1) output)

theorem mqttKeepAlive_outcome (large : 3 ≤ client.writeBuf.length) :
    KeepAliveOutcome client env (mqttKeepAlive client env) := by
  have disconnected : ∀ client' send, pings (handleDisconnect client' env send).outputs = 0 :=
    fun client' send => (handleDisconnect_neverSends env send (by decide)).pings_eq_zero
  unfold mqttKeepAlive
  simp only
  split
  · exact .nothing (.refl client) rfl rfl
  split
  · exact .nothing (.refl client) rfl rfl
  rename_i expired
  have expired := not_not.mp expired
  split
  · rename_i many
    exact .disconnects (handleDisconnect_unpinged env 0) (disconnected client 0) ⟨expired, .inl many⟩
  rename_i few
  split
  · exact .nothing (.refl client) rfl rfl
  rename_i packet built
  obtain rfl := serializePingreq built
  have unpinged := store_unpinged client pingreqPacket
  have stored := store_writeBuf client pingreqPacket
  have more : client.writeBuf.drop pingreqPacket.length ≠ [] := by
    intro none
    have short := congrArg List.length none
    have two : pingreqPacket.length = 2 := rfl
    rw [List.length_drop, List.length_nil] at short
    omega
  have count := sendPing_pings env stored more 3 0
  split
  · rename_i failed
    refine .disconnects (unpinged.trans (handleDisconnect_unpinged env 4)) ?_ ⟨expired, .inr ?_⟩
    · rw [pings_append, disconnected, count, if_neg failed]
    · intro i within
      have fails := sendPing_fails env failed i (Nat.le_of_lt_succ within)
      rwa [Nat.zero_add] at fails
  · rename_i succeeds
    refine .pinged (UInt8.not_le.mp few) rfl unpinged.grows ?_ ?_ rfl
    · rw [count, if_pos (not_not.mp succeeds)]
    · intro among
      obtain ⟨bytes, isWire⟩ := sendPing_wires env _ _ _ _ among
      cases isWire

end Pings

/-! ## Steps and runs -/

theorem acceptConnack_pings (client : Client) (env : Env) :
    (acceptConnack client env).client.writeBuf = client.writeBuf ∧
      (acceptConnack client env).client.isPingOutstanding =
        if (acceptConnack client env).ret = successRet then 0 else client.isPingOutstanding := by
  obtain ⟨fails, refused⟩ := deserializeConnackPacket_ordinary client.readBuf client.readBufSize
  unfold acceptConnack
  split
  · rename_i ret parsed
    exact ⟨rfl, (if_neg (fails ret parsed).ne_success).symm⟩
  · rename_i flags connackRc parsed
    split
    · exact ⟨rfl, (if_neg (refused flags connackRc parsed).2).symm⟩
    · exact ⟨rfl, rfl⟩

/-- What a step does to the count. -/
theorem step_pings {client : Client} (input : Act) (large : 3 ≤ client.writeBuf.length)
    (bounded : client.isPingOutstanding ≤ mqttPingRetryTimes) :
    let after := (step client input).1
    client.writeBuf.length ≤ after.writeBuf.length ∧
      after.isPingOutstanding ≤ mqttPingRetryTimes ∧
      after.isPingOutstanding.toNat =
        if input.startsOver client then 0
        else client.isPingOutstanding.toNat + pings (step client input).2 := by
  intro after
  -- an act other than `_mqtt_keep_alive` sends no PINGREQ
  have ofUnpinged : input.startsOver client = false → MessageTypes.pingreq ∉ input.sends →
      client.Unpinged after → client.writeBuf.length ≤ after.writeBuf.length ∧
      after.isPingOutstanding ≤ mqttPingRetryTimes ∧
      after.isPingOutstanding.toNat =
        if input.startsOver client then 0
        else client.isPingOutstanding.toNat + pings (step client input).2 := by
    intro goesOn silent unpinged
    have none := (step_neverSends client silent).pings_eq_zero
    rw [goesOn, none, unpinged.same]
    exact ⟨unpinged.grows, bounded, rfl⟩
  cases input with
  | publish topicName params env =>
      exact ofUnpinged rfl (by simp [Act.sends]) (uiotMqttPublish_unpinged env topicName params)
  | subscribe topicFilter params env =>
      exact ofUnpinged rfl (by simp [Act.sends]) (uiotMqttSubscribe_unpinged env topicFilter params)
  | unsubscribe topicFilter env =>
      exact ofUnpinged rfl (by simp [Act.sends]) (uiotMqttUnsubscribe_unpinged env topicFilter)
  | cycle read env =>
      have none := (@step_neverSends client (.cycle read env) .pingreq (by simp [Act.sends])).pings_eq_zero
      obtain ⟨grows, counted⟩ := @cycle_pings client env read
      refine ⟨grows, ?_, ?_⟩
      · change (cycleForReadWith client read env).client.isPingOutstanding ≤ _
        rw [counted]
        split
        · decide
        · exact bounded
      · change (cycleForReadWith client read env).client.isPingOutstanding.toNat = _
        rw [counted, none]
        split <;> rfl
  | pubInfoProc env =>
      refine ofUnpinged rfl (by simp [Act.sends]) ?_
      simp only [after, step, act]
      rcases uiotMqttPubInfoProc_swept client env with same | ⟨kept, outputs, timedOut, same, -⟩
      · rw [same]
        exact .refl client
      · rw [same]
        exact ⟨rfl, Nat.le_refl _⟩
  | subInfoProc env =>
      refine ofUnpinged rfl (by simp [Act.sends]) ?_
      simp only [after, step, act]
      rcases uiotMqttSubInfoProc_swept client env with same | ⟨kept, outputs, timedOut, same, -⟩
      · rw [same]
        exact .refl client
      · rw [same]
        exact ⟨rfl, Nat.le_refl _⟩
  | keepAlive env =>
      have outcome := mqttKeepAlive_outcome env large
      simp only [after, step, act]
      cases outcome with
      | nothing same silent connection =>
          rw [silent, same.same]
          exact ⟨same.grows, bounded, rfl⟩
      | disconnects same none why =>
          rw [none, same.same]
          exact ⟨same.grows, bounded, rfl⟩
      | pinged below counted grows one keeps connection =>
          have below : client.isPingOutstanding.toNat < 2 := UInt8.lt_iff_toNat_lt.mp below
          have next : (client.isPingOutstanding + 1).toNat = client.isPingOutstanding.toNat + 1 := by
            rw [UInt8.toNat_add, UInt8.toNat_one, Nat.mod_eq_of_lt (by omega)]
          rw [one, counted]
          refine ⟨grows, ?_, next⟩
          rw [UInt8.le_iff_toNat_le, next]
          exact below
  | disconnect env =>
      exact ofUnpinged rfl (by simp [Act.sends]) (uiotMqttDisconnect_unpinged env 0)
  | handleDisconnect env =>
      exact ofUnpinged rfl (by simp [Act.sends]) (handleDisconnect_unpinged env 0)
  | sendConnect options netConnectRet env =>
      exact ofUnpinged rfl (by simp [Act.sends]) (sendConnect_unpinged env options netConnectRet)
  | acceptConnack env =>
      have none :=
        (@step_neverSends client (.acceptConnack env) .pingreq (by simp [Act.sends])).pings_eq_zero
      obtain ⟨sameBuf, counted⟩ := acceptConnack_pings client env
      refine ⟨Nat.le_of_eq (congrArg List.length sameBuf.symm), ?_, ?_⟩
      · change (UIoT.Mqtt.acceptConnack client env).client.isPingOutstanding ≤ _
        rw [counted]
        split
        · decide
        · exact bounded
      · change (UIoT.Mqtt.acceptConnack client env).client.isPingOutstanding.toNat = _
        rw [counted, none]
        simp only [Act.startsOver, decide_eq_true_eq]
        split <;> rfl
  | backOff env =>
      refine ofUnpinged rfl (by simp [Act.sends]) ?_
      simp only [after, step, act, UIoT.Mqtt.backOff]
      split <;> exact ⟨rfl, Nat.le_refl _⟩
  | closeNetwork | raiseReconnect | countDisconnect | scheduleReconnect =>
      exact ofUnpinged rfl (by simp [Act.sends]) ⟨rfl, Nat.le_refl _⟩

/-- The count along a run. -/
theorem run_pings {client : Client} (acts : List Act) (large : 3 ≤ client.writeBuf.length)
    (bounded : client.isPingOutstanding ≤ mqttPingRetryTimes) :
    let last := (run step client acts).1
    3 ≤ last.writeBuf.length ∧ last.isPingOutstanding ≤ mqttPingRetryTimes ∧
      last.isPingOutstanding.toNat = pingsSince client.isPingOutstanding.toNat client acts := by
  induction acts generalizing client with
  | nil => exact ⟨large, bounded, rfl⟩
  | cons input acts inductionHypothesis =>
      obtain ⟨grows, within, counted⟩ := step_pings input large bounded
      have later := inductionHypothesis (Nat.le_trans large grows) within
      rw [counted] at later
      exact later

/-- In every reachable state the client has counted the PINGREQs that went out in
full since the last packet that shows that the link is up, or the last connect;
there are at most `MQTT_PING_RETRY_TIMES`. `_mqtt_keep_alive` disconnects only
when there are as many and the ping timer has run out, or when none of the sends
of a PINGREQ succeeds. -/
theorem keepAlive_counts (params : InitParams) (acts : List Act) :
    let client := (run step (uiotMqttInit params) acts).1
    let count := pingsSince 0 (uiotMqttInit params) acts
    client.isPingOutstanding.toNat = count ∧ count ≤ mqttPingRetryTimes.toNat ∧
      ∀ env,
        let kept := mqttKeepAlive client env
        Output.netDisconnect ∈ kept.outputs ∨ kept.client.isConnected ≠ client.isConnected →
          (count = mqttPingRetryTimes.toNat ∧ hasExpired client.pingTimer (env.tick 0) = true) ∨
            PingFails client env := by
  intro client count
  have start : 3 ≤ (uiotMqttInit params).writeBuf.length := by
    rw [uiotMqttInit, List.length_replicate]
    decide
  obtain ⟨large, bounded, counted⟩ := run_pings acts start (by exact UInt8.zero_le)
  have counted : client.isPingOutstanding.toNat = count := counted
  have within := UInt8.le_iff_toNat_le.mp bounded
  refine ⟨counted, counted ▸ within, fun env => ?_⟩
  intro kept disconnects
  cases mqttKeepAlive_outcome env large with
  | nothing same silent connection =>
      rcases disconnects with closed | changed
      · rw [silent] at closed
        cases closed
      · exact absurd connection changed
  | pinged below counted grows one keeps connection =>
      rcases disconnects with closed | changed
      · exact absurd closed keeps
      · exact absurd connection changed
  | disconnects same none why =>
      obtain ⟨expired, many | fails⟩ := why
      · refine .inl ⟨?_, expired⟩
        rw [← counted]
        exact Nat.le_antisymm within (UInt8.le_iff_toNat_le.mp many)
      · exact .inr fails

end UIoT.Mqtt
