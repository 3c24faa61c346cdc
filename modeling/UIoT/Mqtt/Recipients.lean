import UIoT.Mqtt.Login
import UIoT.Mqtt.Slots
import UIoT.Mqtt.TopicCopy

/-!
# Who gets a message

A message is handed to a callback by a slot of the subscription table. Slots are
filled from the wait list, whose entries come from subscriptions of the
application or, behind a reconnection, from the slots themselves. So a callback
that gets a message was named in a subscription which the application made before,
with the data that it gets, and the topic of the message passes the filter of that
subscription (`deliveries_subscribed`).

What a yield does is built from acts that request nothing and from subscriptions of
slots. A relation that these have and that chains is one that a yield has
(`Follows.uiotMqttYield`).
-/

set_option autoImplicit false

namespace UIoT.Mqtt

open TopicFilter
open Utils (literal)

/-! ## The rule for yields -/

/-- The subscription that `uiot_mqtt_resubscribe` makes of a slot. -/
def SubTopicHandle.again (slot : SubTopicHandle) : SubscribeParams :=
  ⟨slot.qos, slot.messageHandler, slot.messageHandlerData⟩

/-- A relation between a client, outputs and a later client that chains, and that
has what happens within a yield. -/
structure Follows (R : Client → List Output → Client → Prop) : Prop where
  refl : ∀ client, R client [] client
  trans : ∀ {first second third outs outs'}, R first outs second → R second outs' third →
    R first (outs ++ outs') third
  acts : ∀ client input, ¬Act.IsRequest input →
    R client (act client input).outputs (act client input).client
  subscribesAgain : ∀ client (i : Fin maxSubTopics) topicFilter env,
    (client.subHandles.get i).topicFilter = some topicFilter →
    R client (uiotMqttSubscribe client topicFilter (client.subHandles.get i).again env).outputs
      (uiotMqttSubscribe client topicFilter (client.subHandles.get i).again env).client

namespace Follows

variable {R : Client → List Output → Client → Prop} (follows : Follows R) (client : Client)

include follows

theorem waitForRead (packetType : MessageTypes) (readPacketType : Nat)
    (reads : List (PacketRead × Env)) :
    let waited := Mqtt.waitForRead packetType client readPacketType reads
    R client waited.outputs waited.client := by
  induction reads generalizing client readPacketType with
  | nil => exact follows.refl client
  | cons head reads ih =>
      obtain ⟨read, env⟩ := head
      have cycle := follows.acts client (.cycle read env) id
      simp only [Mqtt.waitForRead]
      split
      · exact follows.trans cycle (ih _ _)
      · exact cycle

theorem mqttConnect (options : ConnectParams) (world : ConnectEnv) :
    let connected := Mqtt.mqttConnect client options world
    R client connected.outputs connected.client := by
  intro connected
  have sent := follows.acts client (.sendConnect options world.netConnectRet world.env) id
  simp only [connected, Mqtt.mqttConnect]
  split
  · exact sent
  · have waited := follows.waitForRead
      (sendConnect client options world.netConnectRet world.env).client .connack 0 world.reads
    split
    · exact follows.trans sent waited
    · have accepted := follows.acts (Mqtt.waitForRead .connack
        (sendConnect client options world.netConnectRet world.env).client 0 world.reads).client
        (.acceptConnack world.env) id
      exact follows.trans (follows.trans sent waited) accepted

theorem uiotMqttConnect (params : ConnectParams) (world : ConnectEnv) :
    let connected := Mqtt.uiotMqttConnect client params world
    R client connected.outputs connected.client := by
  intro connected
  have made := follows.mqttConnect client params world
  simp only [connected, Mqtt.uiotMqttConnect]
  split
  · exact follows.refl client
  · split
    · exact follows.trans made
        (follows.acts (Mqtt.mqttConnect client params world).client .closeNetwork id)
    · exact made

theorem resubscribeLoop (envs : Nat → Env) (slots : List (Fin maxSubTopics)) :
    let resubscribed := Mqtt.resubscribeLoop envs client slots
    R client resubscribed.outputs resubscribed.client := by
  induction slots generalizing client with
  | nil => exact follows.refl client
  | cons itr slots ih =>
      simp only [Mqtt.resubscribeLoop]
      split
      · exact ih client
      · rename_i topic isTopic
        have subscribed := follows.subscribesAgain client itr topic (envs itr) isTopic
        split
        · exact subscribed
        · exact follows.trans subscribed (ih _)

theorem uiotMqttAttemptReconnect (world : ReconnectEnv) :
    let attempted := Mqtt.uiotMqttAttemptReconnect client world
    R client attempted.outputs attempted.client := by
  intro attempted
  have connected := follows.uiotMqttConnect client client.options world.connect
  have resubscribed : R (Mqtt.uiotMqttConnect client client.options world.connect).client
      (uiotMqttResubscribe (Mqtt.uiotMqttConnect client client.options world.connect).client
        world.subscribe).outputs
      (uiotMqttResubscribe (Mqtt.uiotMqttConnect client client.options world.connect).client
        world.subscribe).client := by
    unfold uiotMqttResubscribe
    split
    · exact follows.refl _
    · exact follows.resubscribeLoop _ world.subscribe _
  simp only [attempted, Mqtt.uiotMqttAttemptReconnect]
  split
  · exact follows.refl client
  · split
    · exact connected
    · split
      · exact follows.trans connected resubscribed
      · exact follows.trans connected resubscribed

theorem handleReconnect (world : ReconnectEnv) :
    let reconnected := Mqtt.handleReconnect client world
    R client reconnected.outputs reconnected.client := by
  intro reconnected
  have attempted := follows.uiotMqttAttemptReconnect client world
  simp only [reconnected, Mqtt.handleReconnect]
  split
  · exact follows.refl client
  · split
    · exact follows.trans attempted (follows.acts _ .raiseReconnect id)
    · exact follows.trans attempted (follows.acts _ (.backOff world.env) id)

theorem readPassWith (read : PacketRead) (world : PassEnv) :
    let pass := (Mqtt.readPassWith client read world).2
    R client pass.outputs pass.client := by
  intro pass
  have cycle := follows.acts client (.cycle read world.cycle) id
  have after : ∀ (client : Client) (ret : Int),
      R client (afterCycle client ret world).outputs (afterCycle client ret world).client := by
    intro client ret
    unfold afterCycle
    split
    · have swept := follows.acts client (.pubInfoProc world.pubInfoProc) id
      have sweptSub := follows.acts (uiotMqttPubInfoProc client world.pubInfoProc).client
        (.subInfoProc world.subInfoProc) id
      exact follows.trans (follows.trans swept sweptSub)
        (follows.acts _ (.keepAlive world.keepAlive) id)
    split
    · exact follows.acts client (.handleDisconnect world.disconnect) id
    split <;> exact follows.refl client
  have ends : ∀ (client : Client) (ret : Int),
      R client [] (endOfPass client ret world.env).2.2 := by
    intro client ret
    have counted := follows.acts client .countDisconnect id
    unfold endOfPass
    split
    · simp only
      split
      · exact follows.trans counted (follows.acts _ (.scheduleReconnect world.env) id)
      · exact counted
    · exact follows.refl client
  have ended := follows.trans
    (follows.trans cycle (after _ (cycleForReadWith client read world.cycle).ret))
    (ends _ (afterCycle (cycleForReadWith client read world.cycle).client
      (cycleForReadWith client read world.cycle).ret world).ret)
  rwa [List.append_nil] at ended

variable {σ : Type} (net : NetworkStack σ)

theorem yieldLoop (ret : Int) (s : σ) (worlds : List PassEnv) :
    let yielded := (Mqtt.yieldLoop net client ret s worlds).1
    R client yielded.outputs yielded.client := by
  induction worlds generalizing client ret s with
  | nil => exact follows.refl client
  | cons world worlds ih =>
      have pass : R client (yieldPass net client s world).2.1.outputs
          (yieldPass net client s world).2.1.client := by
        unfold yieldPass
        split
        · split
          · exact follows.refl client
          · exact follows.handleReconnect client world.reconnect
        · exact follows.readPassWith client _ world
      simp only [Mqtt.yieldLoop]
      split
      · exact follows.trans pass (ih _ _ _)
      · exact pass

theorem uiotMqttYield (timeoutMs : UInt32) (s : σ) (worlds : List PassEnv) :
    let yielded := (Mqtt.uiotMqttYield net client timeoutMs s worlds).1
    R client yielded.outputs yielded.client := by
  intro yielded
  simp only [yielded, Mqtt.uiotMqttYield]
  split
  · exact follows.refl client
  split
  · exact follows.refl client
  split
  · exact follows.refl client
  · exact follows.yieldLoop client net successRet s worlds

end Follows

/-! ## Outputs that are no delivery -/

/-- A message is handed to a callback. -/
def Output.isDelivery : Output → Bool
  | .delivered .. => true
  | _ => false

/-- No message is handed to a callback. -/
def DeliversNone (outputs : List Output) : Prop := ∀ output ∈ outputs, output.isDelivery = false

theorem DeliversNone.nil : DeliversNone [] := fun _ among => nomatch among

theorem DeliversNone.append {first second : List Output} (none : DeliversNone first)
    (none' : DeliversNone second) : DeliversNone (first ++ second) := fun output among =>
  (List.mem_append.mp among).elim (none output) (none' output)

theorem WireOnly.deliversNone {outputs : List Output} (wires : WireOnly outputs) :
    DeliversNone outputs := by
  intro output among
  obtain ⟨bytes, rfl⟩ := wires output among
  rfl

theorem deliversNone_one {output : Output} (isNone : output.isDelivery = false) :
    DeliversNone [output] := by
  intro other among
  rwa [List.mem_singleton.mp among]

section DeliversNone

variable (client : Client) (env : Env)

theorem deliversNone_raise (type : EventType) (packetId : UInt16) :
    DeliversNone (client.raise type packetId) := by
  unfold Client.raise
  split
  · exact deliversNone_one rfl
  · exact .nil

theorem deliversNone_uiotMqttDisconnect (send : Nat) :
    DeliversNone (uiotMqttDisconnect client env send).outputs := by
  unfold uiotMqttDisconnect
  split
  · exact .nil
  · simp only
    split
    · exact deliversNone_one rfl
    · exact (wireOnly_sendMqttPacket _ _ _).deliversNone.append (deliversNone_one rfl)

theorem deliversNone_handleDisconnect (send : Nat) :
    DeliversNone (handleDisconnect client env send).outputs := by
  have disconnects := deliversNone_uiotMqttDisconnect client env send
  unfold handleDisconnect
  split
  · exact .nil
  · simp only
    split
    · exact (disconnects.append (deliversNone_one rfl)).append (deliversNone_raise _ _ _)
    · exact disconnects.append (deliversNone_raise _ _ _)

theorem deliversNone_sendPing (length tries send : Nat) :
    DeliversNone (sendPing client length env tries send).2 := by
  induction tries generalizing send with
  | zero =>
      unfold sendPing
      simp only
      split <;> exact (wireOnly_sendMqttPacket _ _ _).deliversNone
  | succ tries ih =>
      unfold sendPing
      simp only
      split
      · exact (wireOnly_sendMqttPacket _ _ _).deliversNone
      · exact (wireOnly_sendMqttPacket _ _ _).deliversNone.append (ih _)

theorem deliversNone_mqttKeepAlive : DeliversNone (mqttKeepAlive client env).outputs := by
  unfold mqttKeepAlive
  simp only
  split
  · exact .nil
  split
  · exact .nil
  split
  · exact deliversNone_handleDisconnect client env 0
  split
  · exact .nil
  split
  · exact (deliversNone_sendPing _ _ _ _ _).append (deliversNone_handleDisconnect _ env 4)
  · exact deliversNone_sendPing _ _ _ _ _

theorem deliversNone_sendConnect (options : ConnectParams) (netConnectRet : Int) :
    DeliversNone (sendConnect client options netConnectRet env).outputs := by
  unfold sendConnect
  simp only
  split
  · exact .nil
  split
  · exact deliversNone_one rfl
  · exact (deliversNone_one rfl).append (wireOnly_sendMqttPacket _ _ _).deliversNone

theorem deliversNone_acceptConnack : DeliversNone (acceptConnack client env).outputs := by
  unfold acceptConnack
  split
  · exact .nil
  · split <;> exact .nil

theorem deliversNone_backOff : DeliversNone (backOff client env).outputs := by
  unfold backOff
  simp only
  split <;> exact .nil

theorem deliversNone_sendAnswer (packet : Except Int (List UInt8)) :
    DeliversNone (sendAnswer client packet env).outputs := by
  cases packet with
  | error ret => exact .nil
  | ok packet => exact (wireOnly_sendMqttPacket _ _ _).deliversNone

end DeliversNone

/-! ## What a packet delivers -/

/-- A name is delivered to a slot that holds the filter: where it ends within its
buffer, the test of the slot lets it pass. -/
def Passes (topicFilter : CString) (name : List UInt8) : Prop :=
  0 ∉ name → name.length < maxSizeOfCloudTopic →
    ∃ after before, topicPasses topicFilter (name ++ 0 :: after) name.length before = true

/-- A slot that a message is handed to. -/
structure HandedTo (slot : SubTopicHandle) (handler data : Nat) (message : Message) : Prop where
  handler : slot.messageHandler = some handler
  data : slot.messageHandlerData = data
  passes : ∃ topicFilter, slot.topicFilter = some topicFilter ∧ Passes topicFilter message.topic

theorem passes_copy {topicFilter : CString} {topic stack : List UInt8} {before : UInt8}
    (taken : topicPasses topicFilter (fixTopic topic ++ stack) (fixTopicLen topic) before = true) :
    Passes topicFilter ((fixTopic topic ++ stack).take (fixTopicLen topic)) := by
  intro _ short
  rcases Nat.lt_trichotomy topic.length maxSizeOfCloudTopic with isShort | full | long
  · obtain ⟨len, copy⟩ := fixTopic_of_short isShort
    rw [copy, len, List.append_assoc] at taken
    rw [copy, len, List.append_assoc, List.take_left]
    exact ⟨_, before, taken⟩
  · obtain ⟨len, copy⟩ := fixTopic_of_full full
    rw [copy, len, List.take_left, full] at short
    exact absurd short (Nat.lt_irrefl _)
  · obtain ⟨len, copy⟩ := fixTopic_of_long long
    have cut : (topic.take (maxSizeOfCloudTopic - 1)).length = maxSizeOfCloudTopic - 1 := by
      rw [List.length_take]
      omega
    rw [copy, len, List.append_assoc] at taken
    rw [copy, len, List.append_assoc, List.take_left' cut, cut]
    exact ⟨_, before, taken⟩

theorem handedTo_of_deliverMessage {client : Client} {topic stack : List UInt8} {msg : Message}
    {before : UInt8} {i handler data : Nat} {message : Message}
    (among : Output.delivered i handler data message ∈
      (deliverMessage client (fixTopic topic ++ stack) (fixTopicLen topic) msg before).outputs) :
    ∃ j : Fin maxSubTopics, HandedTo (client.subHandles.get j) handler data message := by
  simp only [deliverMessage] at among
  split at among
  · rename_i j found
    rw [List.mem_singleton, Output.delivered.injEq] at among
    obtain ⟨-, isHandler, isData, isMessage⟩ := among
    obtain ⟨inside, taken, -⟩ := List.findIdx?_eq_some_iff_getElem.mp found
    have bound : j < maxSubTopics := by simpa using inside
    have isSlot : client.subHandles.toList.getD j SubTopicHandle.zero =
        client.subHandles.get ⟨j, bound⟩ := by
      rw [List.getD_eq_getElem?_getD, List.getElem?_eq_getElem inside, Option.getD_some,
        Vector.getElem_toList]
      rfl
    rw [isSlot] at isHandler isData
    have takesIt : takes (fixTopic topic ++ stack) (fixTopicLen topic) before
        (client.subHandles.get ⟨j, bound⟩) = true := by
      rw [Vector.getElem_toList] at taken
      exact taken
    refine ⟨⟨j, bound⟩, ?_⟩
    cases holds : (client.subHandles.get ⟨j, bound⟩).topicFilter with
    | none =>
        rw [takes, holds] at takesIt
        cases takesIt
    | some topicFilter =>
        rw [takes, holds, Bool.and_eq_true] at takesIt
        obtain ⟨named, isNamed⟩ := Option.isSome_iff_exists.mp takesIt.2
        rw [isNamed] at isHandler
        refine ⟨?_, isData.symm, topicFilter, holds, ?_⟩
        · rw [isNamed, isHandler, Option.getD_some]
        · rw [isMessage]
          exact passes_copy takesIt.1
  · split at among
    · simp at among
    · cases among

/-- What a packet delivers is handed to a slot. -/
theorem cycle_delivered {client : Client} {read : PacketRead} {env : Env} {i handler data : Nat}
    {message : Message} (among : Output.delivered i handler data message ∈
      (cycleForReadWith client read env).outputs) :
    ∃ j : Fin maxSubTopics, HandedTo (client.subHandles.get j) handler data message := by
  have none : ∀ {outputs : List Output}, DeliversNone outputs →
      Output.delivered i handler data message ∉ outputs := by
    intro outputs delivers here
    cases delivers _ here
  by_cases success : read.ret = successRet
  · cases isType : MessageTypes.ofHeader (read.packetType.getD 0) with
    | none =>
        have somethingRead : successRet ≠ errMqttNothingToRead := by decide
        simp only [cycleForReadWith, success, isType, if_neg somethingRead, ne_eq, not_true_eq_false,
          if_false] at among
        cases among
    | some packetType =>
        rw [cycleForReadWith_of_type env success isType] at among
        cases packetType with
        | publish =>
            simp only [dispatch] at among
            let reading : Client := { client with readBuf := read.readBuf }
            cases parsed : deserializePublishPacket reading.readBuf reading.readBufSize with
            | error ret =>
                rw [handlePublishPacket, parsed] at among
                cases among
            | ok msg =>
                exact @handedTo_of_deliverMessage reading _ _ _ _ _ _ _ _
                  ((delivered_mem_handlePublishPacket_iff parsed).mp among)
        | pubrec =>
            simp only [dispatch] at among
            unfold handlePubrecPacket at among
            split at among
            · cases among
            · exact absurd among (none (deliversNone_sendAnswer _ _ _))
        | puback =>
            simp only [dispatch] at among
            unfold handlePubackPacket at among
            split at among
            · cases among
            · exact absurd among (none (deliversNone_raise _ _ _))
        | suback =>
            simp only [dispatch] at among
            unfold handleSubackPacket at among
            split at among
            · cases among
            · simp only at among
              split at among
              · cases among
              split at among
              · exact absurd among (none (deliversNone_raise _ _ _))
              split at among
              · cases among
              · exact absurd among (none (deliversNone_raise _ _ _))
        | unsuback =>
            simp only [dispatch] at among
            unfold handleUnsubackPacket at among
            split at among
            · cases among
            · exact absurd among (none (deliversNone_raise _ _ _))
        | _ => cases among
  · rw [(cycleForReadWith_of_failed env success).2] at among
    cases among

/-! ## Where handles come from -/

/-- The subscriptions that have been made: a filter, a callback and its data. -/
abbrev Requested := CString → Nat → Nat → Prop

/-- A handle with a callback is that of a subscription. -/
def SubTopicHandle.From (requested : Requested) (handle : SubTopicHandle) : Prop :=
  ∀ topicFilter handler, handle.topicFilter = some topicFilter →
    handle.messageHandler = some handler → requested topicFilter handler handle.messageHandlerData

/-- The handles of the slots and of the entries. -/
structure Client.From (requested : Requested) (client : Client) : Prop where
  valid : client.waiting.Valid
  slots : ∀ i : Fin maxSubTopics, (client.subHandles.get i).From requested
  entries : ∀ entry ∈ client.listSubWaitAck, entry.handler.From requested

/-- A delivery is one to a callback that was subscribed for it. -/
def Output.From (requested : Requested) : Output → Prop
  | .delivered _ handler data message =>
      ∃ topicFilter, requested topicFilter handler data ∧ Passes topicFilter message.topic
  | _ => True

theorem from_of_deliversNone {requested : Requested} {outputs : List Output} (none : DeliversNone outputs) :
    ∀ output ∈ outputs, output.From requested := by
  intro output among
  cases output with
  | delivered slot handler data message => cases none _ among
  | _ => trivial

/-- What is kept along outputs. -/
def KeepsFrom (requested : Requested) (client : Client) (outputs : List Output) (after : Client) : Prop :=
  client.From requested → after.From requested ∧ ∀ output ∈ outputs, output.From requested

section Keeps

variable {requested : Requested} {client : Client}

theorem Client.From.of_eq {after : Client} (from_ : client.From requested)
    (valid : after.waiting.Valid) (slots : after.subHandles = client.subHandles)
    (entries : after.listSubWaitAck = client.listSubWaitAck) : after.From requested where
  valid := valid
  slots i := by
    rw [slots]
    exact from_.slots i
  entries := entries ▸ from_.entries

theorem Client.From.enter {after : Client} (from_ : client.From requested)
    (valid : after.waiting.Valid) (slots : after.subHandles = client.subHandles) {entry : SubInfo}
    (entries : after.listSubWaitAck = client.listSubWaitAck ++ [entry])
    (isFrom : entry.handler.From requested) : after.From requested where
  valid := valid
  slots i := by
    rw [slots]
    exact from_.slots i
  entries other among := by
    rw [entries] at among
    rcases List.mem_append.mp among with was | isNew
    · exact from_.entries other was
    · rw [List.mem_singleton.mp isNew]
      exact isFrom

theorem Client.From.validAfter (from_ : client.From requested) (input : Act) :
    (act client input).client.waiting.Valid :=
  (step_moves input from_.valid.numbered).valid from_.valid

theorem publish_keepsFrom (topicName : CString) (params : PublishParams) (env : Env) :
    KeepsFrom requested client (uiotMqttPublish client topicName params env).outputs
      (uiotMqttPublish client topicName params env).client := by
  intro from_
  have valid := from_.validAfter (.publish topicName params env)
  obtain ⟨wires, outcome⟩ := uiotMqttPublish_outcome topicName params env from_.valid.numbered.pub
  refine ⟨?_, from_of_deliversNone wires.deliversNone⟩
  cases outcome with
  | untouched buf same => exact from_.of_eq valid (by rw [same]) (by rw [same])
  | failed buf took => exact from_.of_eq valid (by rw [took]; rfl) (by rw [took]; rfl)
  | accepted id after =>
      obtain ⟨-, buf, timer, same⟩ := after
      exact from_.of_eq valid (by rw [same]; rfl) (by rw [same]; rfl)

/-- A subscription that was made is entered. -/
theorem subscribe_keepsFrom (topicFilter : CString) (params : SubscribeParams) (env : Env)
    (granted : ∀ handler, params.onMessageHandler = some handler →
      requested topicFilter handler params.userData) :
    KeepsFrom requested client (uiotMqttSubscribe client topicFilter params env).outputs
      (uiotMqttSubscribe client topicFilter params env).client := by
  intro from_
  have valid := from_.validAfter (.subscribe topicFilter params env)
  obtain ⟨wires, outcome⟩ := uiotMqttSubscribe_outcome topicFilter params env
    from_.valid.numbered.sub
  refine ⟨?_, from_of_deliversNone wires.deliversNone⟩
  cases outcome with
  | untouched buf same => exact from_.of_eq valid (by rw [same]) (by rw [same])
  | failed buf took => exact from_.of_eq valid (by rw [took]; rfl) (by rw [took]; rfl)
  | accepted id after =>
      obtain ⟨-, buf, timer, same⟩ := after
      refine from_.enter valid (by rw [same]; rfl) (by rw [same]) ?_
      rintro filter handler ⟨⟩ isHandler
      exact granted handler isHandler

/-- The entry of an unsubscription has no callback. -/
theorem unsubscribe_keepsFrom (topicFilter : CString) (env : Env) :
    KeepsFrom requested client (uiotMqttUnsubscribe client topicFilter env).outputs
      (uiotMqttUnsubscribe client topicFilter env).client := by
  intro from_
  have valid := from_.validAfter (.unsubscribe topicFilter env)
  obtain ⟨wires, outcome⟩ := uiotMqttUnsubscribe_outcome topicFilter env from_.valid.numbered.sub
  refine ⟨?_, from_of_deliversNone wires.deliversNone⟩
  have cleared : (clearSlots client topicFilter).From requested := by
    refine ⟨from_.valid, fun i => ?_, from_.entries⟩
    intro filter handler isFilter isHandler
    simp only [clearSlots, get_eq_getElem, Vector.getElem_map] at isFilter isHandler ⊢
    split at isFilter
    · cases isFilter
    · rename_i keeps
      rw [if_neg keeps] at isHandler ⊢
      exact from_.slots i filter handler isFilter isHandler
  rcases outcome with same | outcome
  · rw [same]
    exact from_
  · cases outcome with
    | untouched buf same => exact cleared.of_eq valid (by rw [same]) (by rw [same])
    | failed buf took => exact cleared.of_eq valid (by rw [took]; rfl) (by rw [took]; rfl)
    | accepted id after =>
        obtain ⟨-, buf, timer, same⟩ := after
        refine cleared.enter valid (by rw [same]; rfl) (by rw [same]; rfl) ?_
        rintro filter handler ⟨⟩ isHandler
        cases isHandler

/-- A packet moves handles from entries to slots. -/
theorem cycle_keepsFrom (read : PacketRead) (env : Env) :
    KeepsFrom requested client (cycleForReadWith client read env).outputs
      (cycleForReadWith client read env).client := by
  intro from_
  refine ⟨⟨from_.validAfter (.cycle read env), fun i => ?_, fun entry among => ?_⟩, ?_⟩
  · rcases cycle_slots read env i with same | ⟨entry, among, same⟩
    · rw [same]
      exact from_.slots i
    · rw [same]
      exact from_.entries entry among
  · obtain ⟨old, was, -, same⟩ := cycle_entries read env entry among
    rw [← same]
    exact from_.entries old was
  · intro output among
    cases output with
    | delivered slot handler data message =>
        obtain ⟨j, handed⟩ := cycle_delivered among
        obtain ⟨topicFilter, isFilter, passes⟩ := handed.passes
        have granted := from_.slots j topicFilter handler isFilter handed.handler
        rw [handed.data] at granted
        exact ⟨topicFilter, granted, passes⟩
    | _ => trivial

theorem sweep_deliversNone {α : Type} {nodeState : α → NodeState} {report : α → List Output}
    {entries kept timedOut : List α} {outputs : List Output}
    (swept : Swept nodeState report entries kept outputs timedOut)
    (quiet : ∀ entry, DeliversNone (report entry)) : DeliversNone outputs := by
  intro output among
  rw [swept.outputs] at among
  obtain ⟨entry, -, here⟩ := List.mem_flatMap.mp among
  exact quiet entry output here

/-- An act that is no request. -/
theorem act_keepsFrom (input : Act) (notRequest : ¬input.IsRequest) :
    KeepsFrom requested client (act client input).outputs (act client input).client := by
  intro from_
  have valid := from_.validAfter input
  have ofStanding : (act client input).client.standing = client.standing →
      (act client input).client.From requested := fun same =>
    from_.of_eq valid (subHandles_of_standing same) (congrArg Waiting.sub (waiting_of_standing same))
  cases input with
  | publish | subscribe | unsubscribe => exact absurd trivial notRequest
  | cycle read env => exact cycle_keepsFrom read env from_
  | pubInfoProc env =>
      simp only [act] at valid ⊢
      rcases uiotMqttPubInfoProc_swept client env with same | ⟨kept, outputs, timedOut, same, swept⟩
      · rw [same]
        exact ⟨from_, from_of_deliversNone .nil⟩
      · rw [same] at valid ⊢
        exact ⟨from_.of_eq valid rfl rfl,
          from_of_deliversNone (sweep_deliversNone swept fun _ => deliversNone_raise _ _ _)⟩
  | subInfoProc env =>
      simp only [act] at valid ⊢
      rcases uiotMqttSubInfoProc_swept client env with same | ⟨kept, outputs, timedOut, same, swept⟩
      · rw [same]
        exact ⟨from_, from_of_deliversNone .nil⟩
      · rw [same] at valid ⊢
        refine ⟨⟨valid, from_.slots, fun entry among =>
          from_.entries entry (swept.keptSublist.subset among)⟩,
          from_of_deliversNone (sweep_deliversNone swept fun entry => ?_)⟩
        unfold reportSub
        split <;> exact deliversNone_raise _ _ _
  | keepAlive env =>
      exact ⟨ofStanding (step_standing client _ trivial),
        from_of_deliversNone (deliversNone_mqttKeepAlive client env)⟩
  | disconnect env =>
      exact ⟨ofStanding (step_standing client _ trivial),
        from_of_deliversNone (deliversNone_uiotMqttDisconnect client env 0)⟩
  | handleDisconnect env =>
      exact ⟨ofStanding (step_standing client _ trivial),
        from_of_deliversNone (deliversNone_handleDisconnect client env 0)⟩
  | sendConnect options netConnectRet env =>
      exact ⟨ofStanding (step_standing client _ trivial),
        from_of_deliversNone (deliversNone_sendConnect client env options netConnectRet)⟩
  | acceptConnack env =>
      exact ⟨ofStanding (step_standing client _ trivial),
        from_of_deliversNone (deliversNone_acceptConnack client env)⟩
  | backOff env =>
      exact ⟨ofStanding (step_standing client _ trivial),
        from_of_deliversNone (deliversNone_backOff client env)⟩
  | raiseReconnect =>
      exact ⟨ofStanding (step_standing client .raiseReconnect trivial),
        from_of_deliversNone (deliversNone_raise client _ _)⟩
  | closeNetwork =>
      exact ⟨ofStanding (step_standing client .closeNetwork trivial),
        from_of_deliversNone (deliversNone_one rfl)⟩
  | countDisconnect =>
      exact ⟨ofStanding (step_standing client .countDisconnect trivial), from_of_deliversNone .nil⟩
  | scheduleReconnect env =>
      exact ⟨ofStanding (step_standing client (.scheduleReconnect env) trivial),
        from_of_deliversNone .nil⟩

theorem follows_keepsFrom (requested : Requested) : Follows (KeepsFrom requested) where
  refl client := fun from_ => ⟨from_, from_of_deliversNone .nil⟩
  trans := by
    intro first second third outs outs' start rest from_
    obtain ⟨middle, early⟩ := start from_
    obtain ⟨last, late⟩ := rest middle
    exact ⟨last, fun output among => (List.mem_append.mp among).elim (early output) (late output)⟩
  acts client input notRequest := act_keepsFrom input notRequest
  subscribesAgain client i topicFilter env isFilter := by
    intro from_
    have granted := fun handler => from_.slots i topicFilter handler isFilter
    exact subscribe_keepsFrom topicFilter _ env granted from_

end Keeps

/-! ## The application -/

section Runs

variable {σ : Type} (net : NetworkStack σ)

/-- The subscriptions that are among the calls. -/
def made (calls : List (ApiCall σ)) : Requested := fun topicFilter handler data =>
  ∃ params env, ApiCall.subscribe topicFilter params env ∈ calls ∧
    params.onMessageHandler = some handler ∧ params.userData = data

/-- What a call makes of the subscriptions, and what it delivers for them. -/
theorem apiCall_keepsFrom {requested : Requested} (client : Client) (s : σ) (call : ApiCall σ)
    (granted : ∀ topicFilter params env, call = .subscribe topicFilter params env →
      ∀ handler, params.onMessageHandler = some handler → requested topicFilter handler params.userData) :
    KeepsFrom requested client (apiCall net client s call).1.outputs
      (apiCall net client s call).1.client := by
  cases call with
  | publish topicName params env => exact publish_keepsFrom topicName params env
  | subscribe topicFilter params env =>
      exact subscribe_keepsFrom topicFilter params env (granted topicFilter params env rfl)
  | unsubscribe topicFilter env => exact unsubscribe_keepsFrom topicFilter env
  | yield timeoutMs worlds =>
      exact (follows_keepsFrom requested).uiotMqttYield client net timeoutMs s worlds
  | disconnect env => exact act_keepsFrom (.disconnect env) id
  | setAutoreconnect value =>
      exact fun from_ => ⟨from_.of_eq from_.valid rfl rfl, from_of_deliversNone .nil⟩
  | network s' => exact (follows_keepsFrom requested).refl client

theorem run_from (calls : List (ApiCall σ)) (state : Client × σ) {requested : Requested}
    (granted : ∀ topicFilter handler data, made calls topicFilter handler data →
      requested topicFilter handler data) (from_ : state.1.From requested) :
    (Runs.run (apiStep net) state calls).1.1.From requested ∧
      ∀ output ∈ (Runs.run (apiStep net) state calls).2.flatten, output.From requested := by
  induction calls generalizing state with
  | nil => exact ⟨from_, from_of_deliversNone .nil⟩
  | cons call calls ih =>
      obtain ⟨middle, early⟩ := apiCall_keepsFrom net state.1 state.2 call (by
        rintro topicFilter params env rfl handler isHandler
        exact granted _ _ _ ⟨params, env, List.mem_cons_self, isHandler, rfl⟩) from_
      have later := ih (apiStep net state call).1 (by
        rintro topicFilter handler data ⟨params, env, among, rest⟩
        exact granted _ _ _ ⟨params, env, List.mem_cons_of_mem _ among, rest⟩) middle
      rw [Runs.run_cons_fst, Runs.run_cons_snd, List.flatten_cons]
      exact ⟨later.1, fun output among =>
        (List.mem_append.mp among).elim (early output) (later.2 output)⟩

/-- A fresh client has no handles. -/
theorem uiotMqttInit_from (params : InitParams) (requested : Requested) :
    (uiotMqttInit params).From requested where
  valid := uiotMqttInit_valid params
  slots i := by
    intro topicFilter handler holds
    simp [uiotMqttInit, SubTopicHandle.zero] at holds
  entries entry among := by cases among

/-- What `IOT_MQTT_Construct` delivers is for nobody. -/
theorem iotMqttConstruct_from (params : MqttInitParams) (malloc : Nat → Bool) (world : ConnectEnv)
    (requested : Requested) :
    (∀ output ∈ (iotMqttConstruct params malloc world).2, output.From requested) ∧
      ∀ client ∈ (iotMqttConstruct params malloc world).1, client.From requested := by
  have refused : ∀ client : Client, client ∈ (none : Option Client) → client.From requested :=
    fun client wrong => by cases wrong
  have nothing := @from_of_deliversNone requested [] .nil
  unfold iotMqttConstruct
  split
  · split
    · exact ⟨nothing, refused⟩
    split
    · exact ⟨nothing, refused⟩
    split
    · exact ⟨nothing, refused⟩
    · obtain ⟨connected, outputs⟩ := (follows_keepsFrom requested).uiotMqttConnect
        (uiotMqttInit ⟨params.commandTimeout, params.eventHandler⟩) (connectParams params _ _) world
        (uiotMqttInit_from _ requested)
      simp only
      split
      · exact ⟨outputs, refused⟩
      · exact ⟨outputs, fun client isClient => by cases isClient; exact connected⟩
  · exact ⟨nothing, refused⟩

/-- In every run of calls on a client that was constructed, with whatever the
network does: what a call hands to a callback goes to one that the application
named in a subscription before that call, with the data of that subscription, and
the topic is on its filter, but for the pairs that the test misjudges. -/
theorem deliveries_subscribed (params : MqttInitParams) (malloc : Nat → Bool) (world : ConnectEnv)
    (s : σ) (before : List (ApiCall σ)) (call : ApiCall σ) {client : Client}
    (constructed : (iotMqttConstruct params malloc world).1 = some client)
    {slot handler data : Nat} {message : Message}
    (delivered : Output.delivered slot handler data message ∈
      (apiStep net (Runs.run (apiStep net) (client, s) before).1 call).2)
    (noNul : 0 ∉ message.topic) (short : message.topic.length < maxSizeOfCloudTopic) :
    ∃ topicFilter subParams env, ApiCall.subscribe topicFilter subParams env ∈ before ∧
      subParams.onMessageHandler = some handler ∧ subParams.userData = data ∧
      (IsTopic topicFilter → message.topic = topicFilter) ∧
      (WellFormedFilter topicFilter → TopicMatches topicFilter message.topic ∨
        ∃ byte, Misjudged byte topicFilter message.topic) := by
  have start := (iotMqttConstruct_from params malloc world (made before)).2 client constructed
  obtain ⟨reached, -⟩ := run_from net before (client, s) (fun _ _ _ => id) start
  have source : (Output.delivered slot handler data message).From (made before) := by
    by_cases isSubscribe : ∃ topicFilter subParams env, call = .subscribe topicFilter subParams env
    · obtain ⟨topicFilter, subParams, env, rfl⟩ := isSubscribe
      have wires := (uiotMqttSubscribe_outcome topicFilter subParams env reached.valid.numbered.sub).1
      exact from_of_deliversNone wires.deliversNone _ delivered
    · have granted : ∀ topicFilter subParams env, call = .subscribe topicFilter subParams env →
          ∀ handler, subParams.onMessageHandler = some handler →
            made before topicFilter handler subParams.userData :=
        fun topicFilter subParams env same => absurd ⟨topicFilter, subParams, env, same⟩ isSubscribe
      exact (apiCall_keepsFrom net _ _ call granted reached).2 _ delivered
  obtain ⟨topicFilter, ⟨subParams, env, among, isHandler, isData⟩, passes⟩ := source
  obtain ⟨after, byte, passed⟩ := passes noNul short
  refine ⟨topicFilter, subParams, env, among, isHandler, isData, fun isTopic => ?_, fun wellFormed => ?_⟩
  · exact ((topicPasses_topic_iff isTopic noNul byte).mp passed).symm
  · by_cases misjudged : Misjudged byte topicFilter message.topic
    · exact .inr ⟨byte, misjudged⟩
    · exact .inl (((topicPasses_iff wellFormed noNul after byte).mpr misjudged).mp passed)

/-- A subscription of `t`. -/
def subscribeT : ApiCall (List UInt8) := .subscribe (literal "t") ⟨.qos0, some 7, 9⟩ (calm 8)

theorem namedDevice_constructed :
    (iotMqttConstruct namedDevice (fun _ => true) welcoming).1.isSome := by decide +kernel

/-- The SUBACK for it and a message on `t` arrive. -/
theorem deliveries_subscribed_one :
    ∃ client, (iotMqttConstruct namedDevice (fun _ => true) welcoming).1 = some client ∧
      Output.delivered 0 7 9 ⟨0, 0, 0, none, literal "t", literal "x"⟩ ∈
        (apiStep listNetwork (Runs.run (apiStep listNetwork)
          (client, [0x90, 3, 0, 2, 0, 0x30, 4, 0, 1, 0x74, 0x78]) [subscribeT]).1
          (.yield 100 [quietPass, quietPass])).2 ∧
      ∃ topicFilter subParams env, ApiCall.subscribe topicFilter subParams env ∈ [subscribeT] ∧
        subParams.onMessageHandler = some 7 ∧ subParams.userData = 9 ∧
        (IsTopic topicFilter → literal "t" = topicFilter) ∧
        (WellFormedFilter topicFilter → TopicMatches topicFilter (literal "t") ∨
          ∃ byte, Misjudged byte topicFilter (literal "t")) := by
  have constructed := (Option.some_get namedDevice_constructed).symm
  have delivered : Output.delivered 0 7 9 ⟨0, 0, 0, none, literal "t", literal "x"⟩ ∈
      (apiStep listNetwork (Runs.run (apiStep listNetwork)
        ((iotMqttConstruct namedDevice (fun _ => true) welcoming).1.get namedDevice_constructed,
          [0x90, 3, 0, 2, 0, 0x30, 4, 0, 1, 0x74, 0x78]) [subscribeT]).1
        (.yield 100 [quietPass, quietPass])).2 := by decide +kernel
  exact ⟨_, constructed, delivered, deliveries_subscribed listNetwork namedDevice (fun _ => true)
    welcoming _ [subscribeT] _ constructed delivered (by decide) (by decide)⟩

end Runs

end UIoT.Mqtt
