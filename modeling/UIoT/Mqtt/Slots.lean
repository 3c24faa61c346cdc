import UIoT.Mqtt.AckEvents

/-!
# The subscription table

A slot gets its filter from a request that was accepted, so every filter in the
table is one that the requests accept (`Steps.sound`). Packets that come in leave
the connection as it is (`cycle_connection`).
-/

set_option autoImplicit false

namespace UIoT.Mqtt

open Tickets Runs

/-! ## The connection -/

/-- The connection of a client and the sizes of its buffers. -/
structure Connection where
  isConnected : Bool
  writeBufSize : Nat
  readBufSize : Nat

deriving instance DecidableEq for Connection

def Client.connection (client : Client) : Connection :=
  ⟨client.isConnected, client.writeBufSize, client.readBufSize⟩

section Connection

variable {client : Client} (env : Env)

theorem connection_maskSubInfoFrom (packetId : UInt16) (alloc : Nat) :
    (maskSubInfoFrom client packetId env alloc).2.connection = client.connection := by
  rw [maskSubInfoFrom]
  split <;> rfl

theorem connection_handlePubackPacket :
    (handlePubackPacket client env).client.connection = client.connection := by
  rw [handlePubackPacket]
  split
  · rfl
  · simp only [maskPubInfoFrom]
    split <;> rfl

theorem connection_handleSubackPacket :
    (handleSubackPacket client env).client.connection = client.connection := by
  rw [handleSubackPacket]
  split
  · rfl
  · rename_i packetId grantedQoS _
    have masked := @connection_maskSubInfoFrom client env packetId 0
    simp only
    split
    · exact masked
    split
    · exact masked
    split
    · exact masked
    · exact masked

theorem connection_handleUnsubackPacket :
    (handleUnsubackPacket client env).client.connection = client.connection := by
  rw [handleUnsubackPacket]
  split
  · rfl
  · exact connection_maskSubInfoFrom env _ 0

theorem connection_sendAnswer (packet : Except Int (List UInt8)) :
    (sendAnswer client packet env).client.connection = client.connection := by
  cases packet <;> rfl

theorem connection_handlePublishPacket :
    (handlePublishPacket client env).client.connection = client.connection := by
  rw [handlePublishPacket]
  split
  · rfl
  · simp only
    split
    · rw [deliverMessage_client]
    · rw [connection_sendAnswer, deliverMessage_client]

theorem connection_handlePubrecPacket :
    (handlePubrecPacket client env).client.connection = client.connection := by
  rw [handlePubrecPacket]
  split
  · rfl
  · rw [connection_sendAnswer]

theorem connection_notePing (packetType : MessageTypes) :
    (notePing client packetType env).connection = client.connection := by
  cases packetType <;> rfl

theorem dispatch_connection {packetType : MessageTypes} {handled : Result}
    (dispatched : dispatch client packetType env = some handled) :
    handled.client.connection = client.connection := by
  cases packetType <;> simp only [dispatch, Option.some.injEq, reduceCtorEq] at dispatched
  case puback => exact dispatched ▸ connection_handlePubackPacket env
  case suback => exact dispatched ▸ connection_handleSubackPacket env
  case unsuback => exact dispatched ▸ connection_handleUnsubackPacket env
  case publish => exact dispatched ▸ connection_handlePublishPacket env
  case pubrec => exact dispatched ▸ connection_handlePubrecPacket env
  all_goals exact dispatched ▸ rfl

/-- A packet that comes in leaves the connection as it is. -/
theorem cycle_connection (client : Client) (read : PacketRead) :
    (cycleForReadWith client read env).client.connection = client.connection := by
  rw [cycleForReadWith]
  split
  · rfl
  split
  · rfl
  split
  · rfl
  split
  · rfl
  · rename_i handled dispatched
    have handles := dispatch_connection env dispatched
    exact (connection_notePing env _).trans handles

end Connection

/-! ## Filters -/

/-- A slot, or the handle of an entry, holds no filter that the requests refuse. -/
def SubTopicHandle.Storable (handle : SubTopicHandle) : Prop :=
  ∀ topicFilter, handle.topicFilter = some topicFilter → FilterLength topicFilter

/-- The filters of slots and entries, and the size of the send buffer. -/
structure Client.Sound (client : Client) : Prop where
  slots : ∀ i : Fin maxSubTopics, (client.subHandles.get i).Storable
  entries : ∀ entry ∈ client.listSubWaitAck, entry.handler.Storable
  writeBufSize : client.writeBufSize = uiotMqttTxBufLen

theorem addSubHandle_cases {subHandles slots : Vector SubTopicHandle maxSubTopics}
    {subHandle : SubTopicHandle} (added : addSubHandle subHandles subHandle = some slots) :
    ∀ i : Fin maxSubTopics, slots.get i = subHandles.get i ∨ slots.get i = subHandle := by
  intro i
  unfold addSubHandle at added
  simp only at added
  split at added
  · obtain rfl := Option.some.inj added
    exact .inl rfl
  · split at added
    · cases added
    · rename_i iFree _
      obtain rfl := Option.some.inj added
      by_cases same : iFree = i.val
      · right
        simp [same]
      · left
        exact Vector.getElem_setIfInBounds_ne i.isLt same

section Step

variable {client : Client}

theorem maskSubInfoFrom_handle {packetId : UInt16} {env : Env} {alloc : Nat}
    {handle : SubTopicHandle} (found : (maskSubInfoFrom client packetId env alloc).1 = some handle) :
    ∃ entry ∈ client.listSubWaitAck, entry.handler = handle := by
  rw [maskSubInfoFrom] at found
  split at found
  · obtain ⟨entry, isEntry, rfl⟩ := Option.map_eq_some_iff.mp found
    exact ⟨entry, List.mem_of_find?_eq_some isEntry, rfl⟩
  · cases found

/-- A slot after a packet is as it was, or holds the handle of an entry. -/
theorem cycle_slots (read : PacketRead) (env : Env) (i : Fin maxSubTopics) :
    (cycleForReadWith client read env).client.subHandles.get i = client.subHandles.get i ∨
      ∃ entry ∈ client.listSubWaitAck,
        (cycleForReadWith client read env).client.subHandles.get i = entry.handler := by
  cases ack : ackIn client.readBufSize read with
  | none => exact .inl (by rw [(cycle_of_ackIn_none env ack).subHandles])
  | some found =>
      obtain ⟨type, packetId⟩ := found
      rcases ackIn_type ack with rfl | rfl | rfl
      · exact .inl (by rw [(cycle_of_puback env ack).2.1])
      · obtain ⟨-, -, same | ⟨handle, found, added⟩, -⟩ := cycle_of_suback env ack
        · exact .inl (by rw [same])
        · refine (addSubHandle_cases added i).imp id fun isHandle => ?_
          obtain ⟨entry, among, rfl⟩ := maskSubInfoFrom_handle found
          exact ⟨entry, among, isHandle⟩
      · exact .inl (by rw [(cycle_of_unsuback env ack).2.1])

/-- The entries after a packet were there before, with the handles they have. -/
theorem cycle_entries (read : PacketRead) (env : Env) :
    ∀ entry ∈ (cycleForReadWith client read env).client.listSubWaitAck,
      ∃ old ∈ client.listSubWaitAck, old.issue = entry.issue ∧ old.handler = entry.handler := by
  have stays : ∀ {sub : List SubInfo}, sub = client.listSubWaitAck →
      ∀ entry ∈ sub, ∃ old ∈ client.listSubWaitAck,
        old.issue = entry.issue ∧ old.handler = entry.handler := by
    rintro _ rfl entry among
    exact ⟨entry, among, rfl, rfl⟩
  have marked : ∀ packetId {sub : List SubInfo},
      sub = (maskSubInfoFrom client packetId env 0).2.listSubWaitAck →
      ∀ entry ∈ sub, ∃ old ∈ client.listSubWaitAck,
        old.issue = entry.issue ∧ old.handler = entry.handler := by
    rintro packetId _ rfl
    rw [maskSubInfoFrom]
    split
    · intro entry among
      obtain ⟨old, was, rfl⟩ := List.mem_map.mp among
      refine ⟨old, was, ?_⟩
      rw [SubInfo.mask]
      split <;> exact ⟨rfl, rfl⟩
    · exact stays rfl
  cases ack : ackIn client.readBufSize read with
  | none => exact stays (congrArg Waiting.sub (cycle_of_ackIn_none env ack).waiting)
  | some found =>
      obtain ⟨type, packetId⟩ := found
      rcases ackIn_type ack with rfl | rfl | rfl
      · refine stays ((congrArg Waiting.sub (cycle_of_puback env ack).1).trans ?_)
        rw [maskPubInfoFrom]
        split <;> rfl
      · exact marked packetId (congrArg Waiting.sub (cycle_of_suback env ack).1)
      · exact marked packetId (congrArg Waiting.sub (cycle_of_unsuback env ack).1)

theorem cycle_sound (read : PacketRead) (env : Env) (sound : client.Sound) :
    (cycleForReadWith client read env).client.Sound := by
  refine ⟨fun i => ?_, fun entry among => ?_, ?_⟩
  · rcases cycle_slots read env i with same | ⟨entry, among, same⟩
    · rw [same]
      exact sound.slots i
    · rw [same]
      exact sound.entries entry among
  · obtain ⟨old, was, -, same⟩ := cycle_entries read env entry among
    rw [← same]
    exact sound.entries old was
  · exact (congrArg Connection.writeBufSize (cycle_connection env client read)).trans
      sound.writeBufSize

theorem Client.Sound.of_eq {client' : Client} (sound : client.Sound)
    (slots : client'.subHandles = client.subHandles)
    (entries : client'.listSubWaitAck = client.listSubWaitAck)
    (writeBufSize : client'.writeBufSize = client.writeBufSize) : client'.Sound where
  slots i := by
    rw [slots]
    exact sound.slots i
  entries := entries ▸ sound.entries
  writeBufSize := writeBufSize.trans sound.writeBufSize

theorem Client.Sound.of_standing {client' : Client} (sound : client.Sound)
    (same : client'.standing = client.standing) : client'.Sound :=
  sound.of_eq (subHandles_of_standing same) (congrArg Waiting.sub (waiting_of_standing same))
    (congrArg Standing.writeBufSize same)

/-- Admitting an entry with a filter that was checked. -/
theorem Client.Sound.enter {client' : Client} (sound : client.Sound)
    (slots : client'.subHandles = client.subHandles) {entry : SubInfo}
    (entries : client'.listSubWaitAck = client.listSubWaitAck ++ [entry])
    (writeBufSize : client'.writeBufSize = client.writeBufSize)
    (storable : entry.handler.Storable) : client'.Sound where
  slots i := by
    rw [slots]
    exact sound.slots i
  entries other among := by
    rw [entries] at among
    rcases List.mem_append.mp among with was | isNew
    · exact sound.entries other was
    · rw [List.mem_singleton.mp isNew]
      exact storable
  writeBufSize := writeBufSize.trans sound.writeBufSize

theorem Client.Sound.clearSlots (sound : client.Sound) (topicFilter : CString) :
    (clearSlots client topicFilter).Sound where
  slots i := by
    intro filter holds
    simp only [UIoT.Mqtt.clearSlots, get_eq_getElem, Vector.getElem_map] at holds
    split at holds
    · cases holds
    · exact sound.slots i filter holds
  entries := sound.entries
  writeBufSize := sound.writeBufSize

/-- Every act keeps the table sound. -/
theorem step_sound (input : Act) (numbered : client.waiting.Numbered) (sound : client.Sound) :
    (step client input).1.Sound := by
  cases input with
  | publish topicName params env =>
      obtain ⟨-, outcome⟩ := uiotMqttPublish_outcome topicName params env numbered.pub
      simp only [step, act]
      cases outcome with
      | untouched buf same => exact sound.of_eq (by rw [same]) (by rw [same]) (by rw [same])
      | failed buf took => exact sound.of_eq (by rw [took]; rfl) (by rw [took]; rfl) (by rw [took]; rfl)
      | accepted id after =>
          obtain ⟨-, buf, timer, same⟩ := after
          exact sound.of_eq (by rw [same]; rfl) (by rw [same]; rfl) (by rw [same]; rfl)
  | subscribe topicFilter params env =>
      obtain ⟨-, outcome⟩ := uiotMqttSubscribe_outcome topicFilter params env numbered.sub
      simp only [step, act]
      cases outcome with
      | untouched buf same => exact sound.of_eq (by rw [same]) (by rw [same]) (by rw [same])
      | failed buf took => exact sound.of_eq (by rw [took]; rfl) (by rw [took]; rfl) (by rw [took]; rfl)
      | accepted id after =>
          obtain ⟨checked, buf, timer, same⟩ := after
          refine sound.enter (by rw [same]; rfl) (by rw [same]) (by rw [same]; rfl) ?_
          rintro filter ⟨⟩
          exact checked
  | unsubscribe topicFilter env =>
      obtain ⟨-, same | outcome⟩ := uiotMqttUnsubscribe_outcome topicFilter env numbered.sub
      · simp only [step, act, same]
        exact sound
      · have cleared := sound.clearSlots topicFilter
        simp only [step, act]
        cases outcome with
        | untouched buf same => exact cleared.of_eq (by rw [same]) (by rw [same]) (by rw [same])
        | failed buf took =>
            exact cleared.of_eq (by rw [took]; rfl) (by rw [took]; rfl) (by rw [took]; rfl)
        | accepted id after =>
            obtain ⟨checked, buf, timer, same⟩ := after
            refine cleared.enter (by rw [same]; rfl) (by rw [same]; rfl) (by rw [same]; rfl) ?_
            rintro filter ⟨⟩
            exact checked
  | cycle read env => exact cycle_sound read env sound
  | pubInfoProc env =>
      simp only [step, act]
      rcases uiotMqttPubInfoProc_swept client env with same | ⟨kept, outputs, timedOut, same, swept⟩
      · rw [same]
        exact sound
      · rw [same]
        exact sound.of_eq rfl rfl rfl
  | subInfoProc env =>
      simp only [step, act]
      rcases uiotMqttSubInfoProc_swept client env with same | ⟨kept, outputs, timedOut, same, swept⟩
      · rw [same]
        exact sound
      · rw [same]
        exact ⟨sound.slots, fun entry among => sound.entries entry (swept.keptSublist.subset among),
          sound.writeBufSize⟩
  | _ => exact sound.of_standing (step_standing client _ trivial)

end Step

theorem uiotMqttInit_sound (params : InitParams) : (uiotMqttInit params).Sound where
  slots i := by
    intro topicFilter holds
    simp [uiotMqttInit, SubTopicHandle.zero] at holds
  entries entry among := by cases among
  writeBufSize := rfl

/-- Runs of acts keep the wait lists valid and the table sound. -/
theorem Steps.sound {client client' : Client} {outputs : List Output}
    (steps : Steps client client' outputs) (valid : client.waiting.Valid) (sound : client.Sound) :
    client'.waiting.Valid ∧ client'.Sound := by
  obtain ⟨inputs, rfl, -⟩ := steps
  exact ((along_true step client inputs).invariant
    (fun client => client.waiting.Valid ∧ client.Sound) ⟨valid, sound⟩
    fun _ input inv _ => ⟨(step_moves input inv.1.numbered).valid inv.1,
      step_sound input inv.1.numbered inv.2⟩).2

end UIoT.Mqtt
