import UIoT.Mqtt.Packets

/-!
# Publish, subscribe, unsubscribe

A request takes a packet id, stores its packet in the send buffer, appends an
entry to a wait list and sends the packet; when the send fails the entry is
removed again. The id is taken before anything that can fail.

What these calls do to the client is said once for each of them
(`uiotMqttPublish_outcome`, `uiotMqttSubscribe_outcome`,
`uiotMqttUnsubscribe_outcome`): the lists stay, or one entry with the id just
taken is appended.
-/

set_option autoImplicit false

namespace UIoT.Mqtt

/-! ## The functions -/

/-- `list_rpush` -/
def listRpush {α : Type} (list : List α) (node : α) : List α := list ++ [node]

/-- `list_remove`: the node with the given number is taken out. -/
def listRemove {α : Type} (issueOf : α → Nat) (list : List α) (node : Nat) : List α :=
  list.eraseP fun entry => issueOf entry = node

/-- A packet is stored at the start of the send buffer. -/
def Client.store (client : Client) (packet : List UInt8) : Client :=
  { client with writeBuf := overwrite client.writeBuf 0 packet }

/-- `_mask_push_pubInfo_to`. The allocations are those from number `alloc` on. -/
def maskPushPubInfoTo (client : Client) (len : Nat) (msgId : UInt16) (env : Env) (alloc : Nat) :
    Int × Client :=
  if client.writeBufSize < len then (failureRet, client)
  else if maxRepubNum ≤ client.listPubWaitAck.length then (failureRet, client)
  else if ¬env.malloc alloc then (failureRet, client)
  else if ¬env.malloc (alloc + 1) then (failureRet, client)
  else
    let pubStartTime := countdownMs env.rtTickFromMillisecond (env.tick 0) client.commandTimeoutMs
    let repubInfo : PubInfo := ⟨client.issued, pubStartTime, .normal, msgId⟩
    (successRet, { client with listPubWaitAck := listRpush client.listPubWaitAck repubInfo })

/-- `push_sub_info_to` -/
def pushSubInfoTo (client : Client) (msgId : UInt16) (type : MessageTypes)
    (handler : SubTopicHandle) (env : Env) (alloc : Nat) : Int × Client :=
  if maxSubTopics ≤ client.listSubWaitAck.length then (errMqttMaxSubscriptionsReached, client)
  else if ¬env.malloc alloc then (failureRet, client)
  else if ¬env.malloc (alloc + 1) then (failureRet, client)
  else
    let subStartTime := countdownMs env.rtTickFromMillisecond (env.tick 0) client.commandTimeoutMs
    let subInfo : SubInfo := ⟨client.issued, type, msgId, subStartTime, .normal, handler⟩
    (successRet, { client with listSubWaitAck := listRpush client.listSubWaitAck subInfo })

/-- `uiot_mqtt_publish` -/
def uiotMqttPublish (client : Client) (topicName : CString) (params : PublishParams) (env : Env) :
    Result :=
  if topicName.length = 0 then ⟨errParamInvalid, client, []⟩
  else if maxSizeOfCloudTopic < topicName.length then ⟨errMaxTopicLength, client, []⟩
  else if params.qos = .qos2 then ⟨errMqttQosNotSupport, client, []⟩
  else if ¬client.isConnected then ⟨errMqttNoConn, client, []⟩
  else
    let (id, client) := if params.qos = .qos1 then getNextPacketId client else (params.id, client)
    match serializePublishPacket client.writeBufSize 0 params.qos params.retained id topicName
        params.payload with
    | .error ret => ⟨ret, client, []⟩
    | .ok packet =>
        let client := client.store packet
        let node := client.issued
        let (ret, client) :=
          if params.qos ≠ .qos0 then maskPushPubInfoTo client packet.length id env 0
          else (successRet, client)
        if ret ≠ successRet then ⟨ret, client, []⟩
        else
          let (ret, outputs) := sendMqttPacket client packet.length (env.writes 0)
          if ret ≠ successRet then
            if params.qos ≠ .qos0 then
              let listPubWaitAck := listRemove PubInfo.issue client.listPubWaitAck node
              ⟨ret, { client with listPubWaitAck := listPubWaitAck }, outputs⟩
            else ⟨ret, client, outputs⟩
          else ⟨id.toNat, client, outputs⟩

/-- The part of `uiot_mqtt_subscribe` and `uiot_mqtt_unsubscribe` behind the
serializer: the entry is appended and the packet is sent. -/
def sendSubRequest (client : Client) (packet : List UInt8) (packetId : UInt16)
    (type : MessageTypes) (handler : SubTopicHandle) (env : Env) : Result :=
  let client := client.store packet
  let node := client.issued
  let (ret, client) := pushSubInfoTo client packetId type handler env 1
  if ret ≠ successRet then ⟨ret, client, []⟩
  else
    let (ret, outputs) := sendMqttPacket client packet.length (env.writes 0)
    if ret ≠ successRet then
      let listSubWaitAck := listRemove SubInfo.issue client.listSubWaitAck node
      ⟨ret, { client with listSubWaitAck := listSubWaitAck }, outputs⟩
    else ⟨packetId.toNat, client, outputs⟩

/-- `uiot_mqtt_subscribe` -/
def uiotMqttSubscribe (client : Client) (topicFilter : CString) (params : SubscribeParams)
    (env : Env) : Result :=
  if topicFilter.length = 0 then ⟨errParamInvalid, client, []⟩
  else if maxSizeOfCloudTopic < topicFilter.length then ⟨errMaxTopicLength, client, []⟩
  else if params.qos = .qos2 then ⟨errMqttQosNotSupport, client, []⟩
  else if ¬client.isConnected then ⟨errMqttNoConn, client, []⟩
  else if ¬env.malloc 0 then ⟨failureRet, client, []⟩
  else
    let (packetId, client) := getNextPacketId client
    match serializeSubscribePacket client.writeBufSize 0 packetId 1 [topicFilter] []
        [params.qos] with
    | .error ret => ⟨ret, client, []⟩
    | .ok packet =>
        let subHandle : SubTopicHandle :=
          ⟨some topicFilter, params.onMessageHandler, params.userData, params.qos⟩
        sendSubRequest client packet packetId .subscribe subHandle env

/-- `strstr(string, part) != NULL` -/
def strstr (string part : CString) : Bool := string.tails.any (part.isPrefixOf ·)

/-- Whether `uiot_mqtt_unsubscribe` clears a slot: it holds the filter, or the
filter contains a wildcard behind a separator. -/
def unsubscribes (topicFilter : CString) (slot : SubTopicHandle) : Bool :=
  slot.topicFilter = some topicFilter || strstr topicFilter [slash, hash] ||
    strstr topicFilter [slash, plus]

/-- `uiot_mqtt_unsubscribe` -/
def uiotMqttUnsubscribe (client : Client) (topicFilter : CString) (env : Env) : Result :=
  if topicFilter.length = 0 then ⟨errParamInvalid, client, []⟩
  else if maxSizeOfCloudTopic < topicFilter.length then ⟨errMaxTopicLength, client, []⟩
  else
    let suberExists := client.subHandles.toList.any (unsubscribes topicFilter)
    let subHandles := client.subHandles.map fun slot =>
      if unsubscribes topicFilter slot then { slot with topicFilter := none } else slot
    let client := { client with subHandles := subHandles }
    if ¬suberExists then ⟨errMqttUnsubFailed, client, []⟩
    else if ¬client.isConnected then ⟨errMqttNoConn, client, []⟩
    else if ¬env.malloc 0 then ⟨failureRet, client, []⟩
    else
      let (packetId, client) := getNextPacketId client
      match serializeUnsubscribePacket client.writeBufSize 0 packetId 1 [topicFilter] [] with
      | .error ret => ⟨ret, client, []⟩
      | .ok packet =>
          let subHandle : SubTopicHandle := ⟨some topicFilter, none, 0, env.stackQos⟩
          sendSubRequest client packet packetId .unsubscribe subHandle env

/-! ## What the requests do -/

/-- Removing the entry just appended. -/
theorem listRemove_listRpush {α : Type} {issueOf : α → Nat} {list : List α} {node : Nat} (entry : α)
    (isNew : ∀ old ∈ list, issueOf old ≠ node) (isEntry : issueOf entry = node) :
    listRemove issueOf (listRpush list entry) node = list := by
  rw [listRemove, listRpush, List.eraseP_append_right]
  · simp [isEntry]
  · intro old among
    simpa using isNew old among

/-- Only bytes on the wire. -/
def WireOnly (outputs : List Output) : Prop := ∀ output ∈ outputs, ∃ bytes, output = .wire bytes

theorem wireOnly_nil : WireOnly [] := fun _ among => nomatch among

theorem wireOnly_sendMqttPacket (client : Client) (length : Nat) (results : List Int) :
    WireOnly (sendMqttPacket client length results).2 := by
  unfold sendMqttPacket
  split
  · exact wireOnly_nil
  · intro output among
    exact ⟨_, List.mem_singleton.mp among⟩

/-- The entry that a publication appends. -/
def pubEntry (client : Client) (timer : Timer) : PubInfo :=
  ⟨client.issued + 1, timer, .normal, (getNextPacketId client).1⟩

/-- The entry that a subscription or its removal appends. -/
def subEntry (client : Client) (type : MessageTypes) (timer : Timer) (handler : SubTopicHandle) :
    SubInfo :=
  ⟨client.issued + 1, type, (getNextPacketId client).1, timer, .normal, handler⟩

/-- What a request leaves: nothing but the send buffer has changed, or an id has
been taken too, or the request is accepted, which returns the id. -/
inductive RequestOutcome (client : Client) (accepts : Client → Prop) (result : Result) : Prop where
  | untouched (buf : List UInt8) (same : result.client = { client with writeBuf := buf })
  | failed (buf : List UInt8)
      (took : result.client = { (getNextPacketId client).2 with writeBuf := buf })
  | accepted (id : result.ret = (getNextPacketId client).1.toNat) (after : accepts result.client)

/-- An entry is refused with one code, or appended where there is room. -/
theorem maskPushPubInfoTo_ends (client : Client) (len : Nat) (msgId : UInt16) (env : Env)
    (alloc : Nat) :
    maskPushPubInfoTo client len msgId env alloc = (failureRet, client) ∨
      client.listPubWaitAck.length < maxRepubNum ∧
        ∃ timer, maskPushPubInfoTo client len msgId env alloc =
          (successRet, { client with
            listPubWaitAck :=
              listRpush client.listPubWaitAck ⟨client.issued, timer, .normal, msgId⟩ }) := by
  unfold maskPushPubInfoTo
  split
  · exact .inl rfl
  split
  · exact .inl rfl
  rename_i room
  split
  · exact .inl rfl
  split
  · exact .inl rfl
  · exact .inr ⟨Nat.not_le.mp room, _, rfl⟩

theorem maskPushPubInfoTo_cases (client : Client) (len : Nat) (msgId : UInt16) (env : Env)
    (alloc : Nat) :
    (∃ ret, ret ≠ successRet ∧ maskPushPubInfoTo client len msgId env alloc = (ret, client)) ∨
      ∃ timer, maskPushPubInfoTo client len msgId env alloc =
        (successRet, { client with
          listPubWaitAck :=
            listRpush client.listPubWaitAck ⟨client.issued, timer, .normal, msgId⟩ }) := by
  rcases maskPushPubInfoTo_ends client len msgId env alloc with refused | ⟨-, pushed⟩
  · exact .inl ⟨failureRet, by decide, refused⟩
  · exact .inr pushed

/-- An entry is refused with one of two codes, or appended where there is room. -/
theorem pushSubInfoTo_ends (client : Client) (msgId : UInt16) (type : MessageTypes)
    (handler : SubTopicHandle) (env : Env) (alloc : Nat) :
    (∃ ret, (ret = errMqttMaxSubscriptionsReached ∨ ret = failureRet) ∧
        pushSubInfoTo client msgId type handler env alloc = (ret, client)) ∨
      client.listSubWaitAck.length < maxSubTopics ∧
        ∃ timer, pushSubInfoTo client msgId type handler env alloc =
          (successRet, { client with
            listSubWaitAck :=
              listRpush client.listSubWaitAck
                ⟨client.issued, type, msgId, timer, .normal, handler⟩ }) := by
  unfold pushSubInfoTo
  split
  · exact .inl ⟨_, .inl rfl, rfl⟩
  rename_i room
  split
  · exact .inl ⟨_, .inr rfl, rfl⟩
  split
  · exact .inl ⟨_, .inr rfl, rfl⟩
  · exact .inr ⟨Nat.not_le.mp room, _, rfl⟩

theorem pushSubInfoTo_cases (client : Client) (msgId : UInt16) (type : MessageTypes)
    (handler : SubTopicHandle) (env : Env) (alloc : Nat) :
    (∃ ret, ret ≠ successRet ∧ pushSubInfoTo client msgId type handler env alloc = (ret, client)) ∨
      ∃ timer, pushSubInfoTo client msgId type handler env alloc =
        (successRet, { client with
          listSubWaitAck :=
            listRpush client.listSubWaitAck
              ⟨client.issued, type, msgId, timer, .normal, handler⟩ }) := by
  rcases pushSubInfoTo_ends client msgId type handler env alloc with
    ⟨ret, isCode, refused⟩ | ⟨-, pushed⟩
  · refine .inl ⟨ret, ?_, refused⟩
    rcases isCode with rfl | rfl
    · decide
    · decide
  · exact .inr pushed

/-- A publication with quality of service 1 is accepted with one entry at the
tail; with quality of service 0 it leaves the lists alone. -/
theorem uiotMqttPublish_outcome {client : Client} (topicName : CString) (params : PublishParams)
    (env : Env) (numbered : ∀ entry ∈ client.listPubWaitAck, entry.issue ≤ client.issued) :
    WireOnly (uiotMqttPublish client topicName params env).outputs ∧
      RequestOutcome client
        (fun after => params.qos = .qos1 ∧ ∃ buf timer, after =
          { (getNextPacketId client).2 with
            writeBuf := buf
            listPubWaitAck := client.listPubWaitAck ++ [pubEntry client timer] })
        (uiotMqttPublish client topicName params env) := by
  unfold uiotMqttPublish
  split
  · exact ⟨wireOnly_nil, .untouched client.writeBuf rfl⟩
  split
  · exact ⟨wireOnly_nil, .untouched client.writeBuf rfl⟩
  split
  · exact ⟨wireOnly_nil, .untouched client.writeBuf rfl⟩
  split
  · exact ⟨wireOnly_nil, .untouched client.writeBuf rfl⟩
  rename_i notQos2 connected
  cases quality : params.qos with
  | qos2 => exact absurd quality notQos2
  | qos0 =>
      simp only [reduceCtorEq, if_false, ne_eq, not_true_eq_false]
      split
      · exact ⟨wireOnly_nil, .untouched client.writeBuf rfl⟩
      · split
        · exact ⟨wireOnly_sendMqttPacket _ _ _, .untouched _ rfl⟩
        · exact ⟨wireOnly_sendMqttPacket _ _ _, .untouched _ rfl⟩
  | qos1 =>
      simp only [if_true, ne_eq, reduceCtorEq, not_false_eq_true]
      split
      · exact ⟨wireOnly_nil, .failed client.writeBuf rfl⟩
      · rename_i packet serialized
        rcases maskPushPubInfoTo_cases ((getNextPacketId client).2.store packet) packet.length
            (getNextPacketId client).1 env 0 with ⟨ret, failed, pushed⟩ | ⟨timer, pushed⟩
        · simp only [pushed, if_pos failed]
          exact ⟨wireOnly_nil, .failed _ rfl⟩
        · simp only [pushed, not_true_eq_false, if_false]
          split
          · refine ⟨wireOnly_sendMqttPacket _ _ _, .failed (overwrite client.writeBuf 0 packet) ?_⟩
            have isNew : ∀ old ∈ client.listPubWaitAck, old.issue ≠ client.issued + 1 :=
              fun old among => Nat.ne_of_lt (Nat.lt_succ_of_le (numbered old among))
            have removed := listRemove_listRpush (pubEntry client timer) isNew rfl
            exact congrArg (fun list => { ((getNextPacketId client).2.store packet) with
              listPubWaitAck := list }) removed
          · exact ⟨wireOnly_sendMqttPacket _ _ _, .accepted rfl ⟨trivial, _, timer, rfl⟩⟩

/-- A subscription or unsubscription that has its packet is accepted with one
entry at the tail, or leaves the list as it was. -/
theorem sendSubRequest_outcome (client : Client) (packet : List UInt8) (type : MessageTypes)
    (handler : SubTopicHandle) (env : Env)
    (numbered : ∀ entry ∈ client.listSubWaitAck, entry.issue ≤ client.issued) :
    let result := sendSubRequest (getNextPacketId client).2 packet (getNextPacketId client).1 type
      handler env
    WireOnly result.outputs ∧
      RequestOutcome client
        (fun after => ∃ buf timer, after =
          { (getNextPacketId client).2 with
            writeBuf := buf
            listSubWaitAck := client.listSubWaitAck ++ [subEntry client type timer handler] })
        result := by
  intro result
  simp only [result, sendSubRequest]
  rcases pushSubInfoTo_cases ((getNextPacketId client).2.store packet) (getNextPacketId client).1
      type handler env 1 with ⟨ret, failed, pushed⟩ | ⟨timer, pushed⟩
  · simp only [pushed, if_pos failed]
    exact ⟨wireOnly_nil, .failed _ rfl⟩
  · simp only [pushed, ne_eq, not_true_eq_false, if_false]
    split
    · refine ⟨wireOnly_sendMqttPacket _ _ _, .failed (overwrite client.writeBuf 0 packet) ?_⟩
      have isNew : ∀ old ∈ client.listSubWaitAck, old.issue ≠ client.issued + 1 :=
        fun old among => Nat.ne_of_lt (Nat.lt_succ_of_le (numbered old among))
      have removed := listRemove_listRpush (subEntry client type timer handler) isNew rfl
      exact congrArg (fun list => { ((getNextPacketId client).2.store packet) with
        listSubWaitAck := list }) removed
    · exact ⟨wireOnly_sendMqttPacket _ _ _, .accepted rfl ⟨_, timer, rfl⟩⟩

/-- A filter that the requests accept. -/
def FilterLength (topicFilter : CString) : Prop :=
  0 < topicFilter.length ∧ topicFilter.length ≤ maxSizeOfCloudTopic

/-- A subscription is accepted with one entry at the tail. -/
theorem uiotMqttSubscribe_outcome {client : Client} (topicFilter : CString)
    (params : SubscribeParams) (env : Env)
    (numbered : ∀ entry ∈ client.listSubWaitAck, entry.issue ≤ client.issued) :
    WireOnly (uiotMqttSubscribe client topicFilter params env).outputs ∧
      RequestOutcome client
        (fun after => FilterLength topicFilter ∧ ∃ buf timer, after =
          { (getNextPacketId client).2 with
            writeBuf := buf
            listSubWaitAck := client.listSubWaitAck ++ [subEntry client .subscribe timer
              ⟨some topicFilter, params.onMessageHandler, params.userData, params.qos⟩] })
        (uiotMqttSubscribe client topicFilter params env) := by
  unfold uiotMqttSubscribe
  split
  · exact ⟨wireOnly_nil, .untouched client.writeBuf rfl⟩
  rename_i nonempty
  split
  · exact ⟨wireOnly_nil, .untouched client.writeBuf rfl⟩
  rename_i short
  split
  · exact ⟨wireOnly_nil, .untouched client.writeBuf rfl⟩
  split
  · exact ⟨wireOnly_nil, .untouched client.writeBuf rfl⟩
  split
  · exact ⟨wireOnly_nil, .untouched client.writeBuf rfl⟩
  simp only
  split
  · exact ⟨wireOnly_nil, .failed client.writeBuf rfl⟩
  · rename_i packet serialized
    obtain ⟨wires, outcome⟩ := sendSubRequest_outcome client packet .subscribe
      ⟨some topicFilter, params.onMessageHandler, params.userData, params.qos⟩ env numbered
    refine ⟨wires, ?_⟩
    cases outcome with
    | untouched buf same => exact .untouched buf same
    | failed buf took => exact .failed buf took
    | accepted id after =>
        obtain ⟨buf, timer, same⟩ := after
        exact .accepted id
          ⟨⟨Nat.pos_iff_ne_zero.mpr nonempty, Nat.not_lt.mp short⟩, buf, timer, same⟩

/-- The client with the slots cleared that an unsubscription clears. -/
def clearSlots (client : Client) (topicFilter : CString) : Client :=
  { client with
    subHandles := client.subHandles.map fun slot =>
      if unsubscribes topicFilter slot then { slot with topicFilter := none } else slot }

/-- An unsubscription first clears slots, and is then accepted with one entry
at the tail. -/
theorem uiotMqttUnsubscribe_outcome {client : Client} (topicFilter : CString) (env : Env)
    (numbered : ∀ entry ∈ client.listSubWaitAck, entry.issue ≤ client.issued) :
    let result := uiotMqttUnsubscribe client topicFilter env
    WireOnly result.outputs ∧
      (result.client = client ∨
        RequestOutcome (clearSlots client topicFilter)
          (fun after => FilterLength topicFilter ∧ ∃ buf timer, after =
            { (getNextPacketId (clearSlots client topicFilter)).2 with
              writeBuf := buf
              listSubWaitAck := client.listSubWaitAck ++ [subEntry client .unsubscribe timer
                ⟨some topicFilter, none, 0, env.stackQos⟩] })
          result) := by
  intro result
  simp only [result, uiotMqttUnsubscribe]
  split
  · exact ⟨wireOnly_nil, .inl rfl⟩
  rename_i nonempty
  split
  · exact ⟨wireOnly_nil, .inl rfl⟩
  rename_i short
  split
  · exact ⟨wireOnly_nil, .inr (.untouched client.writeBuf rfl)⟩
  split
  · exact ⟨wireOnly_nil, .inr (.untouched client.writeBuf rfl)⟩
  split
  · exact ⟨wireOnly_nil, .inr (.untouched client.writeBuf rfl)⟩
  split
  · exact ⟨wireOnly_nil, .inr (.failed client.writeBuf rfl)⟩
  · rename_i packet serialized
    obtain ⟨wires, outcome⟩ := sendSubRequest_outcome (clearSlots client topicFilter)
      packet .unsubscribe ⟨some topicFilter, none, 0, env.stackQos⟩ env numbered
    refine ⟨wires, .inr ?_⟩
    cases outcome with
    | untouched buf same => exact .untouched buf same
    | failed buf took => exact .failed buf took
    | accepted id after =>
        obtain ⟨buf, timer, same⟩ := after
        exact .accepted id
          ⟨⟨Nat.pos_iff_ne_zero.mpr nonempty, Nat.not_lt.mp short⟩, buf, timer, same⟩

end UIoT.Mqtt
