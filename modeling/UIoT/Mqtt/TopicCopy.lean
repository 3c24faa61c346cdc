import UIoT.Mqtt.Delivery
import UIoT.Mqtt.PacketIds

/-!
# The copy of the topic

`_handle_publish_packet` copies the topic into a buffer of
`MAX_SIZE_OF_CLOUD_TOPIC` bytes and hands it on as a counted string and as a C
string. A longer topic is cut so that a terminator is left, but a topic of just
that length fills the buffer. So the copy is right for shorter topics, is not
terminated for that one length, and for longer ones is that of another topic
(`handlePublishPacket_topic_iff`).
-/

set_option autoImplicit false

namespace UIoT.Mqtt

/-! ## The buffer -/

/-- The length of the copy. -/
def fixTopicLen (topicName : List UInt8) : Nat :=
  if maxSizeOfCloudTopic < topicName.length then maxSizeOfCloudTopic - 1 else topicName.length

/-- `fix_topic` once the topic has been copied. -/
def fixTopic (topicName : List UInt8) : List UInt8 :=
  overwrite (List.replicate maxSizeOfCloudTopic 0) 0 (topicName.take (fixTopicLen topicName))

section Buffer

variable {topicName : List UInt8}

theorem fixTopic_of_short (short : topicName.length < maxSizeOfCloudTopic) :
    fixTopicLen topicName = topicName.length ∧
      fixTopic topicName =
        topicName ++ 0 :: List.replicate (maxSizeOfCloudTopic - 1 - topicName.length) 0 := by
  have len : fixTopicLen topicName = topicName.length := if_neg (Nat.not_lt.mpr (Nat.le_of_lt short))
  refine ⟨len, ?_⟩
  have left : maxSizeOfCloudTopic - topicName.length =
      maxSizeOfCloudTopic - 1 - topicName.length + 1 := by omega
  rw [fixTopic, len, List.take_length, overwrite_zero, List.drop_replicate, left,
    List.replicate_succ]

theorem fixTopic_of_full (full : topicName.length = maxSizeOfCloudTopic) :
    fixTopicLen topicName = topicName.length ∧ fixTopic topicName = topicName := by
  have len : fixTopicLen topicName = topicName.length := if_neg (by omega)
  refine ⟨len, ?_⟩
  rw [fixTopic, len, List.take_length, overwrite_zero, List.drop_replicate, full, Nat.sub_self,
    List.replicate_zero, List.append_nil]

theorem fixTopic_of_long (long : maxSizeOfCloudTopic < topicName.length) :
    fixTopicLen topicName = maxSizeOfCloudTopic - 1 ∧
      fixTopic topicName = topicName.take (maxSizeOfCloudTopic - 1) ++ [0] := by
  have len : fixTopicLen topicName = maxSizeOfCloudTopic - 1 := if_pos long
  refine ⟨len, ?_⟩
  have taken : (topicName.take (maxSizeOfCloudTopic - 1)).length = maxSizeOfCloudTopic - 1 := by
    rw [List.length_take]
    omega
  rw [fixTopic, len, overwrite_zero, List.drop_replicate, taken]
  rfl

/-- The copy ends within its buffer unless it fills it. -/
theorem zero_mem_fixTopic_iff (noNul : 0 ∉ topicName) :
    0 ∈ fixTopic topicName ↔ topicName.length ≠ maxSizeOfCloudTopic := by
  rcases Nat.lt_trichotomy topicName.length maxSizeOfCloudTopic with short | full | long
  · rw [(fixTopic_of_short short).2]
    exact iff_of_true (by simp) (Nat.ne_of_lt short)
  · rw [(fixTopic_of_full full).2]
    exact iff_of_false noNul (not_not.mpr full)
  · rw [(fixTopic_of_long long).2]
    exact iff_of_true (by simp) (Nat.ne_of_gt long)

end Buffer

/-! ## Filters without wildcards -/

/-- A filter without wildcards, which is a topic. -/
structure IsTopic (topicFilter : CString) : Prop where
  noPlus : plus ∉ topicFilter
  noHash : hash ∉ topicFilter

/-- The scan of a filter without wildcards accepts the filter only. -/
theorem isTopicMatched_topic_iff {topicFilter : CString} (isTopic : IsTopic topicFilter)
    (name : CString) (before : UInt8) :
    isTopicMatched topicFilter name before = true ↔ topicFilter = name := by
  obtain ⟨noPlus, noHash⟩ := isTopic
  induction topicFilter generalizing name before with
  | nil =>
      rw [isTopicMatched_nil, decide_eq_true_eq]
      exact eq_comm
  | cons c curf inductionHypothesis =>
      simp only [List.mem_cons, not_or] at noPlus noHash
      have noHashNext : curf.headD 0 ≠ hash := by
        cases curf with
        | nil => decide
        | cons next curf =>
            rintro rfl
            exact noHash.2 (List.mem_cons_self ..)
      cases name with
      | nil =>
          rw [isTopicMatched_cons_nil, decide_eq_false noHashNext]
          simp [Ne.symm noHash.1, Ne.symm noPlus.1]
      | cons n name =>
          by_cases same : c = n
          · subst same
            rw [isTopicMatched_same (Ne.symm noPlus.1) (Ne.symm noHash.1),
              inductionHypothesis name c noPlus.2 noHash.2]
            simp
          · rw [isTopicMatched_differ (Ne.symm noPlus.1) (Ne.symm noHash.1) same,
              decide_eq_false noHashNext]
            exact iff_of_false Bool.false_ne_true fun equal => same (List.cons.inj equal).1

/-- A slot with a filter without wildcards passes a name that is the filter. -/
theorem topicPasses_topic_iff {topicFilter : CString} (isTopic : IsTopic topicFilter)
    {name after : List UInt8} (noNul : 0 ∉ name) (before : UInt8) :
    topicPasses topicFilter (name ++ 0 :: after) name.length before = true ↔ topicFilter = name := by
  rw [topicPasses, cString_append_nul noNul, List.take_left, Bool.or_eq_true,
    isTopicMatched_topic_iff isTopic]
  refine ⟨fun either => either.elim (fun equal => ?_) id, .inr⟩
  simp only [isTopicEquals, Bool.and_eq_true, decide_eq_true_eq] at equal
  exact equal.2.symm

/-- A slot that holds the name passes it. -/
theorem topicPasses_self {name after : List UInt8} (noNul : 0 ∉ name) (before : UInt8) :
    topicPasses name (name ++ 0 :: after) name.length before = true := by
  rw [topicPasses, cString_append_nul noNul, Bool.or_eq_true]
  left
  simp [isTopicEquals]

/-! ## The publication -/

section Deliver

variable {client : Client} {env : Env} {msg : Message}

/-- A handler is called for the first slot to take the message only. -/
theorem firstToTake_of_delivered {memory : List UInt8} {len : Nat} {before : UInt8}
    {i : Fin maxSubTopics} {handler data : Nat} {message : Message}
    (delivered : Output.delivered i handler data message ∈
      (deliverMessage client memory len msg before).outputs) :
    FirstToTake client memory len before i := by
  rw [firstToTake_iff_findIdx?]
  simp only [deliverMessage] at delivered
  split at delivered
  · rename_i j found
    rw [List.mem_singleton, Output.delivered.injEq] at delivered
    rw [found, delivered.1]
  · split at delivered
    · simp at delivered
    · cases delivered

/-- What a publication delivers is what its topic copy is delivered to. -/
theorem delivered_mem_handlePublishPacket_iff
    (parsed : deserializePublishPacket client.readBuf client.readBufSize = .ok msg)
    {i handler data : Nat} {message : Message} :
    Output.delivered i handler data message ∈ (handlePublishPacket client env).outputs ↔
      Output.delivered i handler data message ∈
        (deliverMessage client (fixTopic msg.topic ++ env.stack) (fixTopicLen msg.topic) msg
          env.stackBefore).outputs := by
  rw [handlePublishPacket, parsed]
  simp only
  split
  · exact Iff.rfl
  · rw [List.mem_append]
    refine or_iff_left fun among => ?_
    unfold sendAnswer at among
    split at among
    · cases among
    · obtain ⟨bytes, isWire⟩ := wireOnly_sendMqttPacket _ _ _ _ among
      cases isWire

end Deliver

/-- The copy of a topic is right: it ends within its buffer, a topic that can be
subscribed to reaches every slot that holds it and has a handler, with its name,
and a longer one reaches no slot of another topic. -/
structure TopicCopied (client : Client) (msg : Message) (outputs : List Output) : Prop where
  ends : 0 ∈ fixTopic msg.topic
  reaches : FilterLength msg.topic →
    ∀ (i : Fin maxSubTopics) (handler : Nat), (client.subHandles.get i).topicFilter = some msg.topic →
      (client.subHandles.get i).messageHandler = some handler →
      Output.delivered i handler (client.subHandles.get i).messageHandlerData msg ∈ outputs
  apart : maxSizeOfCloudTopic < msg.topic.length →
    ∀ (i : Fin maxSubTopics) (topicFilter : CString) (handler data : Nat) (message : Message),
      (client.subHandles.get i).topicFilter = some topicFilter → IsTopic topicFilter →
      Output.delivered i handler data message ∈ outputs → topicFilter = msg.topic

/-- A received topic is copied right exactly when its length is not that of the
buffer, no slot in front of one that holds it takes it, and, where it is longer,
no slot that holds its first 127 bytes is the first to take them. -/
theorem handlePublishPacket_topic_iff (client : Client) (env : Env) (msg : Message)
    (parsed : deserializePublishPacket client.readBuf client.readBufSize = .ok msg)
    (noNul : 0 ∉ msg.topic) :
    TopicCopied client msg (handlePublishPacket client env).outputs ↔
      msg.topic.length ≠ maxSizeOfCloudTopic ∧
      (FilterLength msg.topic → ∀ i : Fin maxSubTopics,
        (client.subHandles.get i).topicFilter = some msg.topic →
        (client.subHandles.get i).messageHandler ≠ none →
        ¬∃ j : Fin maxSubTopics, j < i ∧ takes (fixTopic msg.topic ++ env.stack)
          (fixTopicLen msg.topic) env.stackBefore (client.subHandles.get j) = true) ∧
      (maxSizeOfCloudTopic < msg.topic.length → ¬∃ i : Fin maxSubTopics,
        (client.subHandles.get i).topicFilter = some (msg.topic.take (maxSizeOfCloudTopic - 1)) ∧
        IsTopic (msg.topic.take (maxSizeOfCloudTopic - 1)) ∧
        FirstToTake client (fixTopic msg.topic ++ env.stack) (fixTopicLen msg.topic)
          env.stackBefore i) := by
  have delivers := fun {i handler data message} =>
    @delivered_mem_handlePublishPacket_iff client env msg parsed i handler data message
  constructor
  · intro copied
    refine ⟨(zero_mem_fixTopic_iff noNul).mp copied.ends, ?_, ?_⟩
    · intro checked i holds hasHandler
      obtain ⟨handler, isHandler⟩ := Option.ne_none_iff_exists'.mp hasHandler
      exact (firstToTake_of_delivered
        (delivers.mp (copied.reaches checked i handler holds isHandler))).2
    · rintro long ⟨i, holds, isTopic, first⟩
      have handles : (client.subHandles.get i).messageHandler.isSome = true := by
        have taken := first.1
        rw [takes, holds, Bool.and_eq_true] at taken
        exact taken.2
      obtain ⟨handler, isHandler⟩ := Option.isSome_iff_exists.mp handles
      have reached := (delivered_mem_deliverMessage_iff client _ _ msg env.stackBefore i
        isHandler).mpr first
      have same := copied.apart long i _ handler _ _ holds isTopic (delivers.mpr reached)
      have shorter := congrArg List.length same
      rw [List.length_take] at shorter
      omega
  · rintro ⟨notFull, alone, notCut⟩
    refine ⟨(zero_mem_fixTopic_iff noNul).mpr notFull, ?_, ?_⟩
    · intro checked i handler holds isHandler
      have short : msg.topic.length < maxSizeOfCloudTopic := Nat.lt_of_le_of_ne checked.2 notFull
      obtain ⟨len, copy⟩ := fixTopic_of_short short
      have front := alone checked i holds (isHandler ▸ Option.some_ne_none _)
      rw [delivers]
      rw [copy, len, List.append_assoc] at front ⊢
      have first : FirstToTake client (msg.topic ++ 0 ::
          (List.replicate (maxSizeOfCloudTopic - 1 - msg.topic.length) 0 ++ env.stack))
          msg.topic.length env.stackBefore i := by
        refine ⟨?_, front⟩
        rw [takes, holds]
        simp only [isHandler, Option.isSome_some, Bool.and_true]
        exact topicPasses_self noNul env.stackBefore
      have reached := (delivered_mem_deliverMessage_iff client _ _ msg env.stackBefore i
        isHandler).mpr first
      rw [List.take_left] at reached
      exact reached
    · intro long i topicFilter handler data message holds isTopic delivered
      have first := firstToTake_of_delivered (delivers.mp delivered)
      obtain ⟨len, copy⟩ := fixTopic_of_long long
      have taken := first.1
      rw [takes, holds, Bool.and_eq_true, copy, len, List.append_assoc] at taken
      have cutLen : (msg.topic.take (maxSizeOfCloudTopic - 1)).length = maxSizeOfCloudTopic - 1 := by
        rw [List.length_take]
        omega
      have cutNul : 0 ∉ msg.topic.take (maxSizeOfCloudTopic - 1) := fun among =>
        noNul (List.mem_of_mem_take among)
      have passed : topicPasses topicFilter
          (msg.topic.take (maxSizeOfCloudTopic - 1) ++ 0 :: env.stack)
          (msg.topic.take (maxSizeOfCloudTopic - 1)).length env.stackBefore = true := by
        rw [cutLen]
        exact taken.1
      obtain rfl := (topicPasses_topic_iff isTopic cutNul env.stackBefore).mp passed
      exact absurd ⟨i, holds, isTopic, first⟩ (notCut long)

/-- A PUBLISH on a topic of less than 126 bytes without a payload. -/
def shortPublish (topicName : List UInt8) : List UInt8 :=
  [0x30, UInt8.ofNat (topicName.length + 2), 0, UInt8.ofNat topicName.length] ++ topicName

theorem handlePublishPacket_topic_short :
    let client := { clientWithFilter [0x61] with readBuf := shortPublish [0x61] }
    TopicCopied client ⟨0, 0, 0, none, [0x61], []⟩ (handlePublishPacket client (calm 0)).outputs := by
  have onlyFirst : ∀ i : Fin maxSubTopics,
      ((clientWithFilter [0x61]).subHandles.get i).topicFilter = some [0x61] → i = 0 := by decide
  intro client
  refine (handlePublishPacket_topic_iff client (calm 0) ⟨0, 0, 0, none, [0x61], []⟩
    (by decide +kernel) (by decide)).mpr
      ⟨by decide, fun _ i holds _ => ?_, fun long => absurd long (by decide)⟩
  rintro ⟨j, inFront, -⟩
  rw [onlyFirst i holds] at inFront
  exact absurd inFront (Fin.not_lt_zero j)

/-- A PUBLISH on a topic of 128 or 129 equal bytes without a payload. -/
def longPublish (length : Nat) : List UInt8 :=
  [0x30, UInt8.ofNat (length + 2), 1, 0, UInt8.ofNat length] ++ List.replicate length 0x61

/-- A topic of 128 bytes fills the buffer, and one of 129 bytes is delivered to
the slot of another topic, of 127 bytes. -/
theorem fixTopic_full_not_ended :
    let full := { clientWithFilter (List.replicate 128 0x61) with readBuf := longPublish 128 }
    let cut := { clientWithFilter (List.replicate 127 0x61) with readBuf := longPublish 129 }
    (deserializePublishPacket full.readBuf full.readBufSize =
        .ok ⟨0, 0, 0, none, List.replicate 128 0x61, []⟩ ∧
      0 ∉ fixTopic (List.replicate 128 0x61) ∧
      ¬TopicCopied full ⟨0, 0, 0, none, List.replicate 128 0x61, []⟩
        (handlePublishPacket full (calm 0)).outputs) ∧
    (deserializePublishPacket cut.readBuf cut.readBufSize =
        .ok ⟨0, 0, 0, none, List.replicate 129 0x61, []⟩ ∧
      ¬TopicCopied cut ⟨0, 0, 0, none, List.replicate 129 0x61, []⟩
        (handlePublishPacket cut (calm 0)).outputs) := by
  intro full cut
  have notEnded : 0 ∉ fixTopic (List.replicate 128 0x61) := by decide +kernel
  refine ⟨⟨by decide +kernel, notEnded, fun copied => notEnded copied.ends⟩, by decide +kernel, ?_⟩
  intro copied
  have delivered : (handlePublishPacket cut (calm 0)).outputs =
      [.delivered 0 1 0 ⟨0, 0, 0, none, List.replicate 127 0x61, []⟩] := by decide +kernel
  have same := copied.apart (by decide +kernel) 0 _ 1 0 _ rfl
    ⟨by decide +kernel, by decide +kernel⟩ (delivered ▸ List.mem_singleton_self _)
  exact absurd (congrArg List.length same) (by decide +kernel)

end UIoT.Mqtt
