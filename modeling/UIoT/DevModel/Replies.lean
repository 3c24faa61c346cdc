import UIoT.DevModel.Rendering
import UIoT.DevModel.RetCodes
import UIoT.Mqtt.PublishSize

/-!
# What is replied to the cloud

The reply to a PROPERTY_SET message is complete or is not published
(`dmMqttPropertySetCb_complete`). The tests of `dm_mqtt_command_cb` let a text pass
that has the length of its buffer, which has lost its last byte to the terminator. A
payload of that length is too long for the send buffer anyway, but a topic of 128
bytes is published without its last one (`replies_complete_iff`).
-/

set_option autoImplicit false

namespace UIoT.DevModel

open Utils Base128
open Mqtt (CString QoS)

/-! ## The property -/

/-- The member of a message with some name. -/
def Holds (message : Mqtt.Message) (key : String) (value : CString) : Prop :=
  liteJsonValueOf (literal key) (Mqtt.cString message.payload) = some value

/-- `IOT_MQTT_Publish` has been called and has returned no error. -/
def Publishes (run : Option Publication) (publication : Publication) : Prop :=
  run = some publication ∧ 0 ≤ publication.result.ret

def setReplyTopic (productSn deviceSn : CString) : CString :=
  fillIn (gDmMqttCb .propertySet).upstreamTopicTemplate [productSn, deviceSn]

def commandReplyTopic (productSn deviceSn requestId : CString) : CString :=
  fillIn (gDmMqttCb .command).upstreamTopicTemplate [productSn, deviceSn, requestId]

/-- A reply to a PROPERTY_SET message that is published is complete. -/
def SetReplyComplete (message : Mqtt.Message) : Prop :=
  ∀ (handle : DMMqttStruct) (env : Env) (publication : Publication),
    Publishes (dmMqttPropertySetCb handle message env) publication →
    ∃ requestId property, Holds message "RequestID" requestId ∧ Holds message "Property" property ∧
      publication.topic = setReplyTopic handle.productSn handle.deviceSn ∧
      publication.payload = setReply requestId (env.propertySet requestId property)

/-- A handle with the client that `IOT_MQTT_Construct` makes. -/
structure HandleOf (productSn deviceSn : CString) (handle : DMMqttStruct) : Prop where
  productSn : handle.productSn = productSn
  deviceSn : handle.deviceSn = deviceSn
  bufSize : handle.mqtt.writeBufSize = Mqtt.uiotMqttTxBufLen

/-- A reply to a command that is published is complete, whatever client, memory and
network, when the application answers so. -/
def CommandReplyComplete (productSn deviceSn : CString) (message : Mqtt.Message) (cbRet : Int32)
    (output : CString) : Prop :=
  ∀ (handle : DMMqttStruct) (env : Env) (publication : Publication),
    HandleOf productSn deviceSn handle →
    (∀ requestId identifier input old,
      env.command requestId identifier input old = (cbRet, output)) →
    Publishes (dmMqttCommandCb handle message env) publication →
    ∃ requestId identifier, Holds message "RequestID" requestId ∧
      Holds message "Identifier" identifier ∧
      publication.topic = commandReplyTopic productSn deviceSn requestId ∧
      publication.payload = commandReply requestId cbRet identifier output

/-- The longest payload that the send buffer takes behind a topic that was cut. -/
abbrev maxPayloadBehindCut : Nat := 1913

/-- A topic as long as its buffer, with a payload that the send buffer takes. -/
def LosesByte (topic payload : CString) : Prop :=
  topic.length = dmTopicBufLen ∧ payload.length ≤ maxPayloadBehindCut

/-! ## Buffers -/

theorem dmMqttGenTopicName_success {buf : Buffer} {bufLen : Nat} {topicTemplate : List UInt8}
    {productSn deviceSn : CString} (positive : 0 < bufLen) (small : bufLen < sizeModulus)
    (success : (dmMqttGenTopicName buf bufLen topicTemplate productSn deviceSn).1 = successRet) :
    (dmMqttGenTopicName buf bufLen topicTemplate productSn deviceSn).2.text =
      fillIn topicTemplate [productSn, deviceSn] := by
  obtain ⟨isRet, isText⟩ :=
    halSnprintf_fresh buf positive small (fillIn topicTemplate [productSn, deviceSn])
  rw [dmMqttGenTopicName] at success ⊢
  dsimp only at success ⊢
  rw [isRet] at success
  split at success
  · exact absurd success (by decide)
  · rename_i fits
    rw [isText, take_shorter (by omega)]

/-! ## The reply to a PROPERTY_SET message -/

variable {handle : DMMqttStruct} {message : Mqtt.Message} {env : Env} {publication : Publication}

theorem replyToPropertySet_complete {requestId : CString} {cbRet : Int32}
    (isSet : handle.callbacks .propertySet)
    (replied : replyToPropertySet handle env requestId cbRet = some publication) :
    publication.topic = setReplyTopic handle.productSn handle.deviceSn ∧
      publication.payload = setReply requestId cbRet := by
  rw [replyToPropertySet] at replied
  simp only [Option.bind_eq_bind, Option.bind_eq_some_iff] at replied
  obtain ⟨msgReply, _, topic, _, replied⟩ := replied
  obtain ⟨isRet, isText⟩ := halSnprintf_fresh msgReply (by decide : 0 < dmMsgReplyBufLen) (by decide)
    (setReply requestId cbRet)
  split at replied
  · cases replied
  · rename_i named
    have isTopic := dmMqttGenTopicName_success (by decide) (by decide) (not_not.mp named)
    rw [isRet] at replied
    split at replied
    · cases replied
    · rename_i fits
      obtain rfl := Option.some.inj replied
      refine ⟨?_, ?_⟩
      · rw [dmMqttPublish, isTopic, (handle.registered _ isSet).1]
        rfl
      · rw [dmMqttPublish, isText, take_shorter (by omega)]

/-- The reply to a PROPERTY_SET message is complete or is not published. -/
theorem dmMqttPropertySetCb_complete (message : Mqtt.Message) : SetReplyComplete message := by
  rintro handle env publication ⟨replied, _⟩
  rw [dmMqttPropertySetCb] at replied
  split at replied
  · cases replied
  · rename_i isSet
    simp only [Option.bind_eq_bind, Option.bind_eq_some_iff] at replied
    obtain ⟨_, _, requestId, isRequest, property, isProperty, replied⟩ := replied
    exact ⟨requestId, property, valueOf_some isRequest, valueOf_some isProperty,
      replyToPropertySet_complete (not_not.mp isSet) replied⟩

/-! ## The reply to a command -/

variable {requestId identifier output : CString} {cbRet : Int32}

/-- Both texts are at most as long as their buffers, and what is published of them lacks
the last byte of a buffer. -/
theorem replyToCommand_texts (isSet : handle.callbacks .command)
    (replied : replyToCommand handle env requestId identifier cbRet output = some publication) :
    (commandReplyTopic handle.productSn handle.deviceSn requestId).length ≤ dmTopicBufLen ∧
      (commandReply requestId cbRet identifier output).length ≤ dmCmdReplyBufLen ∧
      publication = dmMqttPublish handle env
        ((commandReplyTopic handle.productSn handle.deviceSn requestId).take (dmTopicBufLen - 1)) 1
        ((commandReply requestId cbRet identifier output).take (dmCmdReplyBufLen - 1)) := by
  rw [replyToCommand] at replied
  simp only [Option.bind_eq_bind, Option.bind_eq_some_iff] at replied
  obtain ⟨cmdReply, _, topic, _, replied⟩ := replied
  obtain ⟨topicRet, topicText⟩ := halSnprintf_fresh topic (by decide : 0 < dmTopicBufLen) (by decide)
    (commandReplyTopic handle.productSn handle.deviceSn requestId)
  obtain ⟨replyRet, replyText⟩ := halSnprintf_fresh cmdReply (by decide : 0 < dmCmdReplyBufLen)
    (by decide) (commandReply requestId cbRet identifier output)
  rw [(handle.registered _ isSet).1] at replied
  rw [commandReplyTopic] at topicRet topicText ⊢
  rw [topicRet, replyRet] at replied
  split at replied
  · cases replied
  · rename_i topicFits
    split at replied
    · cases replied
    · rename_i replyFits
      obtain rfl := Option.some.inj replied
      refine ⟨by omega, by omega, ?_⟩
      rw [topicText, replyText]

/-- What a command that is replied to holds. -/
theorem dmMqttCommandCb_replies (replied : dmMqttCommandCb handle message env = some publication) :
    handle.callbacks .command ∧ ∃ requestId identifier input old,
      Holds message "RequestID" requestId ∧ Holds message "Identifier" identifier ∧
      Holds message "Input" input ∧
      replyToCommand handle env requestId identifier
        (env.command requestId identifier input old).1
        (env.command requestId identifier input old).2 = some publication := by
  rw [dmMqttCommandCb] at replied
  split at replied
  · cases replied
  · rename_i isSet
    simp only [Option.bind_eq_bind, Option.bind_eq_some_iff] at replied
    obtain ⟨_, _, requestId, isRequest, identifier, isIdentifier, input, isInput, old, _, replied⟩ :=
      replied
    exact ⟨not_not.mp isSet, requestId, identifier, input, old.text, valueOf_some isRequest,
      valueOf_some isIdentifier, valueOf_some isInput, replied⟩

/-- The length of the packet of a reply. -/
theorem encodedLength_qos1 (topic payload : CString) :
    Mqtt.encodedLength .qos1 topic payload = 5 + topic.length + payload.length +
      (encode (Mqtt.publishRemLen .qos1 topic payload)).length := by
  rw [Mqtt.encodedLength, Mqtt.publishRemLen, if_pos (by decide)]
  omega

/-- Two or three bytes tell the length of a reply that has a long topic. -/
theorem encode_remLen_length {topic payload : CString} (isLong : 124 ≤ topic.length + payload.length)
    (small : topic.length + payload.length ≤ 4096) :
    (encode (Mqtt.publishRemLen .qos1 topic payload)).length = 2 := by
  have one := encode_length_le_iff 0 (Mqtt.publishRemLen .qos1 topic payload)
  have two := encode_length_le_iff 1 (Mqtt.publishRemLen .qos1 topic payload)
  rw [Mqtt.publishRemLen, if_pos (by decide)] at one two ⊢
  omega

/-- What is published fits into the send buffer. -/
theorem published_fits {topic payload : CString} (bufSize : handle.mqtt.writeBufSize = 2048)
    (shortTopic : topic.length ≤ 128) (shortPayload : payload.length ≤ 2048)
    (returned : 0 ≤ (dmMqttPublish handle env topic 1 payload).result.ret) :
    Mqtt.encodedLength .qos1 topic payload < 2048 := by
  have small : Mqtt.publishRemLen .qos1 topic payload < 2 ^ 28 := by
    rw [Mqtt.publishRemLen, if_pos (by decide)]
    omega
  rw [← bufSize]
  exact Mqtt.uiotMqttPublish_fits rfl rfl small returned

/-- A reply is complete if its topic does not lose its last byte. -/
theorem commandReply_complete {productSn deviceSn : CString}
    (keeps : ∀ requestId identifier input, Holds message "RequestID" requestId →
      Holds message "Identifier" identifier → Holds message "Input" input →
      ¬LosesByte (commandReplyTopic productSn deviceSn requestId)
        (commandReply requestId cbRet identifier output)) :
    CommandReplyComplete productSn deviceSn message cbRet output := by
  rintro handle env publication ⟨rfl, rfl, bufSize⟩ answers ⟨replied, returned⟩
  obtain ⟨isSet, requestId, identifier, input, old, isRequest, isIdentifier, isInput, replied⟩ :=
    dmMqttCommandCb_replies replied
  rw [answers] at replied
  dsimp only at replied
  obtain ⟨topicFits, replyFits, rfl⟩ := replyToCommand_texts isSet replied
  have kept := keeps requestId identifier input isRequest isIdentifier isInput
  refine ⟨requestId, identifier, isRequest, isIdentifier, ?_⟩
  obtain ⟨topic, isTopic⟩ : ∃ topic,
    topic = commandReplyTopic handle.productSn handle.deviceSn requestId := ⟨_, rfl⟩
  obtain ⟨payload, isPayload⟩ : ∃ payload,
    payload = commandReply requestId cbRet identifier output := ⟨_, rfl⟩
  simp only [← isTopic, ← isPayload] at topicFits replyFits returned kept ⊢
  have cutTopic : (topic.take (dmTopicBufLen - 1)).length = min 127 topic.length :=
    List.length_take
  have cutPayload : (payload.take (dmCmdReplyBufLen - 1)).length = min 2047 payload.length :=
    List.length_take
  have topicBound : topic.length ≤ 128 := topicFits
  have room := published_fits bufSize (by omega) (by omega) returned
  rw [encodedLength_qos1] at room
  have shortPayload : payload.length < 2048 := by omega
  have shortTopic : topic.length < 128 := by
    by_contra full
    have long : 1913 < payload.length :=
      Nat.not_le.mp fun short => kept ⟨(by omega : topic.length = 128), short⟩
    have two := @encode_remLen_length (topic.take (dmTopicBufLen - 1))
      (payload.take (dmCmdReplyBufLen - 1)) (by omega) (by omega)
    omega
  rw [dmMqttPublish, take_shorter shortTopic, take_shorter shortPayload]
  exact ⟨rfl, rfl⟩

/-! ## A topic that loses its last byte -/

/-- A handle on a connected client, with the callback for commands. -/
def commandHandle (productSn deviceSn : CString) : DMMqttStruct :=
  (dscInit productSn deviceSn Mqtt.attachedClient).enter .command

/-- The application answers every command so, and a packet of some length is sent. -/
def answeringEnv (cbRet : Int32) (output : CString) (length : Nat) : Env :=
  { roomyEnv (constantLibrary 0) with
    command := fun _ _ _ _ => (cbRet, output)
    mqtt := Mqtt.calm length }

theorem dmMqttCommandCb_answering {productSn deviceSn input : CString} {length : Nat}
    (isRequest : Holds message "RequestID" requestId)
    (isIdentifier : Holds message "Identifier" identifier) (isInput : Holds message "Input" input)
    (topicFits : (commandReplyTopic productSn deviceSn requestId).length ≤ dmTopicBufLen)
    (replyFits : (commandReply requestId cbRet identifier output).length ≤ dmCmdReplyBufLen) :
    dmMqttCommandCb (commandHandle productSn deviceSn) message (answeringEnv cbRet output length) =
      some (dmMqttPublish (commandHandle productSn deviceSn) (answeringEnv cbRet output length)
        ((commandReplyTopic productSn deviceSn requestId).take (dmTopicBufLen - 1)) 1
        ((commandReply requestId cbRet identifier output).take (dmCmdReplyBufLen - 1))) := by
  rw [Holds] at isRequest isIdentifier isInput
  obtain ⟨topicRet, topicText⟩ := halSnprintf_fresh { text := [], reach := 0, wrapped := false }
    (by decide : 0 < dmTopicBufLen) (by decide) (commandReplyTopic productSn deviceSn requestId)
  obtain ⟨replyRet, replyText⟩ := halSnprintf_fresh { text := [], reach := 0, wrapped := false }
    (by decide : 0 < dmCmdReplyBufLen) (by decide) (commandReply requestId cbRet identifier output)
  have found : ∀ alloc key, valueOf (answeringEnv cbRet output length).malloc alloc key
      (Mqtt.cString message.payload) = liteJsonValueOf (literal key) (Mqtt.cString message.payload) :=
    fun alloc key => valueOf_roomy (constantLibrary 0) alloc key _
  have isSet : (commandHandle productSn deviceSn).callbacks .command = true := rfl
  have fresh : ∀ alloc, (answeringEnv cbRet output length).malloc alloc =
      some { text := [], reach := 0, wrapped := false } := fun _ => rfl
  have answer : ∀ requestId identifier input old,
      (answeringEnv cbRet output length).command requestId identifier input old = (cbRet, output) :=
    fun _ _ _ _ => rfl
  have notTopic : ¬((commandReplyTopic productSn deviceSn requestId).length < (0 : Int) ∨
    (dmTopicBufLen : Int) < (commandReplyTopic productSn deviceSn requestId).length) := by omega
  have notReply : ¬((commandReply requestId cbRet identifier output).length < (0 : Int) ∨
    (dmCmdReplyBufLen : Int) < (commandReply requestId cbRet identifier output).length) := by omega
  have isTopic : fillIn ((commandHandle productSn deviceSn).upstreamTopicTemplates .command)
      [(commandHandle productSn deviceSn).productSn, (commandHandle productSn deviceSn).deviceSn,
        requestId] = commandReplyTopic productSn deviceSn requestId := rfl
  simp only [dmMqttCommandCb, replyToCommand, isSet, found, isRequest, isIdentifier, isInput, fresh,
    answer, isTopic, topicRet, topicText, replyRet, replyText, if_neg notTopic, if_neg notReply,
    Option.bind_eq_bind, Option.bind_some, not_true_eq_false, if_false]

/-- A reply whose topic loses its last byte is published. -/
theorem cut_reply_published {productSn deviceSn : CString}
    (loses : LosesByte (commandReplyTopic productSn deviceSn requestId)
      (commandReply requestId cbRet identifier output)) :
    ∃ length, 0 ≤ (dmMqttPublish (commandHandle productSn deviceSn)
      (answeringEnv cbRet output length)
      ((commandReplyTopic productSn deviceSn requestId).take (dmTopicBufLen - 1)) 1
      ((commandReply requestId cbRet identifier output).take (dmCmdReplyBufLen - 1))).result.ret := by
  obtain ⟨topic, isTopic⟩ : ∃ topic,
    topic = (commandReplyTopic productSn deviceSn requestId).take (dmTopicBufLen - 1) := ⟨_, rfl⟩
  obtain ⟨payload, isPayload⟩ : ∃ payload,
    payload = (commandReply requestId cbRet identifier output).take (dmCmdReplyBufLen - 1) := ⟨_, rfl⟩
  have topicLength : topic.length = 127 := by
    rw [isTopic, List.length_take, loses.1]
    rfl
  have payloadLength : payload.length ≤ 1913 := by
    rw [isPayload, List.length_take]
    exact Nat.le_trans (Nat.min_le_right _ _) loses.2
  rw [← isTopic, ← isPayload]
  have remLen : Mqtt.publishRemLen .qos1 topic payload = 131 + payload.length := by
    rw [Mqtt.publishRemLen, if_pos (by decide), topicLength]
    omega
  have isLength := encodedLength_qos1 topic payload
  rw [encode_remLen_length (by omega) (by omega)] at isLength
  obtain ⟨pushed, sameSize, sends⟩ := @Mqtt.uiotMqttPublish_qos1 Mqtt.attachedClient topic
    ⟨.qos1, 0, 0, some payload⟩ payload (Mqtt.calm (Mqtt.encodedLength .qos1 topic payload)) rfl rfl
    (by omega) (by
      have bufSize : Mqtt.attachedClient.writeBufSize = 2048 := rfl
      have notShort : ¬131 + payload.length + 1 < 128 := by omega
      have notLong : 131 + payload.length + 1 < 16384 := by omega
      simp only [remLen, Mqtt.getMqttPacketLen, if_neg notShort, if_pos notLong]
      omega) rfl (by
      rintro (isEmpty | isLong | isQos2)
      · omega
      · have bound : Mqtt.maxSizeOfCloudTopic = 128 := rfl
        omega
      · cases isQos2) (by decide) ⟨rfl, rfl⟩
  refine ⟨Mqtt.encodedLength .qos1 topic payload, sends ?_⟩
  have bufSize : pushed.writeBufSize = 2048 := sameSize
  have fits : Mqtt.encodedLength .qos1 topic payload < pushed.writeBufSize := by omega
  exact Mqtt.sendMqttPacket_calm fits (by omega)

/-! ## Which replies are complete -/

/-- A reply to a command is complete, or is not published, exactly when its topic does
not lose its last byte. -/
theorem commandReplyComplete_iff (productSn deviceSn : CString) (message : Mqtt.Message)
    (cbRet : Int32) (output : CString) :
    CommandReplyComplete productSn deviceSn message cbRet output ↔
      ∀ requestId identifier input, Holds message "RequestID" requestId →
        Holds message "Identifier" identifier → Holds message "Input" input →
        ¬LosesByte (commandReplyTopic productSn deviceSn requestId)
          (commandReply requestId cbRet identifier output) := by
  refine ⟨?_, commandReply_complete⟩
  intro complete requestId identifier input isRequest isIdentifier isInput loses
  have topicFits : (commandReplyTopic productSn deviceSn requestId).length ≤ dmTopicBufLen :=
    Nat.le_of_eq loses.1
  have replyFits : (commandReply requestId cbRet identifier output).length ≤ dmCmdReplyBufLen :=
    Nat.le_trans loses.2 (by decide)
  obtain ⟨length, returned⟩ := cut_reply_published loses
  have replied := @dmMqttCommandCb_answering message requestId identifier output cbRet productSn
    deviceSn input length isRequest isIdentifier isInput topicFits replyFits
  obtain ⟨other, _, isOther, _, sameTopic, _⟩ := complete _ _ _ ⟨rfl, rfl, rfl⟩
    (fun _ _ _ _ => rfl) ⟨replied, returned⟩
  obtain rfl := Option.some.inj (isOther.symm.trans isRequest)
  have cut := congrArg List.length sameTopic
  rw [dmMqttPublish, List.length_take, loses.1] at cut
  exact absurd cut (by decide)

/-- Of the replies that the two callbacks publish, those to a PROPERTY_SET message are
complete, and those to a command exactly when the topic does not lose its last byte. -/
theorem replies_complete_iff (productSn deviceSn : CString) (message : Mqtt.Message) (cbRet : Int32)
    (output : CString) :
    SetReplyComplete message ∧
    (CommandReplyComplete productSn deviceSn message cbRet output ↔
      ∀ requestId identifier input, Holds message "RequestID" requestId →
        Holds message "Identifier" identifier → Holds message "Input" input →
        ¬LosesByte (commandReplyTopic productSn deviceSn requestId)
          (commandReply requestId cbRet identifier output)) :=
  ⟨dmMqttPropertySetCb_complete message, commandReplyComplete_iff _ _ message cbRet output⟩

/-- A command for a device with long serial numbers. -/
def longNames : CString × CString := (List.replicate 48 0x70, List.replicate 47 0x64)

def switchCommand : Mqtt.Message :=
  messageOf "\x7b\"RequestID\":\"1\",\"Identifier\":\"switch\",\"Input\":\x7b\"on\":1\x7d\x7d"

/-- The topic of the reply has 128 bytes. -/
theorem cut_topic_published :
    (commandReplyTopic longNames.1 longNames.2 (literal "1")).length = 128 ∧
      ¬CommandReplyComplete longNames.1 longNames.2 switchCommand 0 [] := by
  have isRequest : Holds switchCommand "RequestID" (literal "1") := by
    rw [Holds]
    decide +kernel
  have isIdentifier : Holds switchCommand "Identifier" (literal "switch") := by
    rw [Holds]
    decide +kernel
  have isInput : Holds switchCommand "Input" (literal "\x7b\"on\":1\x7d") := by
    rw [Holds]
    decide +kernel
  have isLong : (commandReplyTopic longNames.1 longNames.2 (literal "1")).length = 128 := by
    decide +kernel
  refine ⟨isLong, ?_⟩
  intro complete
  exact (commandReplyComplete_iff _ _ _ _ _).mp complete _ _ _ isRequest isIdentifier isInput
    ⟨isLong, by decide +kernel⟩

end UIoT.DevModel
