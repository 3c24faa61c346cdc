import UIoT.DevModel.Fitting
import UIoT.DevModel.Replies
import UIoT.Lib.JsonWriter
import UIoT.Mqtt.Broker

/-!
# Reports to the cloud

`IOT_DM_Property_ReportEx` and `IOT_DM_TriggerEventEx` turn properties into a text,
put the text into a message with the id of the request and publish the message.

What an application can mean is told by `Property`, in which a name is a string that
needs no escape, a floating point number is finite and no list is empty. A report of
such properties that is published is read by the broker as one publication on the
topic of its type, and its payload says the id, the names and the values, in their
order (`reports_read`).
-/

set_option autoImplicit false

namespace UIoT.DevModel

open Utils Json
open Mqtt (CString)

/-! ## The messages -/

/-- `DM_EVENT_POST_BUF_LEN` -/
abbrev dmEventPostBufLen : Nat := 2048

/-- The formats of `_dm_mqtt_gen_property_payload`, filled in: none for a type that the
function does not know. -/
def propertyMessage (type : DMType) (requestId : Int32) (payload : CString) : Option (List UInt8) :=
  let opening := literal "\x7b\"RequestID\": \"" ++ formatInt requestId.toInt ++ literal "\""
  match type with
  | .propertyRestore => some (opening ++ literal "\x7d")
  | .propertyPost => some (opening ++ literal ", \"Property\": \x7b" ++ payload ++ literal "\x7d\x7d")
  | .propertyDesiredGet => some (opening ++ literal ", \"Require\": [" ++ payload ++ literal "]\x7d")
  | .propertyDesiredDelete =>
      some (opening ++ literal ", \"Delete\": \x7b" ++ payload ++ literal "\x7d\x7d")
  | _ => none

/-- `_dm_mqtt_gen_property_payload` -/
def dmMqttGenPropertyPayload (buf : Buffer) (bufLen : Nat) (type : DMType) (requestId : Int32)
    (payload : CString) : Int × Buffer :=
  match propertyMessage type requestId payload with
  | none => (failureRet, buf)
  | some text =>
      let (ret, buf) := halSnprintf buf 0 bufLen text
      (if ret < 0 ∨ bufLen ≤ ret then failureRet else successRet, buf)

/-- The format of `_dm_mqtt_gen_event_payload`, filled in. -/
def eventMessage (requestId : Int32) (identifier payload : CString) : List UInt8 :=
  literal "\x7b\"RequestID\": \"" ++ formatInt requestId.toInt ++ literal "\", \"Identifier\": \"" ++
    identifier ++ literal "\", \"Output\": \x7b" ++ payload ++ literal "\x7d\x7d"

/-- `_dm_mqtt_gen_event_payload` -/
def dmMqttGenEventPayload (buf : Buffer) (bufLen : Nat) (requestId : Int32)
    (identifier payload : CString) : Int × Buffer :=
  let (ret, buf) := halSnprintf buf 0 bufLen (eventMessage requestId identifier payload)
  (if ret < 0 ∨ bufLen ≤ ret then failureRet else successRet, buf)

/-! ## The reports -/

/-- What a report gets from outside: the buffers that are allocated, under the names of
their variables, those for what is nested in properties, and what `IOT_MQTT_Publish`
gets. The array of the properties is allocated. -/
structure ReportEnv where
  payload : Option Buffer
  nested : Malloc
  msgReport : Option Buffer
  topic : Option Buffer
  mqtt : Mqtt.Env

/-- What a report returns, the client and what is sent. -/
structure Report where
  ret : Int
  client : Mqtt.Client
  outputs : List Mqtt.Output

section Reports

variable (handle : DMMqttStruct) (env : ReportEnv)

/-- Nothing is published. -/
def Report.failed : Report := ⟨failureRet, handle.mqtt, []⟩

/-- `_dm_mqtt_publish`, whose codes below zero are one. -/
def publishReport (topicName msg : CString) : Report :=
  let published := Mqtt.uiotMqttPublish handle.mqtt topicName ⟨.qos1, 0, 0, some msg⟩ env.mqtt
  ⟨if published.ret < 0 then failureRet else published.ret, published.client, published.outputs⟩

/-- The part of the reports behind the allocations: `generate` writes the message. -/
def reportOn (type : DMType) (generate : Buffer → Int × Buffer) : Report :=
  match env.msgReport, env.topic with
  | some msgReport, some topic =>
      let (ret, topic) := dmMqttGenTopicName topic dmTopicBufLen (handle.upstreamTopicTemplates type)
        handle.productSn handle.deviceSn
      if ret ≠ successRet then .failed handle
      else
        let (ret, msgReport) := generate msgReport
        if ret < 0 then .failed handle else publishReport handle env topic.text msgReport.text
  | _, _ => .failed handle

/-- `dm_mqtt_property_report_publish` -/
def dmMqttPropertyReportPublish (type : DMType) (requestId : Int32) (payload : CString) : Report :=
  reportOn handle env type fun msgReport =>
    dmMqttGenPropertyPayload msgReport dmMsgReportBufLen type requestId payload

/-- `dm_mqtt_property_report_publish_Ex` -/
def dmMqttPropertyReportPublishEx (type : DMType) (requestId : Int32) (property : List DMProperty) :
    Report :=
  match env.payload with
  | none => .failed handle
  | some payload =>
      let (ret, payload) := dmGenPropertiesPayload env.nested property type true payload
      if ret = failureRet then .failed handle
      else dmMqttPropertyReportPublish handle env type requestId payload.text

/-- `dm_mqtt_event_publish` -/
def dmMqttEventPublish (requestId : Int32) (identifier payload : CString) : Report :=
  reportOn handle env .eventPost fun msgReport =>
    dmMqttGenEventPayload msgReport dmEventPostBufLen requestId identifier payload

/-- `DM_Event_t` -/
structure DMEvent where
  eventIdenty : CString
  dmProperty : List DMProperty

/-- `dm_mqtt_event_publish_Ex` -/
def dmMqttEventPublishEx (requestId : Int32) (event : DMEvent) : Report :=
  match env.payload with
  | none => .failed handle
  | some propertiesPayload =>
      let (ret, propertiesPayload) :=
        dmGenPropertiesPayload env.nested event.dmProperty .propertyPost false propertiesPayload
      if ret = failureRet then .failed handle
      else dmMqttEventPublish handle env requestId event.eventIdenty propertiesPayload.text

/-- `IOT_DM_Property_Report` -/
def iotDmPropertyReport (type : DMType) (requestId : Int32) (payload : CString) : Report :=
  dmMqttPropertyReportPublish handle env type requestId payload

/-- `IOT_DM_Property_ReportEx` -/
def iotDmPropertyReportEx (type : DMType) (requestId : Int32) (property : List DMProperty) : Report :=
  dmMqttPropertyReportPublishEx handle env type requestId property

/-- `IOT_DM_TriggerEvent` -/
def iotDmTriggerEvent (requestId : Int32) (identifier payload : CString) : Report :=
  dmMqttEventPublish handle env requestId identifier payload

/-- `IOT_DM_TriggerEventEx` -/
def iotDmTriggerEventEx (requestId : Int32) (event : DMEvent) : Report :=
  dmMqttEventPublishEx handle env requestId event

end Reports

/-! ## What an application can mean -/

/-- A scalar that has a text in JSON. -/
inductive Scalar where
  | int (value : Int32)
  | float (negative : Bool) (significand : Nat) (exponent : Int)
  | double (negative : Bool) (significand : Nat) (exponent : Int)
  | bool (value : Bool)
  | enum (value : Int32)
  | string (value : Str)
  | date (value : Int)

/-- A named scalar of a struct. -/
structure Field where
  name : Str
  value : Scalar

/-- What a property holds. A list is given by its first element and the others. -/
inductive Content where
  | scalar (value : Scalar)
  | struct (first : Field) (more : List Field)
  | array (first : Scalar) (more : List Scalar)
  | structs (first : Field × List Field) (more : List (Field × List Field))

structure Property where
  name : Str
  content : Content
  desiredVer : Int32

/-! ## As the source has it -/

def Scalar.base : Scalar → BaseValue
  | .int value => .int value
  | .float negative significand exponent => .float (.finite negative significand exponent)
  | .double negative significand exponent => .double (.finite negative significand exponent)
  | .bool value => .bool value
  | .enum value => .enum value
  | .string value => .string value.bytes
  | .date value => .date value

def Field.node (field : Field) : DMNode := ⟨some field.name.bytes, field.value.base⟩

/-- A struct without a key. -/
def structNode (fields : Field × List Field) : DMTypeStruct :=
  ⟨none, (fields.1 :: fields.2).map Field.node⟩

/-- The union of a property with the key. -/
def Content.value (name : Str) : Content → PropertyValue
  | .scalar value => .node ⟨some name.bytes, value.base⟩
  | .struct first more => .struct ⟨some name.bytes, (first :: more).map Field.node⟩
  | .array first more =>
      .arrayBase ⟨name.bytes, (first :: more).map fun value => ⟨none, value.base⟩⟩
  | .structs first more => .arrayStruct ⟨name.bytes, (first :: more).map structNode⟩

def Property.dm (property : Property) : DMProperty :=
  ⟨property.content.value property.name, property.desiredVer⟩

/-! ## As the cloud reads it -/

/-- The bytes of a number need no escape. -/
theorem formatInt_unescaped (i : Int) : ∀ byte ∈ formatInt i, Unescaped byte := by
  have digits : ∀ digit : Digit, Unescaped (digitByte digit) := by decide
  intro byte among
  rcases List.mem_append.mp among with sign | number
  · split at sign
    · rw [List.mem_singleton.mp sign]
      decide
    · cases sign
  · rcases List.mem_cons.mp number with rfl | more
    · exact digits _
    · obtain ⟨digit, -, rfl⟩ := List.mem_map.mp more
      exact digits digit

/-- A number as a string. -/
def numeral (i : Int) : Str := ⟨formatInt i, formatInt_unescaped i⟩

def Scalar.json : Scalar → Value
  | .int value => .number (.ofInt value.toInt)
  | .float negative significand exponent =>
      .number (ofMillionths negative (millionths significand exponent))
  | .double negative significand exponent =>
      .number (ofMillionths negative (millionths significand exponent))
  | .bool value => .number (.ofInt (if value then 1 else 0))
  | .enum value => .number (.ofInt value.toInt)
  | .string value => .string value
  | .date value => .number (.ofInt value)

def Field.json (field : Field) : Str × Value := (field.name, field.value.json)

/-- An object, with blanks as the formats have them. -/
def spacedObject (members : List (Str × Value)) : Value := .object [] (Members.spaced members)

def spacedArray (elements : List Value) : Value := .array [] (Elements.spaced elements)

def structJson (fields : Field × List Field) : Value :=
  spacedObject ((fields.1 :: fields.2).map Field.json)

def Content.json : Content → Value
  | .scalar value => value.json
  | .struct first more => structJson (first, more)
  | .array first more => spacedArray ((first :: more).map Scalar.json)
  | .structs first more => spacedArray ((first :: more).map structJson)

/-- A value in its wrapper when there is one. -/
def wrap (wrapped : Bool) (value : Value) : Value :=
  if wrapped then spacedObject [(.ofBytes (literal "Value") (by decide), value)] else value

/-- A property as a member of what is posted. -/
def Property.posted (wrapped : Bool) (property : Property) : Str × Value :=
  (property.name, wrap wrapped property.content.json)

/-- A property as a member of what is deleted. -/
def Property.deleted (property : Property) : Str × Value :=
  (property.name, spacedObject
    [(.ofBytes (literal "version") (by decide), .number (.ofInt property.desiredVer.toInt))])

def requestMember (requestId : Int32) : Str × Value :=
  (.ofBytes (literal "RequestID") (by decide), .string (numeral requestId.toInt))

/-- The member in which properties are reported, for the types that do. -/
def reportedMember (properties : List Property) : DMType → Option (Str × Value)
  | .propertyPost =>
      some (.ofBytes (literal "Property") (by decide), spacedObject (properties.map (Property.posted true)))
  | .propertyDesiredGet =>
      some (.ofBytes (literal "Require") (by decide),
        spacedArray (properties.map fun property => .string property.name))
  | .propertyDesiredDelete =>
      some (.ofBytes (literal "Delete") (by decide), spacedObject (properties.map Property.deleted))
  | _ => none

/-- What a report of properties says. -/
def reportJson (requestId : Int32) (reported : Str × Value) : Value :=
  spacedObject [requestMember requestId, reported]

/-- What a report of an event says. -/
def eventJson (requestId : Int32) (identifier : Str) (properties : List Property) : Value :=
  spacedObject [requestMember requestId, (.ofBytes (literal "Identifier") (by decide), .string identifier),
    (.ofBytes (literal "Output") (by decide), spacedObject (properties.map (Property.posted false)))]

/-! ## Texts -/

theorem Scalar.text (value : Scalar) : value.base.conversion = value.json.text := by
  cases value with
  | int value => exact formatInt_eq_text _
  | float negative significand exponent => exact formatFloating_eq_text _ _ _
  | double negative significand exponent => exact formatFloating_eq_text _ _ _
  | bool value => exact formatInt_eq_text _
  | enum value => exact formatInt_eq_text _
  | string value => rfl
  | date value => exact formatInt_eq_text _

theorem spacedObject_text (members : List (Str × Value)) :
    (spacedObject members).text =
      literal "\x7b" ++ commaSeparated (members.map memberText) ++ literal "\x7d" := by
  rw [spacedObject, Value.text, Members.spaced_text]
  rfl

theorem spacedArray_text (elements : List Value) :
    (spacedArray elements).text =
      literal "[" ++ commaSeparated (elements.map Value.text) ++ literal "]" := by
  rw [spacedArray, Value.text, Elements.spaced_text]
  rfl

/-- The format of a value with a key writes the member of an object. -/
theorem renderKeyed_text (name : Str) (wrapped : Bool) (value : Value) :
    renderKeyed (some name.bytes) wrapped value.text = memberText (name, wrap wrapped value) := by
  cases wrapped with
  | false =>
      simp only [renderKeyed, memberText, Str.text, wrap, Bool.false_eq_true, if_false,
        List.append_assoc, List.cons_append]
      rfl
  | true =>
      rw [renderKeyed, memberText, wrap, if_pos rfl, if_pos rfl, spacedObject_text, List.map_singleton,
        commaSeparated, List.intercalate_singleton]
      simp only [memberText, Str.text, List.append_assoc, List.cons_append]
      rfl

theorem renderNode_text (wrapped : Bool) (name : Str) (value : Scalar) :
    renderNode wrapped ⟨some name.bytes, value.base⟩ = memberText (name, wrap wrapped value.json) := by
  rw [renderNode, Scalar.text, renderKeyed_text]

theorem fields_text (fields : List Field) :
    commaSeparated ((fields.map Field.node).map (renderNode false)) =
      commaSeparated ((fields.map Field.json).map memberText) := by
  rw [List.map_map, List.map_map]
  congr 2
  funext field
  exact renderNode_text false field.name field.value

theorem structNode_text (fields : Field × List Field) :
    renderStruct false (structNode fields) = (structJson fields).text := by
  rw [renderStruct, structNode, renderKeyed, fields_text, structJson, spacedObject_text]

/-- A posted property is written as a member of an object. -/
theorem Property.posted_text (wrapped : Bool) (property : Property) :
    property.dm.value.render wrapped = memberText (property.posted wrapped) := by
  obtain ⟨name, content, desiredVer⟩ := property
  rw [Property.posted, ← renderKeyed_text]
  cases content with
  | scalar value =>
      rw [renderKeyed_text]
      exact renderNode_text wrapped name value
  | struct first more =>
      rw [Content.json, structJson, spacedObject_text, ← fields_text]
      rfl
  | array first more =>
      have elements : ((first :: more).map fun value => (⟨none, value.base⟩ : DMNode)).map
          (renderNode false) = ((first :: more).map Scalar.json).map Value.text := by
        rw [List.map_map, List.map_map]
        congr 1
        funext value
        exact value.text
      rw [Content.json, spacedArray_text, ← elements]
      rfl
  | structs first more =>
      have elements : ((first :: more).map structNode).map (renderStruct false) =
          ((first :: more).map structJson).map Value.text := by
        rw [List.map_map, List.map_map]
        congr 1
        funext fields
        exact structNode_text fields
      rw [Content.json, spacedArray_text, ← elements]
      rfl

/-- The name of a property is its key. -/
theorem Property.keyText (property : Property) : property.dm.value.keyText = property.name.bytes := by
  obtain ⟨name, content, desiredVer⟩ := property
  cases content <;> rfl

/-- A deleted property is written as a member of an object. -/
theorem Property.deleted_text (property : Property) :
    literal "\"" ++ property.dm.value.keyText ++ literal "\": \x7b\"version\": " ++
        formatInt property.desiredVer.toInt ++ literal "\x7d" = memberText property.deleted := by
  rw [Property.keyText, Property.deleted, memberText, spacedObject_text, List.map_singleton,
    commaSeparated, List.intercalate_singleton, memberText, formatInt_eq_text]
  simp only [Str.text, List.append_assoc, List.cons_append]
  rfl

theorem renderAs_post (wrapped : Bool) (properties : List Property) :
    renderAs .propertyPost wrapped (properties.map Property.dm) =
      commaSeparated ((properties.map (Property.posted wrapped)).map memberText) := by
  rw [renderAs, List.map_map, List.map_map]
  congr 2
  funext property
  exact property.posted_text wrapped

theorem renderAs_desiredGet (wrapped : Bool) (properties : List Property) :
    renderAs .propertyDesiredGet wrapped (properties.map Property.dm) =
      commaSeparated ((properties.map fun property => Value.string property.name).map Value.text) := by
  rw [renderAs, List.map_map, List.map_map]
  congr 2
  funext property
  exact congrArg (fun key => literal "\"" ++ key ++ literal "\"") property.keyText

theorem renderAs_desiredDelete (wrapped : Bool) (properties : List Property) :
    renderAs .propertyDesiredDelete wrapped (properties.map Property.dm) =
      commaSeparated ((properties.map Property.deleted).map memberText) := by
  rw [renderAs, List.map_map, List.map_map]
  congr 2
  funext property
  exact property.deleted_text

theorem requestMember_text (requestId : Int32) :
    literal "\x7b\"RequestID\": \"" ++ formatInt requestId.toInt ++ literal "\"" =
      literal "\x7b" ++ memberText (requestMember requestId) := by
  simp only [requestMember, memberText, Value.text, Str.text, List.append_assoc, List.cons_append]
  rfl

/-- The message of a report is the text of what it says. -/
theorem propertyMessage_text {properties : List Property} {type : DMType} {reported : Str × Value}
    (isReported : reportedMember properties type = some reported) (requestId : Int32) :
    propertyMessage type requestId (renderAs type true (properties.map Property.dm)) =
      some (reportJson requestId reported).text := by
  have text : (reportJson requestId reported).text = literal "\x7b" ++ memberText (requestMember requestId) ++
      literal ", " ++ memberText reported ++ literal "\x7d" := by
    rw [reportJson, spacedObject_text]
    simp only [List.map_cons, List.map_nil, commaSeparated, List.intercalate_cons_cons,
      List.intercalate_singleton, List.append_assoc]
  rw [text, ← requestMember_text]
  cases type with
  | propertyPost =>
      obtain rfl := Option.some.inj isReported
      rw [propertyMessage, renderAs_post, memberText, spacedObject_text]
      simp only [Str.text, List.append_assoc, List.cons_append]
      rfl
  | propertyDesiredGet =>
      obtain rfl := Option.some.inj isReported
      rw [propertyMessage, renderAs_desiredGet, memberText, spacedArray_text]
      simp only [Str.text, List.append_assoc, List.cons_append]
      rfl
  | propertyDesiredDelete =>
      obtain rfl := Option.some.inj isReported
      rw [propertyMessage, renderAs_desiredDelete, memberText, spacedObject_text]
      simp only [Str.text, List.append_assoc, List.cons_append]
      rfl
  | propertyRestore => cases isReported
  | propertySet => cases isReported
  | eventPost => cases isReported
  | command => cases isReported

theorem eventMessage_text (requestId : Int32) (identifier : Str) (properties : List Property) :
    eventMessage requestId identifier.bytes
        (renderAs .propertyPost false (properties.map Property.dm)) =
      (eventJson requestId identifier properties).text := by
  rw [eventJson, spacedObject_text, renderAs_post, eventMessage]
  simp only [List.map_cons, List.map_nil, commaSeparated, List.intercalate_cons_cons,
    List.intercalate_singleton, memberText, spacedObject_text, requestMember, Value.text, Str.text,
    List.append_assoc, List.cons_append]
  rfl

/-! ## Codes of the generators -/

/-- A code of `dm_gen_properties_payload`. -/
def IsCode (ret : Int) : Prop := ret = successRet ∨ ret = failureRet

theorem isCode_ite (P : Prop) [Decidable P] : IsCode (if P then failureRet else successRet) := by
  split
  · exact .inr rfl
  · exact .inl rfl

section Codes

variable {α : Type} {generate : Generator α} {opening closing : List UInt8} {num : Nat}

theorem genLoop_isCode (codes : ∀ element buffer allocs, IsCode (generate element buffer allocs).1) :
    ∀ (elements : List α) (loop : Nat) (state : ListState),
      IsCode (genLoop generate opening closing num elements loop state).1 := by
  intro elements
  induction elements with
  | nil => exact fun loop state => .inl rfl
  | cons element elements inductionHypothesis =>
      intro loop state
      rw [genLoop_cons]
      split
      · exact codes element state.payload state.allocs
      · exact inductionHypothesis _ _

theorem finish_isCode {run : Int × ListState} (code : IsCode run.1) : IsCode (finish run).1 := by
  rw [finish]
  split
  · exact code
  split
  · exact .inr rfl
  · exact .inl rfl

theorem genListPayload_isCode (codes : ∀ element buffer allocs, IsCode (generate element buffer allocs).1)
    (malloc : Malloc) (value : List α) (output : Buffer) (allocs : Nat) :
    IsCode (genListPayload malloc generate opening closing value output allocs).1 := by
  cases isPayload : malloc allocs with
  | none =>
      rw [genListPayload, isPayload]
      exact .inr rfl
  | some payload =>
      cases value with
      | nil =>
          rw [genListPayload, isPayload]
          exact @finish_isCode (successRet, ⟨payload, output, 0, 0, allocs + 1⟩) (.inl rfl)
      | cons first rest =>
          cases rest with
          | nil =>
              rw [genListPayload_single isPayload]
              split
              · exact codes first payload (allocs + 1)
              · exact .inl rfl
          | cons second elements =>
              rw [genListPayload_several isPayload]
              exact finish_isCode (genLoop_isCode codes _ _ _)

end Codes

theorem genElement_isCode (dmNode : DMNode) (nodePayload : Buffer) (allocs : Nat) :
    IsCode (genElement dmNode nodePayload allocs).1 :=
  isCode_ite _

theorem dmGenStructPayload_isCode (malloc : Malloc) (dmStruct : DMTypeStruct) (valueKey : Bool)
    (structPayload : Buffer) (allocs : Nat) :
    IsCode (dmGenStructPayload malloc dmStruct valueKey structPayload allocs).1 :=
  genListPayload_isCode genElement_isCode malloc dmStruct.value structPayload allocs

theorem dmGenArrayBasePayload_isCode (malloc : Malloc) (dmArrayBase : DMArrayBase) (valueKey : Bool)
    (arrayBasePayload : Buffer) (allocs : Nat) :
    IsCode (dmGenArrayBasePayload malloc dmArrayBase valueKey arrayBasePayload allocs).1 :=
  genListPayload_isCode genElement_isCode malloc dmArrayBase.value arrayBasePayload allocs

theorem dmGenArrayStructPayload_isCode (malloc : Malloc) (dmArrayStruct : DMArrayStruct)
    (valueKey : Bool) (arrayStructPayload : Buffer) (allocs : Nat) :
    IsCode (dmGenArrayStructPayload malloc dmArrayStruct valueKey arrayStructPayload allocs).1 :=
  genListPayload_isCode (fun dmStruct => dmGenStructPayload_isCode malloc dmStruct false) malloc
    dmArrayStruct.value arrayStructPayload allocs

theorem genProperty_isCode (malloc : Malloc) (type : DMType) (valueKey : Bool) (property : DMProperty)
    (payload : Buffer) (allocs : Nat) :
    IsCode (genProperty malloc type valueKey property payload allocs).1 := by
  cases type with
  | propertyPost =>
      obtain ⟨value, desiredVer⟩ := property
      cases value with
      | node dmNode => exact isCode_ite _
      | struct dmStruct => exact dmGenStructPayload_isCode malloc dmStruct valueKey payload allocs
      | arrayBase dmArrayBase =>
          exact dmGenArrayBasePayload_isCode malloc dmArrayBase valueKey payload allocs
      | arrayStruct dmArrayStruct =>
          exact dmGenArrayStructPayload_isCode malloc dmArrayStruct valueKey payload allocs
  | propertyDesiredGet =>
      exact isCode_ite ((halSnprintf payload 0 dmMsgReportBufLen
        (literal "\"" ++ property.value.keyText ++ literal "\"")).1 < 0)
  | propertyDesiredDelete =>
      exact isCode_ite ((halSnprintf payload 0 dmMsgReportBufLen
        (literal "\"" ++ property.value.keyText ++ literal "\": \x7b\"version\": " ++
          formatInt property.desiredVer.toInt ++ literal "\x7d")).1 < 0)
  | propertyRestore => exact .inl rfl
  | propertySet => exact .inl rfl
  | eventPost => exact .inl rfl
  | command => exact .inl rfl

/-- `dm_gen_properties_payload` returns one of two codes. -/
theorem dmGenPropertiesPayload_isCode (malloc : Malloc) (property : List DMProperty) (type : DMType)
    (valueKey : Bool) (propertiesPayload : Buffer) :
    IsCode (dmGenPropertiesPayload malloc property type valueKey propertiesPayload).1 := by
  cases isPayload : malloc 0 with
  | none =>
      rw [dmGenPropertiesPayload, isPayload]
      exact .inr rfl
  | some payload =>
      rw [dmGenPropertiesPayload_eq isPayload]
      exact finish_isCode (genLoop_isCode (genProperty_isCode malloc type valueKey) _ _ _)

/-! ## What the broker reads -/

/-- A text of an object says what the object says. -/
theorem read_spacedObject (members : List (Str × Value)) :
    read (spacedObject members).text = some (spacedObject members).data := by
  have isText := read_object members
  rw [spacedObject_text, spacedObject, Value.data, Members.spaced_data]
  exact isText

/-- The topic of a report. -/
def reportTopic (type : DMType) (productSn deviceSn : CString) : CString :=
  fillIn (gDmMqttCb type).upstreamTopicTemplate [productSn, deviceSn]

/-- How a report ends: the broker reads one publication, whose payload says all of it,
or nothing is published. -/
inductive Reported (client : Mqtt.Client) (topic : CString) (data : Data) (report : Report) : Prop where
  | told (packet payload : List UInt8) (accepted : 0 ≤ report.ret)
      (outputs : report.outputs = [.wire packet])
      (content : Mqtt.publicationIn packet =
        some (Mqtt.publicationOf client topic ⟨.qos1, 0, 0, some payload⟩ payload))
      (isData : read payload = some data)
  | failed (refused : report.ret < 0) (outputs : report.outputs = [] ∨ report.outputs = [.wire []])

/-- A message that a generator succeeds on says something. -/
def Generates (generate : Buffer → Int × Buffer) (data : Data) : Prop :=
  ∀ buffer, ¬(generate buffer).1 < 0 →
    read (generate buffer).2.text = some data ∧ (generate buffer).2.text.length < 2 ^ 31

section Reading

variable {handle : DMMqttStruct} {env : ReportEnv} {type : DMType} {data : Data}

theorem Reported.of_failed (topic : CString) :
    Reported handle.mqtt topic data (.failed handle) :=
  .failed (of_decide_eq_true rfl) (.inl rfl)

theorem publishReport_read (size : handle.mqtt.writeBufSize = Mqtt.uiotMqttTxBufLen)
    (room : handle.mqtt.writeBufSize ≤ handle.mqtt.writeBuf.length) {topic msg : CString}
    (isData : read msg = some data) (small : msg.length < 2 ^ 31)
    (whole : Mqtt.WholeWrites (publishReport handle env topic msg).outputs) :
    Reported handle.mqtt topic data (publishReport handle env topic msg) := by
  have ends := @Mqtt.uiotMqttPublish_ends handle.mqtt topic ⟨.qos1, 0, 0, some msg⟩ env.mqtt size room
    (fun payload isPayload => Option.some.inj isPayload ▸ small) whole
  cases ends with
  | sent packet payload accepted outputs isPayload isFrame content =>
      obtain rfl := Option.some.inj isPayload
      refine .told packet msg ?_ outputs content isData
      rw [publishReport]
      dsimp only
      rw [if_neg (Int.not_lt.mpr accepted)]
      exact accepted
  | failed refused outputs =>
      refine .failed ?_ outputs
      rw [publishReport]
      dsimp only
      rw [if_pos refused]
      exact of_decide_eq_true rfl

theorem reportOn_read (size : handle.mqtt.writeBufSize = Mqtt.uiotMqttTxBufLen)
    (room : handle.mqtt.writeBufSize ≤ handle.mqtt.writeBuf.length) (isSet : handle.callbacks type)
    {generate : Buffer → Int × Buffer} (generates : Generates generate data)
    (whole : Mqtt.WholeWrites (reportOn handle env type generate).outputs) :
    Reported handle.mqtt (reportTopic type handle.productSn handle.deviceSn) data
      (reportOn handle env type generate) := by
  rw [reportOn] at whole ⊢
  split
  · rename_i msgReport topic isMsg isTopic
    rw [isMsg, isTopic] at whole
    dsimp only at whole ⊢
    split
    · exact .of_failed _
    · rename_i named
      rw [if_neg named] at whole
      have topicText := dmMqttGenTopicName_success (by decide) (by decide) (not_not.mp named)
      rw [(handle.registered type isSet).1] at topicText whole ⊢
      split
      · exact .of_failed _
      · rename_i generated
        rw [if_neg generated] at whole
        obtain ⟨isData, small⟩ := generates msgReport generated
        rw [topicText] at whole ⊢
        exact publishReport_read size room isData small whole
  · exact .of_failed _

/-- A text that a format writes as a whole, or not at all. -/
theorem generates_text {bufLen : Nat} (positive : 0 < bufLen) (small : bufLen < 2 ^ 31)
    {text : List UInt8} (isData : read text = some data) :
    Generates (fun buffer =>
      let (ret, buffer) := halSnprintf buffer 0 bufLen text
      (if ret < 0 ∨ bufLen ≤ ret then failureRet else successRet, buffer)) data := by
  intro buffer succeeded
  have word : bufLen < sizeModulus := Nat.lt_trans small (by decide)
  obtain ⟨isRet, isText⟩ := halSnprintf_fresh buffer positive word text
  dsimp only at succeeded ⊢
  rw [isRet] at succeeded
  split at succeeded
  · exact absurd (of_decide_eq_true rfl) succeeded
  · rename_i fits
    rw [isText, take_shorter (by omega)]
    exact ⟨isData, by omega⟩

variable {properties : List Property} {requestId : Int32}

theorem iotDmPropertyReportEx_read (size : handle.mqtt.writeBufSize = Mqtt.uiotMqttTxBufLen)
    (room : handle.mqtt.writeBufSize ≤ handle.mqtt.writeBuf.length) (isSet : handle.callbacks type)
    {reported : Str × Value} (isReported : reportedMember properties type = some reported)
    (fits : PayloadFits type true (properties.map Property.dm))
    (whole : Mqtt.WholeWrites
      (iotDmPropertyReportEx handle env type requestId (properties.map Property.dm)).outputs) :
    Reported handle.mqtt (reportTopic type handle.productSn handle.deviceSn)
      (reportJson requestId reported).data
      (iotDmPropertyReportEx handle env type requestId (properties.map Property.dm)) := by
  rw [iotDmPropertyReportEx, dmMqttPropertyReportPublishEx] at whole ⊢
  split
  · exact .of_failed _
  · rename_i payload isPayload
    have codes := dmGenPropertiesPayload_isCode env.nested (properties.map Property.dm) type true payload
    have run := completeRun_of_fits fits env.nested payload
    rw [isPayload] at whole
    dsimp only at whole ⊢
    split
    · exact .of_failed _
    · rename_i generated
      rw [if_neg generated] at whole
      rw [(run.renders (codes.resolve_right generated)).1] at whole ⊢
      refine reportOn_read size room isSet ?_ whole
      have isText := propertyMessage_text isReported requestId
      have isData : read (reportJson requestId reported).text = some (reportJson requestId reported).data :=
        read_spacedObject _
      have generates := @generates_text _ dmMsgReportBufLen (by decide) (by decide) _ isData
      intro buffer succeeded
      dsimp only at succeeded ⊢
      rw [dmMqttGenPropertyPayload, isText] at succeeded ⊢
      exact generates buffer succeeded

theorem iotDmTriggerEventEx_read (size : handle.mqtt.writeBufSize = Mqtt.uiotMqttTxBufLen)
    (room : handle.mqtt.writeBufSize ≤ handle.mqtt.writeBuf.length) (isSet : handle.callbacks .eventPost)
    {identifier : Str} (fits : PayloadFits .propertyPost false (properties.map Property.dm))
    (whole : Mqtt.WholeWrites (iotDmTriggerEventEx handle env requestId
      ⟨identifier.bytes, properties.map Property.dm⟩).outputs) :
    Reported handle.mqtt (reportTopic .eventPost handle.productSn handle.deviceSn)
      (eventJson requestId identifier properties).data
      (iotDmTriggerEventEx handle env requestId ⟨identifier.bytes, properties.map Property.dm⟩) := by
  rw [iotDmTriggerEventEx, dmMqttEventPublishEx] at whole ⊢
  split
  · exact .of_failed _
  · rename_i payload isPayload
    have codes := dmGenPropertiesPayload_isCode env.nested (properties.map Property.dm) .propertyPost
      false payload
    have run := completeRun_of_fits fits env.nested payload
    rw [isPayload] at whole
    dsimp only at whole ⊢
    split
    · exact .of_failed _
    · rename_i generated
      rw [if_neg generated] at whole
      rw [(run.renders (codes.resolve_right generated)).1] at whole ⊢
      refine reportOn_read size room isSet ?_ whole
      have isText := eventMessage_text requestId identifier properties
      have isData : read (eventJson requestId identifier properties).text =
          some (eventJson requestId identifier properties).data := read_spacedObject _
      have generates := @generates_text _ dmEventPostBufLen (by decide) (by decide) _ isData
      intro buffer succeeded
      dsimp only at succeeded ⊢
      rw [dmMqttGenEventPayload, isText] at succeeded ⊢
      exact generates buffer succeeded

/-- A report that is published is read by the broker as one publication on the topic of
its type, whose payload says the id of the request, the names and what they hold, in
their order. -/
theorem reports_read (size : handle.mqtt.writeBufSize = Mqtt.uiotMqttTxBufLen)
    (room : handle.mqtt.writeBufSize ≤ handle.mqtt.writeBuf.length) (requestId : Int32)
    (properties : List Property) :
    (∀ type reported, handle.callbacks type → reportedMember properties type = some reported →
      PayloadFits type true (properties.map Property.dm) →
      Mqtt.WholeWrites
        (iotDmPropertyReportEx handle env type requestId (properties.map Property.dm)).outputs →
      Reported handle.mqtt (reportTopic type handle.productSn handle.deviceSn)
        (reportJson requestId reported).data
        (iotDmPropertyReportEx handle env type requestId (properties.map Property.dm))) ∧
    (∀ identifier : Str, handle.callbacks .eventPost →
      PayloadFits .propertyPost false (properties.map Property.dm) →
      Mqtt.WholeWrites (iotDmTriggerEventEx handle env requestId
        ⟨identifier.bytes, properties.map Property.dm⟩).outputs →
      Reported handle.mqtt (reportTopic .eventPost handle.productSn handle.deviceSn)
        (eventJson requestId identifier properties).data
        (iotDmTriggerEventEx handle env requestId ⟨identifier.bytes, properties.map Property.dm⟩)) :=
  ⟨fun _ _ isSet isReported fits whole =>
    iotDmPropertyReportEx_read size room isSet isReported fits whole,
    fun _ isSet fits whole => iotDmTriggerEventEx_read size room isSet fits whole⟩

end Reading

/-! ## A lamp -/

def lampHandle : DMMqttStruct :=
  ((dscInit (literal "p") (literal "d") Mqtt.attachedClient).enter .propertyPost).enter .eventPost

/-- A switch and a color. -/
def lamp : List Property :=
  [⟨.ofBytes (literal "on") (by decide), .scalar (.bool true), 0⟩,
    ⟨.ofBytes (literal "color") (by decide),
      .struct ⟨.ofBytes (literal "red") (by decide), .int 255⟩
        [⟨.ofBytes (literal "green") (by decide), .int 0⟩], 0⟩]

/-- Everything is allocated, and the network takes as many bytes. -/
def lampEnv (length : Nat) : ReportEnv where
  payload := some ⟨[], 0, false⟩
  nested _ := some ⟨[], 0, false⟩
  msgReport := some ⟨[], 0, false⟩
  topic := some ⟨[], 0, false⟩
  mqtt := Mqtt.calm length

theorem lamp_fits (wrapped : Bool) : PayloadFits .propertyPost wrapped (lamp.map Property.dm) := by
  refine ⟨trivial, fun _ => ⟨⟨trivial, fun _ => ⟨trivial, fun _ => ⟨?_, ?_⟩⟩⟩, fun _ => ⟨?_, ?_⟩⟩⟩
  · cases wrapped <;> decide +kernel
  · refine (?_ : List.length _ ≠ dmMsgReportBufLen)
    cases wrapped <;> decide +kernel
  · cases wrapped <;> decide +kernel
  · refine (?_ : List.length _ ≠ dmMsgReportBufLen)
    cases wrapped <;> decide +kernel

/-- The lamp reports itself, and reports an event, in one packet each. -/
theorem reports_read_lamp :
    (∃ reported, reportedMember lamp .propertyPost = some reported ∧
      Reported lampHandle.mqtt (reportTopic .propertyPost (literal "p") (literal "d"))
        (reportJson 7 reported).data
        (iotDmPropertyReportEx lampHandle (lampEnv 138) .propertyPost 7 (lamp.map Property.dm)) ∧
      0 ≤ (iotDmPropertyReportEx lampHandle (lampEnv 138) .propertyPost 7 (lamp.map Property.dm)).ret) ∧
    Reported lampHandle.mqtt (reportTopic .eventPost (literal "p") (literal "d"))
      (eventJson 7 (.ofBytes (literal "alarm") (by decide)) lamp).data
      (iotDmTriggerEventEx lampHandle (lampEnv 134) 7 ⟨literal "alarm", lamp.map Property.dm⟩) ∧
    0 ≤ (iotDmTriggerEventEx lampHandle (lampEnv 134) 7 ⟨literal "alarm", lamp.map Property.dm⟩).ret := by
  have room : lampHandle.mqtt.writeBufSize ≤ lampHandle.mqtt.writeBuf.length := by decide +kernel
  refine ⟨⟨_, rfl, ?_, by decide +kernel⟩, ?_, by decide +kernel⟩
  · exact (@reports_read lampHandle (lampEnv 138) rfl room 7 lamp).1 .propertyPost _ rfl rfl
      (lamp_fits true) (by decide +kernel)
  · exact (@reports_read lampHandle (lampEnv 134) rfl room 7 lamp).2
      (.ofBytes (literal "alarm") (by decide)) rfl (lamp_fits false) (by decide +kernel)

end UIoT.DevModel
