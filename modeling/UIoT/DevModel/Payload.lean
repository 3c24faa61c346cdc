import UIoT.Mqtt.TopicMatch
import UIoT.Utils.Printf

/-!
# The payloads of the device model

`dm_gen_properties_payload` writes the JSON text of some properties into a buffer. What is
nested in a property is first written into a buffer of its own, which is allocated by the
generator of what is around it. A fresh buffer holds some text, and so does the one that
the caller passes.
-/

set_option autoImplicit false

namespace UIoT.DevModel

open Utils Json
open Mqtt (CString)

/-! ## Properties -/

/-- A scalar: `DM_Base_Type` with the member of `DM_Base_Value_U` that it selects. -/
inductive BaseValue where
  | int (value : Int32)
  | float (value : Floating)
  | double (value : Floating)
  | bool (value : Bool)
  | enum (value : Int32)
  | string (value : CString)
  | date (value : Int)

/-- `DM_Node_t` -/
structure DMNode where
  key : Option CString
  value : BaseValue

/-- `DM_Type_Struct_t`. Here and in the arrays `num` is the length of `value`. -/
structure DMTypeStruct where
  key : Option CString
  value : List DMNode

/-- `DM_Array_Base_t` -/
structure DMArrayBase where
  key : CString
  value : List DMNode

/-- `DM_Array_Struct_t` -/
structure DMArrayStruct where
  key : CString
  value : List DMTypeStruct

/-- `DM_Parse_Type` with the member of `DM_Property_Value_U` that it selects. -/
inductive PropertyValue where
  | node (dmNode : DMNode)
  | struct (dmStruct : DMTypeStruct)
  | arrayBase (dmArrayBase : DMArrayBase)
  | arrayStruct (dmArrayStruct : DMArrayStruct)

/-- `DM_Property_t` -/
structure DMProperty where
  value : PropertyValue
  desiredVer : Int32

/-- `DM_Type` -/
inductive DMType where
  | propertyRestore | propertyPost | propertySet | propertyDesiredGet | propertyDesiredDelete
  | eventPost | command

deriving instance DecidableEq, Repr for BaseValue, DMNode, DMTypeStruct, DMArrayBase, DMArrayStruct,
  PropertyValue, DMProperty, DMType

/-! ## Formatted text -/

abbrev dmMsgReportBufLen : Nat := 2048

/-- `HAL_Snprintf`: its length is signed, and `vsnprintf` takes it as a `size_t`. -/
def halSnprintf (buffer : Buffer) (offset : Nat) (len : Int) (text : List UInt8) : Int × Buffer :=
  snprintf buffer offset (len % sizeModulus).toNat text

/-- The conversion of a scalar, with the quotes around that of a string. -/
def BaseValue.conversion : BaseValue → List UInt8
  | .int value => formatInt value.toInt
  | .bool value => formatInt (if value then 1 else 0)
  | .enum value => formatInt value.toInt
  | .float value => formatFloating value
  | .double value => formatFloating value
  | .string value => literal "\"" ++ value ++ literal "\""
  | .date value => formatInt value

/-- What the formats have before a value: its key when it has one, and the start of the
wrapper when `value_key` asks for it. -/
def keyOpening : Option CString → Bool → List UInt8
  | none, _ => []
  | some key, true => literal "\"" ++ key ++ literal "\": \x7b\"Value\": "
  | some key, false => literal "\"" ++ key ++ literal "\": "

/-- What the formats have behind a value. -/
def keyClosing : Option CString → Bool → List UInt8
  | some _, true => literal "\x7d"
  | _, _ => []

/-- `dm_gen_node_payload` -/
def dmGenNodePayload (dmNode : DMNode) (valueKey : Bool) (nodePayload : Buffer) : Int × Buffer :=
  let (ret, nodePayload) := halSnprintf nodePayload 0 dmMsgReportBufLen
    (keyOpening dmNode.key valueKey ++ dmNode.value.conversion ++ keyClosing dmNode.key valueKey)
  (if ret < 0 ∨ dmMsgReportBufLen ≤ ret then failureRet else successRet, nodePayload)

/-! ## Lists -/

/-- What `HAL_Malloc` returns, call by call: NULL, or a buffer with what it holds. -/
abbrev Malloc := Nat → Option Buffer

/-- The generator of an element: its return code, the buffer with the element, and how many
calls of `HAL_Malloc` there have been. -/
abbrev Generator (α : Type) := α → Buffer → Nat → Int × Buffer × Nat

/-- The variables of a generator of a list: `payload` is the buffer for an element. -/
structure ListState where
  payload : Buffer
  output : Buffer
  writeSize : Int
  remainSize : Int
  allocs : Nat

/-- One turn behind the generator of the element: `opening` is what the format has before
the first element, and `closing` what it has behind the last. -/
def ListState.write (opening closing : List UInt8) (num loop : Nat) (state : ListState) :
    ListState :=
  if loop = 0 then
    let (writeSize, output) :=
      halSnprintf state.output 0 dmMsgReportBufLen (opening ++ state.payload.text)
    { state with output, writeSize, remainSize := dmMsgReportBufLen - writeSize }
  else
    let (writeSize, output) :=
      halSnprintf state.output state.output.text.length state.remainSize
        (literal ", " ++ state.payload.text ++ if loop = num - 1 then closing else [])
    { state with output, writeSize, remainSize := state.remainSize - writeSize }

/-- The loop of a generator of a list over the elements that are left. -/
def genLoop {α : Type} (generate : Generator α) (opening closing : List UInt8) (num : Nat) :
    List α → Nat → ListState → Int × ListState
  | [], _, state => (successRet, state)
  | element :: elements, loop, state =>
      let (ret, payload, allocs) := generate element state.payload state.allocs
      let state := { state with payload, allocs }
      if ret ≠ successRet then (ret, state)
      else
        genLoop generate opening closing num elements (loop + 1)
          (state.write opening closing num loop)

/-- The generator of a list, which writes a single element at once. -/
def genListPayload {α : Type} (malloc : Malloc) (generate : Generator α)
    (opening closing : List UInt8) (value : List α) (output : Buffer) (allocs : Nat) :
    Int × Buffer × Nat :=
  match malloc allocs with
  | none => (failureRet, output, allocs + 1)
  | some payload =>
      let (ret, state) : Int × ListState :=
        match value with
        | [element] =>
            let (ret, payload, allocs) := generate element payload (allocs + 1)
            if ret ≠ successRet then (ret, ⟨payload, output, 0, 0, allocs⟩)
            else
              let (writeSize, output) :=
                halSnprintf output 0 dmMsgReportBufLen (opening ++ payload.text ++ closing)
              (ret, ⟨payload, output, writeSize, 0, allocs⟩)
        | value =>
            genLoop generate opening closing value.length value 0
              ⟨payload, output, 0, 0, allocs + 1⟩
      if ret ≠ successRet then (ret, state.output, state.allocs)
      else if state.writeSize < 0 ∨ state.remainSize < 0 then
        (failureRet, state.output, state.allocs)
      else (successRet, state.output, state.allocs)

/-- `dm_gen_node_payload` for an element, without the wrapper. -/
def genElement : Generator DMNode := fun dmNode nodePayload allocs =>
  let (ret, nodePayload) := dmGenNodePayload dmNode false nodePayload
  (ret, nodePayload, allocs)

/-- `dm_gen_struct_payload` -/
def dmGenStructPayload (malloc : Malloc) (dmStruct : DMTypeStruct) (valueKey : Bool)
    (structPayload : Buffer) (allocs : Nat) : Int × Buffer × Nat :=
  genListPayload malloc genElement (keyOpening dmStruct.key valueKey ++ literal "\x7b")
    (literal "\x7d" ++ keyClosing dmStruct.key valueKey) dmStruct.value structPayload allocs

/-- `dm_gen_array_base_payload` -/
def dmGenArrayBasePayload (malloc : Malloc) (dmArrayBase : DMArrayBase) (valueKey : Bool)
    (arrayBasePayload : Buffer) (allocs : Nat) : Int × Buffer × Nat :=
  genListPayload malloc genElement (keyOpening (some dmArrayBase.key) valueKey ++ literal "[")
    (literal "]" ++ keyClosing (some dmArrayBase.key) valueKey) dmArrayBase.value arrayBasePayload
    allocs

/-- `dm_gen_array_struct_payload` -/
def dmGenArrayStructPayload (malloc : Malloc) (dmArrayStruct : DMArrayStruct) (valueKey : Bool)
    (arrayStructPayload : Buffer) (allocs : Nat) : Int × Buffer × Nat :=
  genListPayload malloc (fun dmStruct => dmGenStructPayload malloc dmStruct false)
    (keyOpening (some dmArrayStruct.key) valueKey ++ literal "[")
    (literal "]" ++ keyClosing (some dmArrayStruct.key) valueKey) dmArrayStruct.value
    arrayStructPayload allocs

/-! ## Properties -/

/-- `dm_gen_property_post_payload` -/
def dmGenPropertyPostPayload (malloc : Malloc) (property : DMProperty) (valueKey : Bool)
    (propertyPayload : Buffer) (allocs : Nat) : Int × Buffer × Nat :=
  match property.value with
  | .node dmNode =>
      let (ret, propertyPayload) := dmGenNodePayload dmNode valueKey propertyPayload
      (ret, propertyPayload, allocs)
  | .struct dmStruct => dmGenStructPayload malloc dmStruct valueKey propertyPayload allocs
  | .arrayBase dmArrayBase =>
      dmGenArrayBasePayload malloc dmArrayBase valueKey propertyPayload allocs
  | .arrayStruct dmArrayStruct =>
      dmGenArrayStructPayload malloc dmArrayStruct valueKey propertyPayload allocs

/-- The key of what a property holds, as `%s` prints it. What is printed for NULL is
unspecified; it is empty here. -/
def PropertyValue.keyText : PropertyValue → List UInt8
  | .node dmNode => dmNode.key.getD []
  | .struct dmStruct => dmStruct.key.getD []
  | .arrayBase dmArrayBase => dmArrayBase.key
  | .arrayStruct dmArrayStruct => dmArrayStruct.key

/-- `dm_gen_property_desired_payload`: a text that is cut off is not noticed. -/
def dmGenPropertyDesiredPayload (property : DMProperty) (desiredPayload : Buffer) : Int × Buffer :=
  let (writeSize, desiredPayload) := halSnprintf desiredPayload 0 dmMsgReportBufLen
    (literal "\"" ++ property.value.keyText ++ literal "\"")
  (if writeSize < 0 then failureRet else successRet, desiredPayload)

/-- `dm_gen_property_delete_payload` -/
def dmGenPropertyDeletePayload (property : DMProperty) (deletePayload : Buffer) : Int × Buffer :=
  let (writeSize, deletePayload) := halSnprintf deletePayload 0 dmMsgReportBufLen
    (literal "\"" ++ property.value.keyText ++ literal "\": \x7b\"version\": " ++
      formatInt property.desiredVer.toInt ++ literal "\x7d")
  (if writeSize < 0 then failureRet else successRet, deletePayload)

/-- The `switch` of `dm_gen_properties_payload`: a type that it does not know leaves the
payload as it is. -/
def genProperty (malloc : Malloc) (type : DMType) (valueKey : Bool) : Generator DMProperty :=
  fun property payload allocs =>
    match type with
    | .propertyPost => dmGenPropertyPostPayload malloc property valueKey payload allocs
    | .propertyDesiredGet =>
        let (ret, payload) := dmGenPropertyDesiredPayload property payload
        (ret, payload, allocs)
    | .propertyDesiredDelete =>
        let (ret, payload) := dmGenPropertyDeletePayload property payload
        (ret, payload, allocs)
    | _ => (successRet, payload, allocs)

/-- `dm_gen_properties_payload` -/
def dmGenPropertiesPayload (malloc : Malloc) (property : List DMProperty) (type : DMType)
    (valueKey : Bool) (propertiesPayload : Buffer) : Int × Buffer :=
  match malloc 0 with
  | none => (failureRet, propertiesPayload)
  | some payload =>
      let (ret, state) :=
        genLoop (genProperty malloc type valueKey) [] [] property.length property 0
          ⟨payload, propertiesPayload, 0, 0, 1⟩
      if ret ≠ successRet then (ret, state.output)
      else if state.writeSize < 0 ∨ state.remainSize < 0 then (failureRet, state.output)
      else (successRet, state.output)

end UIoT.DevModel
