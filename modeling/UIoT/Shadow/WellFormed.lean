import UIoT.Lib.JsonReader
import UIoT.Shadow.Bounds
import Mathlib.Algebra.Order.Field.Power
import Mathlib.Data.UInt

/-!
# What the document of a request says

In a buffer of three times its length a document is written in full
(`buildDocument_text`). For properties without special characters, and when the
comma that the closing text overwrites is there, it is a JSON document which
names the method, reports the properties from the tail of the list to its head,
and gives the version (`buildDocument_wellFormed`).
-/

set_option autoImplicit false

namespace UIoT.Shadow

open Utils Json
open Mqtt (CString)

/-! ## What a document should say -/

/-- The data is a number that denotes `value`. -/
def IsNumber (value : ℚ) (data : Data) : Prop :=
  ∃ number : Number, data = .number number ∧ number.toRat = value

/-- The data is a number next to a finite value: `%f` writes six decimals. -/
def IsNear (floating : Floating) (data : Data) : Prop :=
  ∃ (number : Number) (value : ℚ), data = .number number ∧ floating.toRat? = some value ∧
    |number.toRat - value| ≤ 1 / 2000000

/-- The data is the value of a property. -/
def Denotes : Option PropertyData → Data → Prop
  | none, data => data = .null
  | some (.int32 value), data => IsNumber value.toInt data
  | some (.int16 value), data => IsNumber value.toInt data
  | some (.int8 value), data => IsNumber value.toInt data
  | some (.uint32 value), data => IsNumber value.toNat data
  | some (.uint16 value), data => IsNumber value.toNat data
  | some (.uint8 value), data => IsNumber value.toNat data
  | some (.float value), data => IsNear value data
  | some (.double value), data => IsNear value data
  | some (.bool value), data => IsNumber (if value then 1 else 0) data
  | some (.string value), data => ∃ str : Str, data = .string str ∧ str.bytes = value
  | some (.object value), data =>
      ∃ document : Json.Document, document.text = value ∧ data = document.root.data

/-- A property's value has a text: it is a string without special characters, a
finite number or the text of a document. -/
def PlainData : PropertyData → Prop
  | .string value => ∀ byte ∈ value, Unescaped byte
  | .object value => ∃ document : Json.Document, document.text = value
  | .float value => ∃ rat, value.toRat? = some rat
  | .double value => ∃ rat, value.toRat? = some rat
  | _ => True

/-- The key and the value that the method reports have a text. -/
def Plain (method : Method) (property : DeviceProperty) : Prop :=
  (∀ byte ∈ property.key, Unescaped byte) ∧
    ∀ data ∈ reportedData method property, PlainData data

/-- The name of a method in a document. -/
def methodName : Method → List UInt8
  | .get => methodGet
  | .update | .updateAndResetVer | .replyControlUpdate => methodUpdate
  | .delete | .deleteAll | .replyControlDelete => methodDelete

/-- The reported part of the state. -/
def reported (data : Data) : Option Data :=
  (data.member (literal "State")).bind (Data.member (literal "Reported"))

/-- The members of the reported part, if it is an object. -/
def reportedMembers (data : Data) : List (Str × Data) :=
  match reported data with
  | some (.object members) => members
  | _ => []

/-- What the version in a document is. -/
def GivesVersion (version : UInt32) : Method → Option Data → Prop
  | .get, said => said = none
  | .updateAndResetVer, said => ∃ data, said = some data ∧ IsNumber (-1) data
  | _, said => ∃ data, said = some data ∧ IsNumber version.toNat data

/-- A document names the method, reports a list of properties in its order and
gives the version. -/
structure Describes (version : UInt32) (method : Method) (properties : List DeviceProperty)
    (data : Data) : Prop where
  namesMethod : ∃ str : Str, data.member (literal "Method") = some (.string str) ∧
    str.bytes = methodName method
  reportsProperties : List.Forall₂
    (fun property member =>
      member.1.bytes = property.key ∧ Denotes (reportedData method property) member.2)
    properties (reportedMembers data)
  givesVersion : GivesVersion version method (data.member (literal "Version"))

/-- The version is absent, minus one or below the numbers that `%d` takes for
negative ones. -/
def Printed (version : UInt32) (method : Method) : Prop :=
  method ≠ .get → method ≠ .updateAndResetVer → version < 2 ^ 31

/-- The last character of the text in front of the closing one is the one that
the closing text takes it for. -/
def Closable (params : RequestParams) : Prop :=
  params.propertyDeltaList = [] →
    params.method ≠ .update ∧ params.method ≠ .updateAndResetVer ∧ params.method ≠ .delete

/-- The properties that a request reports, in the order of their report. -/
def reportedProperties (params : RequestParams) : List DeviceProperty :=
  if Reports params.method then params.propertyDeltaList.reverse else []

/-! ## The text in full -/

/-- What `shadow_json_set_content` writes when it has room. -/
def contentText (params : RequestParams) : List UInt8 :=
  match params.method with
  | .get => []
  | .deleteAll => literal "null"
  | _ => (pieces params).flatten

/-- What the three steps write when they have room. -/
def documentText (version : UInt32) (params : RequestParams) : List UInt8 :=
  let text := openingText params.method (listed params) ++ contentText params
  text.take (text.length - overwritten params.method (listed params)) ++
    closingText version params.method (listed params)

variable {size : Nat} {buffer : Buffer} {version : UInt32} {params : RequestParams}
  {before : CString}

theorem contentText_reports (reports : Reports params.method) :
    contentText params = (pieces params).flatten := by
  unfold contentText
  split
  · rename_i isGet
    exact absurd isGet reports.1
  · rename_i isDeleteAll
    exact absurd isDeleteAll reports.2
  · rfl

theorem overwritten_le (method : Method) (listed : Bool) : overwritten method listed ≤ 1 := by
  cases method <;> cases listed <;> decide

theorem documentText_length (version : UInt32) (params : RequestParams) :
    (openingText params.method (listed params)).length + (contentText params).length ≤
      (documentText version params).length := by
  have positive := closingText_pos version params.method (listed params)
  have one := overwritten_le params.method (listed params)
  rw [documentText, List.length_append, List.length_take, List.length_append]
  omega

/-- Texts fit when twice their common length is below the size. -/
theorem fits_of_room {texts : List (List UInt8)} : ∀ {len : Nat},
    2 * (len + texts.flatten.length) < size → Fits size len texts := by
  induction texts with
  | nil => exact fun _ => trivial
  | cons text rest ih =>
      intro len room
      rw [List.flatten_cons, List.length_append] at room
      exact ⟨by omega, ih (by omega)⟩

/-- With room for twice the text the second step writes all of its own. -/
theorem shadowJsonSetContent_full (sound : Sound size buffer)
    (room : 2 * (buffer.text.length + (contentText params).length) < size) :
    ∃ after, shadowJsonSetContent buffer size params true = (successRet, after) ∧
      Sound size after ∧ after.text = buffer.text ++ contentText params := by
  by_cases reports : Reports params.method
  · rw [contentText_reports reports] at room ⊢
    cases isListed : listed params with
    | true =>
        have content := @shadowJsonSetContent_listed size buffer params true sound isListed reports
        rw [if_pos rfl] at content
        have filled := setContentLoop_filled params.method params.propertyDeltaList.reverse sound
        rw [← pieces] at filled
        have fits := fits_of_room room
        cases filled with
        | wrap tooLong => exact absurd fits tooLong
        | full _ afterSound written => exact ⟨_, content, afterSound, written⟩
        | cut tooLong => exact absurd fits tooLong
    | false =>
        have nothing : pieces params = [] := by
          cases list : params.propertyDeltaList with
          | nil => rw [pieces, list]; rfl
          | cons property rest => simp [listed, list] at isListed
        refine ⟨buffer, ?_, sound, ?_⟩
        · simp [shadowJsonSetContent, sound.sizeLeft, reports.1, reports.2, isListed]
        · rw [nothing, List.flatten_nil, List.append_nil]
  · by_cases isGet : params.method = .get
    · refine ⟨buffer, shadowJsonSetContent_get sound isGet, sound, ?_⟩
      rw [contentText, isGet, List.append_nil]
    · have isDeleteAll : params.method = .deleteAll := by
        by_contra other
        exact reports ⟨isGet, other⟩
      obtain ⟨contentSound, success, written⟩ :=
        @shadowJsonSetContent_deleteAll size buffer params true sound isDeleteAll
      have four : (literal "null").length = 4 := by decide
      rw [contentText, isDeleteAll] at room ⊢
      dsimp only at room ⊢
      refine ⟨_, Prod.ext (success.mpr (by omega)) rfl, contentSound, ?_⟩
      rw [written, List.take_of_length_le (by omega)]

/-- In a buffer of three times its length a document is written in full. -/
theorem buildDocument_text (room : 3 * (documentText version params).length ≤ size) :
    (buildDocument version ⟨before, 0, false⟩ size params true).1 = successRet ∧
      (buildDocument version ⟨before, 0, false⟩ size params true).2.text =
        documentText version params := by
  have positive := closingText_pos version params.method (listed params)
  have one := overwritten_le params.method (listed params)
  have inside := documentText_length version params
  have length : (documentText version params).length =
      (openingText params.method (listed params)).length + (contentText params).length -
        overwritten params.method (listed params) +
        (closingText version params.method (listed params)).length := by
    rw [documentText, List.length_append, List.length_take, List.length_append]
    omega
  obtain ⟨sound, opening⟩ := @shadowJsonInit_sound size before params (by omega)
  rw [List.take_of_length_le (by omega)] at opening
  obtain ⟨after, content, afterSound, written⟩ :=
    @shadowJsonSetContent_full size _ params sound (by rw [opening]; omega)
  rw [opening] at written
  obtain ⟨_, success, text⟩ := shadowJsonFinalize_sound version params afterSound
  have whole := congrArg List.length written
  rw [List.length_append] at whole
  have isSuccess := success.mpr (by omega)
  rw [buildDocument_eq, content, if_neg (not_not.mpr rfl)]
  refine ⟨isSuccess, ?_⟩
  rw [text isSuccess, written, documentText]

/-! ## Properties as members -/

theorem isNumber_int (i : Int) : IsNumber i (.number (.ofInt i)) :=
  ⟨_, rfl, Number.toRat_ofInt i⟩

theorem isNumber_nat (n : Nat) : IsNumber n (.number (.ofInt n)) :=
  ⟨_, rfl, (Number.toRat_ofInt n).trans (Int.cast_natCast n)⟩

theorem formatNat_eq_text (n : Nat) : formatNat n = (Number.ofInt n).text := by
  have notNegative : ¬(n : Int) < 0 := by omega
  rw [← formatInt_eq_text, formatInt, if_neg notNegative, List.nil_append, Int.natAbs_natCast]

/-- A document of a value alone. -/
def alone (value : Value) : Json.Document := ⟨[], value, []⟩

theorem alone_text (value : Value) : (alone value).text = value.text := List.append_nil _

/-- The text of a value is a document with a comma behind it. -/
theorem valueText_document {data : Option PropertyData} (plain : ∀ some ∈ data, PlainData some) :
    ∃ document : Json.Document, valueText data = document.text ++ [comma] ∧
      Denotes data document.root.data := by
  have int : ∀ i : Int, formatInt i ++ [comma] = (alone (.number (.ofInt i))).text ++ [comma] := by
    intro i
    rw [alone_text, formatInt_eq_text, Value.text]
  have nat : ∀ n : Nat, formatNat n ++ [comma] = (alone (.number (.ofInt n))).text ++ [comma] := by
    intro n
    rw [alone_text, formatNat_eq_text, Value.text]
  have near : ∀ floating : Floating, (∃ rat, floating.toRat? = some rat) →
      ∃ document : Json.Document, formatFloating floating ++ [comma] = document.text ++ [comma] ∧
        IsNear floating document.root.data := by
    rintro floating ⟨rat, finite⟩
    obtain ⟨number, text, close⟩ := formatFloating_near finite
    refine ⟨alone (.number number), ?_, number, rat, rfl, finite, close⟩
    rw [alone_text, text, Value.text]
  cases data with
  | none => exact ⟨alone .null, rfl, rfl⟩
  | some data =>
      have plainData := plain data rfl
      cases data with
      | int32 value => exact ⟨_, int _, isNumber_int _⟩
      | int16 value => exact ⟨_, int _, isNumber_int _⟩
      | int8 value => exact ⟨_, int _, isNumber_int _⟩
      | uint32 value => exact ⟨_, nat _, isNumber_nat _⟩
      | uint16 value => exact ⟨_, nat _, isNumber_nat _⟩
      | uint8 value => exact ⟨_, nat _, isNumber_nat _⟩
      | float value => exact near value plainData
      | double value => exact near value plainData
      | bool value =>
          refine ⟨_, nat _, ?_⟩
          cases value with
          | true => exact ⟨_, rfl, Number.toRat_ofInt 1⟩
          | false => exact ⟨_, rfl, Number.toRat_ofInt 0⟩
      | string value =>
          have unescaped : ∀ byte ∈ value, Unescaped byte := plainData
          refine ⟨alone (.string ⟨value, unescaped⟩), ?_, ⟨value, unescaped⟩, rfl, rfl⟩
          rw [alone_text, Value.text, Str.text, valueText, List.cons_append, List.append_assoc]
          rfl
      | object value =>
          obtain ⟨document, text⟩ := plainData
          exact ⟨document, by rw [text, valueText], document, text, rfl⟩

/-- The texts of properties are the members of an object, and a comma behind the
last of them. -/
theorem pieceText_members {method : Method} (properties : List DeviceProperty)
    (plain : ∀ property ∈ properties, Plain method property) : ∃ members : Members,
      (properties.map (pieceText method)).flatten = members.text ++ members.separator ∧
        List.Forall₂ (fun property member =>
          member.1.bytes = property.key ∧ Denotes (reportedData method property) member.2)
          properties members.data := by
  induction properties with
  | nil => exact ⟨.nil, rfl, .nil⟩
  | cons property rest ih =>
      obtain ⟨unescaped, plainData⟩ := plain property List.mem_cons_self
      obtain ⟨document, text, denotes⟩ := valueText_document plainData
      obtain ⟨members, restText, reported⟩ := ih fun other member =>
        plain other (List.mem_cons_of_mem _ member)
      refine ⟨.cons [] ⟨property.key, unescaped⟩ [] document.leading document.root document.trailing
        members, ?_, .cons ⟨rfl, denotes⟩ reported⟩
      rw [List.map_cons, List.flatten_cons, restText, pieceText, text, keyText, Members.text, Str.text,
        Members.separator, Document.text]
      cases members with
      | nil => simp [Blanks.text, Members.text, Members.separator]
      | cons => simp [Blanks.text, Members.separator]

/-! ## Documents -/

def methodKey : Str := .ofBytes (literal "Method") rfl
def stateKey : Str := .ofBytes (literal "State") rfl
def reportedKey : Str := .ofBytes (literal "Reported") rfl
def desiredKey : Str := .ofBytes (literal "Desired") rfl
def versionKey : Str := .ofBytes (literal "Version") rfl

/-- A member without blanks in front of others. -/
def member (name : Str) (value : Value) (rest : Members) : Members :=
  .cons [] name [] [] value [] rest

/-- The document of a request: the method, and the members behind it. -/
def requestDocument (name : Str) (rest : Members) : Json.Document :=
  alone (.object [] (member methodKey (.string name) rest))

/-- The state and the version. -/
def stateMembers (state : Members) (version : Int) : Members :=
  member stateKey (.object [] state) (member versionKey (.number (.ofInt version)) .nil)

/-- The reported part, in front of the members behind it. -/
def reportedPart (members rest : Members) : Members :=
  member reportedKey (.object [] members) rest

def desiredNull : Members := member desiredKey .null .nil

def getName : Str := .ofBytes methodGet rfl
def updateName : Str := .ofBytes methodUpdate rfl
def deleteName : Str := .ofBytes methodDelete rfl

/-- Behind the properties the last comma is overwritten. -/
theorem documentText_reports (reports : Reports params.method) (isListed : listed params = true)
    (plain : ∀ property ∈ reportedProperties params, Plain params.method property) :
    ∃ members : Members,
      documentText version params =
        openingText params.method true ++ (members.text ++ closingText version params.method true) ∧
      List.Forall₂ (fun property member =>
        member.1.bytes = property.key ∧ Denotes (reportedData params.method property) member.2)
        (reportedProperties params) members.data := by
  obtain ⟨members, text, reported⟩ := pieceText_members (reportedProperties params) plain
  refine ⟨members, ?_, reported⟩
  have order : reportedProperties params = params.propertyDeltaList.reverse := if_pos reports
  rw [order] at text reported
  have separator : members.separator = [comma] := by
    cases members with
    | nil =>
        have empty := pieces_ne_nil isListed
        rw [pieces] at empty
        cases list : params.propertyDeltaList.reverse with
        | nil => exact absurd (by rw [list]; rfl) empty
        | cons property rest =>
            rw [list] at reported
            cases reported
    | cons => rfl
  rw [documentText, contentText_reports reports, pieces, text, separator, isListed,
    overwritten_reports reports]
  rw [← List.append_assoc, List.length_append, List.length_singleton, Nat.add_sub_cancel,
    List.take_left, List.append_assoc]

theorem versionText_eq {version : UInt32} (small : version < 2 ^ 31) :
    versionText version = (Number.ofInt version.toNat).text := by
  have below : version.toNat < 2 ^ 31 := small
  have signed : version.toInt32.toInt = version.toNat :=
    BitVec.toInt_eq_toNat_of_lt (show 2 * version.toNat < 2 ^ 32 by omega)
  rw [versionText, signed, formatInt_eq_text]

/-- The text of a document with a state and a version. -/
theorem requestDocument_text (name : Str) (state : Members) (version : Int) :
    (requestDocument name (stateMembers state version)).text =
      methodText name.bytes ++ (literal "\",\"State\":\x7b" ++ (state.text ++
        (literal "\x7d,\"Version\":" ++ ((Number.ofInt version).text ++ literal "\x7d")))) := by
  simp only [requestDocument, alone_text, stateMembers, Value.text, Members.text, Members.separator,
    member, Str.text, methodText, List.append_assoc, List.cons_append, List.nil_append,
    List.append_nil]
  rfl

theorem reportedPart_text (members rest : Members) :
    (reportedPart members rest).text = literal "\"Reported\":\x7b" ++ (members.text ++
      (literal "\x7d" ++ (rest.separator ++ rest.text))) := by
  simp only [reportedPart, member, Members.text, Value.text, Str.text, List.append_assoc,
    List.cons_append, List.nil_append]
  rfl

/-- The document of a method that reports the properties. -/
theorem documentText_listed (reports : Reports params.method) (isListed : listed params = true)
    (plain : ∀ property ∈ reportedProperties params, Plain params.method property)
    (printed : Printed version params.method) :
    ∃ document : Json.Document, document.text = documentText version params ∧
      Describes version params.method (reportedProperties params) document.root.data := by
  obtain ⟨members, text, reported⟩ := @documentText_reports version params reports isListed plain
  rw [text]
  have minusOne : literal "\x7d\x7d,\"Version\":-1\x7d" = literal "\x7d\x7d,\"Version\":" ++
      (Number.ofInt (-1)).text ++ literal "\x7d" := by decide
  cases isMethod : params.method with
  | get => exact absurd isMethod reports.1
  | deleteAll => exact absurd isMethod reports.2
  | update =>
      rw [isMethod] at reported printed
      have number := versionText_eq (printed (by decide) (by decide))
      refine ⟨requestDocument updateName (stateMembers (reportedPart members .nil) version.toNat), ?_,
        ⟨updateName, rfl, rfl⟩, reported, _, rfl, isNumber_nat _⟩
      rw [requestDocument_text, reportedPart_text, closingText, number]
      simp only [List.append_assoc]
      rfl
  | updateAndResetVer =>
      rw [isMethod] at reported
      refine ⟨requestDocument updateName (stateMembers (reportedPart members .nil) (-1)), ?_,
        ⟨updateName, rfl, rfl⟩, reported, _, rfl, isNumber_int (-1)⟩
      rw [requestDocument_text, reportedPart_text, closingText, minusOne]
      simp only [List.append_assoc]
      rfl
  | delete =>
      rw [isMethod] at reported printed
      have number := versionText_eq (printed (by decide) (by decide))
      refine ⟨requestDocument deleteName (stateMembers (reportedPart members .nil) version.toNat), ?_,
        ⟨deleteName, rfl, rfl⟩, reported, _, rfl, isNumber_nat _⟩
      rw [requestDocument_text, reportedPart_text, closingText, number]
      simp only [List.append_assoc]
      rfl
  | replyControlUpdate =>
      rw [isMethod] at reported printed
      have number := versionText_eq (printed (by decide) (by decide))
      refine ⟨requestDocument updateName (stateMembers (reportedPart members desiredNull)
        version.toNat), ?_, ⟨updateName, rfl, rfl⟩, reported, _, rfl, isNumber_nat _⟩
      rw [requestDocument_text, reportedPart_text, closingText, number]
      simp only [List.append_assoc]
      rfl
  | replyControlDelete =>
      rw [isMethod] at reported printed
      have number := versionText_eq (printed (by decide) (by decide))
      refine ⟨requestDocument deleteName (stateMembers (reportedPart members desiredNull)
        version.toNat), ?_, ⟨deleteName, rfl, rfl⟩, reported, _, rfl, isNumber_nat _⟩
      rw [requestDocument_text, reportedPart_text, closingText, number]
      simp only [List.append_assoc]
      rfl

/-- The document of a method that does not report the properties. -/
theorem documentText_bare (bare : ¬Reports params.method) (printed : Printed version params.method) :
    ∃ document : Json.Document, document.text = documentText version params ∧
      Describes version params.method [] document.root.data ∧
      (params.method = .get → document.root.data.member (literal "State") = none) ∧
      (params.method = .deleteAll → reported document.root.data = some .null) := by
  by_cases isGet : params.method = .get
  · rw [isGet]
    refine ⟨requestDocument getName .nil, ?_, ⟨⟨getName, rfl, rfl⟩, .nil, rfl⟩, fun _ => rfl,
      fun other => ?_⟩
    · rw [documentText, contentText, isGet]
      rfl
    · cases other
  · have isDeleteAll : params.method = .deleteAll := by
      by_contra other
      exact bare ⟨isGet, other⟩
    rw [isDeleteAll] at printed ⊢
    have number := versionText_eq (printed (by decide) (by decide))
    refine ⟨requestDocument deleteName (stateMembers (member reportedKey .null .nil) version.toNat),
      ?_, ⟨⟨deleteName, rfl, rfl⟩, .nil, _, rfl, isNumber_nat _⟩, fun other => ?_, fun _ => rfl⟩
    · rw [requestDocument_text, documentText, contentText, isDeleteAll, closingText, number]
      simp only [List.append_assoc]
      rfl
    · cases other

/-- The document of a reply with nothing to report. -/
theorem documentText_nothing (reports : Reports params.method) (notListed : listed params = false)
    (closable : Closable params) (printed : Printed version params.method) :
    ∃ document : Json.Document, document.text = documentText version params ∧
      Describes version params.method [] document.root.data := by
  have empty : params.propertyDeltaList = [] := by
    cases list : params.propertyDeltaList with
    | nil => rfl
    | cons property rest => simp [listed, list] at notListed
  have nothing : pieces params = [] := by
    rw [pieces, empty]
    rfl
  obtain ⟨notUpdate, notReset, notDelete⟩ := closable empty
  have none : overwritten params.method false = 0 := by
    cases isMethod : params.method with
    | update => exact absurd isMethod notUpdate
    | updateAndResetVer => exact absurd isMethod notReset
    | delete => exact absurd isMethod notDelete
    | _ => rfl
  have text : documentText version params =
      openingText params.method false ++ closingText version params.method false := by
    rw [documentText, contentText_reports reports, nothing, notListed, none, List.flatten_nil,
      List.append_nil, Nat.sub_zero, List.take_length]
  rw [text]
  cases isMethod : params.method with
  | get => exact absurd isMethod reports.1
  | deleteAll => exact absurd isMethod reports.2
  | update => exact absurd isMethod notUpdate
  | updateAndResetVer => exact absurd isMethod notReset
  | delete => exact absurd isMethod notDelete
  | replyControlUpdate =>
      rw [isMethod] at printed
      have number := versionText_eq (printed (by decide) (by decide))
      refine ⟨requestDocument updateName (stateMembers desiredNull version.toNat), ?_,
        ⟨updateName, rfl, rfl⟩, .nil, _, rfl, isNumber_nat _⟩
      rw [requestDocument_text, closingText, number]
      simp only [List.append_assoc]
      rfl
  | replyControlDelete =>
      rw [isMethod] at printed
      have number := versionText_eq (printed (by decide) (by decide))
      refine ⟨requestDocument deleteName (stateMembers desiredNull version.toNat), ?_,
        ⟨deleteName, rfl, rfl⟩, .nil, _, rfl, isNumber_nat _⟩
      rw [requestDocument_text, closingText, number]
      simp only [List.append_assoc]
      rfl

/-- A document is well formed and says what its request asks for: in a buffer of
three times its length the three steps build a JSON document with the method's
name, the properties of the list from its tail to its head and the version. A
`GET` has no state and a `DELETE_ALL` reports null. -/
theorem buildDocument_wellFormed (version : UInt32) (before : CString) (sizeOfBuffer : Nat)
    (params : RequestParams)
    (plain : ∀ property ∈ reportedProperties params, Plain params.method property)
    (closable : Closable params) (printed : Printed version params.method)
    (room : 3 * (documentText version params).length ≤ sizeOfBuffer) :
    let built := buildDocument version ⟨before, 0, false⟩ sizeOfBuffer params true
    built.1 = successRet ∧ ∃ document : Json.Document, document.text = built.2.text ∧
      Describes version params.method (reportedProperties params) document.root.data ∧
      (params.method = .get → document.root.data.member (literal "State") = none) ∧
      (params.method = .deleteAll → reported document.root.data = some .null) := by
  intro built
  obtain ⟨success, text⟩ := @buildDocument_text sizeOfBuffer version params before room
  refine ⟨success, ?_⟩
  rw [text]
  by_cases reports : Reports params.method
  · have document : ∃ document : Json.Document, document.text = documentText version params ∧
        Describes version params.method (reportedProperties params) document.root.data := by
      cases isListed : listed params with
      | true => exact documentText_listed reports isListed plain printed
      | false =>
          have none : reportedProperties params = [] := by
            cases list : params.propertyDeltaList with
            | nil => rw [reportedProperties, if_pos reports, list]; rfl
            | cons property rest => simp [listed, list] at isListed
          rw [none]
          exact documentText_nothing reports isListed closable printed
    obtain ⟨document, same, describes⟩ := document
    exact ⟨document, same, describes, fun isGet => absurd isGet reports.1,
      fun isDeleteAll => absurd isDeleteAll reports.2⟩
  · rw [reportedProperties, if_neg reports]
    exact documentText_bare reports printed

/-- A reply that reports one number. -/
theorem reply_wellFormed :
    let params : RequestParams :=
      ⟨.replyControlUpdate, [⟨literal "k", some (.uint16 7)⟩], 1, none, 0⟩
    ∃ document : Json.Document,
      document.text = (buildDocument 5 ⟨[], 0, false⟩ 256 params true).2.text ∧
        Describes 5 .replyControlUpdate (reportedProperties params) document.root.data := by
  intro params
  have plain : ∀ property ∈ reportedProperties params, Plain params.method property := by
    intro property member
    cases member with
    | head => exact ⟨(Str.ofBytes (literal "k") rfl).unescaped, fun data isData => by cases isData; trivial⟩
    | tail _ later => cases later
  obtain ⟨_, document, same, describes, _⟩ := buildDocument_wellFormed 5 [] 256 params plain
    (fun empty => by cases empty) (fun _ _ => by decide) (by decide)
  exact ⟨document, same, describes⟩

/-! ## Where the document is another -/

/-- A request of plain properties builds, in a buffer of three times its
document's length, a document that reports the list in its order. -/
def BuildsAsListed (version : UInt32) (sizeOfBuffer : Nat) (params : RequestParams) : Prop :=
  (∀ property ∈ params.propertyDeltaList, Plain params.method property) →
    3 * (documentText version params).length ≤ sizeOfBuffer →
    let built := buildDocument version ⟨[], 0, false⟩ sizeOfBuffer params true
    built.1 = successRet ∧ ∃ document : Json.Document, document.text = built.2.text ∧
      Describes version params.method params.propertyDeltaList document.root.data

def reportedKeys (data : Data) : List (List UInt8) :=
  (reportedMembers data).map fun member => member.1.bytes

/-- Whether the version is written with a minus. -/
def versionNegative (data : Data) : Bool :=
  match data.member (literal "Version") with
  | some (.number number) => number.negative
  | _ => false

theorem Number.toRat_nonpos {number : Number} (negative : number.negative = true) :
    number.toRat ≤ 0 := by
  have magnitude : 0 ≤ ((ofDigits (number.first :: number.more) : ℚ) +
      ofDigits (decimals number.fraction) / 10 ^ (decimals number.fraction).length) *
        10 ^ (number.exponent.elim 0 Exponent.toInt) := by positivity
  rw [Number.toRat, negative, if_pos rfl, mul_assoc, neg_one_mul]
  exact neg_nonpos.mpr magnitude

/-- What a reader finds in the text that is built. -/
theorem BuildsAsListed.read {sizeOfBuffer : Nat} (builds : BuildsAsListed version sizeOfBuffer params)
    (plain : ∀ property ∈ params.propertyDeltaList, Plain params.method property)
    (room : 3 * (documentText version params).length ≤ sizeOfBuffer) :
    ∃ data, Json.read (buildDocument version ⟨[], 0, false⟩ sizeOfBuffer params true).2.text =
      some data ∧ Describes version params.method params.propertyDeltaList data := by
  obtain ⟨_, document, same, describes⟩ := builds plain room
  exact ⟨_, same ▸ read_text document, describes⟩

theorem Describes.keys {method : Method} {properties : List DeviceProperty} {data : Data}
    (describes : Describes version method properties data) :
    reportedKeys data = properties.map DeviceProperty.key := by
  have pairs := describes.reportsProperties
  clear describes
  rw [reportedKeys]
  generalize reportedMembers data = members at pairs
  induction pairs with
  | nil => rfl
  | cons pair _ ih => rw [List.map_cons, List.map_cons, ih, pair.1]

theorem Describes.versionNegative {properties : List DeviceProperty} {data : Data}
    (describes : Describes version .update properties data) (positive : 0 < version.toNat) :
    versionNegative data = false := by
  obtain ⟨said, isSaid, number, isNumber, denotes⟩ := describes.givesVersion
  rw [Shadow.versionNegative, isSaid, isNumber]
  cases negative : number.negative with
  | false => exact negative
  | true =>
      have nonpos := Number.toRat_nonpos negative
      have cast : (0 : ℚ) < version.toNat := by exact_mod_cast positive
      rw [denotes] at nonpos
      exact absurd nonpos (not_le.mpr cast)

/-- Two properties are reported the other way round, an update of none is not
well formed, `GET` and `DELETE_ALL` report no property, and a version of `2^31` is
written as a negative number. -/
theorem document_other :
    let a : DeviceProperty := ⟨literal "a", some (.uint16 1)⟩
    let b : DeviceProperty := ⟨literal "b", some (.uint16 2)⟩
    ¬BuildsAsListed 0 512 ⟨.update, [a, b], 1, none, 0⟩ ∧
      ¬BuildsAsListed 0 512 ⟨.update, [], 1, none, 0⟩ ∧
      ¬BuildsAsListed 0 512 ⟨.get, [a], 1, none, 0⟩ ∧
      ¬BuildsAsListed 0 512 ⟨.deleteAll, [a], 1, none, 0⟩ ∧
      ¬BuildsAsListed 0x80000000 512 ⟨.update, [a], 1, none, 0⟩ := by
  intro a b
  have plainA : ∀ method, Plain method a := by
    intro method
    refine ⟨(Str.ofBytes (literal "a") rfl).unescaped, fun data isData => ?_⟩
    cases method <;> cases isData <;> trivial
  have plainB : ∀ method, Plain method b := by
    intro method
    refine ⟨(Str.ofBytes (literal "b") rfl).unescaped, fun data isData => ?_⟩
    cases method <;> cases isData <;> trivial
  have wrongKeys : ∀ {params : RequestParams},
      (∀ property ∈ params.propertyDeltaList, Plain params.method property) →
      3 * (documentText 0 params).length ≤ 512 →
      (Json.read (buildDocument 0 ⟨[], 0, false⟩ 512 params true).2.text).map reportedKeys ≠
        some (params.propertyDeltaList.map DeviceProperty.key) →
      ¬BuildsAsListed 0 512 params := by
    intro params plain room wrong builds
    obtain ⟨data, read, describes⟩ := builds.read plain room
    apply wrong
    rw [read, Option.map_some, describes.keys]
  refine ⟨wrongKeys ?_ (by decide) (by decide +kernel), wrongKeys ?_ (by decide) (by decide +kernel),
    wrongKeys ?_ (by decide) (by decide +kernel), wrongKeys ?_ (by decide) (by decide +kernel), ?_⟩
  · rintro property (_ | ⟨_, _ | ⟨_, ⟨⟩⟩⟩)
    · exact plainA _
    · exact plainB _
  · exact fun property member => nomatch member
  · rintro property (_ | ⟨_, ⟨⟩⟩)
    exact plainA _
  · rintro property (_ | ⟨_, ⟨⟩⟩)
    exact plainA _
  · intro builds
    obtain ⟨data, read, describes⟩ := builds.read
      (by rintro property (_ | ⟨_, ⟨⟩⟩); exact plainA _) (by decide)
    have negative : (Json.read (buildDocument 0x80000000 ⟨[], 0, false⟩ 512
        ⟨.update, [a], 1, none, 0⟩ true).2.text).map versionNegative = some true := by decide +kernel
    rw [read, Option.map_some, describes.versionNegative (by decide)] at negative
    cases negative

end UIoT.Shadow
