import UIoT.DevModel.Callbacks
import UIoT.Utils.JsonLookup

/-!
# The code of a reply

A reply of the cloud says with its RetCode whether a request failed, and zero says
that it did not. The callbacks read the code with `sscanf` into sixteen bits and
narrow it to eight, so that a failure whose code is a multiple of 256 is told as a
success, and nothing is certain of a code that sixteen bits cannot hold
(`retCode_told_iff`).
-/

set_option autoImplicit false

namespace UIoT.DevModel

open Utils
open Json (Document Number Value)
open Mqtt (CString)

/-! ## The property -/

/-- The RetCode of a message is an integer, written in decimal. -/
def HasRetCode (message : Mqtt.Message) (n : Int) : Prop :=
  liteJsonValueOf (literal "RetCode") (Mqtt.cString message.payload) = some (formatInt n)

/-- The callbacks of `g_dm_mqtt_cb` that tell the application what the cloud answered. -/
def replyCb (handle : DMMqttStruct) (message : Mqtt.Message) (env : Env) :
    DMType → Option ReplyCall
  | .propertyRestore => dmMqttPropertyRestoreCb handle message env
  | .propertyPost => dmMqttPropertyPostCb handle message env
  | .propertyDesiredGet => dmMqttPropertyDesiredGetCb handle message env
  | .propertyDesiredDelete => dmMqttPropertyDesiredDeleteCb handle message env
  | .eventPost => dmMqttEventPostCb handle message env
  | .propertySet => none
  | .command => none

/-- The application is told zero for a zero only, whatever handle, memory and library. -/
def ToldRightly (type : DMType) (message : Mqtt.Message) (n : Int) : Prop :=
  ∀ handle env call, replyCb handle message env type = some call → (call.retCode = 0 ↔ n = 0)

/-! ## The condition -/

/-- What a callback takes out of a message besides the RetCode. -/
def replyKeys : DMType → Option (List String)
  | .propertyRestore => some ["RequestID", "Property"]
  | .propertyDesiredGet => some ["RequestID", "Desired"]
  | .propertyPost => some ["RequestID"]
  | .propertyDesiredDelete => some ["RequestID"]
  | .eventPost => some ["RequestID"]
  | .propertySet => none
  | .command => none

/-- The message is a reply with all that its callback takes out of it. -/
def Complete (type : DMType) (message : Mqtt.Message) : Prop :=
  ∃ keys, replyKeys type = some keys ∧ ∀ key ∈ keys,
    (liteJsonValueOf (literal key) (Mqtt.cString message.payload)).isSome

/-- The code is zero, or sixteen bits hold it and the lower eight are not all zero. -/
def SafeCode (n : Int) : Prop := n = 0 ∨ ((-2 ^ 15 ≤ n ∧ n < 2 ^ 15) ∧ ¬(256 : Int) ∣ n)

/-! ## One callback -/

variable {type : DMType} {message : Mqtt.Message} {n : Int} {handle : DMMqttStruct} {env : Env}
  {call : ReplyCall}

theorem scanI_formatInt (n : Int) : scanI (formatInt n) = some n := by
  rw [formatInt_eq_text, scanI_number (noLeadingZero_ofInt n), integerPart_ofInt]

/-- The code that is read from a RetCode. -/
def readCode (library : CLibrary) (n : Int) : Int8 := (storeInt16 library n).toInt8

theorem liteGetInt8_formatInt (library : CLibrary) (n : Int) :
    liteGetInt8 library (formatInt n) = some (readCode library n) := by
  rw [liteGetInt8, scanI_formatInt]
  rfl

/-- What is allocated is what was found. -/
theorem valueOf_some {malloc : Malloc} {alloc : Nat} {key : String} {msg value : CString}
    (found : valueOf malloc alloc key msg = some value) :
    liteJsonValueOf (literal key) msg = some value := by
  obtain ⟨other, isFound, allocated⟩ := Option.bind_eq_some_iff.mp found
  obtain ⟨_, _, rfl⟩ := Option.map_eq_some_iff.mp allocated
  exact isFound

theorem dmMqttCommonReplyCb_code (has : HasRetCode message n)
    (told : dmMqttCommonReplyCb message env = some call) :
    call.retCode = (readCode env.library n).toInt := by
  rw [dmMqttCommonReplyCb] at told
  simp only [Option.bind_eq_bind, Option.bind_eq_some_iff] at told
  obtain ⟨_, _, text, isText, code, isCode, _, _, isCall⟩ := told
  obtain rfl := Option.some.inj ((valueOf_some isText).symm.trans has)
  obtain rfl := Option.some.inj (isCode.symm.trans (liteGetInt8_formatInt env.library n))
  obtain rfl := Option.some.inj isCall
  rfl

theorem contentReplyCb_code {key : String} (has : HasRetCode message n)
    (told : contentReplyCb key message env = some call) :
    call.retCode = (readCode env.library n).toInt := by
  rw [contentReplyCb] at told
  simp only [Option.bind_eq_bind, Option.bind_eq_some_iff] at told
  obtain ⟨_, _, text, isText, code, isCode, _, _, _, _, isCall⟩ := told
  obtain rfl := Option.some.inj ((valueOf_some isText).symm.trans has)
  obtain rfl := Option.some.inj (isCode.symm.trans (liteGetInt8_formatInt env.library n))
  obtain rfl := Option.some.inj isCall
  rfl

/-- A callback that the application has registered does its work. -/
theorem of_registered {α : Type} {isSet : Bool} {run : Option α} {result : α}
    (called : (if ¬isSet then none else run) = some result) : run = some result := by
  cases isSet with
  | false => cases called
  | true => exact called

/-- The application is told the code that was read. -/
theorem replyCb_code (has : HasRetCode message n)
    (told : replyCb handle message env type = some call) :
    call.retCode = (readCode env.library n).toInt := by
  cases type with
  | propertyRestore => exact contentReplyCb_code has (of_registered told)
  | propertyDesiredGet => exact contentReplyCb_code has (of_registered told)
  | propertyPost => exact dmMqttCommonReplyCb_code has (of_registered told)
  | propertyDesiredDelete => exact dmMqttCommonReplyCb_code has (of_registered told)
  | eventPost => exact dmMqttCommonReplyCb_code has (of_registered told)
  | propertySet => cases told
  | command => cases told

/-! ## Codes -/

theorem readCode_fits {library : CLibrary} (fits : -2 ^ 15 ≤ n ∧ n < 2 ^ 15) :
    readCode library n = Int8.ofInt n := by
  have stores : storeInt16 library n = Int16.ofInt n := if_pos fits
  rw [readCode, stores, toInt8_ofInt16]

theorem toInt_eq_zero_iff (code : Int8) : code.toInt = 0 ↔ code = 0 := by
  constructor
  · exact fun isZero => Int8.toInt.inj isZero
  · exact fun isZero => by rw [isZero]; rfl

/-- Eight bits tell a safe code from zero. -/
theorem readCode_eq_zero_iff (safe : SafeCode n) (library : CLibrary) :
    (readCode library n).toInt = 0 ↔ n = 0 := by
  rw [toInt_eq_zero_iff]
  constructor
  · intro isZero
    rcases safe with zero | ⟨fits, notMultiple⟩
    · exact zero
    · rw [readCode_fits fits] at isZero
      have same : Int8.ofInt n = Int8.ofInt 0 := isZero
      have divides := dvd_of_int8 same
      rw [sub_zero] at divides
      exact (notMultiple divides).elim
  · intro zero
    rw [zero, readCode_fits ⟨by decide, by decide⟩]
    rfl

/-- Some library lets an unsafe code pass for a zero. -/
theorem readCode_notSafe (notSafe : ¬SafeCode n) : (readCode (constantLibrary 0) n).toInt = 0 := by
  rw [toInt_eq_zero_iff]
  by_cases fits : -2 ^ 15 ≤ n ∧ n < 2 ^ 15
  · have multiple : (256 : Int) ∣ n := by
      by_contra notMultiple
      exact notSafe (.inr ⟨fits, notMultiple⟩)
    obtain ⟨k, rfl⟩ := multiple
    rw [readCode_fits fits]
    apply Int8.toInt.inj
    rw [Int8.toInt_ofInt]
    exact Int.bmod_eq_zero_of_dvd (Int.dvd_mul_right _ _)
  · have stores : storeInt16 (constantLibrary 0) n = Int16.ofInt 0 := if_neg fits
    rw [readCode, stores, toInt8_ofInt16]
    rfl

/-! ## A world in which nothing fails -/

/-- Every allocation succeeds. -/
def roomyEnv (library : CLibrary) : Env where
  malloc := fun _ => some { text := [], reach := 0, wrapped := false }
  library := library
  propertySet := fun _ _ => 0
  command := fun _ _ _ output => (0, output)
  mqtt :=
    { tick := fun _ => 0
      rtTickFromMillisecond := id
      malloc := fun _ => true
      writes := fun _ => []
      stack := []
      stackBefore := 0
      stackQos := .qos0 }

/-- A handle with one callback. -/
def handleFor (type : DMType) : DMMqttStruct :=
  (dscInit [] [] (Mqtt.uiotMqttInit ⟨1000, false⟩)).enter type

theorem valueOf_roomy (library : CLibrary) (alloc : Nat) (key : String) (msg : CString) :
    valueOf (roomyEnv library).malloc alloc key msg = liteJsonValueOf (literal key) msg := by
  rw [valueOf]
  cases liteJsonValueOf (literal key) msg <;> rfl

theorem dmMqttCommonReplyCb_roomy (library : CLibrary) (has : HasRetCode message n)
    {requestId : CString}
    (isRequest : liteJsonValueOf (literal "RequestID") (Mqtt.cString message.payload) =
      some requestId) :
    dmMqttCommonReplyCb message (roomyEnv library) =
      some ⟨requestId, (readCode library n).toInt, none⟩ := by
  have isCode : liteGetInt8 (roomyEnv library).library (formatInt n) = some (readCode library n) :=
    liteGetInt8_formatInt library n
  rw [HasRetCode] at has
  simp only [dmMqttCommonReplyCb, valueOf_roomy, has, isRequest, isCode, Option.bind_eq_bind,
    Option.bind_some]
  rfl

theorem contentReplyCb_roomy (library : CLibrary) (has : HasRetCode message n) {key : String}
    {requestId content : CString}
    (isRequest : liteJsonValueOf (literal "RequestID") (Mqtt.cString message.payload) =
      some requestId)
    (isContent : liteJsonValueOf (literal key) (Mqtt.cString message.payload) = some content) :
    contentReplyCb key message (roomyEnv library) =
      some ⟨requestId, (readCode library n).toInt, some content⟩ := by
  have isCode : liteGetInt8 (roomyEnv library).library (formatInt n) = some (readCode library n) :=
    liteGetInt8_formatInt library n
  rw [HasRetCode] at has
  simp only [contentReplyCb, valueOf_roomy, has, isRequest, isContent, isCode, Option.bind_eq_bind,
    Option.bind_some]
  rfl

/-- The application is told what was read from a complete reply. -/
theorem replyCb_complete (library : CLibrary) (has : HasRetCode message n)
    (complete : Complete type message) :
    ∃ call, replyCb (handleFor type) message (roomyEnv library) type = some call := by
  obtain ⟨keys, isKeys, found⟩ := complete
  have first : ∀ {more : List String}, keys = "RequestID" :: more → ∃ requestId,
      liteJsonValueOf (literal "RequestID") (Mqtt.cString message.payload) = some requestId :=
    fun same => Option.isSome_iff_exists.mp (found _ (same ▸ List.mem_cons_self))
  have second : ∀ {key : String}, keys = ["RequestID", key] → ∃ content,
      liteJsonValueOf (literal key) (Mqtt.cString message.payload) = some content :=
    fun same => Option.isSome_iff_exists.mp
      (found _ (same ▸ List.mem_cons_of_mem _ (List.mem_singleton_self _)))
  cases type with
  | propertyRestore =>
      obtain ⟨requestId, isRequest⟩ := first (Option.some.inj isKeys).symm
      obtain ⟨content, isContent⟩ := second (Option.some.inj isKeys).symm
      exact ⟨_, contentReplyCb_roomy library has isRequest isContent⟩
  | propertyDesiredGet =>
      obtain ⟨requestId, isRequest⟩ := first (Option.some.inj isKeys).symm
      obtain ⟨content, isContent⟩ := second (Option.some.inj isKeys).symm
      exact ⟨_, contentReplyCb_roomy library has isRequest isContent⟩
  | propertyPost =>
      obtain ⟨requestId, isRequest⟩ := first (Option.some.inj isKeys).symm
      exact ⟨_, dmMqttCommonReplyCb_roomy library has isRequest⟩
  | propertyDesiredDelete =>
      obtain ⟨requestId, isRequest⟩ := first (Option.some.inj isKeys).symm
      exact ⟨_, dmMqttCommonReplyCb_roomy library has isRequest⟩
  | eventPost =>
      obtain ⟨requestId, isRequest⟩ := first (Option.some.inj isKeys).symm
      exact ⟨_, dmMqttCommonReplyCb_roomy library has isRequest⟩
  | propertySet => cases isKeys
  | command => cases isKeys

/-- Of a message that lacks something the application is told nothing. -/
theorem complete_of_told (told : replyCb handle message env type = some call) :
    Complete type message := by
  have common : dmMqttCommonReplyCb message env = some call →
      (liteJsonValueOf (literal "RequestID") (Mqtt.cString message.payload)).isSome := by
    intro called
    rw [dmMqttCommonReplyCb] at called
    simp only [Option.bind_eq_bind, Option.bind_eq_some_iff] at called
    obtain ⟨_, _, _, _, _, _, requestId, isRequest, _⟩ := called
    exact Option.isSome_iff_exists.mpr ⟨requestId, valueOf_some isRequest⟩
  have content : ∀ {key : String}, contentReplyCb key message env = some call →
      ∀ name ∈ ["RequestID", key],
        (liteJsonValueOf (literal name) (Mqtt.cString message.payload)).isSome := by
    intro key called name member
    rw [contentReplyCb] at called
    simp only [Option.bind_eq_bind, Option.bind_eq_some_iff] at called
    obtain ⟨_, _, _, _, _, _, requestId, isRequest, content, isContent, _⟩ := called
    rcases List.mem_pair.mp member with rfl | rfl
    · exact Option.isSome_iff_exists.mpr ⟨requestId, valueOf_some isRequest⟩
    · exact Option.isSome_iff_exists.mpr ⟨content, valueOf_some isContent⟩
  have single : dmMqttCommonReplyCb message env = some call →
      ∀ name ∈ ["RequestID"],
        (liteJsonValueOf (literal name) (Mqtt.cString message.payload)).isSome := by
    intro called name member
    rw [List.mem_singleton.mp member]
    exact common called
  cases type with
  | propertyRestore => exact ⟨_, rfl, content (of_registered told)⟩
  | propertyDesiredGet => exact ⟨_, rfl, content (of_registered told)⟩
  | propertyPost => exact ⟨_, rfl, single (of_registered told)⟩
  | propertyDesiredDelete => exact ⟨_, rfl, single (of_registered told)⟩
  | eventPost => exact ⟨_, rfl, single (of_registered told)⟩
  | propertySet => cases told
  | command => cases told

/-! ## Which codes are told rightly -/

/-- The application is told a reply rightly, whatever the library, exactly when the
code is a safe one or the reply lacks something. -/
theorem toldRightly_iff (type : DMType) (has : HasRetCode message n) :
    ToldRightly type message n ↔ (Complete type message → SafeCode n) := by
  constructor
  · intro rightly complete
    by_contra notSafe
    obtain ⟨call, told⟩ := replyCb_complete (constantLibrary 0) has complete
    have isZero : call.retCode = 0 := (replyCb_code has told).trans (readCode_notSafe notSafe)
    exact notSafe (.inl ((rightly _ _ call told).mp isZero))
  · intro safe handle env call told
    rw [replyCb_code has told]
    exact readCode_eq_zero_iff (safe (complete_of_told told)) env.library

/-- A member of the root is found where it is. -/
theorem not_strays {trailing : Json.Blanks} {name : List UInt8} {root value : Value}
    (found : root.lookup [name] = some value) :
    ¬Strays trailing [name] { value := root, frames := [] } := by
  cases root with
  | object blanks members =>
      intro strays
      cases isMember : members.find name with
      | none =>
          rw [Value.lookup, isMember] at found
          cases found
      | some member =>
          simp only [Strays, isMember] at strays
  | _ => cases found

/-- The RetCode of a document is the one that is found, if no other name begins so. -/
theorem hasRetCode_document {document : Document} (spaced : Spaced document)
    (plain : document.root.AllStr Plain)
    (names : document.root.AllNames (NoProperPrefix (literal "RetCode")))
    (isText : Mqtt.cString message.payload = document.text)
    (found : document.root.lookup [literal "RetCode"] = some (.number (Number.ofInt n))) :
    HasRetCode message n := by
  have path : (literal "RetCode").splitOn Json.point = [literal "RetCode"] := by decide
  have same := (liteJsonValueOf_eq_iff document (literal "RetCode") plain (by
    rw [path]
    intro name member
    rw [List.mem_singleton.mp member]
    exact names)).mpr
  rw [path, found] at same
  rw [HasRetCode, isText, formatInt_eq_text]
  refine same ⟨fun _ => ⟨not_strays found, ?_⟩, fun unspaced => (unspaced spaced).elim⟩
  intro value isValue
  obtain rfl := Option.some.inj isValue
  rfl

/-- For every message that has an integer as its RetCode, which a document has whose
member of that name is one. -/
theorem retCode_told_iff (type : DMType) (message : Mqtt.Message) (n : Int) :
    (HasRetCode message n → (ToldRightly type message n ↔ (Complete type message → SafeCode n))) ∧
    ∀ document : Document, Spaced document → document.root.AllStr Plain →
      document.root.AllNames (NoProperPrefix (literal "RetCode")) →
      Mqtt.cString message.payload = document.text →
      document.root.lookup [literal "RetCode"] = some (.number (Number.ofInt n)) →
      HasRetCode message n :=
  ⟨fun has => toldRightly_iff type has,
    fun _ spaced plain names isText found => hasRetCode_document spaced plain names isText found⟩

/-- A message with a payload. -/
def messageOf (payload : String) : Mqtt.Message := ⟨1, 0, 0, some 1, literal "t", literal payload⟩

/-- A code that is told rightly. -/
theorem retCode_told_forbidden :
    ToldRightly .propertyPost (messageOf "\x7b\"RequestID\":\"1\",\"RetCode\":403\x7d") 403 := by
  have has : HasRetCode (messageOf "\x7b\"RequestID\":\"1\",\"RetCode\":403\x7d") 403 := by
    rw [HasRetCode]
    decide +kernel
  exact ((retCode_told_iff .propertyPost _ 403).1 has).mpr fun _ => .inr (by decide)

/-- A reply with the code 256. -/
def failedReply : Mqtt.Message := messageOf "\x7b\"RequestID\":\"1\",\"RetCode\":256\x7d"

theorem failure_told_as_success :
    HasRetCode failedReply 256 ∧
      replyCb (handleFor .propertyPost) failedReply (roomyEnv (constantLibrary 1)) .propertyPost =
        some ⟨literal "1", 0, none⟩ ∧
      ¬ToldRightly .propertyPost failedReply 256 := by
  have told : replyCb (handleFor .propertyPost) failedReply (roomyEnv (constantLibrary 1))
      .propertyPost = some ⟨literal "1", 0, none⟩ := by decide +kernel
  have has : HasRetCode failedReply 256 := by
    rw [HasRetCode]
    decide +kernel
  refine ⟨has, told, ?_⟩
  intro rightly
  have isZero := (rightly _ _ _ told).mp rfl
  exact absurd isZero (by decide)

end UIoT.DevModel
