import UIoT.Ota.Machine
import UIoT.Utils.NestedLookup

/-!
# Reading upstream messages back

Five templates are filled in for eleven types of report. Where a template gets its module and its
version, `LITE_json_value_of` reads every field back, unless one of them is empty or a brace in them
keeps the payload from being seen. The template of a failure gets neither of them, so that its message
holds what is printed for missing arguments (`recovers_iff`).
-/

set_option autoImplicit false

namespace UIoT.Ota

open Json Utils

/-! ## Templates -/

def UpstreamMsgType.isFailure : UpstreamMsgType → Bool
  | .undefinedError | .firmwareBurnFailed | .md5Mismatch | .downloadTimeout | .signatureExpired
  | .firmwareNotExist => true
  | _ => false

/-- The value of `"Method"` -/
def methodText : UpstreamMsgType → String
  | .downloading | .burning => "report_progress"
  | .success => "report_success"
  | .requestFirmware => "request_firmware"
  | .reportVersion => "report_version"
  | _ => "report_fail"

/-- The template for a type with a module and a version filled in. -/
def filledTemplate (progress : Int) (module version : List UInt8) : UpstreamMsgType → List UInt8
  | .downloading => progressMsg (literal "downloading") progress module version
  | .burning => progressMsg (literal "burning") progress module version
  | .success =>
      moduleMsg (literal "\x7b\"Method\": \"report_success\", \"Payload\":\x7b") module version
        (literal "\"\x7d\x7d")
  | .requestFirmware =>
      moduleMsg (literal "\x7b\"Method\": \"request_firmware\", \"Payload\":\x7b") module version
        (literal "\"\x7d\x7d")
  | .reportVersion =>
      moduleMsg (literal "\x7b\"Method\": \"report_version\", \"Payload\":\x7b") module version
        (literal "\"\x7d\x7d")
  | reportType =>
      moduleMsg
        (literal "\x7b\"Method\": \"report_fail\", \"Payload\": \x7b\"ErrCode\": " ++
          formatInt reportType.code ++ literal ", ")
        module version (literal "\"\x7d\x7d")

/-- What a message reports, under the names that its template has. -/
def upstreamFields (progress : Int) (module version : List UInt8) (reportType : UpstreamMsgType) :
    List (List UInt8 × List UInt8) :=
  (literal "Method", literal (methodText reportType)) ::
    (match reportType with
      | .downloading =>
          [(literal "Payload.State", literal "downloading"), (literal "Payload.Percent", formatInt progress)]
      | .burning =>
          [(literal "Payload.State", literal "burning"), (literal "Payload.Percent", formatInt progress)]
      | .success | .requestFirmware | .reportVersion => []
      | _ => [(literal "Payload.ErrCode", formatInt reportType.code)]) ++
    [(moduleField, module), (versionField, version)]

/-- On success the message depends on the arguments only, whatever the port prints for others, and
every field is read back. -/
structure Recovers (bufLen : Nat) (module version : List UInt8) (progress : Int)
    (reportType : UpstreamMsgType) : Prop where
  instantiated : ∃ message, ∀ (ν : Type) (platform : Platform ν) (s : ν),
    (otaLibGenUpstreamMsg platform bufLen module version progress reportType s).1 = successRet →
      (otaLibGenUpstreamMsg platform bufLen module version progress reportType s).2.1 = message
  fields : ∀ (ν : Type) (platform : Platform ν) (s : ν),
    (otaLibGenUpstreamMsg platform bufLen module version progress reportType s).1 = successRet →
      ∀ field ∈ upstreamFields progress module version reportType,
        liteJsonValueOf field.1
          (otaLibGenUpstreamMsg platform bufLen module version progress reportType s).2.1 = some field.2

/-- The buffer is too small for the template of a failure. Another template has no place in it either,
or it is filled in with a module and a version that leave its payload closed. -/
def Instantiable (bufLen : Nat) (module version : List UInt8) (progress : Int)
    (reportType : UpstreamMsgType) : Prop :=
  if reportType = .none then True
  else if reportType.isFailure then bufLen ≤ (filledTemplate progress [] [] reportType).length
  else bufLen ≤ (filledTemplate progress module version reportType).length ∨
    (module ≠ [] ∧ version ≠ [] ∧ Closes (module ++ (version ++ [closeBrace, closeBrace])))

/-! ## The text that is generated -/

section Text

variable {ν : Type} (platform : Platform ν) (bufLen : Nat) (module version : List UInt8) (progress : Int)
  (s : ν)

theorem otaLibGenUpstreamMsg_failure {reportType : UpstreamMsgType} (failure : reportType.isFailure = true) :
    ∃ s', otaLibGenUpstreamMsg platform bufLen module version progress reportType s =
      (if bufLen ≤ (filledTemplate progress (platform.missingArguments s).1
          (platform.missingArguments s).2.1 reportType).length then errOtaStrTooLong else successRet,
        (filledTemplate progress (platform.missingArguments s).1
          (platform.missingArguments s).2.1 reportType).take (bufLen - 1), s') := by
  cases reportType with
  | none | downloading | burning | success | requestFirmware | reportVersion => cases failure
  | _ => exact ⟨_, rfl⟩

theorem otaLibGenUpstreamMsg_filled {reportType : UpstreamMsgType} (isSome : reportType ≠ .none)
    (other : reportType.isFailure = false) :
    otaLibGenUpstreamMsg platform bufLen module version progress reportType s =
      (if bufLen ≤ (filledTemplate progress module version reportType).length then errOtaStrTooLong
        else successRet,
        (filledTemplate progress module version reportType).take (bufLen - 1), s) := by
  cases reportType with
  | none => exact absurd rfl isSome
  | downloading | burning | success | requestFirmware | reportVersion => rfl
  | _ => cases other

end Text

/-! ## Messages as documents -/

def checkedStr (text : String) (checked : (literal text).all fun byte => decide (Unescaped byte)) : Str :=
  .ofBytes (literal text) checked

section Envelope

variable (progress : Int) (module version : Str)

/-- The members that every template ends with. -/
def moduleMembers (before after : Blanks) : Members :=
  .cons before (checkedStr "Module" (by decide)) [] [] (.string module) []
    (.cons [.space] (checkedStr "Version" (by decide)) [] [] (.string version) after .nil)

def progressMembers (state : Str) : Members :=
  .cons [] (checkedStr "State" (by decide)) [] [] (.string state) []
    (.cons [.space] (checkedStr "Percent" (by decide)) [] [] (.number (Number.ofInt progress)) []
      (moduleMembers module version [.space] [.space]))

/-- The members of the payload. -/
def payloadMembers : UpstreamMsgType → Members
  | .downloading => progressMembers progress module version (checkedStr "downloading" (by decide))
  | .burning => progressMembers progress module version (checkedStr "burning" (by decide))
  | .success | .requestFirmware | .reportVersion => moduleMembers module version [] []
  | reportType =>
      .cons [] (checkedStr "ErrCode" (by decide)) [] [.space] (.number (Number.ofInt reportType.code)) []
        (moduleMembers module version [.space] [])

theorem methodText_checked : ∀ reportType : UpstreamMsgType,
    (literal (methodText reportType)).all fun byte => decide (Unescaped byte) := by
  intro reportType
  cases reportType <;> decide

def upstreamEnvelope (reportType : UpstreamMsgType) : Envelope where
  first := checkedStr "Method" (by decide)
  string := checkedStr (methodText reportType) (methodText_checked reportType)
  second := checkedStr "Payload" (by decide)
  afterFirst := [.space]
  between := [.space]
  afterSecond :=
    match reportType with
    | .success | .requestFirmware | .reportVersion => []
    | _ => [.space]
  members := payloadMembers progress module version reportType

/-- A filled in template is the text of a document. -/
theorem filledTemplate_eq (reportType : UpstreamMsgType) :
    filledTemplate progress module.bytes version.bytes reportType =
      (upstreamEnvelope progress module version reportType).text := by
  cases reportType
  all_goals
    simp only [filledTemplate, progressMsg, moduleMsg, formatInt_eq_text, upstreamEnvelope, Envelope.text,
      Envelope.behindString, payloadMembers, progressMembers, moduleMembers, Members.text, Value.text,
      nameCursor, Str.text, List.append_assoc, List.cons_append]
    rfl

/-! ## Reading a message -/

variable {progress module version} {reportType : UpstreamMsgType}

theorem plain_of_all {text : String} (checked : (literal text).all fun byte => decide (Unescaped byte))
    (nonempty : literal text ≠ []) (clean : (literal text).all fun byte => decide ¬Mark byte) :
    Plain (checkedStr text checked) :=
  ⟨nonempty, noMark_of_all clean⟩

theorem scanned_ofInt (i : Int) : scanned (.number (Number.ofInt i)) = formatInt i := by
  rw [formatInt_eq_text]
  simp [scanned, Number.text, Number.ofInt, exponentText]

theorem plain_number (i : Int) : (Value.number (Number.ofInt i)).AllStr Plain := trivial

/-- The last two members leave the payload closed if the module and the version do. -/
theorem closes_moduleMembers (before after : Blanks) :
    ClosesFrom 0 ((moduleMembers module version before after).text ++
      closeBrace :: behind [] Envelope.frames) ↔
      Closes (module.bytes ++ (version.bytes ++ [closeBrace, closeBrace])) := by
  have whole : (moduleMembers module version before after).text ++
        closeBrace :: behind [] Envelope.frames =
      (before.text ++ literal "\"Module\":\"") ++ (module.bytes ++ (literal "\", \"Version\":\"" ++
        (version.bytes ++ ((quote :: after.text) ++ [closeBrace, closeBrace])))) := by
    simp only [moduleMembers, Members.text, Value.text, Str.text, List.append_assoc, List.cons_append]
    rfl
  have bracket : Bracket openBrace closeBrace := .inl ⟨rfl, rfl⟩
  have name : Passes openBrace closeBrace (literal "\"Module\":\"") := .of_absent (by decide) (by decide)
  have front := (bracket.passes_noMark (noMark_blanks before)).append name
  have noOpen : openBrace ∉ quote :: after.text := by
    rw [List.mem_cons, not_or]
    exact ⟨by decide, (noMark_blanks after).not_mem (by decide)⟩
  have noClose : closeBrace ∉ quote :: after.text := by
    rw [List.mem_cons, not_or]
    exact ⟨by decide, (noMark_blanks after).not_mem (by decide)⟩
  rw [whole, closesFrom_passes front, closesFrom_middle (by decide) (by decide), ← List.append_assoc,
    closesFrom_middle noOpen noClose, List.append_assoc, closesFrom_zero_iff]

theorem closes_progressMembers {state : Str} (plainState : (Value.string state).AllStr Plain) :
    ClosesFrom 0 ((progressMembers progress module version state).text ++
      closeBrace :: behind [] Envelope.frames) ↔
      Closes (module.bytes ++ (version.bytes ++ [closeBrace, closeBrace])) := by
  have plainName : Plain (checkedStr "State" (by decide)) := plain_of_all _ (by decide) (by decide)
  have plainPercent : Plain (checkedStr "Percent" (by decide)) := plain_of_all _ (by decide) (by decide)
  rw [progressMembers, closesFrom_member plainName plainState,
    closesFrom_member plainPercent (plain_number progress), closes_moduleMembers]

theorem closes_payloadMembers :
    Closes ((upstreamEnvelope progress module version reportType).members.text ++
      closeBrace :: behind [] Envelope.frames) ↔
      Closes (module.bytes ++ (version.bytes ++ [closeBrace, closeBrace])) := by
  have plainCode : Plain (checkedStr "ErrCode" (by decide)) := plain_of_all _ (by decide) (by decide)
  rw [← closesFrom_zero_iff]
  cases reportType with
  | success | requestFirmware | reportVersion => exact closes_moduleMembers [] []
  | downloading | burning => exact closes_progressMembers (plain_of_all _ (by decide) (by decide))
  | _ => exact (closesFrom_member plainCode (plain_number _)).trans (closes_moduleMembers [.space] [])

theorem readable_payloadMembers :
    (upstreamEnvelope progress module version reportType).members.EachValue Readable := by
  cases reportType
  all_goals
    exact Members.EachValue.imp (fun _ => readable_scalar) (by repeat' constructor)

/-- A name that no member in front has is looked for in the members that every template ends with. -/
theorem cut_payloadMembers {name : List UInt8} {found : Option (List UInt8)}
    (ending : ∀ before after, Members.cut name (moduleMembers module version before after) = found)
    (notState : ¬name <+: literal "State") (notPercent : ¬name <+: literal "Percent")
    (notErrCode : ¬name <+: literal "ErrCode") :
    Members.cut name (payloadMembers progress module version reportType) = found := by
  cases reportType with
  | success | requestFirmware | reportVersion => exact ending [] []
  | downloading | burning =>
      exact (cut_other notState).trans ((cut_other notPercent).trans (ending [.space] [.space]))
  | _ => exact (cut_other notErrCode).trans (ending [.space] [])

theorem cut_module (nonempty : module.bytes ≠ []) :
    Members.cut (literal "Module") (payloadMembers progress module version reportType) =
      some module.bytes := by
  apply cut_payloadMembers _ (by decide) (by decide) (by decide)
  intro before after
  exact cut_here (by decide) nonempty (by decide)

theorem cut_version (nonempty : version.bytes ≠ []) :
    Members.cut (literal "Version") (payloadMembers progress module version reportType) =
      some version.bytes := by
  apply cut_payloadMembers _ (by decide) (by decide) (by decide)
  intro before after
  exact (cut_other (by decide)).trans (cut_here (by decide) nonempty (by decide))

/-- An empty module is hidden. -/
theorem cut_module_empty (empty : module.bytes = []) :
    Members.cut (literal "Module") (payloadMembers progress module version reportType) = none := by
  have noValue : scanned (.string module) = [] := empty
  apply cut_payloadMembers _ (by decide) (by decide) (by decide)
  intro before after
  exact (cut_hidden noValue).trans (cut_other (by decide))

theorem cut_version_empty (empty : version.bytes = []) :
    Members.cut (literal "Version") (payloadMembers progress module version reportType) = none := by
  have noValue : scanned (.string version) = [] := empty
  apply cut_payloadMembers _ (by decide) (by decide) (by decide)
  intro before after
  exact (cut_other (by decide)).trans (cut_hidden noValue)

theorem cut_payload :
    Members.cut (literal "Payload") (payloadMembers progress module version reportType) = none := by
  apply cut_payloadMembers _ (by decide) (by decide) (by decide)
  intro before after
  exact (cut_other (by decide)).trans (cut_other (by decide))

/-- `"Method"` is read whatever the payload is. -/
theorem liteJsonValueOf_method :
    liteJsonValueOf typeField (filledTemplate progress module.bytes version.bytes reportType) =
      some (literal (methodText reportType)) := by
  have named : (upstreamEnvelope progress module version reportType).first.bytes ≠ [] := by
    show literal "Method" ≠ []
    decide
  have nonempty : (upstreamEnvelope progress module version reportType).string.bytes ≠ [] := by
    show literal (methodText reportType) ≠ []
    cases reportType <;> decide
  rw [filledTemplate_eq]
  exact Envelope.jsonGetValueByName_first _ named nonempty

variable {key name : List UInt8}

theorem path_module : moduleField.splitOn point = [literal "Payload", literal "Module"] := by decide

theorem path_version : versionField.splitOn point = [literal "Payload", literal "Version"] := by decide

theorem path_state : (literal "Payload.State").splitOn point = [literal "Payload", literal "State"] := by
  decide

theorem path_percent :
    (literal "Payload.Percent").splitOn point = [literal "Payload", literal "Percent"] := by
  decide

theorem path_errCode :
    (literal "Payload.ErrCode").splitOn point = [literal "Payload", literal "ErrCode"] := by
  decide

/-- A name in the payload is looked for if the payload is closed. -/
theorem liteJsonValueOf_closed (path : key.splitOn point = [literal "Payload", name])
    (noQuote : quote ∉ name)
    (closes : Closes (module.bytes ++ (version.bytes ++ [closeBrace, closeBrace]))) :
    liteJsonValueOf key (filledTemplate progress module.bytes version.bytes reportType) =
      Members.cut name (payloadMembers progress module version reportType) := by
  rw [liteJsonValueOf, filledTemplate_eq, path]
  exact (upstreamEnvelope progress module version reportType).valueOfPath_closed (by
      show literal "Payload" ≠ []
      decide) (by
      show ¬literal "Payload" <+: literal "Method"
      decide) readable_payloadMembers noQuote (closes_payloadMembers.mpr closes)

theorem liteJsonValueOf_open (path : key.splitOn point = [literal "Payload", name])
    (isOpen : ¬Closes (module.bytes ++ (version.bytes ++ [closeBrace, closeBrace]))) :
    liteJsonValueOf key (filledTemplate progress module.bytes version.bytes reportType) = none := by
  rw [liteJsonValueOf, filledTemplate_eq, path, Option.map_eq_none_iff]
  exact (upstreamEnvelope progress module version reportType).valueOfPath_open (by
      show literal "Payload" ≠ []
      decide) (by
      show ¬literal "Payload" <+: literal "Method"
      decide) readable_payloadMembers cut_payload (mt closes_payloadMembers.mp isOpen)

section Closed

variable (closes : Closes (module.bytes ++ (version.bytes ++ [closeBrace, closeBrace])))

include closes

theorem liteJsonValueOf_ending (namedModule : module.bytes ≠ []) (namedVersion : version.bytes ≠ []) :
    ∀ field ∈ [(moduleField, module.bytes), (versionField, version.bytes)],
      liteJsonValueOf field.1 (filledTemplate progress module.bytes version.bytes reportType) =
        some field.2 := by
  intro field isField
  rcases List.mem_cons.mp isField with rfl | isLast
  · exact (liteJsonValueOf_closed path_module (by decide) closes).trans (cut_module namedModule)
  · rw [List.mem_singleton.mp isLast]
    exact (liteJsonValueOf_closed path_version (by decide) closes).trans (cut_version namedVersion)

/-- The fields of a report of progress. -/
theorem liteJsonValueOf_progress {state : Str} (named : state.bytes ≠ [])
    (isProgress : payloadMembers progress module version reportType =
      progressMembers progress module version state) :
    ∀ field ∈ [(literal "Payload.State", state.bytes), (literal "Payload.Percent", formatInt progress)],
      liteJsonValueOf field.1 (filledTemplate progress module.bytes version.bytes reportType) =
        some field.2 := by
  have percent : scanned (.number (Number.ofInt progress)) ≠ [] := scanned_ne_nil (plain_number progress)
  intro field isField
  rcases List.mem_cons.mp isField with rfl | isLast
  · refine (liteJsonValueOf_closed path_state (by decide) closes).trans ?_
    rw [isProgress]
    exact cut_here (by decide) named (by decide)
  · rw [List.mem_singleton.mp isLast]
    refine (liteJsonValueOf_closed path_percent (by decide) closes).trans ?_
    rw [isProgress, ← scanned_ofInt]
    exact (cut_other (by decide)).trans (cut_here (by decide) percent (by decide))

theorem liteJsonValueOf_errCode
    (isFailure : payloadMembers progress module version reportType =
      .cons [] (checkedStr "ErrCode" (by decide)) [] [.space] (.number (Number.ofInt reportType.code)) []
        (moduleMembers module version [.space] [])) :
    ∀ field ∈ [(literal "Payload.ErrCode", formatInt reportType.code)],
      liteJsonValueOf field.1 (filledTemplate progress module.bytes version.bytes reportType) =
        some field.2 := by
  have code : scanned (.number (Number.ofInt reportType.code)) ≠ [] := scanned_ne_nil (plain_number _)
  intro field isField
  rw [List.mem_singleton.mp isField]
  refine (liteJsonValueOf_closed path_errCode (by decide) closes).trans ?_
  rw [isFailure, ← scanned_ofInt]
  exact cut_here (by decide) code (by decide)

/-- A filled in template whose payload is closed gives back all of its fields. -/
theorem upstreamFields_read (namedModule : module.bytes ≠ []) (namedVersion : version.bytes ≠ []) :
    ∀ field ∈ upstreamFields progress module.bytes version.bytes reportType,
      liteJsonValueOf field.1 (filledTemplate progress module.bytes version.bytes reportType) =
        some field.2 := by
  intro field isField
  rcases List.mem_cons.mp isField with rfl | further
  · exact liteJsonValueOf_method
  · rcases List.mem_append.mp further with isSpecial | isEnding
    · cases reportType with
      | success | requestFirmware | reportVersion => cases isSpecial
      | downloading | burning =>
          exact liteJsonValueOf_progress closes (List.cons_ne_nil _ _) rfl field isSpecial
      | _ => exact liteJsonValueOf_errCode closes rfl field isSpecial
    · exact liteJsonValueOf_ending closes namedModule namedVersion field isEnding

end Closed

/-- The fields are read back exactly from a closed payload with a module and a version. -/
theorem upstreamFields_read_iff :
    (∀ field ∈ upstreamFields progress module.bytes version.bytes reportType,
      liteJsonValueOf field.1 (filledTemplate progress module.bytes version.bytes reportType) =
        some field.2) ↔
      module.bytes ≠ [] ∧ version.bytes ≠ [] ∧
        Closes (module.bytes ++ (version.bytes ++ [closeBrace, closeBrace])) := by
  constructor
  · intro all
    have readModule := all (moduleField, module.bytes) (List.mem_cons_of_mem _
      (List.mem_append_right _ List.mem_cons_self))
    have readVersion := all (versionField, version.bytes) (List.mem_cons_of_mem _
      (List.mem_append_right _ (List.mem_cons_of_mem _ List.mem_cons_self)))
    have closes : Closes (module.bytes ++ (version.bytes ++ [closeBrace, closeBrace])) := by
      by_contra isOpen
      rw [liteJsonValueOf_open path_module isOpen] at readModule
      cases readModule
    refine ⟨?_, ?_, closes⟩
    · intro empty
      have missed := readModule.symm.trans ((liteJsonValueOf_closed path_module (by decide) closes).trans
        (cut_module_empty empty))
      cases missed
    · intro empty
      have missed := readVersion.symm.trans ((liteJsonValueOf_closed path_version (by decide) closes).trans
        (cut_version_empty empty))
      cases missed
  · rintro ⟨namedModule, namedVersion, closes⟩
    exact upstreamFields_read closes namedModule namedVersion

end Envelope

/-! ## What is recovered -/

section Recovered

variable {bufLen : Nat} {module version : List UInt8} {progress : Int} {reportType : UpstreamMsgType}

theorem errOtaStrTooLong_ne : errOtaStrTooLong ≠ successRet := by decide

/-- A call that never succeeds leaves nothing to recover. -/
theorem recovers_of_fails (fails : ∀ (ν : Type) (platform : Platform ν) (s : ν),
    (otaLibGenUpstreamMsg platform bufLen module version progress reportType s).1 ≠ successRet) :
    Recovers bufLen module version progress reportType where
  instantiated := ⟨[], fun ν platform s success => absurd success (fails ν platform s)⟩
  fields := fun ν platform s success => absurd success (fails ν platform s)

theorem recovers_none : Recovers bufLen module version progress .none := by
  apply recovers_of_fails
  intro ν platform s
  show errOtaGeneralFailure ≠ successRet
  decide

theorem filledTemplate_length_le (first second : List UInt8) (failure : reportType.isFailure = true) :
    (filledTemplate progress [] [] reportType).length ≤
      (filledTemplate progress first second reportType).length := by
  cases reportType with
  | none | downloading | burning | success | requestFirmware | reportVersion => cases failure
  | _ =>
      simp only [filledTemplate, moduleMsg, List.length_append, List.length_nil]
      omega

theorem recovers_failure (failure : reportType.isFailure = true)
    (long : bufLen ≤ (filledTemplate progress [] [] reportType).length) :
    Recovers bufLen module version progress reportType := by
  apply recovers_of_fails
  intro ν platform s
  obtain ⟨s', generated⟩ := otaLibGenUpstreamMsg_failure platform bufLen module version progress s failure
  rw [generated, if_pos (Nat.le_trans long (filledTemplate_length_le _ _ failure))]
  exact errOtaStrTooLong_ne

def emptyStr : Str := .ofBytes [] (by decide)

theorem liteJsonValueOf_emptyModule :
    liteJsonValueOf moduleField (filledTemplate progress [] [] reportType) = none := by
  have closes : Closes (emptyStr.bytes ++ (emptyStr.bytes ++ [closeBrace, closeBrace])) :=
    closesFrom_zero_iff.mp closesFrom_zero
  have noBytes : emptyStr.bytes = [] := rfl
  exact (liteJsonValueOf_closed path_module (by decide) closes).trans (cut_module_empty noBytes)

/-- On a port that prints nothing for arguments that are missing, the module of a failure is lost. -/
theorem not_recovers_failure (failure : reportType.isFailure = true)
    (fits : (filledTemplate progress [] [] reportType).length < bufLen) :
    ¬Recovers bufLen module version progress reportType := by
  intro recovers
  obtain ⟨s', generated⟩ := otaLibGenUpstreamMsg_failure scripted bufLen module version progress
    ⟨[], []⟩ failure
  have nothing : scripted.missingArguments ⟨[], []⟩ = ([], [], ⟨[], []⟩) := rfl
  have whole : (filledTemplate progress [] [] reportType).take (bufLen - 1) =
      filledTemplate progress [] [] reportType := List.take_of_length_le (by omega)
  rw [nothing, if_neg (Nat.not_le_of_lt fits), whole] at generated
  have fields := recovers.fields Script scripted ⟨[], []⟩
  rw [generated] at fields
  have read := fields rfl (moduleField, module) (List.mem_cons_of_mem _
    (List.mem_append_right _ List.mem_cons_self))
  cases read.symm.trans liteJsonValueOf_emptyModule

/-- The other templates, on every port alike. -/
theorem recovers_filled_iff (isSome : reportType ≠ .none) (other : reportType.isFailure = false) :
    Recovers bufLen module version progress reportType ↔
      bufLen ≤ (filledTemplate progress module version reportType).length ∨
        ∀ field ∈ upstreamFields progress module version reportType,
          liteJsonValueOf field.1 (filledTemplate progress module version reportType) = some field.2 := by
  by_cases long : bufLen ≤ (filledTemplate progress module version reportType).length
  · refine iff_of_true (recovers_of_fails fun ν platform s => ?_) (.inl long)
    rw [otaLibGenUpstreamMsg_filled platform bufLen module version progress s isSome other, if_pos long]
    exact errOtaStrTooLong_ne
  · have whole : (filledTemplate progress module version reportType).take (bufLen - 1) =
        filledTemplate progress module version reportType := List.take_of_length_le (by omega)
    have generated : ∀ (ν : Type) (platform : Platform ν) (s : ν),
        otaLibGenUpstreamMsg platform bufLen module version progress reportType s =
          (successRet, filledTemplate progress module version reportType, s) := by
      intro ν platform s
      rw [otaLibGenUpstreamMsg_filled platform bufLen module version progress s isSome other,
        if_neg long, whole]
    constructor
    · intro recovers
      have fields := recovers.fields Script scripted ⟨[], []⟩
      rw [generated] at fields
      exact .inr (fields rfl)
    · rintro (short | read)
      · exact absurd short long
      · refine ⟨⟨filledTemplate progress module version reportType, ?_⟩, ?_⟩
        · intro ν platform s _
          rw [generated]
        · intro ν platform s _
          rw [generated]
          exact read

/-- The messages that are recovered. -/
theorem recovers_iff (bufLen : Nat) (module version : List UInt8) (progress : Int)
    (reportType : UpstreamMsgType) (plainModule : ∀ byte ∈ module, Unescaped byte)
    (plainVersion : ∀ byte ∈ version, Unescaped byte) :
    Recovers bufLen module version progress reportType ↔
      Instantiable bufLen module version progress reportType := by
  rw [Instantiable]
  by_cases isNone : reportType = .none
  · subst isNone
    rw [if_pos rfl]
    exact iff_of_true recovers_none trivial
  · rw [if_neg isNone]
    cases failure : reportType.isFailure with
    | true =>
        rw [if_pos rfl]
        by_cases long : bufLen ≤ (filledTemplate progress [] [] reportType).length
        · exact iff_of_true (recovers_failure failure long) long
        · exact iff_of_false (not_recovers_failure failure (Nat.lt_of_not_le long)) long
    | false =>
        rw [if_neg Bool.false_ne_true, recovers_filled_iff isNone failure]
        have read := @upstreamFields_read_iff progress ⟨module, plainModule⟩ ⟨version, plainVersion⟩
          reportType
        exact or_congr Iff.rfl read

/-- The report that a module has been updated. -/
theorem recovers_success : Recovers otaUpstreamMsgBufLen (literal "app") (literal "1.0") 0 .success := by
  apply (recovers_iff otaUpstreamMsgBufLen (literal "app") (literal "1.0") 0 .success (by decide +kernel)
    (by decide +kernel)).mpr
  rw [Instantiable, if_neg (by decide), if_neg (by decide)]
  exact .inr ⟨by decide, by decide, ⟨literal "app1.0\x7d", by decide, by decide⟩⟩

/-- The report of a wrong checksum, with the version that `IOT_OTA_ReportFail` gives. -/
theorem not_recovers_md5Mismatch :
    ¬Recovers otaUpstreamMsgBufLen (literal "app") [] 0 .md5Mismatch :=
  not_recovers_failure rfl (by decide)

end Recovered

end UIoT.Ota
