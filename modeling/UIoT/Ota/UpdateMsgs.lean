import UIoT.Ota.Machine
import Mathlib.Tactic.FinCases

/-!
# Reading update messages

`ota_lib_get_params` gives the handle each field of an update message as soon as it has been found. So
a message without the first field changes nothing, one with all of them sets everything, and any other
one leaves a handle of fields from two messages (`setsAllOrNone_iff`).
-/

set_option autoImplicit false

namespace UIoT.Ota

open Json Utils

/-! ## The value at a path -/

/-- The member that `json_get_value_by_name` takes. -/
def entryOfName (src : Cursor) (name : List UInt8) : Option Entry :=
  (jsonParseNameValue src).find? fun entry => name.isPrefixOf entry.key

/-- The member that `LITE_json_value_of` takes, with its type. -/
def entryOfPath : List (List UInt8) → Cursor → Option Entry
  | [], _ => none
  | [name], src => entryOfName src name
  | name :: path, src => (entryOfName src name).bind fun entry => entryOfPath path entry.value

theorem valueOfPath_entry (path : List (List UInt8)) (src : Cursor) :
    valueOfPath path src = (entryOfPath path src).map fun entry => (entry.value, entry.valueLen) := by
  induction path generalizing src with
  | nil => rfl
  | cons name path inductionHypothesis =>
      cases path with
      | nil => rfl
      | cons next path =>
          rw [valueOfPath, jsonGetValueByName, ← entryOfName, entryOfPath]
          · cases entryOfName src name with
            | none => rfl
            | some entry => exact inductionHypothesis entry.value
          · exact List.cons_ne_nil _ _
          · exact List.cons_ne_nil _ _

/-! ## Update messages -/

/-- The value of `"Size"` has the type of a number and is written like one. -/
def SizeIsNumber (json : Cursor) : Prop :=
  ∃ entry, entryOfPath (sizeField.splitOn point) json = some entry ∧ entry.type = .number ∧
    ∃ number : Number, entry.value.take entry.valueLen = number.mantissa

/-- All five fields are present. -/
structure AllPresent (json : Cursor) : Prop where
  module : (liteJsonValueOf moduleField json).isSome = true
  version : (liteJsonValueOf versionField json).isSome = true
  url : (liteJsonValueOf urlField json).isSome = true
  md5sum : (liteJsonValueOf md5Field json).isSome = true
  size : SizeIsNumber json

variable {ν : Type} {platform : Platform ν} {json : Cursor} {params : Params} {s : ν}

/-- The fields of a handle are those of a message. -/
structure FromMessage (platform : Platform ν) (json : Cursor) (s : ν) (params : Params) : Prop where
  module : params.module = liteJsonValueOf moduleField json
  version : params.version = liteJsonValueOf versionField json
  url : params.url = liteJsonValueOf urlField json
  downloadName : ∃ url, params.url = some url ∧ params.downloadName = (platform.downloadNameSet s url).1
  md5sum : params.md5sum = liteJsonValueOf md5Field json
  sizeFile : (liteJsonValueOf sizeField json).bind liteGetUint32 = some params.sizeFile

/-- The message is taken as a whole or not at all, whatever the handle holds. -/
structure SetsAllOrNone (json : Cursor) : Prop where
  kept : ∀ (ν : Type) (platform : Platform ν) (params : Params) (s : ν),
    (otaLibGetParams platform json params s).1 ≠ successRet →
      (otaLibGetParams platform json params s).2.1 = params
  succeeds : ∀ (ν : Type) (platform : Platform ν) (params : Params) (s : ν),
    (otaLibGetParams platform json params s).1 = successRet ↔ AllPresent json
  taken : ∀ (ν : Type) (platform : Platform ν) (params : Params) (s : ν),
    (otaLibGetParams platform json params s).1 = successRet →
      FromMessage platform json s (otaLibGetParams platform json params s).2.1

/-! ## Numbers -/

theorem signedDigits_digit (digit : Digit) (rest : Cursor) :
    signedDigits (digitByte digit :: rest) = (false, digitByte digit :: rest.takeWhile isDigit) := by
  fin_cases digit <;> rfl

theorem signedDigits_minus_digit (digit : Digit) (rest : Cursor) :
    signedDigits (minus :: digitByte digit :: rest) =
      (true, digitByte digit :: rest.takeWhile isDigit) := by
  fin_cases digit <;> rfl

/-- A number begins with a digit behind its sign. -/
theorem signedDigits_mantissa (number : Number) : (signedDigits number.mantissa).2 ≠ [] := by
  rw [Number.mantissa]
  cases number.negative with
  | true =>
      rw [if_pos rfl, List.cons_append, List.nil_append, List.cons_append, List.cons_append,
        signedDigits_minus_digit]
      exact List.cons_ne_nil _ _
  | false =>
      rw [if_neg Bool.false_ne_true, List.nil_append, List.cons_append, signedDigits_digit]
      exact List.cons_ne_nil _ _

theorem liteGetUint32_mantissa (number : Number) : ∃ n, liteGetUint32 number.mantissa = some n := by
  simp only [liteGetUint32, if_neg (signedDigits_mantissa number)]
  split
  · exact ⟨_, rfl⟩
  · exact ⟨_, rfl⟩

theorem SizeIsNumber.read (isNumber : SizeIsNumber json) :
    ∃ n, (liteJsonValueOf sizeField json).bind liteGetUint32 = some n := by
  obtain ⟨entry, found, _, number, text⟩ := isNumber
  obtain ⟨n, read⟩ := liteGetUint32_mantissa number
  refine ⟨n, ?_⟩
  rw [liteJsonValueOf, valueOfPath_entry, found]
  show liteGetUint32 (entry.value.take entry.valueLen) = some n
  rw [text, read]

/-! ## The fields that are set -/

/-- The first field is set as soon as it is found. -/
theorem otaLibGetParams_module {module : List UInt8}
    (present : liteJsonValueOf moduleField json = some module) :
    (otaLibGetParams platform json params s).2.1.module = some module := by
  rw [otaLibGetParams, present]
  dsimp only
  split
  · rfl
  · split
    · rfl
    · split
      · rfl
      · split
        · rfl
        · rfl

theorem otaLibGetParams_noModule (missing : liteJsonValueOf moduleField json = none) :
    otaLibGetParams platform json params s = (errOtaGeneralFailure, params, s) := by
  rw [otaLibGetParams, missing]

/-- A message with all fields sets all of them. -/
theorem otaLibGetParams_present (present : AllPresent json) :
    (otaLibGetParams platform json params s).1 = successRet ∧
      FromMessage platform json s (otaLibGetParams platform json params s).2.1 := by
  obtain ⟨module, isModule⟩ := Option.isSome_iff_exists.mp present.module
  obtain ⟨version, isVersion⟩ := Option.isSome_iff_exists.mp present.version
  obtain ⟨url, isUrl⟩ := Option.isSome_iff_exists.mp present.url
  obtain ⟨md5sum, isMd5sum⟩ := Option.isSome_iff_exists.mp present.md5sum
  obtain ⟨sizeFile, isSize⟩ := present.size.read
  have all : otaLibGetParams platform json params s =
      (successRet,
        { url := some url
          module := some module
          downloadName := (platform.downloadNameSet s url).1
          version := some version
          md5sum := some md5sum
          sizeFile := sizeFile }, (platform.downloadNameSet s url).2) := by
    simp only [otaLibGetParams, isModule, isVersion, isUrl, isMd5sum, isSize]
  rw [all]
  refine ⟨rfl, ?_⟩
  exact
    { module := isModule.symm
      version := isVersion.symm
      url := isUrl.symm
      downloadName := ⟨url, rfl, rfl⟩
      md5sum := isMd5sum.symm
      sizeFile := isSize }

/-- A handle that holds nothing. -/
def emptyParams : Params where
  url := none
  module := none
  downloadName := none
  version := none
  md5sum := none
  sizeFile := 0

/-- A message with the first field that is not complete changes a handle, or counts as complete. -/
theorem not_setsAllOrNone {module : List UInt8} (isModule : liteJsonValueOf moduleField json = some module)
    (incomplete : ¬AllPresent json) : ¬SetsAllOrNone json := by
  intro whole
  by_cases success : (otaLibGetParams scripted json emptyParams ⟨[], []⟩).1 = successRet
  · exact incomplete ((whole.succeeds Script scripted emptyParams ⟨[], []⟩).mp success)
  · have kept := congrArg Params.module (whole.kept Script scripted emptyParams ⟨[], []⟩ success)
    rw [otaLibGetParams_module isModule] at kept
    cases kept

/-- The messages that are taken as a whole or not at all. -/
theorem setsAllOrNone_iff (json : Cursor) :
    SetsAllOrNone json ↔ liteJsonValueOf moduleField json = none ∨ AllPresent json := by
  constructor
  · intro whole
    cases isModule : liteJsonValueOf moduleField json with
    | none => exact .inl rfl
    | some module => exact .inr (not_not.mp fun incomplete => not_setsAllOrNone isModule incomplete whole)
  · rintro (missing | present)
    · have incomplete : ¬AllPresent json := by
        intro present
        have isSome := present.module
        rw [missing] at isSome
        cases isSome
      have fails : errOtaGeneralFailure ≠ successRet := by decide
      constructor
      · intro ν platform params s _
        rw [otaLibGetParams_noModule missing]
      · intro ν platform params s
        rw [otaLibGetParams_noModule missing]
        exact iff_of_false fails incomplete
      · intro ν platform params s success
        rw [otaLibGetParams_noModule missing] at success
        exact absurd success fails
    · constructor
      · intro ν platform params s failed
        exact absurd (otaLibGetParams_present present).1 failed
      · intro ν platform params s
        exact iff_of_true (otaLibGetParams_present present).1 present
      · intro ν platform params s _
        exact (otaLibGetParams_present present).2

/-- An update message without a place to load the file from. -/
def nowhereMessage : List UInt8 :=
  literal "\x7b\"Method\":\"update_firmware\",\"Payload\":\x7b\"Module\":\"app\",\"Version\":\"2\"\x7d\x7d"

/-- What a handle holds of the update of another module. -/
def bootParams : Params where
  url := some (literal "http://host/boot.bin")
  module := some (literal "boot")
  downloadName := some (literal "boot.bin")
  version := some (literal "1")
  md5sum := some (literal "5d41402abc4b2a76b9719d911017c592")
  sizeFile := 5

/-- The handle is left with the module and the version of one update and the file of another. -/
theorem not_setsAllOrNone_nowhere : ¬SetsAllOrNone nowhereMessage := by
  intro whole
  have kept := whole.kept Script scripted bootParams ⟨[], []⟩ (by decide)
  exact absurd (congrArg Params.module kept) (by decide)

end UIoT.Ota
