import UIoT.Shadow.Values
import UIoT.Shadow.WellFormed
import UIoT.Utils.JsonLookup

/-!
# A property there and back

What an UPDATE document reports of one property is what the delta handler makes
of the same document: the lookup of `State.Reported`, of the key in it, and the
value stored by type (`property_round_trip`). Names are taken by their first
bytes, so it matters that the members in front of the ones sought begin with
other letters, and that the reported part is cut out before the key is sought.
-/

set_option autoImplicit false

namespace UIoT.Shadow

open Utils Json
open Mqtt (CString)

/-! ## The document -/

/-- Letters, digits and underscores. -/
def KeyByte (byte : UInt8) : Prop :=
  (0x61 ≤ byte ∧ byte ≤ 0x7A) ∨ (0x41 ≤ byte ∧ byte ≤ 0x5A) ∨ (0x30 ≤ byte ∧ byte ≤ 0x39) ∨
    byte = 0x5F

instance (byte : UInt8) : Decidable (KeyByte byte) := inferInstanceAs (Decidable (_ ∨ _))

theorem KeyByte.ne {byte other : UInt8} (isKey : KeyByte byte) (notKey : ¬KeyByte other) :
    byte ≠ other := by
  rintro rfl
  exact notKey isKey

theorem KeyByte.unescaped {byte : UInt8} (isKey : KeyByte byte) : Unescaped byte := by
  refine ⟨?_, isKey.ne (by decide), isKey.ne (by decide)⟩
  rcases isKey with ⟨low, _⟩ | ⟨low, _⟩ | ⟨low, _⟩ | rfl
  · exact UInt8.le_trans (by decide) low
  · exact UInt8.le_trans (by decide) low
  · exact UInt8.le_trans (by decide) low
  · decide

theorem KeyByte.not_mark {byte : UInt8} (isKey : KeyByte byte) : ¬Mark byte := by
  rintro (isMark | isMark | isMark | isMark | isMark) <;>
    exact isKey.ne (by decide) isMark

/-- Two values of one integral type, or two booleans. -/
def SameScalar : PropertyData → PropertyData → Prop
  | .int32 _, .int32 _ => True
  | .int16 _, .int16 _ => True
  | .int8 _, .int8 _ => True
  | .uint32 _, .uint32 _ => True
  | .uint16 _, .uint16 _ => True
  | .uint8 _, .uint8 _ => True
  | .bool _, .bool _ => True
  | _, _ => False

/-- The integer that a scalar is printed as. -/
def printed : PropertyData → Int
  | .int32 value => value.toInt
  | .int16 value => value.toInt
  | .int8 value => value.toInt
  | .uint32 value => value.toNat
  | .uint16 value => value.toNat
  | .uint8 value => value.toNat
  | .bool value => if value then 1 else 0
  | _ => 0

variable {old data : PropertyData}

theorem valueText_scalar (same : SameScalar old data) :
    valueText (some data) = (Number.ofInt (printed data)).text ++ [comma] := by
  cases data with
  | int32 value => rw [valueText, formatInt_eq_text]; rfl
  | int16 value => rw [valueText, formatInt_eq_text]; rfl
  | int8 value => rw [valueText, formatInt_eq_text]; rfl
  | uint32 value => rw [valueText, formatNat_eq_text]; rfl
  | uint16 value => rw [valueText, formatNat_eq_text]; rfl
  | uint8 value => rw [valueText, formatNat_eq_text]; rfl
  | bool value => cases value <;> rfl
  | float value => cases old <;> exact same.elim
  | double value => cases old <;> exact same.elim
  | string value => cases old <;> exact same.elim
  | object value => cases old <;> exact same.elim

/-- The key of a property, as a string of the document. -/
def keyStr (key : CString) (keyBytes : ∀ byte ∈ key, KeyByte byte) : Str :=
  ⟨key, fun byte member => (keyBytes byte member).unescaped⟩

/-- The members of the reported part. -/
def reportedMember (key : Str) (data : PropertyData) : Members :=
  member key (.number (.ofInt (printed data))) .nil

/-- The document of an update of one property. -/
def updateDocument (version : UInt32) (key : Str) (data : PropertyData) : Json.Document :=
  requestDocument updateName
    (stateMembers (reportedPart (reportedMember key data) .nil) version.toInt32.toInt)

variable {version : UInt32} {params : RequestParams}

theorem documentText_update (isUpdate : params.method = .update) {key : Str}
    (list : params.propertyDeltaList = [⟨key.bytes, some data⟩]) (same : SameScalar old data) :
    documentText version params = (updateDocument version key data).text := by
  have isListed : listed params = true := by rw [listed, list]; rfl
  have content : contentText params =
      keyText key.bytes ++ (Number.ofInt (printed data)).text ++ [comma] := by
    rw [contentText_reports (by rw [isUpdate]; decide), pieces, list]
    simp [pieceText, isUpdate, reportedData, valueText_scalar same]
  rw [updateDocument, requestDocument_text, reportedPart_text, reportedMember, documentText, content,
    isUpdate, isListed, ← List.append_assoc, List.length_append, overwritten_reports (by decide),
    List.length_singleton, Nat.add_sub_cancel, List.take_left, closingText, versionText,
    formatInt_eq_text]
  simp only [keyText, member, Members.text, Value.text, Str.text, Members.separator,
    List.append_assoc, List.cons_append, List.nil_append, List.append_nil]
  rfl

/-! ## The lookups -/

section

variable {trailing : Blanks} {name : List UInt8} {frames : List Frame}

theorem seek_first (blanks : Blanks) (str : Str) (value : Value) (rest : Members) :
    seek trailing str.bytes ⟨.object blanks (member str value rest), frames⟩ =
      some ⟨value, ⟨[], rest⟩ :: frames⟩ := by
  have begins : ∀ text, str.bytes.isPrefixOf (str.bytes ++ text) = true := fun text =>
    List.isPrefixOf_iff_prefix.mpr (List.prefix_append _ _)
  simp only [seek, Place.sightings, member, Members.sightings, List.cons_append, List.find?_cons,
    nameCursor, begins, Option.map_some]

/-- A member is passed by when its name begins with another letter. -/
theorem seek_other {first byte : UInt8} {bytes more : List UInt8} (blanks : Blanks) {str : Str}
    (isName : name = first :: bytes) (isStr : str.bytes = byte :: more) (differ : first ≠ byte)
    (value : Value) (rest : Members) :
    seek trailing name ⟨.object blanks (member str value rest), frames⟩ =
      seek trailing name ⟨.object blanks rest, frames⟩ := by
  have passes : ∀ text, name.isPrefixOf (str.bytes ++ text) = false := by
    intro text
    rw [isName, isStr, List.cons_append, List.isPrefixOf, beq_false_of_ne differ, Bool.false_and]
  simp only [seek, Place.sightings, member, Members.sightings, List.cons_append, List.find?_cons,
    nameCursor, passes]

end

variable {key : Str}

theorem updateDocument_plain (version : UInt32) (plain : Utils.Plain key) (data : PropertyData) :
    (updateDocument version key data).root.AllStr Utils.Plain := by
  have names : Utils.Plain methodKey ∧ Utils.Plain updateName ∧ Utils.Plain stateKey ∧
      Utils.Plain reportedKey ∧ Utils.Plain versionKey :=
    ⟨⟨by decide, noMark_of_all (by decide)⟩, ⟨by decide, noMark_of_all (by decide)⟩,
      ⟨by decide, noMark_of_all (by decide)⟩, ⟨by decide, noMark_of_all (by decide)⟩,
      ⟨by decide, noMark_of_all (by decide)⟩⟩
  obtain ⟨isMethod, isUpdate, isState, isReported, isVersion⟩ := names
  exact ⟨isMethod, isUpdate, isState, ⟨isReported, ⟨plain, trivial, trivial⟩, trivial⟩, isVersion, trivial,
    trivial⟩

/-- The reported part is found. -/
theorem liteJsonValueOf_reported (version : UInt32) (plain : Utils.Plain key) (data : PropertyData) :
    liteJsonValueOf (literal "State.Reported") (updateDocument version key data).text =
      some (Value.object [] (reportedMember key data)).text := by
  have path : (literal "State.Reported").splitOn point = [stateKey.bytes, reportedKey.bytes] := by
    decide
  have spaced : Spaced (updateDocument version key data) := by
    intro blank isBlank
    exact absurd isBlank List.not_mem_nil
  rw [liteJsonValueOf_spaced _ spaced (updateDocument_plain version plain data), path]
  have isState : stateKey.bytes = 0x53 :: literal "tate" := by decide
  have isMethod : methodKey.bytes = 0x4D :: literal "ethod" := by decide
  have state : seek [] stateKey.bytes ⟨(updateDocument version key data).root, []⟩ =
      some ⟨.object [] (reportedPart (reportedMember key data) .nil),
        [⟨[], member versionKey (.number (.ofInt version.toInt32.toInt)) .nil⟩]⟩ :=
    (seek_other [] isState isMethod (by decide) _ _).trans (seek_first [] stateKey _ _)
  have reported : ∀ frames, seek [] reportedKey.bytes
      ⟨.object [] (reportedPart (reportedMember key data) .nil), frames⟩ =
        some ⟨.object [] (reportedMember key data), ⟨[], .nil⟩ :: frames⟩ :=
    fun frames => seek_first [] reportedKey _ _
  have trailing : (updateDocument version key data).trailing = [] := rfl
  simp only [walk, trailing, state, reported, Option.bind_some, Option.map_some]
  rfl

/-- A key of the reported part is found in it. -/
theorem liteJsonValueOf_key (plain : Utils.Plain key) (noPoint : point ∉ key.bytes)
    (data : PropertyData) :
    liteJsonValueOf key.bytes (Value.object [] (reportedMember key data)).text =
      some (Number.ofInt (printed data)).text := by
  have path : key.bytes.splitOn point = [key.bytes] := List.splitOn_eq_singleton noPoint
  have isPlain : (alone (.object [] (reportedMember key data))).root.AllStr Utils.Plain :=
    ⟨plain, trivial, trivial⟩
  have spaced : Spaced (alone (.object [] (reportedMember key data))) := by
    intro blank isBlank
    exact absurd isBlank List.not_mem_nil
  have found : seek [] key.bytes ⟨.object [] (reportedMember key data), []⟩ =
      some ⟨.number (.ofInt (printed data)), [⟨[], .nil⟩]⟩ := seek_first [] key _ _
  have root : (alone (.object [] (reportedMember key data))).root =
      .object [] (reportedMember key data) := rfl
  have trailing : (alone (.object [] (reportedMember key data))).trailing = [] := rfl
  rw [← alone_text, liteJsonValueOf_spaced _ spaced isPlain, path]
  simp only [walk, root, trailing, found, Option.bind_some, Option.map_some]
  exact congrArg some (List.append_nil _).symm

/-! ## The round trip -/

/-- A scalar is a number that its type holds, or a boolean. -/
theorem scalar_cases (same : SameScalar old data) :
    (∃ (type : IntegralType) (n : Int), type.Holds (printed data) ∧
      data = type.data (printed data) ∧ old = type.data n) ∨
      ∃ before value, old = .bool before ∧ data = .bool value := by
  cases data with
  | int32 value =>
      cases old with
      | int32 before =>
          exact .inl ⟨.int32, before.toInt, ⟨value.le_toInt, value.toInt_lt⟩,
            congrArg _ value.ofInt_toInt.symm, congrArg _ before.ofInt_toInt.symm⟩
      | _ => exact same.elim
  | int16 value =>
      cases old with
      | int16 before =>
          exact .inl ⟨.int16, before.toInt, ⟨value.le_toInt, value.toInt_lt⟩,
            congrArg _ value.ofInt_toInt.symm, congrArg _ before.ofInt_toInt.symm⟩
      | _ => exact same.elim
  | int8 value =>
      cases old with
      | int8 before =>
          exact .inl ⟨.int8, before.toInt, ⟨value.le_toInt, value.toInt_lt⟩,
            congrArg _ value.ofInt_toInt.symm, congrArg _ before.ofInt_toInt.symm⟩
      | _ => exact same.elim
  | uint32 value =>
      cases old with
      | uint32 before =>
          exact .inl ⟨.uint32, before.toNat, ⟨Int.natCast_nonneg _, Int.ofNat_lt.mpr value.toNat_lt⟩,
            congrArg _ value.ofNat_toNat.symm, congrArg _ before.ofNat_toNat.symm⟩
      | _ => exact same.elim
  | uint16 value =>
      cases old with
      | uint16 before =>
          exact .inl ⟨.uint16, before.toNat, ⟨Int.natCast_nonneg _, Int.ofNat_lt.mpr value.toNat_lt⟩,
            congrArg _ value.ofNat_toNat.symm, congrArg _ before.ofNat_toNat.symm⟩
      | _ => exact same.elim
  | uint8 value =>
      cases old with
      | uint8 before =>
          exact .inl ⟨.uint8, before.toNat, ⟨Int.natCast_nonneg _, Int.ofNat_lt.mpr value.toNat_lt⟩,
            congrArg _ value.ofNat_toNat.symm, congrArg _ before.ofNat_toNat.symm⟩
      | _ => exact same.elim
  | bool value =>
      cases old with
      | bool before => exact .inr ⟨before, value, rfl, rfl⟩
      | _ => exact same.elim
  | float value => cases old <;> exact same.elim
  | double value => cases old <;> exact same.elim
  | string value => cases old <;> exact same.elim
  | object value => cases old <;> exact same.elim

/-- A printed scalar is stored as it was. -/
theorem directUpdateValue_printed (library : CLibrary) (same : SameScalar old data) :
    iotShadowDirectUpdateValue library (Number.ofInt (printed data)).text old =
      (successRet, data) := by
  rcases scalar_cases same with ⟨type, n, holds, isData, isOld⟩ | ⟨before, value, isOld, isData⟩
  · have result := directUpdateValue_number library type
      ⟨.ofInt (printed data), noLeadingZero_ofInt _⟩ n
    rw [integerPart_ofInt, readNumber_holds library holds, ← isOld, ← isData] at result
    exact result
  · rw [isOld, isData]
    cases value <;> rfl

/-- A printed number is no null. -/
theorem findValueIfKeyMatch_number {jsonDoc : CString} {property : DeviceProperty} {number : Number}
    (found : liteJsonValueOf property.key jsonDoc = some number.text) :
    findValueIfKeyMatch jsonDoc property = some number.text := by
  obtain ⟨first, more, mantissa, begins, _⟩ := mantissa_scan number
  have text : number.text = first :: (more ++ exponentText number.exponent) := by
    rw [Number.text, mantissa, List.cons_append]
  have lower : literal "null" = 0x6E :: literal "ull" := by decide
  have upper : literal "NULL" = 0x4E :: literal "ULL" := by decide
  have notLower : (0x6E == first) = false := by
    rw [beq_eq_false_iff_ne]
    rintro rfl
    exact absurd begins (by decide)
  have notUpper : (0x4E == first) = false := by
    rw [beq_eq_false_iff_ne]
    rintro rfl
    exact absurd begins (by decide)
  rw [findValueIfKeyMatch, found]
  simp only [text, lower, upper, List.isPrefixOf, notLower, notUpper, Bool.false_and, Bool.or_false,
    Bool.false_eq_true, if_false]

/-- What an UPDATE document reports of a scalar property is found under its key
in the reported part of the document, and stored as it was. -/
theorem property_round_trip (library : CLibrary) (version : UInt32) (before : CString)
    (sizeOfBuffer : Nat) (params : RequestParams) (key : CString) (data old : PropertyData)
    (isUpdate : params.method = .update) (list : params.propertyDeltaList = [⟨key, some data⟩])
    (nonempty : key ≠ []) (keyBytes : ∀ byte ∈ key, KeyByte byte) (same : SameScalar old data)
    (room : 3 * (documentText version params).length ≤ sizeOfBuffer) :
    let built := buildDocument version ⟨before, 0, false⟩ sizeOfBuffer params true
    built.1 = successRet ∧ ∃ state value,
      liteJsonValueOf (literal "State.Reported") built.2.text = some state ∧
      findValueIfKeyMatch state ⟨key, some old⟩ = some value ∧
      iotShadowDirectUpdateValue library value old = (successRet, data) := by
  intro built
  obtain ⟨success, text⟩ := @buildDocument_text sizeOfBuffer version params before room
  have plain : Utils.Plain (keyStr key keyBytes) :=
    ⟨nonempty, fun byte member => (keyBytes byte member).not_mark⟩
  have noPoint : point ∉ (keyStr key keyBytes).bytes := fun member =>
    (keyBytes point member).ne (by decide) rfl
  have document := @documentText_update old data version params isUpdate (keyStr key keyBytes) list
    same
  refine ⟨success, (Value.object [] (reportedMember (keyStr key keyBytes) data)).text,
    (Number.ofInt (printed data)).text, ?_, ?_, directUpdateValue_printed library same⟩
  · change liteJsonValueOf _
      (buildDocument version ⟨before, 0, false⟩ sizeOfBuffer params true).2.text = _
    rw [text, document]
    exact liteJsonValueOf_reported version plain data
  · exact findValueIfKeyMatch_number (liteJsonValueOf_key plain noPoint data)

/-- An update of one property. -/
def oneProperty (key : CString) (data : PropertyData) : RequestParams :=
  ⟨.update, [⟨key, some data⟩], 1, none, 0⟩

theorem property_round_trip_minimum :
    let params := oneProperty (literal "State_1") (.int8 (-128))
    let built := buildDocument 3 ⟨[], 0, false⟩ 512 params true
    built.1 = successRet ∧ ∃ state value,
      liteJsonValueOf (literal "State.Reported") built.2.text = some state ∧
      findValueIfKeyMatch state ⟨literal "State_1", some (.int8 0)⟩ = some value ∧
      iotShadowDirectUpdateValue (constantLibrary 0) value (.int8 0) = (successRet, .int8 (-128)) :=
  property_round_trip (constantLibrary 0) 3 [] 512 (oneProperty (literal "State_1") (.int8 (-128)))
    (literal "State_1") (.int8 (-128)) (.int8 0) rfl rfl (by decide) (by decide +kernel) trivial
    (by decide +kernel)

/-- A property with an empty key is reported, and not found. -/
theorem empty_key_lost :
    let params := oneProperty [] (.int8 5)
    let built := buildDocument 3 ⟨[], 0, false⟩ 512 params true
    built.1 = successRet ∧
      liteJsonValueOf (literal "State.Reported") built.2.text = some (literal "\x7b\"\":5\x7d") ∧
      findValueIfKeyMatch (literal "\x7b\"\":5\x7d") ⟨[], some (.int8 0)⟩ = none := by
  decide +kernel

end UIoT.Shadow
