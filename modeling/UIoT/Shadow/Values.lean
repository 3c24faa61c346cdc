import UIoT.Shadow.Manager
import UIoT.Utils.Scanf

/-!
# Storing a desired value

`IOT_Shadow_Direct_Update_Value` writes the value of a desired property into the
variable of the property, by its type. A number that the type cannot hold, or
that is no integer, is stored as well, and every text but `0` is true; so the
function stores what the cloud sent only when the literal is an integer that is
written out and the type holds it, or one of three literals for a boolean
(`directUpdateValue_correct_iff`).
-/

set_option autoImplicit false

namespace UIoT.Shadow

open Utils
open Json (Number)
open Mqtt (CString)

/-! ## The function -/

/-- The return code of a read and the property's data behind it. -/
def stored {α : Type} (kind : α → PropertyData) (data : PropertyData) : Option α → Int × PropertyData
  | some value => (successRet, kind value)
  | none => (failureRet, data)

/-- `IOT_Shadow_Direct_Update_Value`, on what the property's data points to. -/
def iotShadowDirectUpdateValue (library : CLibrary) (value : CString) (data : PropertyData) :
    Int × PropertyData :=
  match data with
  | .bool _ => (successRet, .bool (liteGetBoolean value))
  | .int32 _ => stored .int32 data (liteGetInt32 library value)
  | .int16 _ => stored .int16 data (liteGetInt16 library value)
  | .int8 _ => stored .int8 data (liteGetInt8 library value)
  | .uint32 _ => stored .uint32 data (liteGetUInt32 library value)
  | .uint16 _ => stored .uint16 data (liteGetUInt16 library value)
  | .uint8 _ => stored .uint8 data (liteGetUInt8 library value)
  | .float _ => stored .float data (library.floating value)
  | .double _ => stored .double data (library.floating value)
  | .string _ => (successRet, data)
  | .object _ => (successRet, data)

/-! ## Integral types -/

inductive IntegralType where
  | int32 | int16 | int8 | uint32 | uint16 | uint8
  deriving DecidableEq, Repr

/-- The numbers that a type holds. -/
def IntegralType.Holds (n : Int) : IntegralType → Prop
  | .int32 => -2 ^ 31 ≤ n ∧ n < 2 ^ 31
  | .int16 => -2 ^ 15 ≤ n ∧ n < 2 ^ 15
  | .int8 => -2 ^ 7 ≤ n ∧ n < 2 ^ 7
  | .uint32 => 0 ≤ n ∧ n < 2 ^ 32
  | .uint16 => 0 ≤ n ∧ n < 2 ^ 16
  | .uint8 => 0 ≤ n ∧ n < 2 ^ 8

/-- A number in a variable of the type. -/
def IntegralType.data (n : Int) : IntegralType → PropertyData
  | .int32 => .int32 (Int32.ofInt n)
  | .int16 => .int16 (Int16.ofInt n)
  | .int8 => .int8 (Int8.ofInt n)
  | .uint32 => .uint32 (UInt32.ofNat n.toNat)
  | .uint16 => .uint16 (UInt16.ofNat n.toNat)
  | .uint8 => .uint8 (UInt8.ofNat n.toNat)

/-- A decimal literal as JSON has them. -/
structure Literal where
  number : Number
  canonical : NoLeadingZero number

/-- A literal is stored where the type holds what it denotes, and else refused. -/
structure StoresNumber (library : CLibrary) (type : IntegralType) (literal : Literal) : Prop where
  stored : ∀ n old : Int, literal.number.toRat = n → type.Holds n →
    iotShadowDirectUpdateValue library literal.number.text (type.data old) =
      (successRet, type.data n)
  refused : (∀ n : Int, literal.number.toRat = n → ¬type.Holds n) → ∀ old : Int,
    ∃ code, code ≠ successRet ∧
      iotShadowDirectUpdateValue library literal.number.text (type.data old) = (code, type.data old)

/-- The literals of a boolean are stored, and everything else is refused. -/
structure StoresBoolean (library : CLibrary) (value : CString) : Prop where
  isFalse : value = Utils.literal "false" ∨ value = Utils.literal "0" → ∀ old,
    iotShadowDirectUpdateValue library value (.bool old) = (successRet, .bool false)
  isTrue : value = Utils.literal "true" ∨ value = Utils.literal "1" → ∀ old,
    iotShadowDirectUpdateValue library value (.bool old) = (successRet, .bool true)
  refused : value ≠ Utils.literal "false" → value ≠ Utils.literal "0" →
    value ≠ Utils.literal "true" → value ≠ Utils.literal "1" → ∀ old,
      ∃ code, code ≠ successRet ∧
        iotShadowDirectUpdateValue library value (.bool old) = (code, .bool old)

/-- What is stored for the integer in front of the point of a literal. -/
def readNumber (library : CLibrary) (number : Int) : IntegralType → PropertyData
  | .int32 => .int32 (storeInt32 library number)
  | .int16 => .int16 (storeInt16 library number)
  | .int8 => .int8 (storeInt16 library number).toInt8
  | .uint32 => .uint32 (storeUInt32 library number)
  | .uint16 => .uint16 (storeUInt16 library number)
  | .uint8 => .uint8 (storeUInt16 library number).toUInt8

/-- No literal is refused, and only its integer part is read. -/
theorem directUpdateValue_number (library : CLibrary) (type : IntegralType) (literal : Literal)
    (old : Int) :
    iotShadowDirectUpdateValue library literal.number.text (type.data old) =
      (successRet, readNumber library (integerPart literal.number) type) := by
  have signedRead := scanI_number literal.canonical
  have unsignedRead := scanU_number literal.number
  cases type <;>
    simp only [IntegralType.data, iotShadowDirectUpdateValue, liteGetInt32, liteGetInt16,
      liteGetInt8, liteGetUInt32, liteGetUInt16, liteGetUInt8, signedRead, unsignedRead,
      Option.map_some, stored, readNumber]

/-- A number that the type holds is stored. -/
theorem readNumber_holds (library : CLibrary) {type : IntegralType} {n : Int}
    (holds : type.Holds n) : readNumber library n type = type.data n := by
  cases type with
  | int32 => exact congrArg PropertyData.int32 (if_pos holds)
  | int16 => exact congrArg PropertyData.int16 (if_pos holds)
  | uint32 => exact congrArg PropertyData.uint32 (if_pos holds)
  | uint16 => exact congrArg PropertyData.uint16 (if_pos holds)
  | int8 =>
      simp only [IntegralType.Holds] at holds
      have wide : storeInt16 library n = Int16.ofInt n := if_pos ⟨by omega, by omega⟩
      rw [readNumber, wide, toInt8_ofInt16]
      rfl
  | uint8 =>
      simp only [IntegralType.Holds] at holds
      have wide : storeUInt16 library n = UInt16.ofNat n.toNat := if_pos ⟨by omega, by omega⟩
      rw [readNumber, wide, UInt16.toUInt8_ofNat']
      rfl

theorem dvd_of_uint8 {m n : Int} (nonneg : 0 ≤ m ∧ 0 ≤ n)
    (same : UInt8.ofNat m.toNat = UInt8.ofNat n.toNat) : (256 : Int) ∣ m - n := by
  have equal := congrArg UInt8.toNat same
  rw [UInt8.toNat_ofNat', UInt8.toNat_ofNat'] at equal
  omega

/-- A type tells the numbers that it holds apart. -/
theorem data_injective {type : IntegralType} {m n : Int} (holdsFirst : type.Holds m)
    (holdsSecond : type.Holds n) (same : type.data m = type.data n) : m = n := by
  cases type with
  | int32 =>
      have equal := congrArg Int32.toInt (PropertyData.int32.inj same)
      rwa [Int32.toInt_ofInt_of_le holdsFirst.1 holdsFirst.2,
        Int32.toInt_ofInt_of_le holdsSecond.1 holdsSecond.2] at equal
  | int16 =>
      have equal := congrArg Int16.toInt (PropertyData.int16.inj same)
      rwa [Int16.toInt_ofInt_of_le holdsFirst.1 holdsFirst.2,
        Int16.toInt_ofInt_of_le holdsSecond.1 holdsSecond.2] at equal
  | int8 =>
      have equal := congrArg Int8.toInt (PropertyData.int8.inj same)
      rwa [Int8.toInt_ofInt_of_le holdsFirst.1 holdsFirst.2,
        Int8.toInt_ofInt_of_le holdsSecond.1 holdsSecond.2] at equal
  | uint32 =>
      have equal := congrArg UInt32.toNat (PropertyData.uint32.inj same)
      simp only [IntegralType.Holds] at holdsFirst holdsSecond
      rw [UInt32.toNat_ofNat_of_lt' (by simp; omega), UInt32.toNat_ofNat_of_lt' (by simp; omega)] at equal
      omega
  | uint16 =>
      have equal := congrArg UInt16.toNat (PropertyData.uint16.inj same)
      simp only [IntegralType.Holds] at holdsFirst holdsSecond
      rw [UInt16.toNat_ofNat_of_lt' (by simp; omega), UInt16.toNat_ofNat_of_lt' (by simp; omega)] at equal
      omega
  | uint8 =>
      have equal := dvd_of_uint8 ⟨holdsFirst.1, holdsSecond.1⟩ (PropertyData.uint8.inj same)
      simp only [IntegralType.Holds] at holdsFirst holdsSecond
      omega

/-- The type of the variable that `sscanf` writes to. -/
def IntegralType.scanned : IntegralType → IntegralType
  | .int8 => .int16
  | .uint8 => .uint16
  | type => type

theorem readNumber_overflow {type : IntegralType} {n : Int} (overflow : ¬type.scanned.Holds n)
    (number : Int) : readNumber (constantLibrary number) n type = type.data number := by
  cases type with
  | int32 => exact congrArg PropertyData.int32 (if_neg overflow)
  | int16 => exact congrArg PropertyData.int16 (if_neg overflow)
  | uint32 => exact congrArg PropertyData.uint32 (if_neg overflow)
  | uint16 => exact congrArg PropertyData.uint16 (if_neg overflow)
  | int8 =>
      have stores : storeInt16 (constantLibrary number) n = Int16.ofInt number := if_neg overflow
      rw [readNumber, stores, toInt8_ofInt16]
      rfl
  | uint8 =>
      have stores : storeUInt16 (constantLibrary number) n = UInt16.ofNat number.toNat :=
        if_neg overflow
      rw [readNumber, stores, UInt16.toUInt8_ofNat']
      rfl

theorem holds_zero (type : IntegralType) : type.Holds 0 := by
  cases type <;> exact ⟨by decide, by decide⟩

theorem holds_one (type : IntegralType) : type.Holds 1 := by
  cases type <;> exact ⟨by decide, by decide⟩

/-- What is stored is the number that a literal denotes for every library only if
the integer in front of the point is that number. -/
theorem integerPart_eq_of_stored {type : IntegralType} {number : Number} {n : Int}
    (denotes : number.toRat = n) (holds : type.Holds n)
    (same : ∀ library, readNumber library (integerPart number) type = type.data n) :
    integerPart number = n := by
  have zero := same (constantLibrary 0)
  have one := same (constantLibrary 1)
  by_cases fits : type.scanned.Holds (integerPart number)
  · cases type with
    | int32 => exact data_injective fits holds ((readNumber_holds _ fits).symm.trans zero)
    | int16 => exact data_injective fits holds ((readNumber_holds _ fits).symm.trans zero)
    | uint32 => exact data_injective fits holds ((readNumber_holds _ fits).symm.trans zero)
    | uint16 => exact data_injective fits holds ((readNumber_holds _ fits).symm.trans zero)
    | int8 =>
        have stores : storeInt16 (constantLibrary 0) (integerPart number) =
            Int16.ofInt (integerPart number) := if_pos fits
        rw [readNumber, stores, toInt8_ofInt16] at zero
        simp only [IntegralType.Holds] at holds
        exact integerPart_eq denotes ⟨by omega, by omega⟩ (dvd_of_int8 (PropertyData.int8.inj zero))
    | uint8 =>
        have stores : storeUInt16 (constantLibrary 0) (integerPart number) =
            UInt16.ofNat (integerPart number).toNat := if_pos fits
        rw [readNumber, stores, UInt16.toUInt8_ofNat'] at zero
        simp only [IntegralType.Holds] at holds
        exact integerPart_eq denotes ⟨by omega, by omega⟩
          (dvd_of_uint8 ⟨fits.1, holds.1⟩ (PropertyData.uint8.inj zero))
  · rw [readNumber_overflow fits] at zero one
    exact absurd (data_injective (holds_zero type) (holds_one type) (zero.trans one.symm)) (by decide)

/-- A literal is stored or refused as it should, whatever the library, exactly
when it denotes the integer in front of its point and the type holds that. -/
theorem storesNumber_iff (type : IntegralType) (literal : Literal) :
    (∀ library, StoresNumber library type literal) ↔
      literal.number.toRat = integerPart literal.number ∧ type.Holds (integerPart literal.number) := by
  constructor
  · intro stores
    by_cases denotes : ∃ n : Int, literal.number.toRat = n ∧ type.Holds n
    · obtain ⟨n, denotes, holds⟩ := denotes
      have same : integerPart literal.number = n := by
        refine integerPart_eq_of_stored denotes holds fun library => ?_
        have result := (stores library).stored n 0 denotes holds
        rw [directUpdateValue_number] at result
        exact (Prod.mk.inj result).2
      rw [same]
      exact ⟨denotes, holds⟩
    · obtain ⟨code, failed, result⟩ := (stores (constantLibrary 0)).refused
        (fun n isN holds => denotes ⟨n, isN, holds⟩) 0
      rw [directUpdateValue_number] at result
      exact (failed (Prod.mk.inj result).1.symm).elim
  · rintro ⟨denotes, holds⟩ library
    refine ⟨fun n old isN _ => ?_, fun none => (none _ denotes holds).elim⟩
    have same : integerPart literal.number = n := by exact_mod_cast denotes.symm.trans isN
    rw [directUpdateValue_number, readNumber_holds library holds, same]

theorem liteGetBoolean_eq (library : CLibrary) (value : CString) (old : Bool) :
    iotShadowDirectUpdateValue library value (.bool old) =
      (successRet, .bool (liteGetBoolean value)) := rfl

/-- A boolean is stored or refused as it should exactly on three texts. -/
theorem storesBoolean_iff (library : CLibrary) (value : CString) :
    StoresBoolean library value ↔ value = Utils.literal "0" ∨ value = Utils.literal "1" ∨
      value = Utils.literal "true" := by
  constructor
  · intro stores
    by_contra other
    obtain ⟨notZero, notOne, notTrue⟩ : value ≠ Utils.literal "0" ∧ value ≠ Utils.literal "1" ∧
        value ≠ Utils.literal "true" := by
      simpa only [not_or] using other
    by_cases isFalse : value = Utils.literal "false"
    · have result := stores.isFalse (.inl isFalse) true
      have isTrue : liteGetBoolean value = true := by rw [isFalse]; decide
      rw [liteGetBoolean_eq, isTrue] at result
      exact absurd result (by decide)
    · obtain ⟨code, failed, result⟩ := stores.refused isFalse notZero notTrue notOne true
      exact failed (Prod.mk.inj result).1.symm
  · intro either
    rcases either with rfl | rfl | rfl
    · exact ⟨fun _ _ => rfl, fun isTrue => absurd isTrue (by decide), fun _ notZero => (notZero rfl).elim⟩
    · exact ⟨fun isFalse => absurd isFalse (by decide), fun _ _ => rfl,
        fun _ _ _ notOne => (notOne rfl).elim⟩
    · exact ⟨fun isFalse => absurd isFalse (by decide), fun _ _ => rfl,
        fun _ _ notTrue => (notTrue rfl).elim⟩

/-- For an integral type and a decimal literal, and for a boolean and a text,
the function stores what is denoted or refuses it exactly in these cases. -/
theorem directUpdateValue_correct_iff (type : IntegralType) (literal : Literal) (library : CLibrary)
    (value : CString) :
    ((∀ library, StoresNumber library type literal) ↔
      literal.number.toRat = integerPart literal.number ∧ type.Holds (integerPart literal.number)) ∧
    (StoresBoolean library value ↔
      value = Utils.literal "0" ∨ value = Utils.literal "1" ∨ value = Utils.literal "true") :=
  ⟨storesNumber_iff type literal, storesBoolean_iff library value⟩

def threeHundred : Literal := ⟨.ofInt 300, fun isZero => absurd isZero (by decide)⟩

/-- The literals 300, for eight bits, and false. -/
theorem wrong_value_stored :
    iotShadowDirectUpdateValue (constantLibrary 0) threeHundred.number.text (.int8 7) =
        (successRet, .int8 44) ∧
      ¬StoresNumber (constantLibrary 0) .int8 threeHundred ∧
      iotShadowDirectUpdateValue (constantLibrary 0) (Utils.literal "false") (.bool false) =
        (successRet, .bool true) := by
  refine ⟨by decide +kernel, fun stores => ?_, by decide⟩
  have none : ∀ n : Int, threeHundred.number.toRat = n → ¬IntegralType.int8.Holds n := by
    intro n isN holds
    have same : (300 : Int) = n := by exact_mod_cast (Json.Number.toRat_ofInt 300).symm.trans isN
    simp only [IntegralType.Holds] at holds
    omega
  obtain ⟨code, failed, result⟩ := stores.refused none 7
  rw [directUpdateValue_number] at result
  exact failed (Prod.mk.inj result).1.symm

end UIoT.Shadow
