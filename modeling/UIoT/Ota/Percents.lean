import UIoT.Ota.Statuses

/-!
# The percentages of a download

`IOT_OTA_FetchYield` multiplies the bytes fetched so far by 100 and divides by the size that the update
message has told, in 32 bits and without a look at the size. Over any run of calls a percentage is exact
and one that `IOT_OTA_ReportProgress` takes just where the size is not 0, the product fits and not more
than a hundredth of the file has come too much (`percents_iff`).
-/

set_option autoImplicit false

namespace UIoT.Ota

open Utils

/-! ## Percentages -/

/-- The percentage of the file that a handle has fetched. -/
def OtaStruct.percent (ota : OtaStruct) : Outcome UInt32 :=
  if ota.params.sizeFile = 0 then throw .arithmetic
  else return ota.sizeFetched * 100 / ota.params.sizeFile

variable {ν : Type} (platform : Platform ν)

theorem accountFetched_percent (ret : Int) (ota : OtaStruct) (buf : List UInt8) (s : ν) :
    accountFetched platform ret ota buf s = (do
      let md5 ← used ota.md5
      let ota := ota.addFetched md5 ret buf
      if (buf.length : Int) < ret then throw .outside
      else
        let percent ← ota.percent
        let (ota, s) := reportPercent platform ota percent s
        return (ota.checkFetched, s)) := by
  rw [accountFetched]
  cases used ota.md5 with
  | error fault => rfl
  | ok md5 =>
      show (if _ then _ else if _ then _ else _) = (if _ then _ else _)
      split
      · rfl
      · show _ = (OtaStruct.percent _ >>= _)
        rw [OtaStruct.percent]
        split <;> rfl

/-- The arguments of a call of `IOT_OTA_FetchYield` -/
structure YieldCall where
  turns : Nat
  buf : List UInt8
  rangeLen : UInt32
  timeoutS : UInt32

/-- `IOT_OTA_FetchYield` with these arguments -/
abbrev YieldCall.run (call : YieldCall) (ota : OtaStruct) (s : ν) :
    Outcome (Int × OtaStruct × List UInt8 × ν) :=
  iotOtaFetchYield platform call.turns ota call.buf call.rangeLen call.timeoutS s

/-- The bytes that a call fetches and the percentage that it computes, unless it does not come to
that. -/
def YieldCall.percent (call : YieldCall) (ota : OtaStruct) (s : ν) : Option (Nat × Outcome UInt32) :=
  if call.buf.length = 0 ∨ ota.state ≠ .fetching then none
  else
    match fetchAttempts platform call.turns call.rangeLen call.timeoutS 5 0 ota call.buf s with
    | .error _ => none
    | .ok (ret, ota, buf, _) =>
        match ota.md5 with
        | none => none
        | some md5 =>
            if 0 < ret ∧ ret ≤ buf.length then some (ret.toNat, (ota.addFetched md5 ret buf).percent)
            else none

variable {platform} {call : YieldCall} {ota : OtaStruct} {s : ν}

/-- The handle, the buffer and the platform behind the attempts of a call that computes a percentage. -/
theorem percent_attempts {fetched : Nat} {percent : Outcome UInt32}
    (computes : call.percent platform ota s = some (fetched, percent)) :
    call.buf.length ≠ 0 ∧ ota.state = .fetching ∧ ∃ ret middle buf s' md5,
      fetchAttempts platform call.turns call.rangeLen call.timeoutS 5 0 ota call.buf s =
        .ok (ret, middle, buf, s') ∧
      middle.md5 = some md5 ∧ 0 < ret ∧ ret ≤ buf.length ∧ fetched = ret.toNat ∧
        percent = (middle.addFetched md5 ret buf).percent := by
  rw [YieldCall.percent] at computes
  split at computes
  · cases computes
  · rename_i usable
    rw [not_or, not_not] at usable
    cases attempts : fetchAttempts platform call.turns call.rangeLen call.timeoutS 5 0 ota call.buf s with
    | error fault =>
        rw [attempts] at computes
        cases computes
    | ok result =>
        obtain ⟨ret, middle, buf, s'⟩ := result
        rw [attempts] at computes
        dsimp only at computes
        cases isMd5 : middle.md5 with
        | none =>
            rw [isMd5] at computes
            cases computes
        | some md5 =>
            rw [isMd5] at computes
            dsimp only at computes
            split at computes
            · rename_i counted
              cases computes
              exact ⟨usable.1, usable.2, ret, middle, buf, s', md5, rfl, isMd5, counted.1, counted.2, rfl,
                rfl⟩
            · cases computes

/-- The call goes on with that percentage: it returns the number of bytes, or faults in the division. -/
theorem run_percent {fetched : Nat} {percent : Outcome UInt32}
    (computes : call.percent platform ota s = some (fetched, percent)) :
    ∃ ota' buf s', call.run platform ota s = percent.map fun percent =>
      ((fetched : Int), (reportPercent platform ota' percent s').1.checkFetched, buf,
        (reportPercent platform ota' percent s').2) := by
  obtain ⟨hasBuf, isFetching, ret, middle, buf, s', md5, attempts, isMd5, positive, fits, rfl, rfl⟩ :=
    percent_attempts computes
  refine ⟨middle.addFetched md5 ret buf, buf, s', ?_⟩
  have back : ((ret.toNat : Nat) : Int) = ret := Int.toNat_of_nonneg (Int.le_of_lt positive)
  rw [YieldCall.run, iotOtaFetchYield, if_neg hasBuf, if_neg (not_not.mpr isFetching), attempts, back]
  show (if 0 < ret then _ else _) = _
  rw [if_pos positive, accountFetched_percent, isMd5]
  show ((if (buf.length : Int) < ret then _ else _) >>= _) = _
  rw [if_neg (Int.not_lt.mpr fits)]
  cases (middle.addFetched md5 ret buf).percent with
  | error fault => rfl
  | ok percent => rfl

/-! ## Runs of calls -/

/-- What a run of calls computes: for each percentage the bytes that have been fetched by then, in
exact arithmetic. -/
def percents (platform : Platform ν) :
    List YieldCall → Nat → OtaStruct → ν → List (Nat × Outcome UInt32)
  | [], _, _, _ => []
  | call :: calls, total, ota, s =>
      ((call.percent platform ota s).map fun computed => (total + computed.1, computed.2)).toList ++
        match call.run platform ota s with
        | .error _ => []
        | .ok (ret, ota, _, s) => percents platform calls (total + ret.toNat) ota s

/-- The percentage is exact, between 0 and 100 and taken by `IOT_OTA_ReportProgress`, and no number on
the way leaves 32 bits. -/
structure ExactPercent (platform : Platform ν) (sizeFile : UInt32) (total : Nat)
    (percent : Outcome UInt32) : Prop where
  exact : ∃ value, percent = .ok value ∧ value.toNat = 100 * total / sizeFile.toNat ∧ value.toNat ≤ 100
  noOverflow : 100 * total < 2 ^ 32
  accepted : ∀ value, percent = .ok value → ∀ (ota : OtaStruct) (s : ν),
    (iotOtaReportProgress platform ota value.toInt32.toInt .downloading s).1 ≠ errOtaInvalidParam

/-- The file is not empty, a hundred times the bytes fit in 32 bits, and they are not more than a
hundredth of the file too many. -/
def PercentFits (sizeFile : UInt32) (total : Nat) : Prop :=
  sizeFile ≠ 0 ∧ 100 * total < 2 ^ 32 ∧ 100 * total < 101 * sizeFile.toNat

/-! ## What is rejected -/

theorem otaMqttPublish_accepts (qos1 : Bool) (msg : List UInt8) :
    (otaMqttPublish platform ota qos1 msg s).1 ≠ errOtaInvalidParam := by
  rw [otaMqttPublish]
  dsimp only
  split
  · show errOtaGeneralFailure ≠ errOtaInvalidParam
    decide
  · dsimp only
    split
    · show errOtaOscFailed ≠ errOtaInvalidParam
      decide
    · rename_i notNegative
      intro same
      exact notNegative (same ▸ (by decide : errOtaInvalidParam < 0))

theorem otaLibGenUpstreamMsg_accepts (bufLen : Nat) (module version : List UInt8) (progress : Int)
    (reportType : UpstreamMsgType) :
    (otaLibGenUpstreamMsg platform bufLen module version progress reportType s).1 ≠ errOtaInvalidParam := by
  rw [otaLibGenUpstreamMsg]
  split
  · show errOtaGeneralFailure ≠ errOtaInvalidParam
    decide
  · dsimp only
    split
    · show errOtaStrTooLong ≠ errOtaInvalidParam
      decide
    · show successRet ≠ errOtaInvalidParam
      decide

theorem sendReport_accepts (module version : List UInt8) (progress : Int) (reportType : UpstreamMsgType)
    (qos1 : Bool) :
    (sendReport platform ota module version progress reportType qos1 s).1 ≠ errOtaInvalidParam := by
  rw [sendReport]
  dsimp only
  split
  · show errOtaNoMemory ≠ errOtaInvalidParam
    decide
  · split
    · exact otaLibGenUpstreamMsg_accepts _ _ _ _ _
    · split
      · exact otaMqttPublish_accepts _ _
      · exact otaMqttPublish_accepts _ _

/-- A progress between 0 and 100 is no wrong parameter. -/
theorem iotOtaReportProgress_accepts {progress : Int} (state : UpstreamMsgType) (least : 0 ≤ progress)
    (most : progress ≤ 100) :
    (iotOtaReportProgress platform ota progress state s).1 ≠ errOtaInvalidParam := by
  rw [iotOtaReportProgress]
  split
  · show errOtaInvalidState ≠ errOtaInvalidParam
    decide
  · rw [if_neg (by omega)]
    exact sendReport_accepts _ _ _ _ _

/-! ## Arithmetic -/

theorem toInt_of_percent {value : UInt32} (most : value.toNat ≤ 100) :
    value.toInt32.toInt = value.toNat := by
  rw [toInt32_toInt, if_pos (by omega)]

theorem positive_of_ne {sizeFile : UInt32} (notEmpty : sizeFile ≠ 0) : 0 < sizeFile.toNat :=
  Nat.pos_of_ne_zero fun zero => notEmpty (UInt32.toNat_inj.mp zero)

/-- A handle that holds the bytes fetched by now, as far as 32 bits go. -/
structure Holds (sizeFile : UInt32) (total : Nat) (ota : OtaStruct) : Prop where
  sizeFile : ota.params.sizeFile = sizeFile
  sizeFetched : ota.sizeFetched = UInt32.ofNat total

variable {sizeFile : UInt32} {total : Nat}

theorem product_toNat (small : 100 * total < 2 ^ 32) : (UInt32.ofNat total * 100).toNat = 100 * total := by
  rw [UInt32.toNat_mul, UInt32.toNat_ofNat_of_lt' (by simp only [UInt32.size]; omega)]
  show total * 100 % 2 ^ 32 = 100 * total
  omega

/-- One percentage is exact just where it fits. -/
theorem Holds.exactPercent_iff (holds : Holds sizeFile total ota) :
    ExactPercent platform sizeFile total ota.percent ↔ PercentFits sizeFile total := by
  have percent : ota.percent =
      if sizeFile = 0 then throw .arithmetic else return UInt32.ofNat total * 100 / sizeFile := by
    rw [OtaStruct.percent, holds.sizeFile, holds.sizeFetched]
  rw [percent]
  constructor
  · rintro ⟨⟨value, computed, exact, most⟩, noOverflow, _⟩
    by_cases empty : sizeFile = 0
    · rw [if_pos empty] at computed
      cases computed
    · rw [exact, ← Nat.lt_succ_iff, Nat.div_lt_iff_lt_mul (positive_of_ne empty)] at most
      exact ⟨empty, noOverflow, most⟩
  · rintro ⟨notEmpty, noOverflow, few⟩
    have exact : (UInt32.ofNat total * 100 / sizeFile).toNat = 100 * total / sizeFile.toNat := by
      rw [UInt32.toNat_div, product_toNat noOverflow]
    have most : (UInt32.ofNat total * 100 / sizeFile).toNat ≤ 100 := by
      rw [exact, ← Nat.lt_succ_iff, Nat.div_lt_iff_lt_mul (positive_of_ne notEmpty)]
      exact few
    rw [if_neg notEmpty]
    refine ⟨⟨_, rfl, exact, most⟩, noOverflow, ?_⟩
    intro value computed ota s
    cases computed
    rw [toInt_of_percent most]
    exact iotOtaReportProgress_accepts _ (Int.natCast_nonneg _) (by omega)

/-! ## Every run -/

/-- The attempts of a call leave what a handle holds. -/
theorem Holds.kept {after : OtaStruct} (holds : Holds sizeFile total ota) (kept : Kept ota after) :
    Holds sizeFile total after where
  sizeFile := by rw [kept.params, holds.sizeFile]
  sizeFetched := by rw [kept.sizeFetched, holds.sizeFetched]

/-- The percentage of a call is that of the bytes with its own. -/
theorem Holds.percent {fetched : Nat} {percent : Outcome UInt32} (holds : Holds sizeFile total ota)
    (computes : call.percent platform ota s = some (fetched, percent)) :
    ExactPercent platform sizeFile (total + fetched) percent ↔ PercentFits sizeFile (total + fetched) := by
  obtain ⟨_, _, ret, middle, buf, s', md5, attempts, _, _, _, rfl, rfl⟩ := percent_attempts computes
  have before := holds.kept (fetchAttempts_ok attempts).1
  have added : Holds sizeFile (total + ret.toNat) (middle.addFetched md5 ret buf) := by
    constructor
    · exact before.sizeFile
    · rw [UInt32.ofNat_add, ← before.sizeFetched]
      rfl
  exact added.exactPercent_iff

/-- A call that returns adds what it has fetched. -/
theorem Holds.run {ret : Int} {after : OtaStruct} {buf : List UInt8} {s' : ν}
    (holds : Holds sizeFile total ota) (returns : call.run platform ota s = .ok (ret, after, buf, s')) :
    Holds sizeFile (total + ret.toNat) after := by
  rcases iotOtaFetchYield_ok returns with ⟨notPositive, kept, _⟩ | ⟨took, _, _⟩
  · rw [Int.toNat_of_nonpos notPositive, Nat.add_zero]
    exact holds.kept kept
  · constructor
    · rw [took.params, holds.sizeFile]
    · rw [took.sizeFetched, holds.sizeFetched, UInt32.ofNat_add]

theorem Holds.percents {calls : List YieldCall} (holds : Holds sizeFile total ota) :
    ∀ computed ∈ percents platform calls total ota s,
      (ExactPercent platform sizeFile computed.1 computed.2 ↔ PercentFits sizeFile computed.1) := by
  induction calls generalizing total ota s with
  | nil => exact fun computed isComputed => absurd isComputed List.not_mem_nil
  | cons call calls inductionHypothesis =>
      intro computed isComputed
      rw [UIoT.Ota.percents] at isComputed
      rcases List.mem_append.mp isComputed with here | further
      · rw [Option.mem_toList, Option.map_eq_some_iff] at here
        obtain ⟨⟨fetched, percent⟩, computes, rfl⟩ := here
        exact holds.percent computes
      · cases returns : call.run platform ota s with
        | error fault =>
            rw [returns] at further
            cases further
        | ok result =>
            obtain ⟨ret, after, buf, s'⟩ := result
            rw [returns] at further
            exact inductionHypothesis (holds.run returns) computed further

/-- A handle at the beginning of a download. -/
abbrev OtaStruct.fresh (ota : OtaStruct) : OtaStruct := { ota with sizeFetched := 0 }

/-- The runs whose percentages are all exact. -/
theorem percents_iff (platform : Platform ν) (calls : List YieldCall) (ota : OtaStruct) (s : ν) :
    (∀ computed ∈ percents platform calls 0 ota.fresh s,
      ExactPercent platform ota.params.sizeFile computed.1 computed.2) ↔
    ∀ computed ∈ percents platform calls 0 ota.fresh s, PercentFits ota.params.sizeFile computed.1 := by
  have holds : Holds ota.params.sizeFile 0 ota.fresh := ⟨rfl, rfl⟩
  constructor
  · intro exact computed isComputed
    exact (holds.percents computed isComputed).mp (exact computed isComputed)
  · intro fits computed isComputed
    exact (holds.percents computed isComputed).mpr (fits computed isComputed)

/-- An update message that tells a size of 0. -/
def emptyOta : OtaStruct :=
  { pageOta with params := { noParams with sizeFile := 0 } }

def pageCall : YieldCall where
  turns := 50
  buf := List.replicate 16 0
  rangeLen := 4
  timeoutS := 5

/-- The first bytes that come are divided by it. -/
theorem not_exactPercent_empty :
    ¬∀ computed ∈ percents scripted [pageCall] 0 emptyOta.fresh ⟨[], [okResponse "5" "hello"]⟩,
      ExactPercent scripted emptyOta.params.sizeFile computed.1 computed.2 := by
  intro exact
  have computed : (5, .error .arithmetic) ∈
      percents scripted [pageCall] 0 emptyOta.fresh ⟨[], [okResponse "5" "hello"]⟩ := by
    decide +kernel
  obtain ⟨value, isValue, _⟩ := (exact _ computed).exact
  cases isValue

end UIoT.Ota
