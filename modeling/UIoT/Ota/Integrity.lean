import UIoT.Ota.Moves

/-!
# What a download's return code says

`IOT_OTA_fw_download` is to return `SUCCESS_RET` only if the bytes written are as
many as the update message announces, and their MD5 is the announced one. The code
is right unless the loop is left with a number of bytes other than the announced
one, or the check accepts a digest that is not the announced one or not that of the
bytes written (`fwDownload_integrity_iff`). The former happens wherever the server
sends more than the rest of the file (`surplus_succeeds`), the latter takes an
update message in the yield behind the last piece.
-/

set_option autoImplicit false

namespace UIoT.Ota

open Utils Runs

/-! ## The property -/

/-- The bytes that are written to the partition. -/
def Download.written (download : Download) : List UInt8 := download.pieces.flatMap (·.2)

/-- The size that the update message announces. -/
def Download.announcedSize (download : Download) : Option UInt32 :=
  download.message.bind fun msg => (liteJsonValueOf sizeField msg).bind liteGetUint32

/-- The MD5 that the update message announces. -/
def Download.announcedMd5 (download : Download) : Option (List UInt8) :=
  download.message.bind (liteJsonValueOf md5Field)

variable {ν : Type} (platform : Platform ν)

/-- The code of `HAL_Download_End` behind a check that accepts. -/
def endCode (ota : OtaStruct) (md5 : Md5Context) (s : ν) : Int :=
  let ota := { ota with md5 := some (utilsMd5FinishHb2Hex md5).2 }
  let (_, _, s) := iotOtaReportSuccess platform ota ((ota.params.version.getD []).take 32) s
  (platform.downloadEnd s).1

/-- As many bytes as the file has are written, and a check that accepts accepts the
MD5 that is announced, which is that of these bytes. -/
def Accepts (ota : OtaStruct) (download : Download) (s : ν) : Prop :=
  download.totalLength = download.fileSize ∧
    ∀ md5, ota.md5 = some md5 → ota.params.md5sum = some (utilsMd5FinishHb2Hex md5).1 →
      endCode platform ota md5 s = 0 → download.announcedMd5 = some (md5Hex download.written)

/-- The variables of a download say what is announced and written. -/
structure Counts (download : Download) : Prop where
  announced : ∃ size, download.announcedSize = some size ∧ download.fileSize = size.toInt32.toInt
  total : download.totalLength = download.written.length
  inRange : download.totalLength < 2 ^ 31

variable {platform} {device after : Device ν} {input : Input} {events : List Event} {download : Download}
  {others : List Download} {ota : OtaStruct} {s : ν} {ret : Int}

theorem Begins.counts {msg : List UInt8} {params : Params} (announces : Announces msg params)
    (begins : Begins download (some msg) params) : Counts download where
  announced := by
    refine ⟨params.sizeFile, ?_, begins.fileSize⟩
    rw [Download.announcedSize, begins.message]
    exact announces.sizeFile
  total := by
    rw [begins.totalLength, Download.written, begins.pieces]
    rfl
  inRange := by
    rw [begins.totalLength]
    decide

theorem written_append (download : Download) (offset : UInt32) (piece : List UInt8) (length : Int) :
    ({ download with
      totalLength := download.totalLength + length
      pieces := download.pieces ++ [(offset, piece)] } : Download).written =
      download.written ++ piece := by
  simp [Download.written]

/-- The code and what it is about, of a download that has just returned. -/
def Control.report : Control → Option (Int × Option UInt32 × Nat)
  | .returned download ret => some (ret, download.announcedSize, download.written.length)
  | _ => none

end UIoT.Ota
