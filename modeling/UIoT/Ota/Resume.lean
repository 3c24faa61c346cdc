import UIoT.Ota.Integrity
import UIoT.Ota.Ranges

/-!
# Resuming a download

What a download has written is the front of the file, piece behind piece, and the handle has
counted and hashed as much (`download_resumes`). The invariant survives every loss of the
connection, since a fetch that fails delivers nothing and the next one asks for the same
piece. It needs requests that name their ranges: with a URL that leaves no room for the
range the server answers with the whole file, and a connection that is lost then starts the
file once more (`long_url_repeats`).
-/

set_option autoImplicit false

namespace UIoT.Ota

open Utils Runs

variable {ν : Type}

/-! ## The property -/

/-- Pieces behind each other. -/
def Consecutive : Nat → List (UInt32 × List UInt8) → Prop
  | _, [] => True
  | start, (offset, bytes) :: pieces =>
      offset.toNat = start ∧ Consecutive (start + bytes.length) pieces

/-- The front of a file is written, `totalLength` bytes in place. -/
structure HasWritten (file : List UInt8) (download : Download) : Prop where
  total : download.totalLength = download.written.length
  front : download.written <+: file
  placed : Consecutive 0 download.pieces

/-- As many bytes of a file are counted and hashed. Without a context for the hash there are
none. -/
structure HasFetched (file : List UInt8) (ota : OtaStruct) (fetched : Nat) : Prop where
  sizeFetched : ota.sizeFetched.toNat = fetched
  md5 : (∃ md5, ota.md5 = some md5 ∧ Holds md5 (file.take fetched)) ∨ ota.md5 = none ∧ fetched = 0

/-- What is written of a file is what is fetched of it. -/
def Resumed (file : List UInt8) (device : Device ν) : Prop :=
  ∀ download ∈ device.downloads, HasWritten file download ∧
    HasFetched file device.ota download.totalLength.toNat

/-- A piece behind it is fetched as well, and is in the buffer. -/
def HasPiece (file : List UInt8) (device : Device ν) (length : Int) : Prop :=
  ∀ download ∈ device.downloads, HasWritten file download ∧
    HasFetched file device.ota (download.totalLength.toNat + length.toNat) ∧
      download.written ++ download.bufferRead.take length.toNat <+: file

/-- A download has not just fetched a piece. -/
def Control.IsBetween : Control → Prop
  | .waiting | .received _ | .fetching | .returned _ _ => True
  | .fetched _ | .faulted _ => False

/-- What is written of a file is what is fetched of it, but for the piece that has just been
fetched. -/
structure Resumes (file : List UInt8) (device : Device ν) : Prop where
  resumed : device.control.IsBetween → Resumed file device
  hasPiece : ∀ length, device.control = .fetched length → HasPiece file device length
  returned : ∀ download ret, device.control = .returned download ret → HasWritten file download

/-! ## The condition -/

/-- An update message that names a file names this one, and comes where no download is under
way, or is queued. -/
def ForFile (url file : List UInt8) (device : Device ν) : Prop :=
  ∀ msg ∈ device.control.message, otaLibGetMsgType msg = some updateFirmwareMethod → Names msg →
    device.ota.state ≠ .fetching →
      device.downloads = [] ∧ liteJsonValueOf urlField msg = some url ∧
        ∀ size ∈ (liteJsonValueOf sizeField msg).bind liteGetUint32, size.toNat = file.length

instance (url file : List UInt8) (device : Device ν) : Decidable (ForFile url file device) :=
  have (msg : List UInt8) : Decidable (∀ size ∈ (liteJsonValueOf sizeField msg).bind liteGetUint32,
      size.toNat = file.length) := Option.decidableForallMem _
  Option.decidableForallMem _

/-! ## What is pending between the fetches -/

variable {platform : Platform ν} {file url : List UInt8} {server : FileServer platform file}
  {device after : Device ν} {input : Input} {events : List Event} {ota : OtaStruct} {s : ν}
  {others : List Download}

/-- A download that ends does not leave its handle fetching. -/
theorem endDownload_notFetching {download : Download} {ret : Int}
    (ended : endDownload platform download ret others ota s = .ok after) :
    after.ota.state ≠ .fetching := by
  obtain ⟨cleared, s', clears, rfl⟩ := endDownload_ok ended
  rw [clears.state]
  exact OtaState.noConfusion

/-- The client and what it has to read are as before. -/
structure Idles (server : FileServer platform file) (ota : OtaStruct) (s : ν) (after : Device ν) :
    Prop where
  chFetch : after.ota.chFetch = ota.chFetch
  params : after.ota.params = ota.params
  pending : server.pending after.world = server.pending s

theorem startDownload_idles {message : Option (List UInt8)} (isFetching : ota.state = .fetching)
    (started : startDownload platform message others ota s = .ok after)
    (still : after.ota.state = .fetching) : Idles server ota s after := by
  have query : iotOtaIoctl platform ota .fileSize 4 true s =
      .ok (successRet, .number ota.params.sizeFile, ota, s) := by
    rw [iotOtaIoctl, isFetching]
    rfl
  rw [startDownload, query] at started
  simp only [bind, Except.bind] at started
  split at started
  · exact absurd still (endDownload_notFetching started)
  · split at started
    · exact absurd still (endDownload_notFetching started)
    · cases started
      exact ⟨rfl, rfl, (server.malloc _).trans (server.downloadInit _ _)⟩

/-- A download that is started has its client, which has nothing to read. -/
theorem updateFirmware_served {msg : List UInt8} (notFetching : ota.state ≠ .fetching)
    (isUrl : liteJsonValueOf urlField msg = some url)
    (returns : updateFirmware platform others ota msg s = .ok after)
    (isFetching : after.ota.state = .fetching) : Served server url after.ota after.world := by
  rw [updateFirmware] at returns
  rcases read : otaLibGetParams platform msg ota.params s with ⟨ret, params, s₁⟩
  rw [read] at returns
  dsimp only at returns
  split at returns
  · cases returns
    exact absurd isFetching notFetching
  · rename_i success
    obtain rfl := not_not.mp success
    obtain ⟨_, announces⟩ := otaLibGetParams_ok read
    have isParam : params.url = some url := announces.url.symm.trans isUrl
    rw [isParam] at returns
    dsimp only [used, pure, Except.pure, bind, Except.bind] at returns
    rcases initialised : ofcInit platform url s₁ with ⟨made, s₂⟩
    rw [initialised] at returns
    cases made with
    | none =>
        cases returns
        exact absurd isFetching notFetching
    | some ofc =>
        obtain ⟨⟨rc, ofc', s₃⟩, connected, returns⟩ := bind_ok returns
        obtain ⟨ready, sameUrl⟩ := @ofcConnect_ready _ platform _ _ file server _ _ _ _ _ initialised
          connected
        dsimp only at returns
        split at returns
        · cases returns
          exact absurd isFetching OtaState.noConfusion
        · have idles := @startDownload_idles _ _ _ server _ _ _ _ _ rfl returns isFetching
          refine ⟨⟨ofc', idles.chFetch, fun hasHandle => ?_, sameUrl⟩, ?_⟩
          · rw [idles.pending]
            exact ready hasHandle
          · rw [idles.params]
            exact isParam

/-- A cancel message is for another firmware where the download goes on. -/
theorem cancelUpdate_same {msg : List UInt8} {after : OtaStruct} {s' : ν}
    (cancels : cancelUpdate platform ota msg s = .ok (after, s'))
    (still : after.state = .fetching) : after = ota ∧ s' = s := by
  rw [cancelUpdate] at cancels
  split at cancels
  · cases cancels
    exact ⟨rfl, rfl⟩
  · obtain ⟨module, _, cancels⟩ := bind_ok cancels
    split at cancels
    · cases cancels
      exact ⟨rfl, rfl⟩
    · obtain ⟨version, _, cancels⟩ := bind_ok cancels
      split at cancels
      · cases cancels
        exact ⟨rfl, rfl⟩
      · obtain ⟨ofc, _, cancels⟩ := bind_ok cancels
        cases cancels
        exact absurd still OtaState.noConfusion

theorem otaPushUploadMsg_pending {msg : List UInt8} {after : OtaStruct} {s' : ν}
    (pushes : otaPushUploadMsg platform ota msg s = .ok (after, events, s')) :
    after.chFetch = ota.chFetch ∧ after.params = ota.params ∧
      server.pending s' = server.pending s := by
  rw [otaPushUploadMsg] at pushes
  dsimp only at pushes
  split at pushes
  · cases pushes
  · split at pushes
    · cases pushes
      refine ⟨rfl, rfl, ?_⟩
      rw [server.malloc, server.malloc]
    · split at pushes <;> cases pushes <;> refine ⟨rfl, rfl, ?_⟩ <;>
        rw [server.malloc, server.malloc, server.malloc]

/-- A message that comes while a piece is to be fetched leaves the client alone, or cancels the
download. -/
theorem otaCallback_idles {msg : List UInt8} (isFetching : ota.state = .fetching)
    (returns : otaCallback platform others ota msg s = .ok (after, events))
    (still : after.ota.state = .fetching) : Idles server ota s after := by
  have answered : Idles server ota s ⟨ota, (platform.malloc s).2, others, .waiting⟩ :=
    ⟨rfl, rfl, server.malloc s⟩
  rw [otaCallback] at returns
  dsimp only at returns
  split at returns
  · cases returns
    exact answered
  · split at returns
    · cases returns
      exact answered
    · split at returns
      · cases returns
        exact answered
      · split at returns
        · obtain ⟨⟨ota', pushed, s'⟩, pushes, returns⟩ := bind_ok returns
          cases returns
          obtain ⟨chFetch, params, pending⟩ := @otaPushUploadMsg_pending _ _ _ server _ _ _ _ _ _ pushes
          exact ⟨chFetch, params, pending.trans (server.malloc s)⟩
        · split at returns
          · obtain ⟨⟨ota', s'⟩, cancels, returns⟩ := bind_ok returns
            cases returns
            obtain ⟨rfl, rfl⟩ := cancelUpdate_same cancels still
            exact answered
          · cases returns
            exact answered

theorem writePiece_idles {length : Int} {download : Download}
    (returns : writePiece platform length download others ota s = .ok after)
    (still : after.ota.state = .fetching) : Idles server ota s after := by
  rw [writePiece] at returns
  split at returns
  · cases returns
  · split at returns
    · dsimp only at returns
      split at returns
      · exact absurd still (endDownload_notFetching returns)
      · split at returns
        · cases returns
        · cases returns
          exact ⟨rfl, rfl, server.downloadWrite s _ _⟩
    · exact absurd still (endDownload_notFetching returns)

theorem yieldEnd_idles {download : Download} (isFetching : ota.state = .fetching)
    (returns : yieldEnd platform download others ota s = .ok after) : Idles server ota s after := by
  rw [yieldEnd, iotOtaIsFetchFinish, isFetching] at returns
  cases returns
  exact ⟨rfl, rfl, rfl⟩

theorem callerGoesOn_idles {download : Download} {ret : Int} :
    Idles server device.ota device.world (callerGoesOn device download ret).1 := by
  rw [callerGoesOn]
  split
  · exact ⟨rfl, rfl, rfl⟩
  · rw [otaPopUploadMsg]
    split <;> split <;> exact ⟨rfl, rfl, rfl⟩

/-- A step other than a fetch leaves the client alone while the state is `OTA_STATE_FETCHING`. -/
theorem step_idles (isFetching : device.ota.state = .fetching) (noFetch : device.control ≠ .fetching)
    (still : (device.step platform input).1.ota.state = .fetching) :
    Idles server device.ota device.world (device.step platform input).1 := by
  have same : ∀ control, Idles server device.ota device.world { device with control := control } :=
    fun _ => ⟨rfl, rfl, rfl⟩
  revert still
  cases input with
  | deliver payload =>
      intro _
      rw [Device.step]
      split
      · exact same _
      · exact same _
  | yieldEnds =>
      rw [Device.step]
      split
      · refine inLoop_of (fun after _ => after.ota.state = .fetching →
          Idles server device.ota device.world after) (fun _ => same _) (fun _ _ => same _) ?_
        intro download others after top returns _
        exact yieldEnd_idles isFetching returns
      · exact fun _ => same _
  | proceed turns =>
      rw [Device.step, Device.goOn]
      split
      · refine settle_of (fun after _ => after.ota.state = .fetching →
          Idles server device.ota device.world after) (fun _ => same _) (fun _ _ => same _) ?_
        intro after events returns still
        exact otaCallback_idles isFetching returns still
      · rename_i isControl
        exact absurd isControl noFetch
      · refine inLoop_of (fun after _ => after.ota.state = .fetching →
          Idles server device.ota device.world after) (fun _ => same _) (fun _ _ => same _) ?_
        intro download others after top returns still
        exact writePiece_idles returns still
      · exact fun _ => callerGoesOn_idles
      · exact fun _ => same _
      · exact fun _ => same _

/-- The callback that begins to fetch has its client, which has nothing to read. -/
theorem otaCallback_served {msg : List UInt8} (notFetching : ota.state ≠ .fetching)
    (isUrl : liteJsonValueOf urlField msg = some url)
    (returns : otaCallback platform others ota msg s = .ok (after, events))
    (isFetching : after.ota.state = .fetching) : Served server url after.ota after.world := by
  rw [otaCallback] at returns
  dsimp only at returns
  split at returns
  · cases returns
    exact absurd isFetching notFetching
  · split at returns
    · cases returns
      exact absurd isFetching notFetching
    · split at returns
      · cases returns
        exact absurd isFetching notFetching
      · split at returns
        · obtain ⟨updated, updates, returns⟩ := bind_ok returns
          cases returns
          exact updateFirmware_served notFetching isUrl updates isFetching
        · split at returns
          · obtain ⟨⟨ota', s'⟩, cancels, returns⟩ := bind_ok returns
            cases returns
            obtain rfl | ⟨ofc, closed, rfl⟩ := cancelUpdate_ok cancels
            · exact absurd isFetching notFetching
            · exact absurd isFetching OtaState.noConfusion
          · cases returns
            exact absurd isFetching notFetching

/-- So does the step with the callback. -/
theorem step_served {msg : List UInt8} (isReceived : device.control = .received msg)
    (notFetching : device.ota.state ≠ .fetching) (isUrl : liteJsonValueOf urlField msg = some url)
    (isFetching : (device.step platform input).1.ota.state = .fetching) :
    Served server url (device.step platform input).1.ota (device.step platform input).1.world := by
  revert isFetching
  have same : device.ota.state = .fetching → Served server url device.ota device.world :=
    fun isFetching => absurd isFetching notFetching
  cases input with
  | deliver payload =>
      rw [Device.step, isReceived]
      exact same
  | yieldEnds =>
      rw [Device.step, isReceived]
      exact same
  | proceed turns =>
      rw [Device.step, Device.goOn, isReceived]
      refine settle_of (fun after _ => after.ota.state = .fetching →
        Served server url after.ota after.world) same (fun _ => same) ?_
      intro after events returns isFetching
      exact otaCallback_served notFetching isUrl returns isFetching

/-! ## The invariant -/

/-- The rest of the file is to be fetched. -/
structure Serves (server : FileServer platform file) (url : List UInt8) (device : Device ν) : Prop
    extends Served server url device.ota device.world where
  behind : device.ota.sizeFetched.toNat < file.length
  size : device.ota.params.sizeFile.toNat = file.length

def Serving (server : FileServer platform file) (url : List UInt8) (device : Device ν) : Prop :=
  device.ota.state = .fetching → Serves server url device

/-- A download of the file that has a client as long as it fetches. -/
structure Resuming (server : FileServer platform file) (url : List UInt8) (device : Device ν) : Prop
    where
  single : device.downloads.length ≤ 1
  buffer : ∀ download ∈ device.downloads, download.bufferRead.length = httpOtaBuffLen
  idle : device.downloads = [] → device.ota.sizeFetched = 0 ∧
    (device.ota.md5 = none ∨ device.ota.md5 = some utilsMd5Starts)
  between : device.control.IsBetween → Resumed file device ∧ Serving server url device
  fetched : ∀ length, device.control = .fetched length →
    HasPiece file device length ∧ (0 < length → Serving server url device)
  returned : ∀ download ret, device.control = .returned download ret →
    device.downloads = [] ∧ HasWritten file download

theorem Resuming.resumes (inv : Resuming server url device) : Resumes file device where
  resumed := fun isBetween => (inv.between isBetween).1
  hasPiece := fun length isFetched => (inv.fetched length isFetched).1
  returned := fun download ret isReturned => (inv.returned download ret isReturned).2

/-- There are no others behind the top. -/
theorem Resuming.onlyTop {download : Download} (inv : Resuming server url device)
    (top : device.downloads = download :: others) : others = [] := by
  have single := inv.single
  rw [top, List.length_cons] at single
  exact List.length_eq_zero_iff.mp (by omega)

/-- The client is as before. -/
theorem Serving.of_idles (serving : Serving server url device)
    (same : after.ota.state = .fetching → device.ota.state = .fetching)
    (idles : device.ota.state = .fetching → after.ota.state = .fetching →
      Idles server device.ota device.world after)
    (sizeFetched : after.ota.sizeFetched = device.ota.sizeFetched) : Serving server url after := by
  intro isFetching
  have idles := idles (same isFetching) isFetching
  have serves := serving (same isFetching)
  obtain ⟨ofc, isClient, ready, sameUrl⟩ := serves.client
  refine ⟨⟨⟨ofc, idles.chFetch.trans isClient, fun hasHandle => ?_, sameUrl⟩, ?_⟩, ?_, ?_⟩
  · rw [idles.pending]
    exact ready hasHandle
  · rw [idles.params]
    exact serves.url
  · rw [sizeFetched]
    exact serves.behind
  · rw [idles.params]
    exact serves.size

/-- A step outside of the loop changes neither the download nor what is fetched. -/
theorem Resuming.of_same (inv : Resuming server url device) (before : device.control.IsBetween)
    (isBetween : after.control.IsBetween)
    (running : ∀ download ret, after.control ≠ .returned download ret)
    (downloads : after.downloads = device.downloads)
    (sizeFetched : after.ota.sizeFetched = device.ota.sizeFetched)
    (md5 : after.ota.md5 = device.ota.md5) (serving : Serving server url after) :
    Resuming server url after where
  single := downloads ▸ inv.single
  buffer := downloads ▸ inv.buffer
  idle := by
    rw [downloads, sizeFetched, md5]
    exact inv.idle
  between := by
    refine fun _ => ⟨fun download member => ?_, serving⟩
    rw [downloads] at member
    obtain ⟨written, fetched⟩ := (inv.between before).1 download member
    exact ⟨written, sizeFetched ▸ fetched.sizeFetched, md5 ▸ fetched.md5⟩
  fetched := by
    intro length isFetched
    rw [isFetched] at isBetween
    exact isBetween.elim
  returned := fun download ret isReturned => absurd isReturned (running download ret)

/-- What a download leaves behind. -/
theorem Resuming.of_cleared {before : OtaStruct} {download : Download} {ret : Int}
    (cleared : Cleared before ota) (written : HasWritten file download) :
    Resuming server url ⟨ota, s, [], .returned download ret⟩ where
  single := Nat.zero_le _
  buffer := fun _ member => (List.not_mem_nil member).elim
  idle := fun _ => ⟨cleared.sizeFetched, cleared.md5⟩
  between := by
    refine fun _ => ⟨fun _ member => (List.not_mem_nil member).elim, fun isFetching => ?_⟩
    exact absurd (cleared.state.symm.trans isFetching) OtaState.noConfusion
  fetched := fun _ isFetched => Control.noConfusion isFetched
  returned := by
    intro download ret isReturned
    cases isReturned
    exact ⟨rfl, written⟩

/-! ## Steps -/

theorem consecutive_append {start : Nat} {pieces : List (UInt32 × List UInt8)} {offset : UInt32}
    {bytes : List UInt8} (consecutive : Consecutive start pieces)
    (behind : offset.toNat = start + (pieces.flatMap (·.2)).length) :
    Consecutive start (pieces ++ [(offset, bytes)]) := by
  induction pieces generalizing start with
  | nil => exact ⟨behind, trivial⟩
  | cons piece pieces inductionHypothesis =>
      refine ⟨consecutive.1, inductionHypothesis consecutive.2 ?_⟩
      rw [behind, List.flatMap_cons, List.length_append, Nat.add_assoc]

/-- What is in front of a piece, and the piece. -/
theorem take_piece (file : List UInt8) (first : Nat) :
    file.take first ++ piece file first = file.take (first + (piece file first).length) := by
  have isPiece : piece file first = (file.drop first).take (piece file first).length := by
    rw [piece_eq, List.length_take, List.take_eq_take_iff]
    omega
  rw [List.take_add, ← isPiece]

/-- A download that is started has nothing to resume. -/
theorem Begins.hasWritten {download : Download} {message : Option (List UInt8)} {params : Params}
    (begins : Begins download message params) : HasWritten file download := by
  have nothing : download.written = [] := by
    rw [Download.written, begins.pieces]
    rfl
  refine ⟨?_, ?_, ?_⟩
  · rw [nothing, begins.totalLength]
    rfl
  · rw [nothing]
    exact List.nil_prefix
  · rw [begins.pieces]
    trivial

theorem hasFetched_zero (sizeFetched : ota.sizeFetched = 0)
    (md5 : ota.md5 = none ∨ ota.md5 = some utilsMd5Starts) : HasFetched file ota 0 where
  sizeFetched := by
    rw [sizeFetched]
    rfl
  md5 := by
    rcases md5 with none | starts
    · exact .inr ⟨none, rfl⟩
    · exact .inl ⟨_, starts, utilsMd5Starts_holds⟩

/-- A piece that is fetched is counted and hashed. -/
theorem HasFetched.took {ret : Int} {buf : List UInt8} {after : OtaStruct} {fetched : Nat}
    (hasFetched : HasFetched file ota fetched) (took : Took ota ret buf after)
    (inBuffer : InBuffer file ota.sizeFetched.toNat ret buf) (small : file.length < 2 ^ 32)
    (inFile : fetched < file.length) : HasFetched file after (fetched + ret.toNat) := by
  have isLength : ret.toNat = (piece file fetched).length := by
    rw [inBuffer.length, hasFetched.sizeFetched]
    rfl
  have isPiece : buf.take ret.toNat = piece file fetched := by
    rw [isLength, ← hasFetched.sizeFetched]
    exact inBuffer.bytes
  have ends : fetched + (piece file fetched).length ≤ file.length := by
    rw [piece_eq, List.length_take, List.length_drop]
    omega
  constructor
  · rw [took.sizeFetched, UInt32.toNat_add, hasFetched.sizeFetched, isLength,
      UInt32.toNat_ofNat_of_lt' (by show _ < 2 ^ 32; omega)]
    exact Nat.mod_eq_of_lt (by omega)
  · obtain ⟨md5, isMd5, updated⟩ := took.md5
    refine .inl ⟨_, updated, ?_⟩
    rcases hasFetched.md5 with ⟨before, isBefore, holds⟩ | ⟨none, _⟩
    · obtain rfl := Option.some.inj (isMd5.symm.trans isBefore)
      rw [isPiece, isLength, ← take_piece]
      exact utilsMd5Update_holds holds (by omega)
    · rw [none] at isMd5
      cases isMd5

/-- Behind a piece that is not the last one, the rest is to be fetched. -/
theorem iotOtaFetchYield_behind {turns : Nat} {buf buf' : List UInt8} {rangeLen timeoutS : UInt32}
    {ret : Int} {after : OtaStruct} {s' : ν} (positive : 0 < ret)
    (fetched : iotOtaFetchYield platform turns ota buf rangeLen timeoutS s = .ok (ret, after, buf', s'))
    (still : after.state = .fetching) : after.sizeFetched < after.params.sizeFile := by
  rw [iotOtaFetchYield] at fetched
  split at fetched
  · cases fetched
    exact absurd positive (by decide)
  · split at fetched
    · cases fetched
      exact absurd positive (by decide)
    · obtain ⟨⟨ret₁, ota₁, buf₁, s₁⟩, attempts, fetched⟩ := bind_ok fetched
      dsimp only at fetched
      split at fetched
      · obtain ⟨⟨ota₂, s₂⟩, accounted, fetched⟩ := bind_ok fetched
        cases fetched
        obtain ⟨_, state⟩ := accountFetched_ok positive accounted
        rw [still] at state
        split at state
        · cases state
        · rename_i notAll
          exact UInt32.not_le.mp notAll
      · rename_i notPositive
        cases fetched
        exact absurd positive notPositive

/-- A fetch puts the next piece into the buffer, or nothing. -/
theorem Resuming.fetch (named : NamesRanges url file) {download : Download} {turns : Nat} {length : Int}
    {buf : List UInt8} (inv : Resuming server url device) (isFetching : device.control = .fetching)
    (top : device.downloads = download :: others)
    (fetched : iotOtaFetchYield platform turns device.ota download.bufferRead httpOtaRangeLen 10
      device.world = .ok (length, ota, buf, s)) :
    Resuming server url ⟨ota, s, { download with bufferRead := buf } :: others, .fetched length⟩ := by
  have member : download ∈ device.downloads := top ▸ List.mem_cons_self ..
  obtain ⟨resumed, serving⟩ := inv.between (isFetching ▸ trivial)
  obtain ⟨written, hasFetched⟩ := resumed download member
  have room := inv.buffer download member
  have written' : HasWritten file { download with bufferRead := buf } :=
    ⟨written.total, written.front, written.placed⟩
  rw [inv.onlyTop top]
  -- What is to be shown of the top, and of the client.
  have resuming : buf.length = httpOtaBuffLen →
      HasFetched file ota (download.totalLength.toNat + length.toNat) →
      download.written ++ buf.take length.toNat <+: file →
      (0 < length → Serving server url
        ⟨ota, s, [{ download with bufferRead := buf }], .fetched length⟩) →
      Resuming server url ⟨ota, s, [{ download with bufferRead := buf }], .fetched length⟩ := by
    intro length' fetched' front serving'
    refine ⟨Nat.le_refl _, ?_, fun none => ?_, fun isBetween => isBetween.elim, ?_, ?_⟩
    · intro each among
      rw [List.mem_singleton.mp among]
      exact length'
    · cases none
    · intro length₁ isLength
      cases isLength
      refine ⟨fun each among => ?_, serving'⟩
      rw [List.mem_singleton.mp among]
      exact ⟨written', fetched', front⟩
    · intro download₁ ret isReturned
      cases isReturned
  have nothing : length ≤ 0 → Kept device.ota ota → buf.length = httpOtaBuffLen →
      Resuming server url ⟨ota, s, [{ download with bufferRead := buf }], .fetched length⟩ := by
    intro notPositive kept length'
    have noPiece : length.toNat = 0 := Int.toNat_of_nonpos notPositive
    apply resuming length'
    · rw [noPiece]
      exact ⟨kept.sizeFetched ▸ hasFetched.sizeFetched, kept.md5 ▸ hasFetched.md5⟩
    · rw [noPiece, List.take_zero, List.append_nil]
      exact written.front
    · exact fun positive => absurd positive (Int.not_lt.mpr notPositive)
  by_cases fetches : device.ota.state = .fetching
  · have serves := serving fetches
    obtain ⟨length', delivers⟩ := iotOtaFetchYield_serves named serves.toServed serves.behind room fetched
    rcases iotOtaFetchYield_ok fetched with ⟨notPositive, kept, _⟩ | ⟨took, _, _⟩
    · exact nothing notPositive kept length'
    · obtain ⟨inBuffer, served⟩ := delivers took.positive
      have isFetched := hasFetched.sizeFetched
      have small : file.length < 2 ^ 32 := serves.size ▸ device.ota.params.sizeFile.toNat_lt
      have total : download.totalLength.toNat = download.written.length := by
        rw [written.total, Int.toNat_natCast]
      have hasFetched' := hasFetched.took took inBuffer small (isFetched ▸ serves.behind)
      have front : download.written ++ buf.take length.toNat <+: file := by
        have isFront := List.prefix_iff_eq_take.mp written.front
        have joined := take_piece file download.written.length
        rw [← isFront] at joined
        rw [inBuffer.length, Int.toNat_natCast, inBuffer.bytes, isFetched, total, joined]
        exact List.take_prefix _ _
      refine resuming length' hasFetched' front fun positive isFetching => ⟨served, ?_, ?_⟩
      · have behind := iotOtaFetchYield_behind positive fetched isFetching
        have same : ota.params.sizeFile.toNat = file.length := by
          rw [took.params]
          exact serves.size
        exact same ▸ UInt32.lt_iff_toNat_lt.mp behind
      · rw [took.params]
        exact serves.size
  · obtain ⟨ret, after, returns, negative, _⟩ := @iotOtaFetchYield_notFetching _ platform device.ota
      device.world turns download.bufferRead httpOtaRangeLen 10 fetches
    rw [returns] at fetched
    cases fetched
    rcases iotOtaFetchYield_ok returns with ⟨notPositive, kept, _⟩ | ⟨took, _⟩
    · exact nothing notPositive kept room
    · exact absurd took.positive (Int.not_lt.mpr (Int.le_of_lt negative))

/-- A piece that is written is behind the others. -/
theorem HasWritten.write {download : Download} {length : Int} (written : HasWritten file download)
    (front : download.written ++ download.bufferRead.take length.toNat <+: file)
    (positive : 0 < length) (fits : length ≤ download.bufferRead.length)
    (inRange : download.totalLength + length < 2 ^ 31) :
    HasWritten file { download with
      totalLength := download.totalLength + length
      pieces := download.pieces ++
        [(UInt32.ofInt download.totalLength, download.bufferRead.take length.toNat)] } := by
  have total := written.total
  constructor
  · rw [written_append, List.length_append, List.length_take, Nat.min_eq_left (by omega)]
    dsimp only
    omega
  · rw [written_append]
    exact front
  · apply consecutive_append written.placed
    have offset : (UInt32.ofInt download.totalLength).toNat =
        (download.totalLength % 2 ^ 32).toNat % 2 ^ 32 := UInt32.toNat_ofNat
    have pieces : (download.pieces.flatMap (·.2)).length = download.written.length := rfl
    omega

/-- The condition on an update message. -/
theorem ForFile.idle {msg : List UInt8} (forFile : ForFile url file device)
    (isReceived : device.control = .received msg)
    (isUpdate : otaLibGetMsgType msg = some updateFirmwareMethod) (names : Names msg)
    (notFetching : device.ota.state ≠ .fetching) :
    device.downloads = [] ∧ liteJsonValueOf urlField msg = some url ∧
      ∀ size ∈ (liteJsonValueOf sizeField msg).bind liteGetUint32, size.toNat = file.length := by
  apply forFile msg ?_ isUpdate names notFetching
  rw [isReceived]
  rfl

/-- Every step keeps the download resuming. -/
theorem step_resuming (named : NamesRanges url file) (notEmpty : file ≠ [])
    (inv : Resuming server url device) (forFile : ForFile url file device) :
    Resuming server url (device.step platform input).1 := by
  have moves := @step_moves _ platform device input
  have idles := @step_idles _ platform file server device input
  have begins := @step_served _ platform file url server device input
  generalize device.step platform input = result at moves idles begins
  obtain ⟨after, events⟩ := result
  dsimp only at moves idles begins ⊢
  -- A step between the fetches that leaves the download alone.
  have quiet : device.control.IsBetween → device.control ≠ .fetching → after.control.IsBetween →
      (∀ download ret, after.control ≠ .returned download ret) → after.downloads = device.downloads →
      after.ota.sizeFetched = device.ota.sizeFetched → after.ota.md5 = device.ota.md5 →
      (after.ota.state = .fetching → device.ota.state = .fetching) → Resuming server url after := by
    intro before noFetch isBetween running downloads sizeFetched md5 same
    apply inv.of_same before isBetween running downloads sizeFetched md5
    exact (inv.between before).2.of_idles same (fun fetches => idles fetches noFetch) sizeFetched
  cases moves with
  | stays => exact inv
  | faults fault =>
      refine ⟨inv.single, inv.buffer, inv.idle, fun isBetween => isBetween.elim, ?_, ?_⟩
      · exact fun _ isFetched => Control.noConfusion isFetched
      · exact fun _ _ isReturned => Control.noConfusion isReturned
  | delivers msg isWaiting =>
      exact quiet (isWaiting ▸ trivial) (isWaiting ▸ Control.noConfusion) trivial (fun _ _ => nofun) rfl
        rfl rfl id
  | dismisses msg s isReceived =>
      exact quiet (isReceived ▸ trivial) (isReceived ▸ Control.noConfusion) trivial (fun _ _ => nofun) rfl
        rfl rfl id
  | queues msg s isReceived isUpdate isFetching =>
      exact quiet (isReceived ▸ trivial) (isReceived ▸ Control.noConfusion) trivial (fun _ _ => nofun) rfl
        rfl rfl id
  | refuses msg ota s isReceived isUpdate notFetching refused =>
      apply quiet (isReceived ▸ trivial) (isReceived ▸ Control.noConfusion) trivial (fun _ _ => nofun) rfl
      · cases refused <;> rfl
      · cases refused <;> rfl
      · cases refused <;> first | exact id | exact OtaState.noConfusion
  | cancels msg ofc s isReceived closed =>
      exact quiet (isReceived ▸ trivial) (isReceived ▸ Control.noConfusion) trivial (fun _ _ => nofun) rfl
        rfl rfl OtaState.noConfusion
  | starts msg params ofc download s isReceived isUpdate notFetching names announces starts =>
      obtain ⟨empty, isUrl, sizes⟩ := forFile.idle isReceived isUpdate names notFetching
      obtain ⟨sizeFetched, md5⟩ := inv.idle empty
      have serves := begins isReceived notFetching isUrl rfl
      rw [empty] at serves ⊢
      refine ⟨Nat.le_refl _, ?_, fun none => ?_, fun _ => ⟨?_, fun _ => ⟨serves, ?_, ?_⟩⟩, ?_, ?_⟩
      · intro each among
        rw [List.mem_singleton.mp among]
        exact starts.bufferRead
      · cases none
      · intro each among
        rw [List.mem_singleton.mp among, starts.totalLength]
        exact ⟨starts.hasWritten, hasFetched_zero sizeFetched md5⟩
      · rw [sizeFetched]
        exact List.length_pos_iff.mpr notEmpty
      · exact sizes params.sizeFile announces.sizeFile
      · exact fun _ isFetched => Control.noConfusion isFetched
      · exact fun _ _ isReturned => Control.noConfusion isReturned
  | startFails msg params download ota s isReceived isUpdate notFetching names announces starts cleared =>
      rw [(forFile.idle isReceived isUpdate names notFetching).1]
      exact .of_cleared cleared starts.hasWritten
  | fetches turns download others length ota buf s isTurn isFetching top fetched =>
      exact inv.fetch named isFetching top fetched
  | writes download others length s isFetched top positive fits inRange =>
      obtain ⟨hasPiece, serving⟩ := inv.fetched length isFetched
      have member : download ∈ device.downloads := top ▸ List.mem_cons_self ..
      obtain ⟨written, hasFetched, front⟩ := hasPiece download member
      have noFetch : device.control ≠ .fetching := by
        rw [isFetched]
        exact Control.noConfusion
      have total : (download.totalLength + length).toNat = download.totalLength.toNat + length.toNat := by
        have total := written.total
        omega
      rw [inv.onlyTop top] at idles ⊢
      refine ⟨Nat.le_refl _, ?_, fun none => ?_, fun _ => ⟨?_, ?_⟩, ?_, ?_⟩
      · intro each among
        rw [List.mem_singleton.mp among]
        exact inv.buffer download member
      · cases none
      · intro each among
        rw [List.mem_singleton.mp among]
        exact ⟨written.write front positive fits inRange, total ▸ hasFetched⟩
      · exact (serving positive).of_idles id (fun fetches => idles fetches noFetch) rfl
      · exact fun _ isFetched => Control.noConfusion isFetched
      · exact fun _ _ isReturned => Control.noConfusion isReturned
  | ends download others ret ota s top ended =>
      have member : download ∈ device.downloads := top ▸ List.mem_cons_self ..
      rw [inv.onlyTop top]
      cases ended with
      | writing length _ isFetched _ cleared =>
          exact .of_cleared cleared ((inv.fetched length isFetched).1 download member).1
      | finishing _ _ isWaiting _ _ cleared =>
          exact .of_cleared cleared ((inv.between (isWaiting ▸ trivial)).1 download member).1
  | goesOn download others ota isWaiting top notFetched kept state =>
      exact quiet (isWaiting ▸ trivial) (isWaiting ▸ Control.noConfusion) trivial (fun _ _ => nofun) rfl
        kept.sizeFetched kept.md5 (fun fetches => state.symm.trans fetches)
  | returns download ret state isReturned states empty =>
      refine quiet (isReturned ▸ trivial) (isReturned ▸ Control.noConfusion) trivial (fun _ _ => nofun) rfl
        rfl rfl fun fetches => ?_
      rcases states with same | disconnected
      · exact same ▸ fetches
      · exact absurd (disconnected.symm.trans fetches) OtaState.noConfusion
  | pops download ret state msg msgList isReturned states first =>
      refine quiet (isReturned ▸ trivial) (isReturned ▸ Control.noConfusion) trivial (fun _ _ => nofun) rfl
        rfl rfl fun fetches => ?_
      rcases states with same | disconnected
      · exact same ▸ fetches
      · exact absurd (disconnected.symm.trans fetches) OtaState.noConfusion

/-! ## Runs -/

/-- In every run of a device with a server of the file, whatever is read at a time and however
often the connection is lost, a download resumes where it has stopped. -/
theorem download_resumes (platform : Platform ν) (file url : List UInt8)
    (server : FileServer platform file) (notEmpty : file ≠ []) (named : NamesRanges url file)
    (productSn deviceSn : List UInt8) (s : ν) (inputs : List Input)
    (forFile : Along (Device.step platform) (fun device _ => ForFile url file device)
      (deviceInit productSn deviceSn s) inputs) :
    Resumes file (run (Device.step platform) (deviceInit productSn deviceSn s) inputs).1 := by
  have start : Resuming server url (deviceInit productSn deviceSn s) :=
    { single := Nat.zero_le _
      buffer := fun _ member => (List.not_mem_nil member).elim
      idle := fun _ => ⟨rfl, .inr rfl⟩
      between := by
        refine fun _ => ⟨fun _ member => (List.not_mem_nil member).elim, fun isFetching => ?_⟩
        exact OtaState.noConfusion isFetching
      fetched := fun _ isFetched => Control.noConfusion isFetched
      returned := fun _ _ isReturned => Control.noConfusion isReturned }
  exact (forFile.invariant (Resuming server url) start fun device input inv forFile =>
    step_resuming named notEmpty inv forFile).2.resumes

/-- The connection is lost behind three bytes of the body, and is there again. -/
theorem download_resumes_outage :
    Resumes (literal "abcdefghij") (run (Device.step (outlet (literal "abcdefghij")))
      (deviceInit (literal "product") (literal "device") ⟨[], [32, 10, 12, 3, 0]⟩)
      [.deliver (updateMessage "0" "10"), .proceed 0, .proceed 50, .proceed 0]).1 :=
  download_resumes (outlet (literal "abcdefghij")) (literal "abcdefghij")
    (literal "http://host/app.bin") (outletServer (literal "abcdefghij") (by decide)) (by decide)
    (namesRanges_of_short (by decide) (by decide) (by decide)) (literal "product") (literal "device")
    ⟨[], [32, 10, 12, 3, 0]⟩
    [.deliver (updateMessage "0" "10"), .proceed 0, .proceed 50, .proceed 0] (by decide +kernel)

/-! ## Requests that are cut -/

/-- The line with the range is behind the 299 bytes that are kept of a request to this URL. -/
def longUrl : List UInt8 :=
  literal "http://" ++ List.replicate 137 0x68 ++ literal "/" ++ List.replicate 138 0x70

def longUrlMessage : List UInt8 :=
  literal "\x7b\"Method\":\"update_firmware\",\"Payload\":\x7b\"Module\":\"app\",\"Version\":\"2\"," ++
    literal "\"URL\":\"" ++ longUrl ++ literal "\",\"MD5\":\"0\",\"Size\":4100\x7d\x7d"

/-- A file that does not fit into the buffer with the terminator behind it. -/
def longFile : List UInt8 := List.replicate 4100 0x61

/-- The connection is lost behind the bytes that fit. -/
def longInputs : List Input :=
  [.deliver longUrlMessage, .proceed 0, .proceed 50, .proceed 0, .yieldEnds, .proceed 50, .proceed 0]

def longDevice : Device Outlet :=
  deviceInit (literal "product") (literal "device") ⟨[], [2000, 2000, 2000, 2000, 2000, 2000, 0]⟩

/-- The device behind these inputs. -/
def longRun : Device Outlet := (run (Device.step (outlet longFile)) longDevice longInputs).1

/-- What the last response is kept in. -/
def FetchChannel.responseBuf : FetchChannel → Option (List UInt8)
  | .live ofc => ofc.httpData.responseBuf
  | _ => none

def FetchChannel.withBuf (responseBuf : Option (List UInt8)) : FetchChannel → FetchChannel
  | .live ofc => .live { ofc with httpData := { ofc.httpData with responseBuf := responseBuf } }
  | channel => channel

theorem FetchChannel.withBuf_of_eq {channel other : FetchChannel} (same : channel.withBuf none = other) :
    channel = other.withBuf channel.responseBuf := by
  subst same
  cases channel <;> rfl

/-- The handle behind the first fetch, but for the context of the hash and the client. -/
def longOta : OtaStruct where
  state := .fetching
  sizeLastFetched := 4099
  sizeFetched := 4099
  params :=
    { url := some longUrl
      module := some (literal "app")
      downloadName := some (literal "download")
      version := some (literal "2")
      md5sum := some (literal "0")
      sizeFile := 4100 }
  md5 := none
  chFetch := .null
  err := 0
  reportTimer := ⟨5000⟩
  productSn := literal "product"
  deviceSn := literal "device"
  msgList := []

def longClient : OtaHttpClient where
  url := longUrl
  http :=
    { net := { hostAddress := List.replicate 137 0x68, port := 80, handle := .connection }
      responseCode := 200
      header := some acceptHeader }
  httpData :=
    { isMore := true, isChunked := false, retrieveLen := 1, responseContentLen := 4100
      responseReceivedLen := 23, postBufLen := 0, responseBufLen := 4100
      postContentType := none, postBuf := none, responseBuf := none }

/-- The download behind the first write, but for the piece. -/
def longDownload : Download where
  fileSize := 4100
  totalLength := 4099
  bufferRead := List.replicate 4099 0x61 ++ [0]
  message := some longUrlMessage
  pieces := []

/-- The device behind some inputs. -/
def longBehind (device : Device Outlet) (inputs : List Input) : Device Outlet :=
  (run (Device.step (outlet longFile)) device inputs).1

/-- The device in front of the second fetch. -/
def longHalf : Device Outlet := longBehind longDevice (longInputs.take 5)

/-- The same with what the second fetch looks at written out. -/
def longMiddle : Device Outlet where
  ota := { longOta with
    md5 := some (longHalf.ota.md5.getD utilsMd5Starts)
    chFetch := (FetchChannel.live longClient).withBuf longHalf.ota.chFetch.responseBuf }
  world := ⟨[0x61], [0]⟩
  downloads := [{ longDownload with pieces := longHalf.downloads.flatMap (·.pieces) }]
  control := .fetching

/-- A device with these parts is the one that is written out. -/
theorem longHalf_eq (isControl : longHalf.control = .fetching) (isWorld : longHalf.world = ⟨[0x61], [0]⟩)
    (isOta : { longHalf.ota with md5 := none, chFetch := .null } = longOta)
    (isHashed : longHalf.ota.md5.isSome) (isClient : longHalf.ota.chFetch.withBuf none = .live longClient)
    (isDownload : longHalf.downloads.map (fun each => { each with bufferRead := [], pieces := [] }) =
      [{ longDownload with bufferRead := [] }])
    (isBuffer : longHalf.downloads.all fun each => each.bufferRead == longDownload.bufferRead) :
    longHalf = longMiddle := by
  have channel := FetchChannel.withBuf_of_eq isClient
  rw [longMiddle, ← channel, ← isOta]
  generalize longHalf = device at *
  generalize longDownload = download at *
  obtain ⟨ota, world, downloads, control⟩ := device
  obtain ⟨context, isContext⟩ := Option.isSome_iff_exists.mp isHashed
  obtain ⟨each, rfl, isEach⟩ := List.map_eq_singleton_iff.mp isDownload
  dsimp only at isControl isWorld isContext ⊢
  subst isControl isWorld
  rw [List.all_cons, List.all_nil, Bool.and_true, beq_iff_eq] at isBuffer
  -- the first evaluation compares without the buffer and the pieces, so the record is put together here
  have whole : each = { download with pieces := each.pieces } := by
    cases each
    cases download
    simp only [Download.mk.injEq] at isEach isBuffer ⊢
    exact ⟨isEach.1, isEach.2.1, isBuffer, isEach.2.2.2.1, trivial⟩
  rw [isContext, List.flatMap_cons, List.flatMap_nil, List.append_nil, ← whole, Option.getD_some,
    ← isContext]

theorem longBehind_split (device : Device Outlet) (inputs : List Input) (n : Nat) :
    longBehind device inputs = longBehind (longBehind device (inputs.take n)) (inputs.drop n) := by
  simp only [longBehind]
  rw [← run_append_fst, List.take_append_drop]

theorem longRun_eq : longRun = longBehind longHalf (longInputs.drop 5) :=
  (rfl : longRun = longBehind longDevice longInputs).trans (longBehind_split longDevice longInputs 5)

/-- Each fetch is computed by itself. -/
theorem longRun_written :
    longRun.control = .waiting ∧ longRun.downloads.map (·.totalLength) = [8198] := by
  have first : longHalf.control = .fetching ∧ longHalf.world = ⟨[0x61], [0]⟩ ∧
      { longHalf.ota with md5 := none, chFetch := .null } = longOta ∧ longHalf.ota.md5.isSome ∧
      longHalf.ota.chFetch.withBuf none = .live longClient ∧
      longHalf.downloads.map (fun each => { each with bufferRead := [], pieces := [] }) =
        [{ longDownload with bufferRead := [] }] ∧
      longHalf.downloads.all fun each => each.bufferRead == longDownload.bufferRead := by
    decide +kernel
  have second : (longBehind longMiddle (longInputs.drop 5)).control = .waiting ∧
      (longBehind longMiddle (longInputs.drop 5)).downloads.map (·.totalLength) = [8198] := by
    decide +kernel
  obtain ⟨isControl, isWorld, isOta, isHashed, isClient, isDownload, isBuffer⟩ := first
  rw [longRun_eq, longHalf_eq isControl isWorld isOta isHashed isClient isDownload isBuffer]
  exact second

/-- No more is written than the file has. -/
theorem Resumes.total_le (resumes : Resumes file device) (isWaiting : device.control = .waiting) :
    ∀ total ∈ device.downloads.map (·.totalLength), total ≤ (file.length : Int) := by
  intro total member
  obtain ⟨download, isDownload, rfl⟩ := List.mem_map.mp member
  obtain ⟨written, _⟩ := resumes.resumed (isWaiting ▸ trivial) download isDownload
  rw [written.total]
  exact Int.ofNat_le.mpr written.front.length_le

/-- The server, the URL and the size are those of the file, and it is written twice. -/
theorem long_url_repeats :
    Nonempty (FileServer (outlet longFile) longFile) ∧
      liteJsonValueOf urlField longUrlMessage = some longUrl ∧
      (liteJsonValueOf sizeField longUrlMessage).bind liteGetUint32 = some 4100 ∧
      longFile.length = 4100 ∧ ¬Resumes longFile longRun := by
  have isLength : longFile.length = 4100 := List.length_replicate
  have small : longFile.length < 2 ^ 31 := by
    rw [isLength]
    decide
  refine ⟨⟨outletServer longFile small⟩, by decide +kernel, by decide +kernel, isLength, ?_⟩
  intro resumes
  obtain ⟨isWaiting, totals⟩ := longRun_written
  have fits := resumes.total_le isWaiting
  rw [totals, isLength] at fits
  exact absurd (fits 8198 (List.mem_singleton_self _)) (by decide)

end UIoT.Ota
