import UIoT.Ota.Moves

/-!
# One download at a time

A download yields to MQTT behind each piece, and the callback starts another one
unless the state is `OTA_STATE_FETCHING`. Behind the last piece, or when the download
is cancelled, it is not, so an update message that comes then starts a download
inside of the other (`update_nests`). Where none comes, there is one download at a
time, and it runs on what its message announced (`downloads_alone`).
-/

set_option autoImplicit false

namespace UIoT.Ota

open Utils Runs

variable {ν : Type}

/-! ## The property -/

/-- There is one download at most. It starts with nothing fetched, a fresh MD5
context and what its message announces, and this stays so. -/
structure Alone (device : Device ν) : Prop where
  single : device.downloads.length ≤ 1
  started : ∀ download ∈ device.downloads, device.control = .fetching → download.pieces = [] →
    device.ota.sizeFetched = 0 ∧ device.ota.md5 = some utilsMd5Starts
  announced : ∀ download ∈ device.downloads,
    ∃ msg, download.message = some msg ∧ Announces msg device.ota.params

/-! ## The condition -/

/-- An update message that names its file is handled where no download is under way,
with an MD5 context, or where it is queued. -/
def Undisturbed (device : Device ν) : Prop :=
  ∀ msg ∈ device.control.message, otaLibGetMsgType msg = some updateFirmwareMethod → Names msg →
    device.ota.state ≠ .fetching → device.downloads = [] ∧ device.ota.md5.isSome

instance (device : Device ν) : Decidable (Undisturbed device) :=
  inferInstanceAs (Decidable (∀ msg ∈ device.control.message, _))

/-! ## The invariant -/

/-- Where no piece is written yet, the first one is under way. -/
structure OneDownload (device : Device ν) : Prop where
  single : device.downloads.length ≤ 1
  begun : ∀ download ∈ device.downloads, download.pieces = [] →
    (device.control = .fetching ∧ device.ota.sizeFetched = 0 ∧
        device.ota.md5 = some utilsMd5Starts) ∨
      (∃ length, device.control = .fetched length) ∨ ∃ fault, device.control = .faulted fault
  announced : ∀ download ∈ device.downloads,
    ∃ msg, download.message = some msg ∧ Announces msg device.ota.params
  idle : device.downloads = [] → device.ota.sizeFetched = 0 ∧
    (device.ota.md5 = none ∨ device.ota.md5 = some utilsMd5Starts)

variable {platform : Platform ν} {device after : Device ν} {input : Input} {events : List Event}

theorem OneDownload.alone (inv : OneDownload device) : Alone device where
  single := inv.single
  started := by
    intro download member isFetching none
    rcases inv.begun download member none with ⟨_, started⟩ | ⟨length, isFetched⟩ | ⟨fault, isFaulted⟩
    · exact started
    · rw [isFetched] at isFetching
      cases isFetching
    · rw [isFaulted] at isFetching
      cases isFetching
  announced := inv.announced

/-- A download that is not in its first fetch has written. -/
theorem OneDownload.written {download : Download} (inv : OneDownload device)
    (member : download ∈ device.downloads) (notFetching : device.control ≠ .fetching)
    (notFetched : ∀ length, device.control ≠ .fetched length)
    (notFaulted : ∀ fault, device.control ≠ .faulted fault) : download.pieces ≠ [] := by
  intro none
  rcases inv.begun download member none with ⟨isFetching, _⟩ | ⟨length, isFetched⟩ | ⟨fault, isFaulted⟩
  · exact notFetching isFetching
  · exact notFetched length isFetched
  · exact notFaulted fault isFaulted

/-- A step outside of the loop changes neither the counters nor what is announced. -/
theorem OneDownload.of_same {ota : OtaStruct} {s : ν} {control : Control} (inv : OneDownload device)
    (written : ∀ download ∈ device.downloads, download.pieces ≠ [])
    (sizeFetched : ota.sizeFetched = device.ota.sizeFetched) (md5 : ota.md5 = device.ota.md5)
    (announced : ∀ msg, Announces msg device.ota.params → device.downloads ≠ [] →
      Announces msg ota.params) :
    OneDownload ⟨ota, s, device.downloads, control⟩ where
  single := inv.single
  begun := fun download member none => absurd none (written download member)
  announced := by
    intro download member
    obtain ⟨msg, isMessage, announces⟩ := inv.announced download member
    exact ⟨msg, isMessage, announced msg announces (List.ne_nil_of_mem member)⟩
  idle := by
    intro empty
    rw [sizeFetched, md5]
    exact inv.idle empty

/-- What a download leaves behind. -/
theorem OneDownload.of_cleared {before ota : OtaStruct} {s : ν} {control : Control}
    (cleared : Cleared before ota) : OneDownload (⟨ota, s, [], control⟩ : Device ν) where
  single := Nat.zero_le _
  begun := fun _ member => (List.not_mem_nil member).elim
  announced := fun _ member => (List.not_mem_nil member).elim
  idle := fun _ => ⟨cleared.sizeFetched, cleared.md5⟩

/-- There are no others behind the top. -/
theorem OneDownload.others {download : Download} {others : List Download} (inv : OneDownload device)
    (top : device.downloads = download :: others) : others = [] := by
  have single := inv.single
  rw [top, List.length_cons] at single
  exact List.length_eq_zero_iff.mp (by omega)

/-- An update message that names its file is handled as the condition has it. -/
theorem Undisturbed.idle {msg : List UInt8} (undisturbed : Undisturbed device)
    (isReceived : device.control = .received msg)
    (isUpdate : otaLibGetMsgType msg = some updateFirmwareMethod) (names : Names msg)
    (notFetching : device.ota.state ≠ .fetching) :
    device.downloads = [] ∧ device.ota.md5.isSome := by
  apply undisturbed msg ?_ isUpdate names notFetching
  rw [isReceived]
  rfl

theorem moves_oneDownload (inv : OneDownload device) (undisturbed : Undisturbed device)
    (moves : Moves platform device input after events) : OneDownload after := by
  -- In front of these steps no first fetch is under way.
  have written : ∀ {control : Control}, device.control = control → control ≠ .fetching →
      (∀ length, control ≠ .fetched length) → (∀ fault, control ≠ .faulted fault) →
      ∀ download ∈ device.downloads, download.pieces ≠ [] := by
    intro control isControl notFetching notFetched notFaulted download member
    subst isControl
    exact inv.written member notFetching notFetched notFaulted
  have writtenReceived : ∀ {msg}, device.control = .received msg →
      ∀ download ∈ device.downloads, download.pieces ≠ [] := fun isReceived =>
    written isReceived Control.noConfusion (fun _ => Control.noConfusion) fun _ => Control.noConfusion
  have writtenWaiting : device.control = .waiting →
      ∀ download ∈ device.downloads, download.pieces ≠ [] := fun isWaiting =>
    written isWaiting Control.noConfusion (fun _ => Control.noConfusion) fun _ => Control.noConfusion
  have writtenReturned : ∀ {download ret}, device.control = .returned download ret →
      ∀ download ∈ device.downloads, download.pieces ≠ [] := fun isReturned =>
    written isReturned Control.noConfusion (fun _ => Control.noConfusion) fun _ => Control.noConfusion
  cases moves with
  | stays => exact inv
  | faults fault =>
      refine ⟨inv.single, fun download member none => ?_, inv.announced, inv.idle⟩
      exact .inr (.inr ⟨fault, rfl⟩)
  | delivers msg isWaiting =>
      exact inv.of_same (writtenWaiting isWaiting) rfl rfl fun _ announces _ => announces
  | dismisses msg s isReceived =>
      exact inv.of_same (writtenReceived isReceived) rfl rfl fun _ announces _ => announces
  | queues msg s isReceived =>
      exact inv.of_same (writtenReceived isReceived) rfl rfl fun _ announces _ => announces
  | refuses msg ota s isReceived isUpdate notFetching refused =>
      -- A message that names its file comes where nothing is under way.
      have known : device.downloads ≠ [] → ¬Names msg := fun underWay names =>
        underWay (undisturbed.idle isReceived isUpdate names notFetching).1
      refine inv.of_same (writtenReceived isReceived) ?_ ?_ fun other announces underWay => ?_
      · cases refused <;> rfl
      · cases refused <;> rfl
      · cases refused with
        | params ret params s' read failed =>
            obtain ⟨_, url, md5sum, sizeFile⟩ := otaLibGetParams_unnamed (known underWay) read
            refine ⟨announces.url.trans url.symm, announces.md5sum.trans md5sum.symm, ?_⟩
            rw [sizeFile]
            exact announces.sizeFile
        | memory params url s' s'' read =>
            exact absurd rfl (otaLibGetParams_unnamed (known underWay) read).1
        | connection params ofc s' read =>
            exact absurd rfl (otaLibGetParams_unnamed (known underWay) read).1
  | cancels msg ofc s isReceived =>
      exact inv.of_same (writtenReceived isReceived) rfl rfl fun _ announces _ => announces
  | starts msg params ofc download s isReceived isUpdate notFetching names announces begins =>
      obtain ⟨empty, hasMd5⟩ := undisturbed.idle isReceived isUpdate names notFetching
      obtain ⟨sizeFetched, md5⟩ := inv.idle empty
      have fresh : device.ota.md5 = some utilsMd5Starts := by
        rcases md5 with none | fresh
        · rw [none] at hasMd5
          cases hasMd5
        · exact fresh
      rw [empty]
      refine ⟨Nat.le_refl _, fun _ _ _ => .inl ⟨rfl, sizeFetched, fresh⟩, ?_, fun none => ?_⟩
      · intro each member
        rw [List.mem_singleton.mp member]
        exact ⟨msg, begins.message, announces⟩
      · cases none
  | startFails msg params download ota s isReceived isUpdate notFetching names announces begins cleared =>
      rw [(undisturbed.idle isReceived isUpdate names notFetching).1]
      exact .of_cleared cleared
  | fetches turns download others length ota buf s isTurn isFetching top fetched =>
      have params : ota.params = device.ota.params := by
        rcases iotOtaFetchYield_ok fetched with ⟨_, kept, _⟩ | ⟨took, _⟩
        · exact kept.params
        · exact took.params
      rw [inv.others top]
      refine ⟨Nat.le_refl _, fun _ _ _ => .inr (.inl ⟨length, rfl⟩), ?_, fun none => ?_⟩
      · intro each member
        rw [List.mem_singleton.mp member]
        dsimp only
        rw [params]
        exact inv.announced download (by rw [top]; exact List.mem_cons_self ..)
      · cases none
  | writes download others length s isFetched top positive =>
      rw [inv.others top]
      refine ⟨Nat.le_refl _, fun each member none => ?_, ?_, fun none => ?_⟩
      · rw [List.mem_singleton.mp member] at none
        exact absurd none (List.append_ne_nil_of_right_ne_nil _ (List.cons_ne_nil _ _))
      · intro each member
        rw [List.mem_singleton.mp member]
        exact inv.announced download (by rw [top]; exact List.mem_cons_self ..)
      · cases none
  | ends download others ret ota s top ended =>
      rw [inv.others top]
      cases ended with
      | writing length _ _ _ cleared => exact .of_cleared cleared
      | finishing _ _ _ _ _ cleared => exact .of_cleared cleared
  | goesOn download others ota isWaiting top notFetched kept state =>
      refine inv.of_same (writtenWaiting isWaiting) kept.sizeFetched kept.md5 fun msg announces _ => ?_
      rw [kept.params]
      exact announces
  | returns download ret state isReturned =>
      exact inv.of_same (writtenReturned isReturned) rfl rfl fun _ announces _ => announces
  | pops download ret state msg msgList isReturned =>
      exact inv.of_same (writtenReturned isReturned) rfl rfl fun _ announces _ => announces

/-! ## Runs -/

/-- In every run, as long as no update message is handled inside of a download, there
is one download at a time, on what its message announces. -/
theorem downloads_alone (platform : Platform ν) (productSn deviceSn : List UInt8) (s : ν)
    (inputs : List Input)
    (undisturbed : Along (Device.step platform) (fun device _ => Undisturbed device)
      (deviceInit productSn deviceSn s) inputs) :
    Alone (run (Device.step platform) (deviceInit productSn deviceSn s) inputs).1 := by
  have start : OneDownload (deviceInit productSn deviceSn s) :=
    { single := Nat.zero_le _
      begun := fun _ member => (List.not_mem_nil member).elim
      announced := fun _ member => (List.not_mem_nil member).elim
      idle := fun _ => ⟨rfl, .inr rfl⟩ }
  exact (undisturbed.invariant OneDownload start fun device input inv undisturbed =>
    moves_oneDownload inv undisturbed (step_moves device input)).2.alone

/-- What comes to a device whose second download waits for the first. -/
def queuedInputs : List Input :=
  [.deliver (updateMessage "0" "10"), .proceed 0, .proceed 50, .proceed 0,
    .deliver (updateMessage "1" "20"), .proceed 0, .yieldEnds, .proceed 50, .proceed 0, .yieldEnds,
    .proceed 0, .proceed 0]

theorem downloads_alone_queued :
    Alone (run (Device.step scripted) (deviceInit (literal "product") (literal "device")
      ⟨[], [okResponse "4" "abcd", okResponse "6" "efghij"]⟩) queuedInputs).1 :=
  downloads_alone scripted (literal "product") (literal "device")
    ⟨[], [okResponse "4" "abcd", okResponse "6" "efghij"]⟩ queuedInputs (by decide +kernel)

/-- An update message that comes once the file is fetched starts a download inside of
the first one. -/
theorem update_nests :
    ¬Alone (play [okResponse "10" "abcdefghij"]
      [.deliver (updateMessage "0" "10"), .proceed 0, .proceed 50, .proceed 0,
        .deliver (updateMessage "1" "20"), .proceed 0]) := by
  intro alone
  have two : (play [okResponse "10" "abcdefghij"]
      [.deliver (updateMessage "0" "10"), .proceed 0, .proceed 50, .proceed 0,
        .deliver (updateMessage "1" "20"), .proceed 0]).downloads.length = 2 := by
    decide +kernel
  have single := alone.single
  rw [two] at single
  exact absurd single (by decide)

end UIoT.Ota
