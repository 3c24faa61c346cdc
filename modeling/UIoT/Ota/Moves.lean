import UIoT.Ota.Machine

/-!
# What a step of the device does

`Moves` says once what an input does to a device: a message is dismissed, queued or
refused, cancels the download or starts one, a download fetches, writes, goes on or
ends, and its caller takes the next message or returns. A device that faults is
otherwise as before. Invariants of runs are derived from it (`step_moves`).
-/

set_option autoImplicit false

namespace UIoT.Ota

open Utils

variable {ν : Type} (platform : Platform ν)

/-- The message in the callback. -/
def Control.message : Control → Option (List UInt8)
  | .received msg => some msg
  | _ => none

/-- The fields that a message announces are those of the handle. -/
structure Announces (msg : List UInt8) (params : Params) : Prop where
  url : liteJsonValueOf urlField msg = params.url
  md5sum : liteJsonValueOf md5Field msg = params.md5sum
  sizeFile : (liteJsonValueOf sizeField msg).bind liteGetUint32 = some params.sizeFile

/-- A message has the fields that are read up to the URL. -/
def Names (msg : List UInt8) : Prop :=
  (liteJsonValueOf moduleField msg).isSome ∧ (liteJsonValueOf versionField msg).isSome ∧
    (liteJsonValueOf urlField msg).isSome

instance (msg : List UInt8) : Decidable (Names msg) := inferInstanceAs (Decidable (_ ∧ _))

/-- A download that is about to fetch its first piece. -/
structure Begins (download : Download) (message : Option (List UInt8)) (params : Params) : Prop where
  fileSize : download.fileSize = params.sizeFile.toInt32.toInt
  totalLength : download.totalLength = 0
  bufferRead : download.bufferRead.length = httpOtaBuffLen
  message : download.message = message
  pieces : download.pieces = []

/-- An update message that starts no download: one of its fields is missing, there
is no memory for a client, or the client does not connect. -/
inductive Refuses (ota : OtaStruct) (msg : List UInt8) (s : ν) : OtaStruct → Prop where
  | params (ret : Int) (params : Params) (s' : ν)
      (read : otaLibGetParams platform msg ota.params s = (ret, params, s')) (failed : ret ≠ successRet) :
      Refuses ota msg s { ota with params := params }
  | memory (params : Params) (url : List UInt8) (s' s'' : ν)
      (read : otaLibGetParams platform msg ota.params s = (successRet, params, s'))
      (isUrl : params.url = some url) (failed : ofcInit platform url s' = (none, s'')) :
      Refuses ota msg s { ota with params := params, chFetch := .null }
  | connection (params : Params) (ofc : OtaHttpClient) (s' : ν)
      (read : otaLibGetParams platform msg ota.params s = (successRet, params, s')) :
      Refuses ota msg s { ota with params := params, chFetch := .live ofc, state := .disconnected }

/-- How `IOT_OTA_fw_download` ends behind its start. -/
inductive Ends (device : Device ν) (download : Download) (others : List Download) (ret : Int) :
    OtaStruct → Prop where
  | writing (length : Int) (ota : OtaStruct) (isFetched : device.control = .fetched length)
      (failed : ret = failureRet ∨ ret = errOtaFetchFailed) (cleared : Cleared device.ota ota) :
      Ends device download others ret ota
  | finishing (ota : OtaStruct) (s : ν) (isWaiting : device.control = .waiting)
      (isFetched : device.ota.state = .fetched)
      (finished : finishDownload platform download others device.ota device.world =
        .ok ⟨ota, s, others, .returned download ret⟩)
      (cleared : Cleared device.ota ota) : Ends device download others ret ota

/-- What a step does. -/
inductive Moves (device : Device ν) (input : Input) : Device ν → List Event → Prop where
  | stays : Moves device input device []
  | faults (fault : Fault) : Moves device input { device with control := .faulted fault } []
  | delivers (msg : List UInt8) (isWaiting : device.control = .waiting) :
      Moves device input { device with control := .received msg } []
  | dismisses (msg : List UInt8) (s : ν) (isReceived : device.control = .received msg) :
      Moves device input { device with world := s, control := .waiting } []
  | queues (msg : List UInt8) (s : ν) (isReceived : device.control = .received msg)
      (isUpdate : otaLibGetMsgType msg = some updateFirmwareMethod)
      (isFetching : device.ota.state = .fetching) :
      Moves device input
        { device with
          ota := { device.ota with msgList := device.ota.msgList ++ [msg] }
          world := s
          control := .waiting } [.queued msg]
  | refuses (msg : List UInt8) (ota : OtaStruct) (s : ν) (isReceived : device.control = .received msg)
      (isUpdate : otaLibGetMsgType msg = some updateFirmwareMethod)
      (notFetching : device.ota.state ≠ .fetching)
      (refused : Refuses platform device.ota msg (platform.malloc device.world).2 ota) :
      Moves device input { device with ota := ota, world := s, control := .waiting } []
  | cancels (msg : List UInt8) (ofc : OtaHttpClient) (s : ν)
      (isReceived : device.control = .received msg) (closed : ofc.http.net.handle = .zero) :
      Moves device input
        { device with
          ota := { device.ota with chFetch := .live ofc, state := .disconnected }
          world := s
          control := .waiting } []
  | starts (msg : List UInt8) (params : Params) (ofc : OtaHttpClient) (download : Download) (s : ν)
      (isReceived : device.control = .received msg)
      (isUpdate : otaLibGetMsgType msg = some updateFirmwareMethod)
      (notFetching : device.ota.state ≠ .fetching) (names : Names msg)
      (announces : Announces msg params) (begins : Begins download (some msg) params) :
      Moves device input
        ⟨{ device.ota with params := params, chFetch := .live ofc, state := .fetching }, s,
          download :: device.downloads, .fetching⟩ []
  | startFails (msg : List UInt8) (params : Params) (download : Download) (ota : OtaStruct) (s : ν)
      (isReceived : device.control = .received msg)
      (isUpdate : otaLibGetMsgType msg = some updateFirmwareMethod)
      (notFetching : device.ota.state ≠ .fetching) (names : Names msg)
      (announces : Announces msg params) (begins : Begins download (some msg) params)
      (cleared : Cleared device.ota ota) :
      Moves device input ⟨ota, s, device.downloads, .returned download failureRet⟩ []
  | fetches (turns : Nat) (download : Download) (others : List Download) (length : Int)
      (ota : OtaStruct) (buf : List UInt8) (s : ν) (isTurn : input = .proceed turns)
      (isFetching : device.control = .fetching)
      (top : device.downloads = download :: others)
      (fetched : iotOtaFetchYield platform turns device.ota download.bufferRead httpOtaRangeLen 10
        device.world = .ok (length, ota, buf, s)) :
      Moves device input ⟨ota, s, { download with bufferRead := buf } :: others, .fetched length⟩ []
  | writes (download : Download) (others : List Download) (length : Int) (s : ν)
      (isFetched : device.control = .fetched length) (top : device.downloads = download :: others)
      (positive : 0 < length) (fits : length ≤ download.bufferRead.length)
      (inRange : download.totalLength + length < 2 ^ 31) :
      Moves device input
        { device with
          world := s
          downloads := { download with
            totalLength := download.totalLength + length
            pieces := download.pieces ++
              [(UInt32.ofInt download.totalLength, download.bufferRead.take length.toNat)] } :: others
          control := .waiting } []
  | ends (download : Download) (others : List Download) (ret : Int) (ota : OtaStruct) (s : ν)
      (top : device.downloads = download :: others)
      (ended : Ends platform device download others ret ota) :
      Moves device input ⟨ota, s, others, .returned download ret⟩ []
  | goesOn (download : Download) (others : List Download) (ota : OtaStruct)
      (isWaiting : device.control = .waiting) (top : device.downloads = download :: others)
      (notFetched : device.ota.state ≠ .fetched) (kept : Kept device.ota ota)
      (state : ota.state = device.ota.state) :
      Moves device input { device with ota := ota, control := .fetching } []
  | returns (download : Download) (ret : Int) (state : OtaState)
      (isReturned : device.control = .returned download ret)
      (states : state = device.ota.state ∨ state = .disconnected)
      (empty : download.message.isSome → device.ota.msgList = []) :
      Moves device input { device with ota := { device.ota with state := state }, control := .waiting } []
  | pops (download : Download) (ret : Int) (state : OtaState) (msg : List UInt8)
      (msgList : List (List UInt8)) (isReturned : device.control = .returned download ret)
      (states : state = device.ota.state ∨ state = .disconnected)
      (first : device.ota.msgList = msg :: msgList) :
      Moves device input
        { device with
          ota := { device.ota with state := state, msgList := msgList }
          control := .received msg } [.handled msg]

/-! ## The functions -/

variable {platform} {ota : OtaStruct} {msg : List UInt8} {others : List Download} {s : ν}
  {device after : Device ν} {input : Input} {events : List Event}

theorem endDownload_ok {download : Download} {ret : Int}
    (ended : endDownload platform download ret others ota s = .ok after) :
    ∃ cleared s', Cleared ota cleared ∧ after = ⟨cleared, s', others, .returned download ret⟩ := by
  rw [endDownload] at ended
  obtain ⟨⟨cleared, s'⟩, clears, ended⟩ := bind_ok ended
  cases ended
  exact ⟨cleared, s', iotOtaClear_ok clears, rfl⟩

theorem startDownload_ok {message : Option (List UInt8)} (isFetching : ota.state = .fetching)
    (started : startDownload platform message others ota s = .ok after) :
    ∃ download, Begins download message ota.params ∧
      ((∃ s', after = ⟨ota, s', download :: others, .fetching⟩) ∨
        ∃ cleared s', Cleared ota cleared ∧
          after = ⟨cleared, s', others, .returned download failureRet⟩) := by
  have query : iotOtaIoctl platform ota .fileSize 4 true s =
      .ok (successRet, .number ota.params.sizeFile, ota, s) := by
    rw [iotOtaIoctl, isFetching]
    rfl
  rw [startDownload, query] at started
  refine ⟨newDownload ota.params.sizeFile.toInt32.toInt message,
    ⟨rfl, rfl, List.length_replicate, rfl, rfl⟩, ?_⟩
  simp only [bind, Except.bind] at started
  split at started
  · obtain ⟨cleared, s', clears, rfl⟩ := endDownload_ok started
    exact .inr ⟨cleared, s', clears, rfl⟩
  · split at started
    · obtain ⟨cleared, s', clears, rfl⟩ := endDownload_ok started
      exact .inr ⟨cleared, s', clears, rfl⟩
    · cases started
      exact .inl ⟨_, rfl⟩

/-- The fields are all read. -/
theorem otaLibGetParams_ok {params params' : Params} {s' : ν}
    (read : otaLibGetParams platform msg params s = (successRet, params', s')) :
    Names msg ∧ Announces msg params' := by
  rw [otaLibGetParams] at read
  split at read
  · cases read
  · rename_i module isModule
    dsimp only at read
    split at read
    · cases read
    · rename_i version isVersion
      split at read
      · cases read
      · rename_i url isUrl
        split at read
        · cases read
        · rename_i md5sum isMd5sum
          split at read
          · cases read
          · rename_i sizeFile isSize
            cases read
            refine ⟨⟨?_, ?_, ?_⟩, ⟨isUrl, isMd5sum, isSize⟩⟩
            · exact Option.isSome_of_eq_some isModule
            · exact Option.isSome_of_eq_some isVersion
            · exact Option.isSome_of_eq_some isUrl

/-- A message that does not name its file leaves what is known of another. -/
theorem otaLibGetParams_unnamed {params params' : Params} {ret : Int} {s' : ν}
    (unnamed : ¬Names msg) (read : otaLibGetParams platform msg params s = (ret, params', s')) :
    ret ≠ successRet ∧ params'.url = params.url ∧ params'.md5sum = params.md5sum ∧
      params'.sizeFile = params.sizeFile := by
  rw [otaLibGetParams] at read
  split at read
  · cases read
    exact ⟨by decide, rfl, rfl, rfl⟩
  · rename_i module isModule
    dsimp only at read
    split at read
    · cases read
      exact ⟨by decide, rfl, rfl, rfl⟩
    · rename_i version isVersion
      split at read
      · cases read
        exact ⟨by decide, rfl, rfl, rfl⟩
      · rename_i url isUrl
        refine absurd ⟨?_, ?_, ?_⟩ unnamed
        · exact Option.isSome_of_eq_some isModule
        · exact Option.isSome_of_eq_some isVersion
        · exact Option.isSome_of_eq_some isUrl

/-- What a call does where it returns, a device that it faults and one that stays as it is have a
property. -/
theorem settle_of (property : Device ν → List Event → Prop) {result : Outcome (Device ν × List Event)}
    (stays : property device [])
    (faults : ∀ fault, property { device with control := .faulted fault } [])
    (returns : ∀ after events, result = .ok (after, events) → property after events) :
    property (device.settle result).1 (device.settle result).2 := by
  cases result with
  | ok result => exact returns result.1 result.2 rfl
  | error fault => cases fault <;> first | exact stays | exact faults _

/-- The same of the turn of a download. -/
theorem inLoop_of (property : Device ν → List Event → Prop)
    {next : Download → List Download → OtaStruct → ν → Outcome (Device ν)}
    (stays : property device [])
    (faults : ∀ fault, property { device with control := .faulted fault } [])
    (returns : ∀ download others after, device.downloads = download :: others →
      next download others device.ota device.world = .ok after → property after []) :
    property (device.inLoop next).1 (device.inLoop next).2 := by
  rw [Device.inLoop]
  split
  · exact stays
  · rename_i download others top
    refine settle_of property stays faults fun after events isResult => ?_
    cases result : next download others device.ota device.world with
    | error fault => rw [result] at isResult; cases isResult
    | ok after' =>
        rw [result] at isResult
        cases isResult
        exact returns download others after top result

theorem updateFirmware_moves (isReceived : device.control = .received msg)
    (isUpdate : otaLibGetMsgType msg = some updateFirmwareMethod)
    (notFetching : device.ota.state ≠ .fetching)
    (returns : updateFirmware platform device.downloads device.ota msg
      (platform.malloc device.world).2 = .ok after) : Moves platform device input after [] := by
  rw [updateFirmware] at returns
  cases read : otaLibGetParams platform msg device.ota.params (platform.malloc device.world).2 with
  | mk ret rest =>
      obtain ⟨params, s⟩ := rest
      rw [read] at returns
      dsimp only at returns
      split at returns
      · rename_i failed
        cases returns
        exact .refuses msg _ s isReceived isUpdate notFetching (.params ret params s read failed)
      · rename_i success
        have success := not_not.mp success
        subst success
        obtain ⟨url, isUrl, returns⟩ := bind_ok returns
        cases initialised : ofcInit platform url s with
        | mk client s' =>
            rw [initialised] at returns
            cases client with
            | none =>
                cases returns
                exact .refuses msg _ s' isReceived isUpdate notFetching
                  (.memory params url s s' read (used_ok isUrl) initialised)
            | some ofc =>
                obtain ⟨⟨ret, ofc, s'⟩, connected, returns⟩ := bind_ok returns
                dsimp only at returns
                split at returns
                · cases returns
                  exact .refuses msg _ s' isReceived isUpdate notFetching
                    (.connection params ofc s read)
                · obtain ⟨names, announces⟩ := otaLibGetParams_ok read
                  obtain ⟨download, begins, ⟨s', rfl⟩ | ⟨cleared, s', clears, rfl⟩⟩ :=
                    startDownload_ok rfl returns
                  · exact .starts msg params ofc download s' isReceived isUpdate notFetching names
                      announces begins
                  · exact .startFails msg params download cleared s' isReceived isUpdate notFetching
                      names announces begins ⟨clears.state, clears.sizeFetched, clears.sizeFile, clears.md5,
                        clears.msgList, clears.chFetch⟩

theorem cancelUpdate_ok {s' : ν} {after : OtaStruct}
    (returns : cancelUpdate platform ota msg s = .ok (after, s')) :
    after = ota ∨ ∃ ofc : OtaHttpClient, ofc.http.net.handle = .zero ∧
      after = { ota with chFetch := .live ofc, state := .disconnected } := by
  rw [cancelUpdate] at returns
  split at returns
  · cases returns
    exact .inl rfl
  · obtain ⟨module, _, returns⟩ := bind_ok returns
    split at returns
    · cases returns
      exact .inl rfl
    · obtain ⟨version, _, returns⟩ := bind_ok returns
      split at returns
      · cases returns
        exact .inl rfl
      · obtain ⟨ofc, _, returns⟩ := bind_ok returns
        cases returns
        exact .inr ⟨_, rfl, rfl⟩

theorem otaCallback_moves (isReceived : device.control = .received msg)
    (returns : otaCallback platform device.downloads device.ota msg device.world =
      .ok (after, events)) : Moves platform device input after events := by
  have dismissed : ∀ s, Moves platform device input ⟨device.ota, s, device.downloads, .waiting⟩ [] :=
    fun s => .dismisses msg s isReceived
  rw [otaCallback] at returns
  dsimp only at returns
  split at returns
  · cases returns
    exact dismissed _
  · split at returns
    · cases returns
      exact dismissed _
    · rename_i msgMethod isMethod
      split at returns
      · cases returns
        exact dismissed _
      · split at returns
        · rename_i isUpdateMethod
          subst isUpdateMethod
          split at returns
          · rename_i isFetching
            obtain ⟨⟨ota, pushed, s⟩, pushes, returns⟩ := bind_ok returns
            cases returns
            rw [otaPushUploadMsg] at pushes
            dsimp only at pushes
            split at pushes
            · cases pushes
            · split at pushes
              · cases pushes
                exact dismissed _
              · split at pushes
                · cases pushes
                  exact dismissed _
                · cases pushes
                  exact .queues msg _ isReceived isMethod isFetching
          · rename_i notFetching
            obtain ⟨updated, updates, returns⟩ := bind_ok returns
            cases returns
            exact updateFirmware_moves isReceived isMethod notFetching updates
        · split at returns
          · obtain ⟨⟨ota, s⟩, cancels, returns⟩ := bind_ok returns
            cases returns
            obtain rfl | ⟨ofc, closed, rfl⟩ := cancelUpdate_ok cancels
            · exact dismissed _
            · exact .cancels msg ofc _ isReceived closed
          · cases returns
            exact dismissed _

theorem Cleared.of_msgList {before before' after : OtaStruct} (cleared : Cleared before after)
    (same : before.msgList = before'.msgList) : Cleared before' after where
  state := cleared.state
  sizeFetched := cleared.sizeFetched
  sizeFile := cleared.sizeFile
  md5 := cleared.md5
  msgList := cleared.msgList.trans same
  chFetch := cleared.chFetch

theorem finishDownload_ok {download : Download}
    (returns : finishDownload platform download others ota s = .ok after) :
    ∃ ret cleared s', Cleared ota cleared ∧ after = ⟨cleared, s', others, .returned download ret⟩ := by
  have ends : ∀ {ret : Int} {last : OtaStruct} {s : ν}, last.msgList = ota.msgList →
      endDownload platform download ret others last s = .ok after →
      ∃ ret cleared s', Cleared ota cleared ∧
        after = ⟨cleared, s', others, .returned download ret⟩ := by
    intro ret last s same ended
    obtain ⟨cleared, s', clears, isAfter⟩ := endDownload_ok ended
    exact ⟨ret, cleared, s', clears.of_msgList same, isAfter⟩
  rw [finishDownload] at returns
  split at returns
  · obtain ⟨⟨_, stored, checked, s⟩, query, returns⟩ := bind_ok returns
    obtain ⟨firmwareValid, _, returns⟩ := bind_ok returns
    have same := (iotOtaIoctl_ok query).msgList
    split at returns
    · exact ends same returns
    · obtain ⟨⟨_, stored, asked, s⟩, query', returns⟩ := bind_ok returns
      obtain ⟨msgVersion, _, returns⟩ := bind_ok returns
      have same' := (iotOtaIoctl_ok query').msgList.trans same
      exact ends ((iotOtaReportSuccess_reported msgVersion).msgList.trans same') returns
  · exact ends rfl returns

theorem writePiece_moves {download : Download} {length : Int}
    (isFetched : device.control = .fetched length) (top : device.downloads = download :: others)
    (returns : writePiece platform length download others device.ota device.world = .ok after) :
    Moves platform device input after [] := by
  have ends : ∀ {ret : Int} {s : ν}, ret = failureRet ∨ ret = errOtaFetchFailed →
      endDownload platform download ret others device.ota s = .ok after →
      Moves platform device input after [] := by
    intro ret s failed ended
    obtain ⟨cleared, s', clears, rfl⟩ := endDownload_ok ended
    exact .ends download others ret cleared s' top (.writing length cleared isFetched failed clears)
  rw [writePiece] at returns
  split at returns
  · cases returns
  rename_i fits
  split at returns
  · rename_i positive
    dsimp only at returns
    split at returns
    · exact ends (.inl rfl) returns
    · split at returns
      · cases returns
      · rename_i inRange
        cases returns
        exact .writes download others length _ isFetched top positive (Int.not_lt.mp fits)
          (Int.not_le.mp inRange)
  · exact ends (.inr rfl) returns

theorem yieldEnd_moves {download : Download} (isWaiting : device.control = .waiting)
    (top : device.downloads = download :: others)
    (returns : yieldEnd platform download others device.ota device.world = .ok after) :
    Moves platform device input after [] := by
  by_cases isUninited : device.ota.state = .uninited
  · have notFetched : device.ota.state ≠ .fetched := by
      rw [isUninited]
      exact OtaState.noConfusion
    rw [yieldEnd, iotOtaIsFetchFinish, if_pos isUninited] at returns
    cases returns
    rw [← top]
    exact .goesOn download others _ isWaiting top notFetched ⟨rfl, rfl, rfl, rfl⟩ rfl
  · rw [yieldEnd, iotOtaIsFetchFinish, if_neg isUninited] at returns
    dsimp only at returns
    by_cases isFetched : device.ota.state = .fetched
    · rw [if_pos (decide_eq_true isFetched)] at returns
      obtain ⟨ret, cleared, s', clears, rfl⟩ := finishDownload_ok returns
      exact .ends download others ret cleared s' top
        (.finishing cleared s' isWaiting isFetched returns clears)
    · rw [if_neg (by rw [decide_eq_true_iff]; exact isFetched)] at returns
      cases returns
      rw [← top]
      exact .goesOn download others _ isWaiting top isFetched (.refl _) rfl

theorem callerGoesOn_moves {download : Download} {ret : Int}
    (isReturned : device.control = .returned download ret) :
    Moves platform device input (callerGoesOn device download ret).1
      (callerGoesOn device download ret).2 := by
  rw [callerGoesOn]
  cases message : download.message with
  | none =>
      refine .returns download ret device.ota.state isReturned (.inl rfl) fun isSome => ?_
      rw [message] at isSome
      cases isSome
  | some msg =>
      dsimp only
      have popped : ∀ state, (state = device.ota.state ∨ state = .disconnected) →
          Moves platform device input
            (otaPopUploadMsg { device with ota := { device.ota with state := state } }).1
            (otaPopUploadMsg { device with ota := { device.ota with state := state } }).2 := by
        intro state states
        rw [otaPopUploadMsg]
        dsimp only
        split
        · rename_i empty
          exact .returns download ret state isReturned states fun _ => empty
        · rename_i first msgList isList
          exact .pops download ret state first msgList isReturned states isList
      split
      · exact popped .disconnected (.inr rfl)
      · exact popped device.ota.state (.inl rfl)

/-- What a step does. -/
theorem step_moves (device : Device ν) (input : Input) :
    Moves platform device input (device.step platform input).1 (device.step platform input).2 := by
  cases input with
  | deliver payload =>
      rw [Device.step]
      split
      · rename_i isWaiting
        exact .delivers _ isWaiting
      · exact .stays
  | yieldEnds =>
      rw [Device.step]
      split
      · rename_i isWaiting
        exact inLoop_of _ .stays .faults fun download others after top returns =>
          yieldEnd_moves isWaiting top returns
      · exact .stays
  | proceed turns =>
      rw [Device.step, Device.goOn]
      split
      · rename_i msg isReceived
        exact settle_of _ .stays .faults fun after events returns => otaCallback_moves isReceived returns
      · rename_i isFetching
        refine inLoop_of _ .stays .faults fun download others after top returns => ?_
        rw [fetchPiece] at returns
        obtain ⟨⟨length, ota, buf, s⟩, fetched, returns⟩ := bind_ok returns
        cases returns
        exact .fetches turns download others length ota buf s rfl isFetching top fetched
      · rename_i length isFetched
        exact inLoop_of _ .stays .faults fun download others after top returns =>
          writePiece_moves isFetched top returns
      · rename_i download ret isReturned
        exact callerGoesOn_moves isReturned
      · exact .stays
      · exact .stays

end UIoT.Ota
