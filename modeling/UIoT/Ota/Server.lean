import UIoT.Ota.Cancel
import UIoT.Utils.Reception
import UIoT.Utils.RequestHead

/-!
# A server of a file

The server answers each request for a range with the bytes of the file that are in it. What
`IOT_OTA_FetchYield` returns of such a server is the piece of the file behind
`size_fetched`, whatever the reads deliver at a time and however often the connection is
lost (`iotOtaFetchYield_serves`), as long as the requests name their ranges: they are cut to
the 299 bytes that their buffer has room for.
-/

set_option autoImplicit false

namespace UIoT.Ota

open FirstMatch Json Utils

/-! ## Requests for ranges -/

abbrev rangeLine : List UInt8 := literal "\r\nRange: bytes="

/-- The first and the last byte that a request asks for in its line `Range: bytes=`. -/
def rangeOf (request : List UInt8) : Option (Nat × Nat) :=
  match strstr rangeLine request with
  | none => none
  | some i =>
      let range := request.drop (i + rangeLine.length)
      let first := range.takeWhile isDigit
      match range.dropWhile isDigit with
      | 0x2D :: rest =>
          let last := rest.takeWhile isDigit
          if first = [] ∨ last = [] ∨ ¬crlf <+: rest.dropWhile isDigit then none
          else some (digitsValue first, digitsValue last)
      | _ => none

/-- The bytes of a file in a range. -/
def slice (file : List UInt8) (first last : Nat) : List UInt8 :=
  (file.drop first).take (last + 1 - first)

/-- What `_http_send_header` writes where it fits into its buffer. -/
def requestText (host path : List UInt8) (sizeFetched rangeLen : UInt32) : List UInt8 :=
  (requestLines host path .get sizeFetched rangeLen).take (httpClientRequestBufSize - 1) ++
    acceptHeader ++ crlf

variable {ν : Type} {platform : Platform ν} {s s' : ν}

/-- The header is written at once. -/
theorem httpSendHeader_eq {transport : Transport ν} {client : HttpClient} {clientData : HttpClientData}
    {host path : List UInt8} {sizeFetched rangeLen : UInt32}
    (isHeader : client.header = some acceptHeader) (noPost : clientData.postBuf = none) :
    httpSendHeader transport client host path .get sizeFetched rangeLen clientData s =
      let (ret, s) := transport.write s (requestText host path sizeFetched rangeLen)
      (if ret ≤ 0 then if ret = 0 then errHttpClosed else errHttpConnError else successRet, s) := by
  have cut := cutLines_length host path .get sizeFetched rangeLen
  have pieces : (headPieces client clientData).flatten = acceptHeader ++ crlf := by
    rw [headPieces, isHeader, noPost]
    rfl
  have short : (acceptHeader ++ crlf).length ≤ 202 := by decide +kernel
  have size : httpClientSendBufSize = 1024 := rfl
  rw [httpSendHeader_pieces, requestText, ← cutLines]
  generalize cutLines host path .get sizeFetched rangeLen = lines at cut ⊢
  obtain ⟨rest, all⟩ := @fillAll_short _ transport s (headPieces client clientData) lines _
    (bufferOf_length (by omega)) (by
      rw [pieces, List.length_append]
      omega)
  dsimp only
  rw [bufferOf, all, pieces, ← List.append_assoc]
  dsimp only
  rw [List.take_left]

theorem utilsParseUrl_code {url host path : List UInt8} {rc : Int}
    (parsed : utilsParseUrl url = .ok (rc, host, path)) : rc = successRet ∨ rc = errParamInvalid := by
  rw [utilsParseUrl] at parsed
  split at parsed
  · cases parsed
    exact .inr rfl
  · dsimp only at parsed
    split at parsed
    · cases parsed
      exact .inr rfl
    · split at parsed <;> split at parsed <;> cases parsed <;> exact .inl rfl

/-- A request is written, or fails to be written, or nothing is done. -/
theorem httpSendRequest_cases {transport : Transport ν} {client : HttpClient}
    {clientData : HttpClientData} {url : List UInt8} {sizeFetched rangeLen : UInt32} {rc : Int}
    (isHeader : client.net.handle ≠ .zero → client.header = some acceptHeader)
    (noPost : client.net.handle ≠ .zero → clientData.postBuf = none)
    (sent : httpSendRequest transport client url .get sizeFetched rangeLen clientData s =
      .ok (rc, s')) :
    (rc = successRet ∧ client.net.handle ≠ .zero ∧ ∃ host path,
        utilsParseUrl url = .ok (successRet, host, path) ∧
          0 < (transport.write s (requestText host path sizeFetched rangeLen)).1 ∧
          s' = (transport.write s (requestText host path sizeFetched rangeLen)).2) ∨
      rc = errHttpConnError ∨ (rc < 0 ∧ s' = s) := by
  rw [httpSendRequest] at sent
  split at sent
  · cases sent
    exact .inr (.inr ⟨by decide, rfl⟩)
  · rename_i hasHandle
    obtain ⟨⟨rc', host, path⟩, parsed, sent⟩ := bind_ok sent
    dsimp only at sent
    split at sent
    · rename_i failed
      cases sent
      rcases utilsParseUrl_code parsed with success | invalid
      · exact absurd success failed
      · exact .inr (.inr ⟨invalid ▸ by decide, rfl⟩)
    · rename_i success
      obtain rfl := not_not.mp success
      rcases header : httpSendHeader transport client host path .get sizeFetched rangeLen clientData s
        with ⟨ret, s₁⟩
      have writes := (httpSendHeader_eq (isHeader hasHandle) (noPost hasHandle)).symm.trans header
      obtain ⟨isRet, rfl⟩ := Prod.mk.inj writes
      rw [header] at sent
      dsimp only at sent
      by_cases positive : 0 < (transport.write s (requestText host path sizeFetched rangeLen)).1
      · rw [if_neg (Int.not_le.mpr positive)] at isRet
        subst isRet
        rw [if_neg (by decide), if_neg (by decide)] at sent
        cases sent
        exact .inl ⟨rfl, hasHandle, host, path, parsed, positive, rfl⟩
      · have failed : ret ≠ 0 := by
          rw [if_pos (Int.not_lt.mp positive)] at isRet
          subst isRet
          split <;> decide
        rw [if_pos failed] at sent
        cases sent
        exact .inr (.inl rfl)

/-! ## The server -/

/-- A server of a file on a platform: it answers a request for a range of the file with the
bytes in it, or not at all. What else the platform does leaves what is pending. -/
structure FileServer (platform : Platform ν) (file : List UInt8) extends
    Connection platform.toTransport where
  answers : ∀ s request first last, pending s = [] → 0 < (platform.write s request).1 →
    rangeOf request = some (first, last) → first < file.length →
      Answered toConnection (slice file first last) (platform.write s request).2
  connect : ∀ s hostAddress port, pending (platform.connect s hostAddress port).2 = []
  disconnect : ∀ s handle, pending (platform.disconnect s handle) = []
  malloc : ∀ s, pending (platform.malloc s).2 = pending s
  publish : ∀ s qos1 topicName msg, pending (platform.publish s qos1 topicName msg).2 = pending s
  downloadInit : ∀ s name, pending (platform.downloadInit s name).2 = pending s
  downloadWrite : ∀ s offset piece, pending (platform.downloadWrite s offset piece).2 = pending s
  fetchCallback : ∀ callback ∈ platform.fetchCallback, ∀ s code,
    pending (callback s code) = pending s
  missingArguments : ∀ s, pending (platform.missingArguments s).2.2 = pending s

/-- The requests for the ranges of a file at a URL name them. -/
def NamesRanges (url file : List UInt8) : Prop :=
  ∀ host path, utilsParseUrl url = .ok (successRet, host, path) → ∀ first < file.length,
    rangeOf (requestText host path (UInt32.ofNat first) httpOtaRangeLen) =
      some (first, first + httpOtaRangeLen.toNat)

/-- A client whose last response is received, or that has no connection. -/
def Ready {file : List UInt8} (server : FileServer platform file) (ofc : OtaHttpClient) (s : ν) :
    Prop :=
  ofc.http.net.handle ≠ .zero →
    server.pending s = [] ∧ ofc.http.header = some acceptHeader ∧ ofc.httpData.postBuf = none ∧
      ofc.httpData.isMore = false ∧ ofc.httpData.retrieveLen = 0

variable {file : List UInt8} {server : FileServer platform file}

/-- The piece of the file that is fetched next. -/
def piece (file : List UInt8) (first : Nat) : List UInt8 :=
  slice file first (first + httpOtaRangeLen.toNat)

/-- A fetch returns the piece, or a negative code. When the connection is lost, there is to be
another one. -/
def Fetched (server : FileServer platform file) (url : List UInt8) (first : Nat) (rc : Int)
    (ofc : OtaHttpClient) (buf : List UInt8) (s : ν) : Prop :=
  ofc.url = url ∧ buf.length = httpOtaBuffLen ∧
    ((rc = (piece file first).length ∧ buf.take (piece file first).length = piece file first ∧
        Ready server ofc s) ∨
      rc < 0 ∧ (rc ≠ errHttpConnError → Ready server ofc s))

theorem piece_eq (file : List UInt8) (first : Nat) : piece file first = (file.drop first).take 4097 := by
  have last : first + httpOtaRangeLen.toNat + 1 - first = 4097 := by
    rw [Nat.add_assoc, Nat.add_sub_cancel_left]
    rfl
  rw [piece, slice, last]

theorem piece_ne_nil {first : Nat} (inFile : first < file.length) : piece file first ≠ [] := by
  rw [piece_eq, ← List.length_pos_iff, List.length_take, List.length_drop]
  omega

/-- The buffer has room for a piece. -/
theorem piece_fits {first : Nat} : (piece file first).length + 1 < httpOtaBuffLen := by
  have short : (piece file first).length ≤ 4097 := by
    rw [piece_eq]
    exact List.length_take_le _ _
  have room : httpOtaBuffLen = 4100 := rfl
  omega

theorem ofcFetch_serves {url : List UInt8} (named : NamesRanges url file) {ofc ofc' : OtaHttpClient}
    {sizeFetched timeoutS : UInt32} {buf buf' : List UInt8} {turns : Nat} {rc : Int}
    (ready : Ready server ofc s) (isUrl : ofc.url = url) (inFile : sizeFetched.toNat < file.length)
    (length : buf.length = httpOtaBuffLen)
    (fetched : ofcFetch platform turns ofc sizeFetched buf httpOtaRangeLen timeoutS s =
      .ok (rc, ofc', buf', s')) :
    Fetched server url sizeFetched.toNat rc ofc' buf' s' := by
  rw [ofcFetch] at fetched
  obtain ⟨⟨rc₁, s₁⟩, sent, received⟩ := bind_ok fetched
  dsimp only at received
  rcases httpSendRequest_cases (fun hasHandle => (ready hasHandle).2.1)
      (fun hasHandle => (ready hasHandle).2.2.1) sent with
    ⟨rfl, hasHandle, host, path, parsed, positive, rfl⟩ | rfl | ⟨negative, rfl⟩
  · obtain ⟨idle, isHeader, noPost, notMore, retrieved⟩ := ready hasHandle
    rw [if_neg (not_not.mpr rfl)] at received
    obtain ⟨⟨rc₂, http, httpData, s₂⟩, recv, received⟩ := bind_ok received
    dsimp only at received
    have range := named host path (isUrl ▸ parsed) sizeFetched.toNat inFile
    rw [UInt32.ofNat_toNat] at range
    have answered : Answered server.toConnection (piece file sizeFetched.toNat) _ :=
      server.answers s _ _ _ idle positive range inFile
    have notEmpty := piece_ne_nil inFile
    have fits := @piece_fits file sizeFetched.toNat
    have hasBuffer : HasBuffer { ofc.httpData with
        responseBuf := some buf
        responseBufLen := buf.length
        responseContentLen := 0
        responseReceivedLen := 0 } buf := ⟨rfl, rfl⟩
    rcases httpClientRecvData_body answered notEmpty fits hasBuffer length noPost notMore recv with
      ⟨rfl, header, got⟩ | ⟨closed, negative, responseBuf, ⟨isBuffer, _⟩, isLength⟩
    · obtain ⟨responseBuf, ⟨isBuffer, _⟩, isLength, isPiece⟩ := got.responseBuf
      rw [if_neg (not_not.mpr rfl), isBuffer, got.announced, got.retrieveLen, retrieved] at received
      cases received
      refine ⟨isUrl, isLength, .inl ⟨?_, isPiece, fun _ => ?_⟩⟩
      · omega
      · exact ⟨got.pending, header.trans isHeader, got.noPost, got.isMore, got.retrieveLen⟩
    · rw [if_pos (Int.ne_of_lt negative), isBuffer] at received
      have lost : ∀ {code : Int}, code < 0 → Fetched server url sizeFetched.toNat code
          { url := ofc.url, http := http, httpData := httpData } responseBuf s₂ := fun below =>
        ⟨isUrl, isLength, .inr ⟨below, fun _ hasHandle => absurd closed hasHandle⟩⟩
      split at received
      · cases received
        exact lost (by decide)
      · split at received
        · cases received
          exact lost (by decide)
        · split at received
          · cases received
            exact lost (by decide)
          · cases received
            exact lost negative
  · rw [if_pos (by decide)] at received
    cases received
    exact ⟨isUrl, length, .inr ⟨by decide, fun other => absurd rfl other⟩⟩
  · rw [if_pos (Int.ne_of_lt negative)] at received
    cases received
    exact ⟨isUrl, length, .inr ⟨negative, fun _ => ready⟩⟩

/-! ## Reports -/

theorem sendReport_pending {ota : OtaStruct} (module version : List UInt8) (progress : Int)
    (reportType : UpstreamMsgType) (qos1 : Bool) :
    server.pending (sendReport platform ota module version progress reportType qos1 s).2.2 =
      server.pending s := by
  have generated : ∀ s, server.pending (otaLibGenUpstreamMsg platform otaUpstreamMsgBufLen module
      version progress reportType s).2.2 = server.pending s := by
    intro s
    rw [otaLibGenUpstreamMsg]
    cases reportType <;> first | rfl | exact server.missingArguments s
  have published : ∀ s msg, server.pending (otaMqttPublish platform ota qos1 msg s).2 =
      server.pending s := by
    intro s msg
    rw [otaMqttPublish]
    dsimp only
    split
    · rfl
    · exact server.publish _ _ _ _
  rw [sendReport]
  dsimp only
  split
  · exact server.malloc s
  · split
    · rw [generated, server.malloc]
    · split <;> rw [published, generated, server.malloc]

theorem iotOtaReportProgress_pending {ota : OtaStruct} (progress : Int) (state : UpstreamMsgType) :
    server.pending (iotOtaReportProgress platform ota progress state s).2.2 = server.pending s := by
  rw [iotOtaReportProgress]
  split
  · rfl
  · split
    · rfl
    · exact sendReport_pending _ _ _ _ _

theorem iotOtaReportFail_pending {ota : OtaStruct} (errCode : UpstreamMsgType) :
    server.pending (iotOtaReportFail platform ota errCode s).2.2 = server.pending s := by
  rw [iotOtaReportFail]
  split
  · rfl
  · dsimp only
    split
    · exact sendReport_pending _ _ _ _ _
    · rw [callFetchCallback]
      split
      · rename_i fetchCallback isCallback
        rw [server.fetchCallback fetchCallback isCallback]
        exact sendReport_pending _ _ _ _ _
      · exact sendReport_pending _ _ _ _ _

theorem fetchFailed_pending {ota : OtaStruct} (ret : Int) :
    server.pending (fetchFailed platform ota ret s).2 = server.pending s := by
  rw [fetchFailed]
  split
  · exact iotOtaReportFail_pending _
  · split
    · exact iotOtaReportFail_pending _
    · split
      · exact iotOtaReportFail_pending _
      · rfl

theorem startReportTimer_pending {ota : OtaStruct} :
    server.pending (startReportTimer platform ota s).2 = server.pending s :=
  server.tick s

theorem reportFirst_pending {ota : OtaStruct} :
    server.pending (reportFirst platform ota s).2 = server.pending s := by
  rw [reportFirst]
  split
  · exact startReportTimer_pending.trans (iotOtaReportProgress_pending _ _)
  · rfl

theorem reportPercent_pending {ota : OtaStruct} (percent : UInt32) :
    server.pending (reportPercent platform ota percent s).2 = server.pending s := by
  rw [reportPercent]
  split
  · exact iotOtaReportProgress_pending _ _
  · split
    · dsimp only
      split
      · exact startReportTimer_pending.trans ((iotOtaReportProgress_pending _ _).trans (server.tick s))
      · exact server.tick s
    · rfl

/-! ## Connections -/

theorem httpConnectLoop_pending :
    ∀ {left : Nat} {net : UtilsNetwork} {s : ν}, left ≠ 0 ∨ server.pending s = [] →
      server.pending (httpConnectLoop platform.toTransport left net s).2 = []
  | 0, _, _, idle => idle.resolve_left fun positive => positive rfl
  | left + 1, net, s, _ => by
      rw [httpConnectLoop]
      dsimp only
      split
      · exact httpConnectLoop_pending (.inr (server.disconnect _ _))
      · exact server.connect _ _ _

/-- Nothing is pending on a new connection. -/
theorem ofcConnect_ready {url : List UInt8} {ofc ofc' : OtaHttpClient} {s₁ : ν} {rc : Int}
    (initialised : ofcInit platform url s = (some ofc, s₁))
    (connected : ofcConnect platform ofc s₁ = .ok (rc, ofc', s')) :
    Ready server ofc' s' ∧ ofc'.url = url := by
  rw [ofcInit] at initialised
  dsimp only at initialised
  split at initialised
  · cases initialised
    rw [ofcConnect] at connected
    obtain ⟨⟨rc', http, s₂⟩, connects, connected⟩ := bind_ok connected
    cases connected
    refine ⟨fun hasHandle => ?_, rfl⟩
    rw [httpClientConnect] at connects
    rw [if_neg (not_not.mpr rfl)] at connects
    obtain ⟨⟨rc'', host, path⟩, _, connects⟩ := bind_ok connects
    dsimp only at connects
    split at connects
    · cases connects
      exact absurd rfl hasHandle
    · rw [httpConnect] at connects
      dsimp only at connects
      rw [if_neg (by decide)] at connects
      cases connects
      exact ⟨httpConnectLoop_pending (.inl (by decide)), rfl, rfl, rfl, rfl⟩
  · cases initialised

theorem reconnect_ready {url : List UInt8} {ota ota' : OtaStruct} {ofc : OtaHttpClient}
    (isUrl : ota.params.url = some url)
    (reconnected : reconnect platform ota ofc s = .ok (ota', s')) :
    ∃ ofc', ota'.chFetch = .live ofc' ∧ Ready server ofc' s' ∧ ofc'.url = url := by
  rw [reconnect, isUrl] at reconnected
  dsimp only [used, pure, Except.pure, bind, Except.bind] at reconnected
  rcases initialised : ofcInit platform url (ofcDeinit platform ofc s) with ⟨made, s₁⟩
  rw [initialised] at reconnected
  cases made with
  | none => cases reconnected
  | some ofc =>
      obtain ⟨⟨rc, ofc', s₂⟩, connected, reconnected⟩ := bind_ok reconnected
      cases reconnected
      obtain ⟨ready, sameUrl⟩ := @ofcConnect_ready _ platform _ _ file server _ _ _ _ _ initialised
        connected
      exact ⟨ofc', rfl, ready, sameUrl⟩

/-! ## Fetching -/

/-- The client of a handle whose file is served. -/
structure Served (server : FileServer platform file) (url : List UInt8) (ota : OtaStruct) (s : ν) :
    Prop where
  client : ∃ ofc, ota.chFetch = .live ofc ∧ Ready server ofc s ∧ ofc.url = url
  url : ota.params.url = some url

/-- The piece at some place is at the front of a buffer. -/
structure InBuffer (file : List UInt8) (first : Nat) (ret : Int) (buf : List UInt8) : Prop where
  length : ret = (piece file first).length
  bytes : buf.take (piece file first).length = piece file first

/-- The attempts deliver the next piece, or nothing. -/
theorem fetchAttempts_serves {url : List UInt8} (named : NamesRanges url file) {turns : Nat}
    {timeoutS : UInt32} :
    ∀ {left : Nat} {ret : Int} {ota : OtaStruct} {buf : List UInt8} {s : ν}
      {ret' : Int} {after : OtaStruct} {buf' : List UInt8} {s' : ν},
      Served server url ota s → ota.sizeFetched.toNat < file.length → buf.length = httpOtaBuffLen →
      ret ≤ 0 → ota.state ≠ .disconnected →
      fetchAttempts platform turns httpOtaRangeLen timeoutS left ret ota buf s =
        .ok (ret', after, buf', s') →
      buf'.length = httpOtaBuffLen ∧
        (0 < ret' → InBuffer file ota.sizeFetched.toNat ret' buf' ∧ Served server url after s')
  | 0, ret, ota, buf, s, ret', after, buf', s', served, inFile, length, notPositive, _, attempts => by
      cases attempts
      exact ⟨length, fun positive => absurd positive (Int.not_lt.mpr notPositive)⟩
  | left + 1, ret, ota, buf, s, ret', after, buf', s', served, inFile, length, _, connected,
      attempts => by
      obtain ⟨⟨ofc, isClient, ready, sameUrl⟩, isUrl⟩ := served
      rw [fetchAttempts, isClient] at attempts
      obtain ⟨ofc, isOfc, attempts⟩ := bind_ok attempts
      cases isOfc
      obtain ⟨⟨ret₁, ofc₁, buf₁, s₁⟩, fetched, attempts⟩ := bind_ok attempts
      obtain ⟨sameUrl₁, length₁, ⟨isLength, bytes, ready₁⟩ | ⟨negative, ready₁⟩⟩ :=
        ofcFetch_serves named ready sameUrl inFile length fetched
      · dsimp only at attempts
        have notNegative : 0 ≤ ret₁ := isLength ▸ Int.natCast_nonneg _
        have notLost : ¬(ret₁ = errHttpConnError ∧ ota.state ≠ .disconnected) := fun lost =>
          absurd (lost.1 ▸ notNegative) (by decide)
        rw [if_neg notLost, if_neg (Int.not_lt.mpr notNegative)] at attempts
        cases attempts
        refine ⟨length₁, fun _ => ⟨⟨isLength, bytes⟩, ⟨ofc₁, ?_, ?_, sameUrl₁⟩, ?_⟩⟩
        · exact reportFirst_reported.chFetch
        · intro hasHandle
          rw [reportFirst_pending]
          exact ready₁ hasHandle
        · rw [reportFirst_reported.params]
          exact isUrl
      · dsimp only at attempts
        split at attempts
        · obtain ⟨⟨ota₂, s₂⟩, reconnected, attempts⟩ := bind_ok attempts
          obtain ⟨kept, isFetching⟩ := reconnect_ok reconnected
          obtain ⟨ofc₂, isClient₂, ready₂, sameUrl₂⟩ := reconnect_ready isUrl reconnected
          have served : Served server url ota₂ s₂ :=
            ⟨⟨ofc₂, isClient₂, ready₂, sameUrl₂⟩, (congrArg Params.url kept.params).trans isUrl⟩
          have rest := fetchAttempts_serves named served (kept.sizeFetched ▸ inFile) length₁
            (Int.le_of_lt negative) (isFetching ▸ OtaState.noConfusion) attempts
          rwa [kept.sizeFetched] at rest
        · rename_i notLost
          have other : ret₁ ≠ errHttpConnError := fun lost => notLost ⟨lost, connected⟩
          have kept := @fetchFailed_kept _ platform { ota with chFetch := .live ofc₁ } s₁ ret₁
          have served : Served server url (fetchFailed platform { ota with chFetch := .live ofc₁ } ret₁
              s₁).1 (fetchFailed platform { ota with chFetch := .live ofc₁ } ret₁ s₁).2 := by
            refine ⟨⟨ofc₁, fetchFailed_chFetch ret₁, fun hasHandle => ?_, sameUrl₁⟩, ?_⟩
            · rw [fetchFailed_pending]
              exact ready₁ other hasHandle
            · rw [kept.params]
              exact isUrl
          have isFetched := @fetchFailed_state _ platform { ota with chFetch := .live ofc₁ } s₁ ret₁
          have rest := fetchAttempts_serves named served (by rw [kept.sizeFetched]; exact inFile)
            length₁ (Int.le_of_lt negative) (by rw [isFetched]; exact OtaState.noConfusion) attempts
          rwa [kept.sizeFetched] at rest

theorem accountFetched_pending {ret : Int} {ota after : OtaStruct} {buf : List UInt8}
    (accounted : accountFetched platform ret ota buf s = .ok (after, s')) :
    server.pending s' = server.pending s := by
  rw [accountFetched] at accounted
  obtain ⟨md5, _, accounted⟩ := bind_ok accounted
  dsimp only at accounted
  split at accounted
  · cases accounted
  · split at accounted
    · cases accounted
    · cases accounted
      exact reportPercent_pending _

/-- `IOT_OTA_FetchYield` delivers the next piece, or nothing. -/
theorem iotOtaFetchYield_serves {url : List UInt8} (named : NamesRanges url file) {turns : Nat}
    {timeoutS : UInt32} {ota after : OtaStruct} {buf buf' : List UInt8} {ret : Int}
    (served : Served server url ota s) (inFile : ota.sizeFetched.toNat < file.length)
    (length : buf.length = httpOtaBuffLen)
    (fetched : iotOtaFetchYield platform turns ota buf httpOtaRangeLen timeoutS s =
      .ok (ret, after, buf', s')) :
    buf'.length = httpOtaBuffLen ∧
      (0 < ret → InBuffer file ota.sizeFetched.toNat ret buf' ∧ Served server url after s') := by
  rw [iotOtaFetchYield] at fetched
  split at fetched
  · cases fetched
    exact ⟨length, fun positive => absurd positive (by decide)⟩
  · split at fetched
    · cases fetched
      exact ⟨length, fun positive => absurd positive (by decide)⟩
    · rename_i isFetching
      have connected : ota.state ≠ .disconnected := by
        rw [not_not.mp isFetching]
        exact OtaState.noConfusion
      obtain ⟨⟨ret₁, ota₁, buf₁, s₁⟩, attempts, fetched⟩ := bind_ok fetched
      obtain ⟨length₁, delivers⟩ :=
        fetchAttempts_serves named served inFile length (Int.le_refl 0) connected attempts
      dsimp only at fetched
      split at fetched
      · rename_i positive
        obtain ⟨⟨ota₂, s₂⟩, accounted, fetched⟩ := bind_ok fetched
        cases fetched
        obtain ⟨inBuffer, ⟨ofc, isClient, ready, sameUrl⟩, isUrl⟩ := delivers positive
        obtain ⟨took, _⟩ := accountFetched_ok positive accounted
        refine ⟨length₁, fun _ => ⟨inBuffer, ⟨ofc, ?_, ?_, sameUrl⟩, ?_⟩⟩
        · exact (accountFetched_chFetch accounted).trans isClient
        · intro hasHandle
          rw [accountFetched_pending accounted]
          exact ready hasHandle
        · rw [took.params]
          exact isUrl
      · rename_i notPositive
        cases fetched
        exact ⟨length₁, fun positive => absurd positive notPositive⟩

end UIoT.Ota
