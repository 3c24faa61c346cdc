import UIoT.Ota.Machine
import UIoT.Utils.Contents

/-!
# Statuses of responses

`ofc_fetch` has codes for a file that does not exist and for a signature that has expired, and takes
them from codes of `http_client_recv_data` that this never returns: the status of a response is read and
not looked at. So the page of an error counts as firmware just where a page of a file would
(`followsStatus_iff`).
-/

set_option autoImplicit false

namespace UIoT.Ota

open FirstMatch Json Utils

/-! ## Statuses -/

/-- The status in the first line of a response: three digits behind the version. -/
def statusOf : List UInt8 → Option Nat
  | 0x48 :: 0x54 :: 0x54 :: 0x50 :: 0x2F :: major :: 0x2E :: minor :: 0x20 :: a :: b :: c :: _ =>
      if [major, minor, a, b, c].all isDigit then some (digitsValue [a, b, c]) else none
  | _ => none

/-- The request has succeeded. -/
def IsSuccess (status : Option Nat) : Prop := ∃ n, status = some n ∧ 200 ≤ n ∧ n < 300

/-- The statuses that `ofc_fetch` has codes for: the file does not exist, or may not be fetched. -/
def IsRefusal (status : Option Nat) : Prop :=
  status = some 404 ∨ status = some 401 ∨ status = some 403

instance (status : Option Nat) : Decidable (IsRefusal status) :=
  inferInstanceAs (Decidable (status = some 404 ∨ status = some 401 ∨ status = some 403))

theorem IsSuccess.not_refusal {status : Option Nat} (success : IsSuccess status) : ¬IsRefusal status := by
  obtain ⟨n, rfl, least, most⟩ := success
  rintro (missing | unauthorized | forbidden)
  · cases missing
    exact absurd most (by decide)
  · cases unauthorized
    exact absurd most (by decide)
  · cases forbidden
    exact absurd most (by decide)

variable {ν : Type} (platform : Platform ν)

/-- A fetch whose response has this status, in so many turns. -/
structure FollowsStatusIn (turns : Nat) (ofc : OtaHttpClient) (sizeFetched : UInt32) (buf : List UInt8)
    (rangeLen timeoutS : UInt32) (s : ν) (status : Option Nat) : Prop where
  counts : ∀ rc ofc' buf' s', ofcFetch platform turns ofc sizeFetched buf rangeLen timeoutS s =
    .ok (rc, ofc', buf', s') → 0 < rc → IsSuccess status
  missing : status = some 404 → ∃ ofc' buf' s',
    ofcFetch platform turns ofc sizeFetched buf rangeLen timeoutS s =
      .ok (errOtaFileNotExist, ofc', buf', s')
  denied : status = some 401 ∨ status = some 403 → ∃ ofc' buf' s',
    ofcFetch platform turns ofc sizeFetched buf rangeLen timeoutS s =
      .ok (errOtaFetchAuthFail, ofc', buf', s')

/-- With enough turns. -/
def FollowsStatus (ofc : OtaHttpClient) (sizeFetched : UInt32) (buf : List UInt8)
    (rangeLen timeoutS : UInt32) (s : ν) (status : Option Nat) : Prop :=
  ∃ least, ∀ turns, least < turns →
    FollowsStatusIn platform turns ofc sizeFetched buf rangeLen timeoutS s status

/-! ## Codes -/

variable {platform} {transport : Transport ν} {turns : Nat} {client : HttpClient} {timeoutMs : UInt32}
  {clientData : HttpClientData} {s : ν}

/-- The codes that receiving a response may end in. -/
def receiveCodes : List Int :=
  [successRet, httpRetrieveMoreData, failureRet, errHttpUnresolvedDns, errHttpConnError]

theorem success_code : successRet ∈ receiveCodes := by decide

theorem moreData_code : httpRetrieveMoreData ∈ receiveCodes := by decide

theorem failure_code : failureRet ∈ receiveCodes := by decide

theorem unresolved_code : errHttpUnresolvedDns ∈ receiveCodes := by decide

theorem connError_code : errHttpConnError ∈ receiveCodes := by decide

/-- Nothing is left of a response of which no more is to come. -/
def Rested (clientData : HttpClientData) : Prop :=
  clientData.isMore = false → clientData.retrieveLen = 0

theorem rested_of_more (isMore : clientData.isMore = true) : Rested clientData := by
  intro noMore
  rw [noMore] at isMore
  cases isMore

/-- How a call ends that receives. -/
structure ReceiveEnds (rc : Int) (after : HttpClientData) : Prop where
  code : rc ∈ receiveCodes
  rested : Rested after

theorem responseBodyLoop_ends {data : List UInt8} {dataLen : Nat} {written : Int} {counts : DeadloopCounts}
    {result : Int × HttpClientData × ν} (isMore : clientData.isMore = true)
    (loops : responseBodyLoop transport turns data dataLen written counts clientData s = .ok result) :
    ReceiveEnds result.1 result.2.1 := by
  induction turns generalizing data dataLen written counts clientData s with
  | zero => cases loops
  | succ turns inductionHypothesis =>
      rw [responseBodyLoop] at loops
      obtain ⟨⟨res, written', moved⟩, fills, goesOn⟩ := bind_ok loops
      have stillMore : moved.isMore = true := by
        obtain ⟨_, _, isMoved⟩ := utilsFillRxBuf_data fills
        have same := congrArg HttpClientData.isMore isMoved
        exact same.trans isMore
      dsimp only at goesOn
      split at goesOn
      · cases goesOn
        exact ⟨moreData_code, rested_of_more stillMore⟩
      · split at goesOn
        · rename_i nothing
          cases goesOn
          exact ⟨success_code, fun _ => nothing⟩
        · split at goesOn
          · cases goesOn
          · obtain ⟨data', _, checks⟩ := bind_ok goesOn
            split at checks
            · rename_i failed
              cases checks
              exact ⟨failed ▸ connError_code, rested_of_more stillMore⟩
            · split at checks
              · rename_i gaveUp
                cases checks
                exact ⟨gaveUp ▸ connError_code, rested_of_more stillMore⟩
              · exact inductionHypothesis stillMore checks

theorem httpGetResponseBody_ends {data : List UInt8} {dataLen : Nat} {result : Int × HttpClientData × ν}
    (gets : httpGetResponseBody transport turns data dataLen timeoutMs clientData s = .ok result) :
    ReceiveEnds result.1 result.2.1 := by
  rw [httpGetResponseBody] at gets
  dsimp only at gets
  split at gets
  · cases gets
    exact ⟨connError_code, rested_of_more rfl⟩
  · exact responseBodyLoop_ends rfl gets

theorem headerLoop_code {data : List UInt8} {len : Nat} {result : Int × Nat × List UInt8 × Nat × ν}
    (loops : headerLoop transport turns data len s = .ok result) : result.1 ∈ receiveCodes := by
  induction turns generalizing data len s with
  | zero => cases loops
  | succ turns inductionHypothesis =>
      rw [headerLoop] at loops
      obtain ⟨text, _, searches⟩ := bind_ok loops
      split at searches
      · cases searches
        exact success_code
      · rcases recv : httpRecv transport httpClientReadHeadSize s with ⟨ret, readLen, bytes, s'⟩
        rw [recv] at searches
        obtain ⟨data', _, reads⟩ := bind_ok searches
        split at reads
        · rename_i failed
          cases reads
          exact failed ▸ connError_code
        · obtain ⟨data'', _, again⟩ := bind_ok reads
          exact inductionHypothesis again

theorem parseContent_ends {bodyEnd len : Nat} {data : List UInt8} {result : Int × HttpClientData × ν}
    (isMore : clientData.isMore = true)
    (parses : parseContent transport turns bodyEnd data len timeoutMs clientData s = .ok result) :
    ReceiveEnds result.1 result.2.1 := by
  rw [parseContent] at parses
  obtain ⟨text, _, searches⟩ := bind_ok parses
  split at searches
  · cases searches
    exact ⟨connError_code, rested_of_more isMore⟩
  · obtain ⟨number, _, moves⟩ := bind_ok searches
    obtain ⟨data', _, gets⟩ := bind_ok moves
    exact httpGetResponseBody_ends gets

theorem httpParseResponseHeader_ends {data : List UInt8} {len : Nat}
    {result : Int × HttpClient × HttpClientData × ν} (isMore : clientData.isMore = true)
    (parses : httpParseResponseHeader transport turns client data len timeoutMs clientData s = .ok result) :
    ReceiveEnds result.1 result.2.2.1 := by
  rw [httpParseResponseHeader] at parses
  obtain ⟨text, _, searches⟩ := bind_ok parses
  split at searches
  · cases searches
    exact ⟨unresolved_code, rested_of_more isMore⟩
  · obtain ⟨data₁, _, cut⟩ := bind_ok searches
    obtain ⟨status, _, moves⟩ := bind_ok cut
    obtain ⟨data₂, _, reads⟩ := bind_ok moves
    obtain ⟨⟨ret, bodyEnd, data₃, len', s'⟩, loops, goesOn⟩ := bind_ok reads
    dsimp only at goesOn
    split at goesOn
    · cases goesOn
      exact ⟨headerLoop_code loops, rested_of_more isMore⟩
    · obtain ⟨content, gets, ends⟩ := bind_ok goesOn
      have contentEnds := parseContent_ends (by exact isMore) gets
      cases ends
      exact contentEnds

theorem httpRecv_code (maxLen : Nat) (s : ν) : (httpRecv transport maxLen s).1 ∈ receiveCodes := by
  rw [httpRecv]
  dsimp only
  split
  · exact success_code
  · split
    · exact failure_code
    · exact connError_code

theorem httpClientRecvResponse_ends {result : Int × HttpClient × HttpClientData × ν}
    (rested : Rested clientData)
    (receives : httpClientRecvResponse transport turns client timeoutMs clientData s = .ok result) :
    ReceiveEnds result.1 result.2.2.1 := by
  rw [httpClientRecvResponse] at receives
  dsimp only at receives
  split at receives
  · cases receives
    exact ⟨connError_code, rested⟩
  · split at receives
    · obtain ⟨responseBuf, _, gets⟩ := bind_ok receives
      obtain ⟨content, isContent, ends⟩ := bind_ok gets
      have contentEnds := httpGetResponseBody_ends isContent
      cases ends
      exact contentEnds
    · have code := @httpRecv_code _ transport httpClientReadHeadSize s
      rcases recv : httpRecv transport httpClientReadHeadSize s with ⟨ret, readLen, bytes, s'⟩
      rw [recv] at receives code
      obtain ⟨buf, _, reads⟩ := bind_ok receives
      split at reads
      · cases reads
        exact ⟨code, rested_of_more rfl⟩
      · obtain ⟨buf', _, parses⟩ := bind_ok reads
        split at parses
        · exact httpParseResponseHeader_ends rfl parses
        · cases parses
          exact ⟨code, rested_of_more rfl⟩

/-- A call ends in one of the codes, or succeeds. -/
theorem httpClientRecvData_ends {rc : Int} {client' : HttpClient} {after : HttpClientData} {s' : ν}
    (rested : Rested clientData)
    (receives : httpClientRecvData transport turns client timeoutMs clientData s =
      .ok (rc, client', after, s')) : ReceiveEnds rc after ∧ rc ≤ 0 := by
  rw [httpClientRecvData] at receives
  split at receives
  · obtain ⟨⟨rc', client₁, after₁, s₁⟩, isResponse, ends⟩ := bind_ok receives
    have responseEnds := httpClientRecvResponse_ends rested isResponse
    dsimp only at ends
    split at ends
    · rename_i negative
      cases ends
      exact ⟨responseEnds, Int.le_of_lt negative⟩
    · cases ends
      exact ⟨⟨success_code, responseEnds.rested⟩, Int.le_refl 0⟩
  · cases receives
    exact ⟨⟨success_code, rested⟩, Int.le_refl 0⟩

/-- A client that is new is at rest, and one that has fetched. -/
theorem ofcInit_rested {url : List UInt8} {ofc : OtaHttpClient} {s' : ν}
    (inits : ofcInit platform url s = (some ofc, s')) : Rested ofc.httpData := by
  rw [ofcInit] at inits
  dsimp only at inits
  split at inits
  · cases inits
    exact fun _ => rfl
  · cases inits

theorem ofcFetch_rested {ofc ofc' : OtaHttpClient} {sizeFetched rangeLen timeoutS : UInt32}
    {buf buf' : List UInt8} {rc : Int} {s' : ν} (rested : Rested ofc.httpData)
    (fetches : ofcFetch platform turns ofc sizeFetched buf rangeLen timeoutS s = .ok (rc, ofc', buf', s')) :
    Rested ofc'.httpData := by
  rw [ofcFetch] at fetches
  obtain ⟨⟨sent, s₁⟩, _, receives⟩ := bind_ok fetches
  dsimp only at receives
  split at receives
  · cases receives
    exact rested
  · obtain ⟨⟨code, client', after, s₂⟩, received, result⟩ := bind_ok receives
    obtain ⟨ends, _⟩ := httpClientRecvData_ends (by exact rested) received
    dsimp only at result
    split_ifs at result <;> cases result <;> exact ends.rested

/-! ## Content -/

/-- A response with content for a buffer with some room: it has the line of its status in the first
read, its header in the buffer of the client, a length where that is looked for, and as much behind the
header as the length says or as there is room for. -/
def BringsContent (network : PromptConnection transport) (room : Nat) (s : ν) : Prop :=
  ∃ (frame : HeaderFrame) (body : List UInt8) (n : Nat), network.pending s = frame.bytes ++ body ∧
    frame.status.length + 2 ≤ (transport.read s httpClientReadHeadSize).1.toNat ∧
    frame.behind.length + frame.ahead transport s < httpClientReadBufSize ∧
    LengthFound (frame.buffer (firstBuffer network s) (frame.behind ++ body.take (frame.ahead transport s)))
      n ∧ 0 < min n room ∧ min n room ≤ body.length

variable {network : PromptConnection platform.toTransport} {s₁ : ν} {ofc : OtaHttpClient}
  {sizeFetched rangeLen timeoutS : UInt32} {buf : List UInt8}

/-- What a call that reads a header has counted when it succeeds. -/
theorem httpClientRecvData_counts {client' : HttpClient} {after : HttpClientData} {s' : ν}
    {responseBuf : List UInt8} {network : PromptConnection transport} (connected : client.net.handle ≠ .zero)
    (fresh : clientData.isMore = false) (hasBuffer : HasBuffer clientData responseBuf)
    (inTime : (network.pending s).length < turns)
    (receives : httpClientRecvData transport turns client timeoutMs clientData s =
      .ok (successRet, client', after, s')) :
    after.responseContentLen - after.retrieveLen =
        clientData.responseContentLen - clientData.retrieveLen ∨
      after.responseContentLen - after.retrieveLen = 0 ∨
      0 < after.responseContentLen - after.retrieveLen ∧
        BringsContent network (responseBuf.length - 1) s := by
  rw [httpClientRecvData] at receives
  split at receives
  · rename_i hasRoom
    have notEmpty : responseBuf ≠ [] := by
      rintro rfl
      exact hasRoom.2 hasBuffer.2
    obtain ⟨⟨rc, client₁, after₁, s₁⟩, isResponse, ends⟩ := bind_ok receives
    dsimp only at ends
    split at ends
    · rename_i negative
      cases ends
      exact absurd negative (by decide)
    · rename_i success
      cases ends
      obtain ⟨frame, body, isBytes⟩ :=
        frame_of_response network connected fresh isResponse (Int.not_lt.mp success)
      have lengths := congrArg List.length isBytes
      rw [List.length_append] at lengths
      obtain ⟨come, inBuffer, i, number, n, named, isNumber, isValue, enough, announced, left⟩ :=
        httpClientRecvResponse_needs network frame connected fresh hasBuffer notEmpty isBytes (by omega)
          isResponse (Int.not_lt.mp success)
      rw [announced, left]
      by_cases none : min n (responseBuf.length - 1) = 0
      · right; left
        omega
      · refine .inr (.inr ⟨by omega, frame, body, n, isBytes, come, inBuffer, ⟨i, ?_, ?_⟩, by omega, enough⟩)
        · rw [HeaderFrame.buffer, visible_filled]
          exact named
        · rw [cStringAt] at isNumber
          split at isNumber
          · cases isNumber
            exact isValue
          · cases isNumber
  · cases receives
    exact .inl rfl

/-- A fetch for which a response has come in full returns a code of the client, or what it has
counted. -/
theorem ofcFetch_result (fresh : ofc.httpData.isMore = false) (none : ofc.httpData.retrieveLen = 0)
    (connected : ofc.http.net.handle ≠ .zero)
    (sent : httpSendRequest platform.toTransport ofc.http ofc.url .get sizeFetched rangeLen ofc.httpData s =
      .ok (successRet, s₁)) (inTime : (network.pending s₁).length < turns) {rc : Int} {ofc' : OtaHttpClient}
    {buf' : List UInt8} {s' : ν}
    (fetches : ofcFetch platform turns ofc sizeFetched buf rangeLen timeoutS s = .ok (rc, ofc', buf', s')) :
    rc ∈ receiveCodes ∧ rc ≤ 0 ∨ 0 < rc ∧ BringsContent network (buf.length - 1) s₁ := by
  rw [ofcFetch, sent] at fetches
  dsimp only [bind, Except.bind] at fetches
  rw [if_neg (not_not.mpr rfl)] at fetches
  split at fetches
  · cases fetches
  · rename_i result receives
    obtain ⟨code, client', after, s''⟩ := result
    obtain ⟨⟨isCode, _⟩, notPositive⟩ := httpClientRecvData_ends (by exact fun _ => none) receives
    dsimp only at fetches
    by_cases failed : code ≠ successRet
    · have notFound : code ≠ errHttpNotFound := by
        rintro rfl
        exact absurd isCode (by decide)
      have noAuth : code ≠ errHttpAuthError := by
        rintro rfl
        exact absurd isCode (by decide)
      have noTimeout : code ≠ errHttpTimeout := by
        rintro rfl
        exact absurd isCode (by decide)
      rw [if_pos failed, if_neg notFound, if_neg noAuth, if_neg noTimeout] at fetches
      cases fetches
      exact .inl ⟨isCode, notPositive⟩
    · have success := not_not.mp failed
      subst success
      rw [if_neg failed] at fetches
      cases fetches
      have counts := @httpClientRecvData_counts _ platform.toTransport turns _ _ { ofc.httpData with
          responseBuf := some buf
          responseBufLen := buf.length
          responseContentLen := 0
          responseReceivedLen := 0 } s₁ _ _ _ buf network connected fresh ⟨rfl, rfl⟩ inTime receives
      dsimp only at counts
      rw [none] at counts
      obtain same | isZero | ⟨positive, content⟩ := counts
      · left
        rw [same, none]
        exact ⟨success_code, Int.le_refl 0⟩
      · left
        rw [isZero, none]
        exact ⟨success_code, Int.le_refl 0⟩
      · right
        rw [none]
        exact ⟨by omega, content⟩

/-- A fetch counts the content of a response. -/
theorem ofcFetch_counts (fresh : ofc.httpData.isMore = false) (none : ofc.httpData.retrieveLen = 0)
    (connected : ofc.http.net.handle ≠ .zero)
    (sent : httpSendRequest platform.toTransport ofc.http ofc.url .get sizeFetched rangeLen ofc.httpData s =
      .ok (successRet, s₁)) (content : BringsContent network (buf.length - 1) s₁) :
    ∃ least, ∀ turns, least < turns → ∃ rc ofc' buf' s',
      ofcFetch platform turns ofc sizeFetched buf rangeLen timeoutS s = .ok (rc, ofc', buf', s') ∧
        0 < rc := by
  obtain ⟨frame, body, n, isBytes, come, inBuffer, ⟨i, named, isNumber⟩, positive, enough⟩ := content
  rw [HeaderFrame.buffer, visible_filled] at named
  refine ⟨frame.bytes.length + n + 1, fun turns inTime => ?_⟩
  have bufSize : httpClientReadBufSize = 1024 := rfl
  have fits : (frame.behind ++ body.take (frame.ahead platform.toTransport s₁)).length <
      httpClientReadBufSize := by
    rw [List.length_append]
    have short := List.length_take_le (frame.ahead platform.toTransport s₁) body
    omega
  -- The number is in the buffer, for nothing would be zero.
  have within : i + 16 < httpClientReadBufSize := by
    by_contra outside
    have length := firstBuffer_length network frame come fits
    rw [List.drop_of_length_le (by omega)] at isNumber
    have isZero : (0 : Int) = n := isNumber
    omega
  have number := firstBuffer_cString network frame come fits within
  obtain ⟨code, buf', s', -, -, receives⟩ := @httpClientRecvResponse_content _ _ network s₁ turns ofc.http
    (timeoutS * 1000) { ofc.httpData with
      responseBuf := some buf
      responseBufLen := buf.length
      responseContentLen := 0
      responseReceivedLen := 0 } buf frame body _ i n connected fresh ⟨rfl, rfl⟩ (by omega) isBytes come
    inBuffer named number isNumber enough inTime
  have hasRoom : (some buf).isSome ∧ (buf.length : Int) ≠ 0 := ⟨rfl, by omega⟩
  have notNegative := moved_code (buf.length - 1) n
  have count : (n : Int) - (n - (buf.length - 1) : Nat) - (0 - 0) = (min n (buf.length - 1) : Nat) := by
    omega
  refine ⟨(min n (buf.length - 1) : Nat), { ofc with
      http := { ofc.http with responseCode := code }
      httpData := (HttpClientData.announce { ofc.httpData with
        responseBuf := some buf
        responseBufLen := buf.length
        responseContentLen := 0
        responseReceivedLen := 0 } n (frame.ahead platform.toTransport s₁)).fill (buf.length - 1) n buf' },
    buf', s', ?_, by omega⟩
  rw [ofcFetch, sent]
  dsimp only [bind, Except.bind]
  rw [if_neg (not_not.mpr rfl), httpClientRecvData, if_pos hasRoom, receives]
  dsimp only [bind, Except.bind]
  rw [if_neg (Int.not_lt.mpr notNegative)]
  dsimp only [pure, Except.pure]
  rw [if_neg (not_not.mpr rfl), none]
  exact congrArg (fun n => Except.ok (n, _)) count

/-! ## Following the status -/

theorem sent_connected (sent : httpSendRequest platform.toTransport ofc.http ofc.url .get sizeFetched rangeLen
    ofc.httpData s = .ok (successRet, s₁)) : ofc.http.net.handle ≠ .zero := by
  intro closed
  rw [httpSendRequest, if_pos closed] at sent
  cases sent

/-- No fetch has a code for a refusal. -/
theorem FollowsStatus.not_refusal {status : Option Nat} (fresh : ofc.httpData.isMore = false)
    (none : ofc.httpData.retrieveLen = 0)
    (sent : httpSendRequest platform.toTransport ofc.http ofc.url .get sizeFetched rangeLen ofc.httpData s =
      .ok (successRet, s₁)) (network : PromptConnection platform.toTransport)
    (follows : FollowsStatus platform ofc sizeFetched buf rangeLen timeoutS s status) :
    ¬IsRefusal status := by
  obtain ⟨least, within⟩ := follows
  have follows := within (least + (network.pending s₁).length + 1) (by omega)
  have result := @ofcFetch_result _ platform (least + (network.pending s₁).length + 1) s network s₁ ofc
    sizeFetched rangeLen timeoutS buf fresh none (sent_connected sent) sent (by omega)
  rintro (missing | denied)
  · obtain ⟨ofc', buf', s', fetches⟩ := follows.missing missing
    rcases result fetches with ⟨code, _⟩ | ⟨positive, _⟩
    · exact absurd code (by decide)
    · exact absurd positive (by decide)
  · obtain ⟨ofc', buf', s', fetches⟩ := follows.denied denied
    rcases result fetches with ⟨code, _⟩ | ⟨positive, _⟩
    · exact absurd code (by decide)
    · exact absurd positive (by decide)

/-- A fetch follows the status of its response just where that is a success, or where it is no refusal
and the response has no content. -/
theorem followsStatus_iff (platform : Platform ν) (network : PromptConnection platform.toTransport)
    (ofc : OtaHttpClient) (sizeFetched rangeLen timeoutS : UInt32) (buf : List UInt8) (s s₁ : ν)
    (rested : Rested ofc.httpData) (fresh : ofc.httpData.isMore = false)
    (sent : httpSendRequest platform.toTransport ofc.http ofc.url .get sizeFetched rangeLen ofc.httpData s =
      .ok (successRet, s₁)) :
    FollowsStatus platform ofc sizeFetched buf rangeLen timeoutS s (statusOf (network.pending s₁)) ↔
      IsSuccess (statusOf (network.pending s₁)) ∨
        ¬IsRefusal (statusOf (network.pending s₁)) ∧ ¬BringsContent network (buf.length - 1) s₁ := by
  have connected := sent_connected sent
  have none := rested fresh
  constructor
  · intro follows
    by_cases success : IsSuccess (statusOf (network.pending s₁))
    · exact .inl success
    · refine .inr ⟨follows.not_refusal fresh none sent network, fun content => ?_⟩
      obtain ⟨least, counts⟩ :=
        @ofcFetch_counts _ _ s network s₁ ofc _ _ timeoutS _ fresh none connected sent content
      obtain ⟨least', within⟩ := follows
      obtain ⟨rc, ofc', buf', s', fetches, positive⟩ := counts (least + least' + 1) (by omega)
      exact success ((within (least + least' + 1) (by omega)).counts rc ofc' buf' s' fetches positive)
  · rintro (success | ⟨notRefused, nothing⟩)
    · have notRefused := success.not_refusal
      exact ⟨0, fun turns _ => ⟨fun _ _ _ _ _ _ => success, fun missing => absurd (.inl missing) notRefused,
        fun denied => absurd (.inr denied) notRefused⟩⟩
    · refine ⟨(network.pending s₁).length, fun turns inTime => ⟨?_, fun missing => absurd (.inl missing)
        notRefused, fun denied => absurd (.inr denied) notRefused⟩⟩
      intro rc ofc' buf' s' fetches positive
      rcases ofcFetch_result fresh none connected sent inTime fetches with ⟨_, notPositive⟩ | ⟨_, content⟩
      · exact absurd positive (Int.not_lt.mpr notPositive)
      · exact absurd content nothing

/-! ### The page of an error -/

def scriptedConnection : PromptConnection scripted.toTransport where
  pending := Script.incoming
  delivers s n _ := ⟨List.length_take_le _ _, rfl, (List.take_append_drop n s.incoming).symm⟩
  waits s n nothing := by
    have none : s.incoming.take n = [] := List.length_eq_zero_iff.mp (Int.natCast_eq_zero.mp nothing)
    have whole := List.take_append_drop n s.incoming
    rwa [none, List.nil_append] at whole
  tick _ := rfl
  prompt s n more positive := by
    have length := List.length_pos_iff.mpr more
    change (0 : Int) < ((s.incoming.take n).length : Nat)
    rw [List.length_take]
    omega

/-- A client with a connection to the host of a file. -/
def pageClient : OtaHttpClient where
  url := literal "http://host/app.bin"
  http :=
    { net := { hostAddress := literal "host", port := 80, handle := .connection }
      responseCode := 0
      header := some acceptHeader }
  httpData :=
    { isMore := false, isChunked := false, retrieveLen := 0, responseContentLen := 0
      responseReceivedLen := 0, postBufLen := 0, responseBufLen := 0
      postContentType := none, postBuf := none, responseBuf := none }

/-- A handle in the middle of the download of a file of 10 bytes. -/
def pageOta : OtaStruct :=
  { otaInit (literal "product") (literal "device") with
    state := .fetching
    params := { noParams with sizeFile := 10 }
    chFetch := .live pageClient }

def notFoundPage : List UInt8 :=
  literal "HTTP/1.1 404 Not Found\r\nContent-Length: 9\r\n\r\nnot found"

theorem followsStatus_page : FollowsStatus scripted pageClient 0 (List.replicate 16 0) 4 5
    ⟨[], [okResponse "5" "hello"]⟩ (statusOf (okResponse "5" "hello")) :=
  (followsStatus_iff scripted scriptedConnection pageClient 0 4 5 (List.replicate 16 0)
    ⟨[], [okResponse "5" "hello"]⟩ ⟨okResponse "5" "hello", []⟩ (fun _ => rfl) rfl (by decide +kernel)).mpr
    (.inl ⟨200, by decide, by decide, by decide⟩)

/-- The page is counted, and taken for what the file begins with. -/
theorem not_followsStatus_page :
    ¬FollowsStatus scripted pageClient 0 (List.replicate 16 0) 4 5 ⟨[], [notFoundPage]⟩
        (statusOf notFoundPage) ∧
      ∃ after buf s', iotOtaFetchYield scripted 50 pageOta (List.replicate 16 0) 4 5 ⟨[], [notFoundPage]⟩ =
          .ok (9, after, buf, s') ∧ after.sizeFetched = 9 ∧ buf.take 9 = literal "not found" ∧
        after.md5 = some (utilsMd5Update utilsMd5Starts (literal "not found")) := by
  constructor
  · intro follows
    have sent : httpSendRequest scripted.toTransport pageClient.http pageClient.url .get 0 4
        pageClient.httpData ⟨[], [notFoundPage]⟩ = .ok (successRet, ⟨notFoundPage, []⟩) := by
      decide +kernel
    exact follows.not_refusal rfl rfl sent scriptedConnection (.inl (by decide))
  · have counted : (iotOtaFetchYield scripted 50 pageOta (List.replicate 16 0) 4 5 ⟨[], [notFoundPage]⟩).map
        (fun result => (result.1, result.2.1.sizeFetched, result.2.2.1.take 9, result.2.1.md5)) =
          .ok (9, 9, literal "not found", some (utilsMd5Update utilsMd5Starts (literal "not found"))) := by
      decide +kernel
    cases fetches : iotOtaFetchYield scripted 50 pageOta (List.replicate 16 0) 4 5 ⟨[], [notFoundPage]⟩ with
    | error fault =>
        rw [fetches] at counted
        cases counted
    | ok result =>
        rw [fetches] at counted
        obtain ⟨rc, after, buf, s'⟩ := result
        have parts := Except.ok.inj counted
        simp only [Prod.mk.injEq] at parts
        obtain ⟨rfl, isSize, isPage, isHashed⟩ := parts
        exact ⟨after, buf, s', rfl, isSize, isPage, isHashed⟩

end UIoT.Ota
