import UIoT.Ota.Ranges
import UIoT.Utils.Prompt

/-!
# A server that never fails

The server answers every request for a range of the file, behind what it has sent and is not
read, and its reads deliver something as long as something is there. Then `ofc_fetch` and
`IOT_OTA_FetchYield` return, and what they return is what is next in the response that the
client reads, whichever request that response belongs to (`ofcFetch_first`, `ofcFetch_next`,
`iotOtaFetchYield_fetches`).
-/

set_option autoImplicit false

namespace UIoT.Ota

open FirstMatch Json Utils

variable {ν : Type} {platform : Platform ν}

/-! ## The server -/

/-- A server of a file that never fails. -/
structure ReliableServer (platform : Platform ν) (file : List UInt8) extends
    FileServer platform file where
  prompt : ∀ s n, pending s ≠ [] → 0 < n → 0 < (platform.read s n).1
  replies : ∀ s request first last, rangeOf request = some (first, last) → first < file.length →
    0 < (platform.write s request).1 ∧ ∃ head : Head (slice file first last).length,
      pending (platform.write s request).2 = pending s ++ (head.bytes ++ slice file first last)

variable {file url : List UInt8}

def ReliableServer.network (server : ReliableServer platform file) :
    PromptConnection platform.toTransport :=
  { server.toConnection with prompt := server.prompt }

/-- The requests for the ranges of a file of some size at a URL are sent, and name them. -/
def AsksRanges (url : List UInt8) (size : Nat) (rangeLen : UInt32) : Prop :=
  ∃ host path, utilsParseUrl url = .ok (successRet, host, path) ∧ ∀ first < size,
    rangeOf (requestText host path (UInt32.ofNat first) rangeLen) =
      some (first, first + rangeLen.toNat)

/-- A client with a connection. -/
structure Linked (url : List UInt8) (ofc : OtaHttpClient) : Prop where
  url : ofc.url = url
  connected : ofc.http.net.handle ≠ .zero
  header : ofc.http.header = some acceptHeader
  noPost : ofc.httpData.postBuf = none

variable {server : ReliableServer platform file} {s s₁ : ν} {ofc : OtaHttpClient}
  {sizeFetched rangeLen timeoutS : UInt32} {turns : Nat} {buf : List UInt8}

theorem httpSendRequest_ok {transport : Transport ν} {client : HttpClient}
    {clientData : HttpClientData} {host path : List UInt8} (connected : client.net.handle ≠ .zero)
    (isHeader : client.header = some acceptHeader) (noPost : clientData.postBuf = none)
    (parsed : utilsParseUrl url = .ok (successRet, host, path))
    (positive : 0 < (transport.write s (requestText host path sizeFetched rangeLen)).1) :
    httpSendRequest transport client url .get sizeFetched rangeLen clientData s =
      .ok (successRet, (transport.write s (requestText host path sizeFetched rangeLen)).2) := by
  have header := @httpSendHeader_eq _ s transport client clientData host path sizeFetched rangeLen
    isHeader noPost
  dsimp only at header
  rw [if_neg (Int.not_le.mpr positive)] at header
  rw [httpSendRequest, if_neg connected, parsed]
  dsimp only [bind, Except.bind]
  rw [if_neg (not_not.mpr rfl), header]
  rfl

theorem slice_eq (file : List UInt8) (first rangeLen : Nat) :
    slice file first (first + rangeLen) = (file.drop first).take (rangeLen + 1) := by
  have last : first + rangeLen + 1 - first = rangeLen + 1 := by omega
  rw [slice, last]

/-- The request is answered with one byte more than it is meant for. -/
theorem ReliableServer.sends (server : ReliableServer platform file)
    (asks : AsksRanges url file.length rangeLen) (linked : Linked url ofc)
    (inFile : sizeFetched.toNat < file.length) :
    ∃ s₁, httpSendRequest platform.toTransport ofc.http ofc.url .get sizeFetched rangeLen ofc.httpData s =
        .ok (successRet, s₁) ∧
      ∃ piece, piece = (file.drop sizeFetched.toNat).take (rangeLen.toNat + 1) ∧
        ∃ head : Head piece.length, server.pending s₁ = server.pending s ++ (head.bytes ++ piece) := by
  obtain ⟨host, path, parsed, named⟩ := asks
  have range := named sizeFetched.toNat inFile
  rw [UInt32.ofNat_toNat] at range
  obtain ⟨positive, head, isAnswer⟩ := server.replies s _ _ _ range inFile
  refine ⟨_, ?_, _, slice_eq file _ _, head, isAnswer⟩
  rw [linked.url]
  exact httpSendRequest_ok linked.connected linked.header linked.noPost parsed positive

/-! ## The fetch channel -/

/-- A fetch into a buffer with room for `room` of the `rem` bytes that are left of a response. -/
structure Delivered (server : ReliableServer platform file) (url stream : List UInt8)
    (ahead room rem : Nat) (ofc : OtaHttpClient) (buf : List UInt8) (s : ν) : Prop where
  linked : Linked url ofc
  isMore : ofc.httpData.isMore = decide (room ≤ rem)
  left : ofc.httpData.retrieveLen = (rem - room : Nat)
  length : buf.length = room + 1
  bytes : buf.take (min rem room) = stream.take (min rem room)
  pending : server.pending s = stream.drop (max (min rem room) ahead)

variable {room rem : Nat} {rest : List UInt8}

/-- A fetch that reads a header delivers what is first in the response. -/
theorem ofcFetch_first (linked : Linked url ofc) (fresh : ofc.httpData.isMore = false)
    (none : ofc.httpData.retrieveLen = 0) (isRoom : buf.length = room + 1) (hasRoom : 0 < room)
    (sent : httpSendRequest platform.toTransport ofc.http ofc.url .get sizeFetched rangeLen ofc.httpData s =
      .ok (successRet, s₁)) (head : Head rem) (isBytes : server.pending s₁ = head.bytes ++ rest)
    (enough : rem ≤ rest.length)
    (come : head.status.length + 2 ≤ (platform.read s₁ httpClientReadHeadSize).1.toNat)
    (inTime : head.bytes.length + rem + 1 < turns) :
    ∃ ofc' buf' s', head.ahead platform.toTransport s₁ ≤ rest.length ∧
      Delivered server url rest (head.ahead platform.toTransport s₁) room rem ofc' buf' s' ∧
      ofcFetch platform turns ofc sizeFetched buf rangeLen timeoutS s =
        .ok ((min rem room : Nat), ofc', buf', s') := by
  obtain ⟨client', buf', s', sameNet, sameHeader, short, moved, receives⟩ := @httpClientRecvData_first _ _
    server.network s₁ turns ofc.http (timeoutS * 1000)
    { ofc.httpData with
      responseBuf := some buf
      responseBufLen := buf.length
      responseContentLen := 0
      responseReceivedLen := 0 }
    buf rest room rem head linked.connected ⟨rfl, rfl⟩ isRoom hasRoom fresh isBytes enough come inTime
  have front := moved.front
  rw [Nat.zero_add, List.take_zero, List.nil_append] at front
  refine ⟨{ ofc with
      http := client'
      httpData := (HttpClientData.announce { ofc.httpData with
        responseBuf := some buf
        responseBufLen := buf.length
        responseContentLen := 0
        responseReceivedLen := 0 } rem (head.ahead platform.toTransport s₁)).fill room rem buf' },
    buf', s', short, ⟨⟨linked.url, ?_, sameHeader.trans linked.header, linked.noPost⟩, rfl, rfl,
      moved.length.trans isRoom, front, moved.pending⟩, ?_⟩
  · dsimp only
    rw [sameNet]
    exact linked.connected
  · have count : (rem : Int) - (rem - room : Nat) - (0 - 0) = (min rem room : Nat) := by omega
    rw [ofcFetch, sent]
    dsimp only [bind, Except.bind]
    rw [if_neg (not_not.mpr rfl), receives]
    dsimp only
    rw [if_neg (not_not.mpr rfl), none]
    exact congrArg (fun n => Except.ok (n, _)) count

/-- A fetch for more delivers what is next in the response. -/
theorem ofcFetch_next (linked : Linked url ofc) (isMore : ofc.httpData.isMore = true)
    (left : ofc.httpData.retrieveLen = rem) (isRoom : buf.length = room + 1) (hasRoom : 0 < room)
    (sent : httpSendRequest platform.toTransport ofc.http ofc.url .get sizeFetched rangeLen ofc.httpData s =
      .ok (successRet, s₁)) (enough : rem ≤ (server.pending s₁).length) (inTime : rem + 1 < turns) :
    ∃ ofc' buf' s', Delivered server url (server.pending s₁) 0 room rem ofc' buf' s' ∧
      ofcFetch platform turns ofc sizeFetched buf rangeLen timeoutS s =
        .ok ((min rem room : Nat), ofc', buf', s') := by
  have unknown : (0 : Int) ≠ -1 := by decide
  obtain ⟨buf', s', moved, receives⟩ := @httpClientRecvData_next _ _
    server.network s₁ turns ofc.http (timeoutS * 1000)
    { ofc.httpData with
      responseBuf := some buf
      responseBufLen := buf.length
      responseContentLen := 0
      responseReceivedLen := 0 }
    buf room rem linked.connected ⟨rfl, rfl⟩ isRoom hasRoom isMore left unknown enough inTime
  have front := moved.front
  rw [Nat.zero_add, List.take_zero, List.nil_append] at front
  refine ⟨{ ofc with
      httpData := HttpClientData.fill { ofc.httpData with
        responseBuf := some buf
        responseBufLen := buf.length
        responseContentLen := 0
        responseReceivedLen := 0 } room rem buf' },
    buf', s', ⟨⟨linked.url, linked.connected, linked.header, linked.noPost⟩, rfl, rfl,
      moved.length.trans isRoom, front, moved.pending⟩, ?_⟩
  have count : (0 : Int) - (rem - room : Nat) - (0 - rem) = (min rem room : Nat) := by omega
  rw [ofcFetch, sent]
  dsimp only [bind, Except.bind]
  rw [if_neg (not_not.mpr rfl), receives]
  dsimp only
  rw [if_neg (not_not.mpr rfl), left]
  exact congrArg (fun n => Except.ok (n, _)) count

/-- Where the first read does not bring the line of the status, the fetch fails. -/
theorem ofcFetch_cut {n : Int} (linked : Linked url ofc) (fresh : ofc.httpData.isMore = false)
    (notEmpty : buf ≠ [])
    (sent : httpSendRequest platform.toTransport ofc.http ofc.url .get sizeFetched rangeLen ofc.httpData s =
      .ok (successRet, s₁)) (head : Head n) (isBytes : server.pending s₁ = head.bytes ++ rest)
    (cut : (platform.read s₁ httpClientReadHeadSize).1.toNat < head.status.length + 2) :
    ∃ ofc' buf' s', ofc'.http.net.handle = .zero ∧
      ofcFetch platform turns ofc sizeFetched buf rangeLen timeoutS s =
        .ok (errHttpUnresolvedDns, ofc', buf', s') := by
  obtain ⟨client', clientData', s', closed, receives⟩ := @httpClientRecvData_cut _ _
    server.network s₁ n turns ofc.http (timeoutS * 1000)
    { ofc.httpData with
      responseBuf := some buf
      responseBufLen := buf.length
      responseContentLen := 0
      responseReceivedLen := 0 }
    buf rest head linked.connected ⟨rfl, rfl⟩ notEmpty fresh isBytes cut
  refine ⟨{ ofc with http := client', httpData := clientData' }, clientData'.responseBuf.getD [], s',
    closed, ?_⟩
  rw [ofcFetch, sent]
  dsimp only [bind, Except.bind]
  rw [if_neg (not_not.mpr rfl), receives]
  dsimp only
  rw [if_pos (by decide), if_neg (by decide), if_neg (by decide), if_neg (by decide)]
  rfl

/-- Without a connection a fetch fails. -/
theorem ofcFetch_closed (closed : ofc.http.net.handle = .zero) :
    ofcFetch platform turns ofc sizeFetched buf rangeLen timeoutS s = .ok (-1, ofc, buf, s) := by
  rw [ofcFetch, httpSendRequest, if_pos closed]
  rfl

/-! ## Fetching -/

variable {ota : OtaStruct}

/-- An attempt that succeeds is the last one. -/
theorem fetchAttempts_succeeds {left : Nat} {ret ret' : Int} {ofc' : OtaHttpClient} {buf' : List UInt8}
    {s' : ν} (isClient : ota.chFetch = .live ofc) (notNegative : 0 ≤ ret')
    (fetched : ofcFetch platform turns ofc ota.sizeFetched buf rangeLen timeoutS s =
      .ok (ret', ofc', buf', s')) :
    fetchAttempts platform turns rangeLen timeoutS (left + 1) ret ota buf s =
      .ok (ret', (reportFirst platform { ota with chFetch := .live ofc' } s').1, buf',
        (reportFirst platform { ota with chFetch := .live ofc' } s').2) := by
  have notLost : ¬(ret' = errHttpConnError ∧ ota.state ≠ .disconnected) := by
    rintro ⟨lost, _⟩
    rw [lost] at notNegative
    exact absurd notNegative (by decide)
  rw [fetchAttempts, isClient]
  dsimp only [FetchChannel.ofc, bind, Except.bind, pure, Except.pure]
  rw [fetched]
  dsimp only
  rw [if_neg notLost, if_neg (Int.not_lt.mpr notNegative)]

/-- The attempts without a connection fail. -/
theorem fetchAttempts_closed :
    ∀ {left : Nat} {ret : Int} {ota : OtaStruct} {ofc : OtaHttpClient} {s : ν},
      ota.chFetch = .live ofc → ofc.http.net.handle = .zero → ota.state = .fetched → ret < 0 →
      ∃ ret' after s', fetchAttempts platform turns rangeLen timeoutS left ret ota buf s =
        .ok (ret', after, buf, s') ∧ ret' < 0 ∧ Kept ota after ∧ after.state = .fetched
  | 0, ret, ota, _, s, _, _, isFetched, negative => ⟨ret, ota, s, rfl, negative, .refl ota, isFetched⟩
  | left + 1, ret, ota, ofc, s, isClient, closed, isFetched, _ => by
      have again : { ota with chFetch := .live ofc } = ota := by rw [← isClient]
      obtain ⟨ret', after, s', attempts, negative, kept, isFetched'⟩ := @fetchAttempts_closed left (-1)
        (fetchFailed platform ota (-1) s).1 ofc (fetchFailed platform ota (-1) s).2
        ((fetchFailed_chFetch (-1)).trans isClient) closed (fetchFailed_state (-1)) (by decide)
      refine ⟨ret', after, s', ?_, negative, (fetchFailed_kept (-1)).trans kept, isFetched'⟩
      rw [fetchAttempts, isClient]
      dsimp only [FetchChannel.ofc, bind, Except.bind, pure, Except.pure]
      rw [ofcFetch_closed closed]
      dsimp only
      rw [if_neg fun lost => absurd lost.1 (by decide), if_pos (by decide), again]
      exact attempts

/-- A handle that has fetched so many bytes more. -/
structure Advanced (before : OtaStruct) (n : Nat) (ofc : OtaHttpClient) (after : OtaStruct) : Prop where
  chFetch : after.chFetch = .live ofc
  params : after.params = before.params
  sizeFetched : after.sizeFetched = before.sizeFetched + UInt32.ofNat n
  hashes : after.md5.isSome
  state : after.state =
    if 0 < n ∧ before.params.sizeFile ≤ before.sizeFetched + UInt32.ofNat n then .fetched else .fetching

/-- What a fetch delivers is accounted for. -/
theorem iotOtaFetchYield_fetches (server : FileServer platform file) {n : Nat} {ofc' : OtaHttpClient}
    {buf' : List UInt8} (isFetching : ota.state = .fetching) (notEmpty : buf ≠ [])
    (isClient : ota.chFetch = .live ofc) (hashes : ota.md5.isSome) (size : ota.params.sizeFile ≠ 0)
    (fits : n ≤ buf'.length)
    (fetched : ofcFetch platform turns ofc ota.sizeFetched buf rangeLen timeoutS s =
      .ok (n, ofc', buf', s₁)) :
    ∃ after s', iotOtaFetchYield platform turns ota buf rangeLen timeoutS s = .ok (n, after, buf', s') ∧
      Advanced ota n ofc' after ∧ server.pending s' = server.pending s₁ := by
  have attempts := @fetchAttempts_succeeds _ platform s ofc rangeLen timeoutS turns buf ota 4 0 n ofc' buf'
    s₁ isClient (Int.natCast_nonneg n) fetched
  have reported := @reportFirst_reported _ platform { ota with chFetch := .live ofc' } s₁
  have kept := @reportFirst_pending _ platform s₁ file server { ota with chFetch := .live ofc' }
  generalize reportFirst platform { ota with chFetch := .live ofc' } s₁ = result at attempts reported kept
  obtain ⟨middle, s₂⟩ := result
  have nonempty : buf.length ≠ 0 := Nat.ne_of_gt (List.length_pos_iff.mpr notEmpty)
  have yields : iotOtaFetchYield platform turns ota buf rangeLen timeoutS s =
      if 0 < (n : Int) then (accountFetched platform n middle buf' s₂).bind
        fun result => .ok ((n : Int), result.1, buf', result.2)
      else .ok ((n : Int), middle, buf', s₂) := by
    rw [iotOtaFetchYield, if_neg nonempty, if_neg (not_not.mpr isFetching), attempts]
    rfl
  rw [yields]
  by_cases positive : 0 < (n : Int)
  · rw [if_pos positive]
    obtain ⟨md5, isMd5⟩ := Option.isSome_iff_exists.mp hashes
    have accounts : ∃ result, accountFetched platform n middle buf' s₂ = .ok result := by
      rw [accountFetched, reported.md5, isMd5]
      dsimp only [used, bind, Except.bind, pure, Except.pure]
      rw [if_neg (by omega), if_neg]
      · exact ⟨_, rfl⟩
      · dsimp only [OtaStruct.addFetched]
        rw [reported.params]
        exact size
    obtain ⟨⟨after, s'⟩, accounted⟩ := accounts
    obtain ⟨took, state⟩ := accountFetched_ok positive accounted
    obtain ⟨_, _, isMd5'⟩ := took.md5
    rw [accounted]
    refine ⟨after, s', rfl, ⟨?_, took.params.trans reported.params, ?_, ?_, ?_⟩, ?_⟩
    · exact (accountFetched_chFetch accounted).trans reported.chFetch
    · rw [took.sizeFetched, reported.sizeFetched, Int.toNat_natCast]
    · rw [isMd5']
      rfl
    · rw [state, took.params, took.sizeFetched, reported.params, reported.sizeFetched, reported.state,
        Int.toNat_natCast, isFetching]
      have isPositive : 0 < n := by omega
      simp only [isPositive, true_and]
    · exact (accountFetched_pending accounted).trans kept
  · rw [if_neg positive]
    have isZero : n = 0 := by omega
    refine ⟨middle, s₂, rfl, ⟨reported.chFetch, reported.params, ?_, ?_, ?_⟩, kept⟩
    · rw [reported.sizeFetched, isZero]
      simp
    · rw [reported.md5]
      exact hashes
    · rw [reported.state, isFetching, if_neg]
      rw [isZero]
      exact fun positive => absurd positive.1 (Nat.lt_irrefl 0)

/-- A fetch that fails and closes the connection ends the fetching. -/
theorem iotOtaFetchYield_fails {ret : Int} {ofc' : OtaHttpClient} {buf' : List UInt8}
    (isFetching : ota.state = .fetching) (notEmpty : buf ≠ []) (isClient : ota.chFetch = .live ofc)
    (negative : ret < 0) (notLost : ret ≠ errHttpConnError) (closed : ofc'.http.net.handle = .zero)
    (fetched : ofcFetch platform turns ofc ota.sizeFetched buf rangeLen timeoutS s =
      .ok (ret, ofc', buf', s₁)) :
    ∃ ret' after s', iotOtaFetchYield platform turns ota buf rangeLen timeoutS s =
        .ok (ret', after, buf', s') ∧ ret' < 0 ∧ Kept ota after ∧ after.state = .fetched := by
  obtain ⟨ret', after, s', attempts, negative', kept, isFetched⟩ := @fetchAttempts_closed _ platform rangeLen
    timeoutS turns buf' 4 ret (fetchFailed platform { ota with chFetch := .live ofc' } ret s₁).1 ofc'
    (fetchFailed platform { ota with chFetch := .live ofc' } ret s₁).2 (fetchFailed_chFetch ret) closed
    (fetchFailed_state ret) negative
  have put : Kept ota { ota with chFetch := .live ofc' } := ⟨rfl, rfl, rfl, rfl⟩
  refine ⟨ret', after, s', ?_, negative', (put.trans (fetchFailed_kept ret)).trans kept, isFetched⟩
  have nonempty : buf.length ≠ 0 := Nat.ne_of_gt (List.length_pos_iff.mpr notEmpty)
  rw [iotOtaFetchYield, if_neg nonempty, if_neg (not_not.mpr isFetching), fetchAttempts, isClient]
  dsimp only [FetchChannel.ofc, bind, Except.bind, pure, Except.pure]
  rw [fetched]
  dsimp only
  rw [if_neg fun lost => notLost lost.1, if_pos negative, attempts]
  dsimp only
  rw [if_neg (by omega)]

end UIoT.Ota
