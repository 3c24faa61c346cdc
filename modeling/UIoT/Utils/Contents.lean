import UIoT.Utils.Stalls

/-!
# Contents of responses

Behind the line of its status, which is to come with the first read, a response is read up to the blank
line that ends its header. The number behind the first `Content-Length` is taken for the length of the
content, which is then moved into the buffer of the caller. A call that reads a header and succeeds has
found all that there (`httpClientRecvResponse_needs`), and where it is there a call succeeds
(`httpClientRecvResponse_content`).
-/

set_option autoImplicit false

namespace UIoT.Utils

open FirstMatch Json

variable {ν : Type} {transport : Transport ν} (network : PromptConnection transport) {s : ν}
  {turns : Nat} {client : HttpClient} {timeoutMs : UInt32} {clientData : HttpClientData}
  {responseBuf rest : List UInt8}

/-! ## Reading the header -/

/-- How many bytes behind a header come with its last read. -/
def HeaderFrame.ahead (frame : HeaderFrame) (transport : Transport ν) (s : ν) : Nat :=
  readAhead transport frame.bytes.length frame.bytes.length 0 s

/-- What the first read leaves in the buffer. -/
def firstBuffer (network : PromptConnection transport) (s : ν) : List UInt8 :=
  headBuffer ((network.pending s).take (transport.read s httpClientReadHeadSize).1.toNat)

/-- Behind the line of the status, which the first read brings, a response is read up to the end of its
head, and then the length of the content is looked for. -/
theorem httpClientRecvResponse_frame (frame : HeaderFrame) {ahead : Nat}
    (connected : client.net.handle ≠ .zero) (fresh : clientData.isMore = false)
    (isBytes : network.pending s = frame.bytes ++ rest)
    (come : frame.status.length + 2 ≤ (transport.read s httpClientReadHeadSize).1.toNat)
    (inTime : frame.bytes.length < turns)
    (isAhead : frame.ahead transport s = ahead) :
    ∃ code, (9 ≤ frame.status.length → code = atoi (frame.status.drop 9)) ∧
      ((frame.behind.length + ahead < httpClientReadBufSize ∧ ∃ s', ahead ≤ rest.length ∧
        network.pending s' = rest.drop ahead ∧
        httpClientRecvResponse transport turns client timeoutMs clientData s =
          (parseContent transport turns frame.headers.length
            (frame.buffer (firstBuffer network s) (frame.behind ++ rest.take ahead))
            (frame.behind.length + ahead) timeoutMs
            { clientData with isMore := true, responseContentLen := -1, isChunked := false } s').bind
              fun result => .ok (result.1, { client with responseCode := code }, result.2)) ∨
      httpClientReadBufSize ≤ frame.behind.length + ahead ∧
        httpClientRecvResponse transport turns client timeoutMs clientData s = .error .outside) := by
  have headSize := frame.bytes_length
  have lengths := congrArg List.length isBytes
  rw [List.length_append] at lengths
  have more : network.pending s ≠ [] := by
    rw [← List.length_pos_iff]
    omega
  obtain ⟨text, short, isCount, isPending, receives⟩ :=
    @recvHead_eq _ _ network s turns client timeoutMs clientData connected fresh more
  have isFirst : firstBuffer network s = headBuffer text := by
    rw [firstBuffer, isCount, ← isPending, List.take_left]
  have counts : readAhead transport frame.bytes.length frame.bytes.length text.length
      (transport.read s httpClientReadHeadSize).2.2 = ahead := by
    have pendingLengths := congrArg List.length isPending
    rw [List.length_append] at pendingLengths
    obtain ⟨fuel, isSize⟩ : ∃ fuel, frame.bytes.length = fuel + 1 := ⟨frame.bytes.length - 1, by omega⟩
    have shifted := @readAhead_shift _ _ network (transport.read s httpClientReadHeadSize).2.2 0
      frame.bytes.length text.length fuel frame.bytes.length (by omega) (by omega) (by omega)
    have first : readAhead transport (fuel + 1) frame.bytes.length 0 s =
        readAhead transport fuel frame.bytes.length text.length
          (transport.read s httpClientReadHeadSize).2.2 := by
      rw [readAhead, if_neg (by omega)]
      dsimp only
      rw [isCount, Nat.zero_add]
    rw [HeaderFrame.ahead] at isAhead
    rw [← isSize, isAhead] at first
    rw [Nat.zero_add, Nat.zero_add, ← first] at shifted
    exact shifted.symm
  obtain ⟨code, isCode, parsed⟩ := @httpParseResponseHeader_frame _ _ network _ frame turns ahead client
    (headBuffer text) text rest timeoutMs { clientData with isMore := true } (headBuffer_filled short)
    (headBuffer_length short) (headBuffer_zeros short) short (isPending.trans isBytes) (isCount ▸ come)
    inTime counts
  refine ⟨code, isCode, ?_⟩
  rw [receives, isFirst]
  exact parsed

/-! ### What is said of the length -/

/-- Only the buffer and the length that is left change when bytes are moved. -/
theorem utilsFillRxBuf_data {written len : Int} {data : List UInt8} {result : Int × Int × HttpClientData}
    (fills : utilsFillRxBuf written len clientData data = .ok result) :
    ∃ responseBuf retrieveLen, result.2.2 = { clientData with responseBuf, retrieveLen } := by
  rw [utilsFillRxBuf] at fills
  dsimp only at fills
  split at fills
  · obtain ⟨_, _, isResult⟩ := bind_ok fills
    cases isResult
    exact ⟨_, _, rfl⟩
  · obtain ⟨_, _, isResult⟩ := bind_ok fills
    cases isResult
    exact ⟨_, _, rfl⟩

theorem responseBodyLoop_announced {data : List UInt8} {dataLen : Nat} {written : Int}
    {counts : DeadloopCounts} {result : Int × HttpClientData × ν}
    (loops : responseBodyLoop transport turns data dataLen written counts clientData s = .ok result) :
    result.2.1.responseContentLen = clientData.responseContentLen := by
  induction turns generalizing data dataLen written counts clientData s with
  | zero => cases loops
  | succ turns inductionHypothesis =>
      rw [responseBodyLoop] at loops
      obtain ⟨⟨res, written', moved⟩, fills, goesOn⟩ := bind_ok loops
      have same : moved.responseContentLen = clientData.responseContentLen := by
        obtain ⟨_, _, isMoved⟩ := utilsFillRxBuf_data fills
        have announced := congrArg HttpClientData.responseContentLen isMoved
        exact announced
      rw [← same]
      dsimp only at goesOn
      split at goesOn
      · cases goesOn
        rfl
      · split at goesOn
        · cases goesOn
          rfl
        · split at goesOn
          · cases goesOn
          · obtain ⟨data', _, checks⟩ := bind_ok goesOn
            split at checks
            · cases checks
              rfl
            · split at checks
              · cases checks
                rfl
              · exact inductionHypothesis checks

theorem httpGetResponseBody_announced {data : List UInt8} {dataLen : Nat}
    {result : Int × HttpClientData × ν}
    (gets : httpGetResponseBody transport turns data dataLen timeoutMs clientData s = .ok result) :
    result.2.1.responseContentLen = clientData.responseContentLen := by
  rw [httpGetResponseBody] at gets
  dsimp only at gets
  split at gets
  · cases gets
    rfl
  · exact (responseBodyLoop_announced gets).trans rfl

/-- The number 16 bytes behind the first name of the length in a text. -/
def LengthFound (text : List UInt8) (n : Int) : Prop :=
  ∃ i, strstr contentLength (visible text) = some i ∧ atoi (visible (text.drop (i + 16))) = n

instance (text : List UInt8) (n : Int) : Decidable (LengthFound text n) :=
  match found : strstr contentLength (visible text) with
  | none => .isFalse fun ⟨_, other, _⟩ => nomatch found.symm.trans other
  | some i => decidable_of_iff (atoi (visible (text.drop (i + 16))) = n)
      ⟨fun isNumber => ⟨i, found, isNumber⟩, fun ⟨_, other, isNumber⟩ => by
        cases found.symm.trans other
        exact isNumber⟩

/-! ### Headers in what has come -/

/-- Bytes in front of which nothing is that they could be taken for. -/
theorem isFirst_visible_front {needle bytes : List UInt8} {i : Nat}
    (first : IsFirst needle (visible bytes) i) :
    ∃ front rest, bytes = front ++ needle ++ rest ∧ i = front.length ∧ 0 ∉ front ∧
      IsFirst needle (front ++ needle) front.length := by
  obtain ⟨front, rest, rfl, rfl⟩ := isFirst_visible_split first
  have fits := first.fits
  have isPrefix : visible (front ++ needle ++ rest) <+: front ++ needle ++ rest := List.takeWhile_prefix _
  have isFront : front ++ needle =
      (visible (front ++ needle ++ rest)).take (front.length + needle.length) := by
    obtain ⟨more, isMore⟩ := isPrefix
    generalize visible (front ++ needle ++ rest) = text at fits isMore
    have taken := congrArg (List.take (front.length + needle.length)) isMore
    rw [List.take_append_of_le_length fits, ← List.length_append, List.take_left] at taken
    rw [← List.length_append]
    exact taken.symm
  refine ⟨front, rest, rfl, rfl, fun among => ?_, ?_⟩
  · have inFront : (0 : UInt8) ∈ front ++ needle := List.mem_append_left _ among
    rw [isFront] at inFront
    have plain := List.all_eq_true.mp List.all_takeWhile 0 (List.mem_of_mem_take inFront)
    exact absurd plain (by decide)
  · rw [isFront]
    exact isFirst_take_iff.mpr ⟨first, Nat.le_refl _⟩

/-- A call that reads a header and succeeds has a line of a status and a header in front of it. -/
theorem frame_of_response {rc : Int} {client' : HttpClient} {after : HttpClientData} {s' : ν}
    (connected : client.net.handle ≠ .zero) (fresh : clientData.isMore = false)
    (receives : httpClientRecvResponse transport turns client timeoutMs clientData s =
      .ok (rc, client', after, s')) (success : 0 ≤ rc) :
    ∃ (frame : HeaderFrame) (body : List UInt8), network.pending s = frame.bytes ++ body := by
  by_cases more : network.pending s = []
  · -- Nothing has come, and the first read fails.
    rw [httpClientRecvResponse, if_neg connected, fresh, if_neg Bool.false_ne_true] at receives
    rcases recv : httpRecv transport httpClientReadHeadSize s with ⟨ret, len, bytes, s₁⟩
    rw [recv] at receives
    obtain ⟨buf, _, receives⟩ := bind_ok receives
    obtain ⟨_, positive, _, isCount, isPending⟩ | ⟨rfl, _⟩ | rfl := httpRecv_cases network.toConnection recv
    · have none := (List.append_eq_nil_iff.mp (isPending.symm.trans more)).1
      rw [none, List.length_nil] at isCount
      omega
    · cases receives
      exact absurd success (by decide)
    · cases receives
      exact absurd success (by decide)
  · obtain ⟨text, short, _, isPending, parses⟩ :=
      @recvHead_eq _ _ network s turns client timeoutMs clientData connected fresh more
    rw [parses, httpParseResponseHeader] at receives
    obtain ⟨string, isString, receives⟩ := bind_ok receives
    have isText := (headBuffer_filled short).cString (Nat.zero_le _) isString
    rw [List.drop_zero] at isText
    subst isText
    split at receives
    · cases receives
      exact absurd success (by decide)
    · rename_i crlfPos isFound
      obtain ⟨status, front, rfl, rfl, plainStatus, line⟩ := isFirst_visible_front (strstr_iff.mp isFound)
      obtain ⟨data, stores, receives⟩ := bind_ok receives
      obtain ⟨_, _, receives⟩ := bind_ok receives
      obtain ⟨data', moves, receives⟩ := bind_ok receives
      obtain ⟨⟨ret, bodyEnd, data'', len, s'⟩, loops, receives⟩ := bind_ok receives
      have isEnd : status.length + 2 = (status ++ crlf).length := by
        rw [List.length_append]
        rfl
      have isCount : (status ++ crlf ++ front).length - (status.length + 2) = front.length := by
        rw [List.length_append, ← isEnd, Nat.add_sub_cancel_left]
      have filled : Filled data' front := (headBuffer_filled short).behindLine stores moves
      rw [isCount] at loops
      obtain ⟨_, text', _, _, isBehind, ends⟩ | failed :=
        @headerLoop_ends _ _ network.toConnection _ _ _ _ _ _ _ _ _ _ filled rfl loops
      · obtain ⟨headers, more, rfl, rfl, plain, ends⟩ := isFirst_visible_front ends
        refine ⟨⟨status, headers, plainStatus, plain, line, ends⟩, more ++ network.pending s', ?_⟩
        rw [← isPending, List.append_assoc, ← isBehind, HeaderFrame.bytes, HeaderFrame.behind]
        simp only [List.append_assoc]
      · dsimp only at receives
        rw [if_pos (failed ▸ by decide)] at receives
        cases receives
        exact absurd (failed ▸ success) (by decide)

/-! ## What a successful call has found -/

theorem httpGetResponseBody_enough {data : List UInt8} {dataLen : Nat} {rc : Int} {after : HttpClientData}
    {s' : ν} (hasBuffer : HasBuffer clientData responseBuf) (notEmpty : responseBuf ≠ [])
    (same : clientData.retrieveLen = clientData.responseContentLen)
    (isData : data.length = httpClientReadBufSize) (known : dataLen ≤ data.length)
    (gets : httpGetResponseBody transport turns data dataLen timeoutMs clientData s = .ok (rc, after, s'))
    (success : 0 ≤ rc) :
    ∃ n : Nat, clientData.responseContentLen = n ∧
      min n (responseBuf.length - 1) ≤ dataLen + (network.pending s).length ∧
      after.responseContentLen = n ∧ after.retrieveLen = (n - (responseBuf.length - 1) : Nat) := by
  have positive := List.length_pos_iff.mpr notEmpty
  have announced := httpGetResponseBody_announced gets
  rw [httpGetResponseBody] at gets
  dsimp only at gets
  split at gets
  · cases gets
    exact absurd success (by decide)
  · by_cases negative : clientData.retrieveLen < 0
    · -- The number of bytes that are to be moved is negative.
      exfalso
      cases turns with
      | zero => cases gets
      | succ turns =>
          have test : 0 + min (dataLen : Int) clientData.retrieveLen < clientData.responseBufLen - 1 := by
            rw [hasBuffer.2]
            omega
          rw [responseBodyLoop, utilsFillRxBuf] at gets
          dsimp only at gets
          rw [if_pos test, copyToResponse, if_pos (by omega)] at gets
          cases gets
    · obtain ⟨n, isLength⟩ := Int.eq_ofNat_of_zero_le (Int.not_lt.mp negative)
      obtain ⟨enough, left⟩ := @responseBodyLoop_enough _ _ network (transport.tick s).2 turns data dataLen 0
        (responseBuf.length - 1) n _ { clientData with isMore := true } after responseBuf rc s' hasBuffer
        (by omega) rfl isLength isData known gets success
      rw [network.tick] at enough
      exact ⟨n, same.symm.trans isLength, enough, announced.trans (same.symm.trans isLength), left⟩

/-- Behind what the first read may leave, a buffer holds nothing. -/
theorem HeaderFrame.buffer_zeros (frame : HeaderFrame) {text first : List UInt8}
    (short : first.length ≤ httpClientReadHeadSize) (line : frame.status.length ≤ httpClientReadHeadSize) :
    ∃ stale, frame.buffer (headBuffer first) text = text ++ 0 :: stale ∧
      ∀ byte ∈ stale.drop (httpClientReadHeadSize - text.length), byte = 0 := by
  have size : httpClientReadHeadSize = 32 := rfl
  have bufSize : httpClientReadBufSize = 1024 := rfl
  refine ⟨_, rfl, fun byte among => ?_⟩
  have isIndex : text.length + 1 + (httpClientReadHeadSize - text.length) =
      httpClientReadHeadSize + 1 + (text.length - httpClientReadHeadSize) := by omega
  rw [List.drop_drop, isIndex, ← List.drop_drop,
    drop_overwrite (by rw [headBuffer_length short]; omega) (by omega), headBuffer_zeros short] at among
  exact List.eq_of_mem_replicate (List.mem_of_mem_drop among)

/-- What comes with the first read. -/
theorem firstRead_short (frame : HeaderFrame)
    (come : frame.status.length + 2 ≤ (transport.read s httpClientReadHeadSize).1.toNat) :
    ((network.pending s).take (transport.read s httpClientReadHeadSize).1.toNat).length ≤
        httpClientReadHeadSize ∧ frame.status.length ≤ httpClientReadHeadSize := by
  have positive : 0 < (transport.read s httpClientReadHeadSize).1 := by omega
  obtain ⟨within, _, _⟩ := network.delivers s httpClientReadHeadSize positive
  exact ⟨(List.length_take_le _ _).trans within, by omega⟩

theorem firstBuffer_length (frame : HeaderFrame) {text : List UInt8}
    (come : frame.status.length + 2 ≤ (transport.read s httpClientReadHeadSize).1.toNat)
    (fits : text.length < httpClientReadBufSize) :
    (frame.buffer (firstBuffer network s) text).length = httpClientReadBufSize := by
  have size : httpClientReadHeadSize = 32 := rfl
  have bufSize : httpClientReadBufSize = 1024 := rfl
  obtain ⟨short, line⟩ := firstRead_short network frame come
  have isFirst : (firstBuffer network s).length = httpClientReadBufSize := headBuffer_length short
  rw [frame.buffer_length (isFirst ▸ fits) (by omega), isFirst]

/-- Every string in it ends. -/
theorem firstBuffer_cString (frame : HeaderFrame) {text : List UInt8} {offset : Nat}
    (come : frame.status.length + 2 ≤ (transport.read s httpClientReadHeadSize).1.toNat)
    (fits : text.length < httpClientReadBufSize) (within : offset < httpClientReadBufSize) :
    cStringAt (frame.buffer (firstBuffer network s) text) offset =
      .ok (visible ((frame.buffer (firstBuffer network s) text).drop offset)) := by
  have size : httpClientReadHeadSize = 32 := rfl
  have bufSize : httpClientReadBufSize = 1024 := rfl
  have length := firstBuffer_length network frame come fits
  obtain ⟨short, line⟩ := firstRead_short network frame come
  obtain ⟨stale, isBuffer, zeros⟩ := @HeaderFrame.buffer_zeros frame text _ short line
  rw [firstBuffer] at length ⊢
  rw [isBuffer] at length ⊢
  rw [cStringAt, if_pos]
  · rfl
  · by_cases inText : offset ≤ text.length
    · rw [List.drop_append_of_le_length inText]
      exact List.mem_append_right _ List.mem_cons_self
    · -- Its last byte is a terminator.
      rw [List.length_append, List.length_cons] at length
      have split : offset = text.length + (1 + (offset - text.length - 1)) := by omega
      have last : stale.length - 1 = httpClientReadHeadSize - text.length +
          (stale.length - 1 - (httpClientReadHeadSize - text.length)) := by omega
      obtain ⟨byte, isByte⟩ : ∃ byte, stale.drop (stale.length - 1) = [byte] := by
        rw [← List.length_eq_one_iff, List.length_drop]
        omega
      have isZero : byte = 0 := by
        apply zeros
        have among : byte ∈ stale.drop (stale.length - 1) := isByte ▸ List.mem_cons_self
        rw [last, ← List.drop_drop] at among
        exact List.mem_of_mem_drop among
      have later : stale.length - 1 = offset - text.length - 1 +
          (stale.length - 1 - (offset - text.length - 1)) := by omega
      rw [split, ← List.drop_drop, List.drop_left, ← List.drop_drop]
      have among : byte ∈ stale.drop (stale.length - 1) := isByte ▸ List.mem_cons_self
      rw [later, ← List.drop_drop, isZero] at among
      exact List.mem_of_mem_drop among

/-- A call that reads a header and succeeds has its line of the status in the first read, the header in
the buffer, a length in it, and as many bytes of content as that says, or as there is room for. -/
theorem httpClientRecvResponse_needs (frame : HeaderFrame) {body : List UInt8} {rc : Int}
    {client' : HttpClient} {after : HttpClientData} {s' : ν} (connected : client.net.handle ≠ .zero)
    (fresh : clientData.isMore = false) (hasBuffer : HasBuffer clientData responseBuf)
    (notEmpty : responseBuf ≠ []) (isBytes : network.pending s = frame.bytes ++ body)
    (inTime : frame.bytes.length < turns)
    (receives : httpClientRecvResponse transport turns client timeoutMs clientData s =
      .ok (rc, client', after, s')) (success : 0 ≤ rc) :
    frame.status.length + 2 ≤ (transport.read s httpClientReadHeadSize).1.toNat ∧
      frame.behind.length + frame.ahead transport s < httpClientReadBufSize ∧
      ∃ (i : Nat) (number : List UInt8) (n : Nat),
        strstr contentLength (visible (frame.behind ++ body.take (frame.ahead transport s))) = some i ∧
        cStringAt (frame.buffer (firstBuffer network s) (frame.behind ++ body.take (frame.ahead transport s)))
          (i + 16) = .ok number ∧ atoi number = n ∧ min n (responseBuf.length - 1) ≤ body.length ∧
        after.responseContentLen = n ∧ after.retrieveLen = (n - (responseBuf.length - 1) : Nat) := by
  have come : frame.status.length + 2 ≤ (transport.read s httpClientReadHeadSize).1.toNat := by
    by_contra cut
    rw [httpClientRecvResponse_cut network frame connected fresh isBytes (Nat.not_le.mp cut)] at receives
    cases receives
    exact absurd success (by decide)
  generalize isAhead : frame.ahead transport s = ahead
  obtain ⟨code, -, ⟨inBuffer, s₁, within, isPending, parses⟩ | ⟨_, overruns⟩⟩ :=
    @httpClientRecvResponse_frame _ _ network s turns client timeoutMs clientData body frame ahead connected
      fresh isBytes come inTime isAhead
  · refine ⟨come, inBuffer, ?_⟩
    rw [parses] at receives
    obtain ⟨⟨rc', after', s''⟩, content, isResult⟩ := bind_ok receives
    cases isResult
    have isFront : (body.take ahead).length = ahead := List.length_take_of_le within
    have isText : (frame.behind ++ body.take ahead).length = frame.behind.length + ahead := by
      rw [List.length_append, isFront]
    have size := frame.behind_length
    have isBuffer : (frame.buffer (firstBuffer network s) (frame.behind ++ body.take ahead)).length =
        httpClientReadBufSize := firstBuffer_length network frame come (isText ▸ inBuffer)
    have filled := @frame.buffer_filled (firstBuffer network s) (frame.behind ++ body.take ahead)
    rw [← isText] at content
    have searches := content
    rw [parseContent, filled_text filled] at searches
    dsimp only [bind, Except.bind] at searches
    cases named : strstr contentLength (visible (frame.behind ++ body.take ahead)) with
    | none =>
        rw [named] at searches
        cases searches
        exact absurd (show 0 ≤ errHttpConnError from success) (by decide)
    | some i =>
        rw [named] at searches
        obtain ⟨number, isNumber, _⟩ := bind_ok searches
        obtain ⟨data', filled', length, reads⟩ := @parseContent_number _ transport s₁ frame.headers.length i
          _ _ _ timeoutMs { clientData with isMore := true, responseContentLen := -1, isChunked := false }
          filled (by omega) named isNumber rfl rfl
        have isLeft : (frame.behind ++ body.take ahead).length - (frame.headers.length + 4) = ahead := by
          omega
        have size : httpClientReadBufSize = 1024 := rfl
        rw [reads, isLeft] at content
        have hasBuffer' : HasBuffer ({ clientData with
            isMore := true, responseContentLen := -1, isChunked := false }.announce (atoi number) ahead)
            responseBuf := hasBuffer
        obtain ⟨n, isLength, enough, announced, left⟩ := @httpGetResponseBody_enough _ _ network s₁ turns
          timeoutMs _ responseBuf data' ahead _ _ _ hasBuffer' notEmpty rfl (length.trans isBuffer)
          (by omega) content success
        rw [isPending, List.length_drop] at enough
        exact ⟨i, number, n, rfl, isNumber, isLength, by omega, announced, left⟩
  · rw [overruns] at receives
    cases receives

/-- Where all that is there, a call that reads a header succeeds. -/
theorem httpClientRecvResponse_content (frame : HeaderFrame) {body number : List UInt8} {i n : Nat}
    (connected : client.net.handle ≠ .zero) (fresh : clientData.isMore = false)
    (hasBuffer : HasBuffer clientData responseBuf) (hasRoom : 2 ≤ responseBuf.length)
    (isBytes : network.pending s = frame.bytes ++ body)
    (come : frame.status.length + 2 ≤ (transport.read s httpClientReadHeadSize).1.toNat)
    (inBuffer : frame.behind.length + frame.ahead transport s < httpClientReadBufSize)
    (named : strstr contentLength (visible (frame.behind ++ body.take (frame.ahead transport s))) = some i)
    (isNumber : cStringAt
      (frame.buffer (firstBuffer network s) (frame.behind ++ body.take (frame.ahead transport s)))
      (i + 16) = .ok number) (isLength : atoi number = n)
    (enough : min n (responseBuf.length - 1) ≤ body.length)
    (inTime : frame.bytes.length + n + 1 < turns) :
    ∃ code buf s', (9 ≤ frame.status.length → code = atoi (frame.status.drop 9)) ∧
      buf.take (min n (responseBuf.length - 1)) = body.take (min n (responseBuf.length - 1)) ∧
      httpClientRecvResponse transport turns client timeoutMs clientData s =
        .ok (if n < responseBuf.length - 1 then successRet else httpRetrieveMoreData,
          { client with responseCode := code },
          (clientData.announce n (frame.ahead transport s)).fill (responseBuf.length - 1) n buf, s') := by
  generalize isAhead : frame.ahead transport s = ahead at inBuffer named isNumber ⊢
  obtain ⟨code, isCode, ⟨_, s₁, within, isPending, receives⟩ | ⟨overruns, _⟩⟩ :=
    @httpClientRecvResponse_frame _ _ network s turns client timeoutMs clientData body frame ahead
      connected fresh isBytes come (by omega) isAhead
  · have isFront : (body.take ahead).length = ahead := List.length_take_of_le within
    have isText : (frame.behind ++ body.take ahead).length = frame.behind.length + ahead := by
      rw [List.length_append, isFront]
    have isBuffer : (frame.buffer (firstBuffer network s) (frame.behind ++ body.take ahead)).length =
        httpClientReadBufSize := firstBuffer_length network frame come (isText ▸ inBuffer)
    have filled := @frame.buffer_filled (firstBuffer network s) (frame.behind ++ body.take ahead)
    have size := frame.behind_length
    have bufSize : httpClientReadBufSize = 1024 := rfl
    obtain ⟨data', filled', length, parses⟩ := @parseContent_number _ transport s₁ frame.headers.length i
      _ _ _ timeoutMs { clientData with isMore := true, responseContentLen := -1, isChunked := false } filled
      (by omega) named isNumber rfl rfl
    have isLeft : (frame.behind ++ body.take ahead).length - (frame.headers.length + 4) = ahead := by omega
    have isRest : (frame.behind ++ body.take ahead).drop (frame.headers.length + 4) = body.take ahead :=
      List.drop_left' size
    rw [isLeft, isLength] at parses
    rw [isRest] at filled'
    have taken : data'.take ahead = body.take ahead := by
      obtain ⟨tail, rfl⟩ := filled'
      rw [List.take_left' isFront]
    have isData : data'.length = httpClientReadBufSize := length.trans isBuffer
    have left : (network.pending s₁).length = body.length - ahead := by
      rw [isPending, List.length_drop]
    have hasBuffer' : HasBuffer ({ clientData with
        isMore := true, responseContentLen := -1, isChunked := false }.announce n ahead) responseBuf :=
      hasBuffer
    obtain ⟨buf, s', gets, moved⟩ := @httpGetResponseBody_moves _ transport network s₁ turns ahead
      (responseBuf.length - 1) n data' responseBuf timeoutMs _ hasBuffer' (by omega) (by omega)
      rfl (by dsimp only [HttpClientData.announce]; omega) isData (by omega) (by omega) (by omega)
    rw [← isText, parses, gets] at receives
    refine ⟨code, buf, s', isCode, ?_, receives⟩
    have front := moved.front
    rw [Nat.zero_add, List.take_zero, List.nil_append, taken, isPending, List.take_append_drop] at front
    exact front
  · exact absurd inBuffer (Nat.not_lt.mpr overruns)

end UIoT.Utils
