import UIoT.Utils.Reception

/-!
# Receiving without waiting

On a connection whose reads deliver something as long as something is pending,
`http_client_recv_data` returns, and what it returns is known: a buffer filled with what is
next of the body (`httpClientRecvData_head`, `httpClientRecvData_more`). What the last read of
the header brings beyond the bytes that are moved is gone.
-/

set_option autoImplicit false

namespace UIoT.Utils

open FirstMatch Json

variable {ν : Type} {transport : Transport ν}

/-- A connection whose reads deliver something as long as something is pending. -/
structure PromptConnection (transport : Transport ν) extends Connection transport where
  prompt : ∀ s n, pending s ≠ [] → 0 < n → 0 < (transport.read s n).1

variable (network : PromptConnection transport) {s : ν}

theorem httpRecv_prompt {maxLen : Nat} (more : network.pending s ≠ []) (positive : 0 < maxLen) :
    ∃ bytes, httpRecv transport maxLen s = (0, bytes.length, bytes, (transport.read s maxLen).2.2) ∧
      0 < bytes.length ∧ bytes.length ≤ maxLen ∧
      (transport.read s maxLen).1.toNat = bytes.length ∧
      network.pending s = bytes ++ network.pending (transport.read s maxLen).2.2 := by
  have delivered := network.prompt s maxLen more positive
  obtain ⟨within, length, isPending⟩ := network.delivers s maxLen delivered
  refine ⟨(transport.read s maxLen).2.1, ?_, by omega, by omega, length.symm, isPending⟩
  rw [httpRecv]
  dsimp only
  rw [if_pos delivered, length]

/-- Where something has come, there is no dead loop. -/
theorem utilsCheckDeadloop_some {len : Nat} (positive : 0 < len) (ret : Int)
    (counts : DeadloopCounts) (s : ν) :
    ∃ counts' s', utilsCheckDeadloop transport len ret counts s = (successRet, counts', s') ∧
      network.pending s' = network.pending s := by
  have notZero : len ≠ 0 := Nat.ne_of_gt positive
  have success : (utilsCheckDeadloop transport len ret counts s).1 = successRet := by
    rw [utilsCheckDeadloop]
    dsimp only
    rw [if_neg fun none => notZero none.1, if_neg fun none => notZero none.1]
  have kept := @utilsCheckDeadloop_pending _ _ network.toConnection s len ret counts
  generalize utilsCheckDeadloop transport len ret counts s = checked at success kept ⊢
  obtain ⟨rc, counts', s'⟩ := checked
  cases success
  exact ⟨counts', s', rfl, kept⟩

/-! ## Moving bytes -/

theorem store_eq {buf bytes : List UInt8} {offset : Nat} (fits : offset + bytes.length ≤ buf.length) :
    store buf offset bytes = .ok (overwrite buf offset bytes) := if_pos fits

theorem copyToResponse_ok {responseBuf data : List UInt8} {written n : Nat} (known : n ≤ data.length)
    (fits : written + n < responseBuf.length) :
    ∃ responseBuf', copyToResponse responseBuf data written n (written + n : Nat) = .ok responseBuf' ∧
      responseBuf'.length = responseBuf.length ∧
      responseBuf'.take (written + n) = responseBuf.take written ++ data.take n := by
  have taken : (data.take n).length = n := List.length_take_of_le known
  have first : (overwrite responseBuf written (data.take n)).length = responseBuf.length :=
    overwrite_length (by omega)
  refine ⟨overwrite (overwrite responseBuf written (data.take n)) (written + n) [0], ?_, ?_, ?_⟩
  · rw [copyToResponse, if_neg (by omega), Int.toNat_natCast, Int.toNat_natCast, Int.toNat_natCast,
      store_eq (by omega)]
    exact store_eq (by rw [first, List.length_singleton]; omega)
  · rw [overwrite_length, first]
    rw [first, List.length_singleton]
    omega
  · rw [take_overwrite (by omega)]
    have front := @overwrite_take responseBuf (data.take n) written (by omega)
    rwa [taken] at front

/-- What is moved is what there is room for, behind what is written. -/
theorem utilsFillRxBuf_eq {clientData : HttpClientData} {responseBuf data : List UInt8}
    {written room len : Nat} (hasBuffer : HasBuffer clientData responseBuf)
    (isRoom : responseBuf.length = written + room + 1) (known : len ≤ data.length) :
    ∃ responseBuf', responseBuf'.length = responseBuf.length ∧
      responseBuf'.take (written + min len room) = responseBuf.take written ++ data.take (min len room) ∧
      utilsFillRxBuf written len clientData data =
        .ok (if len < room then (successRet, (written + len : Nat), { clientData with
              responseBuf := some responseBuf'
              retrieveLen := clientData.retrieveLen - len })
          else (httpRetrieveMoreData, written, { clientData with
              responseBuf := some responseBuf'
              retrieveLen := clientData.retrieveLen - room })) := by
  obtain ⟨isBuffer, isLength⟩ := hasBuffer
  obtain ⟨responseBuf', copies, length, front⟩ :=
    @copyToResponse_ok responseBuf data written (min len room) (by omega) (by omega)
  refine ⟨responseBuf', length, front, ?_⟩
  rw [utilsFillRxBuf, isBuffer, isLength, Option.getD_some]
  by_cases fits : len < room
  · have isMin : min len room = len := by omega
    have test : (written : Int) + len < responseBuf.length - 1 := by omega
    rw [isMin] at copies
    rw [if_pos test, if_pos fits, ← Int.natCast_add, copies]
    rfl
  · have isMin : min len room = room := by omega
    have test : ¬(written : Int) + len < responseBuf.length - 1 := by omega
    have isRest : (responseBuf.length : Int) - 1 - written = room := by omega
    have isLast : (responseBuf.length : Int) - 1 = (written + room : Nat) := by omega
    rw [isMin] at copies
    rw [if_neg test, if_neg fits, isRest, isLast]
    dsimp only
    rw [copies]
    rfl

/-- A call into a buffer that has room for `room` of the `rem` bytes that are left. -/
def HttpClientData.fill (clientData : HttpClientData) (room rem : Nat) (responseBuf : List UInt8) :
    HttpClientData :=
  { clientData with
    responseBuf := some responseBuf
    retrieveLen := (rem - room : Nat)
    isMore := decide (room ≤ rem) }

/-- A buffer is filled behind what is written with what is next of a stream, of which `ahead`
bytes are out of the connection. -/
structure Moved (stream : List UInt8) (ahead written room rem : Nat)
    (responseBuf responseBuf' : List UInt8) (s' : ν) : Prop where
  length : responseBuf'.length = responseBuf.length
  front : responseBuf'.take (written + min rem room) =
    responseBuf.take written ++ stream.take (min rem room)
  pending : network.pending s' = stream.drop (max (min rem room) ahead)

/-- A turn that reads: what has come is moved behind what is written. -/
theorem responseBodyLoop_read {data : List UInt8} {dataLen written room rem : Nat} {counts : DeadloopCounts}
    {clientData : HttpClientData} {responseBuf : List UInt8} (hasBuffer : HasBuffer clientData responseBuf)
    (isRoom : responseBuf.length = written + room + 1) (isLeft : clientData.retrieveLen = rem)
    (isData : data.length = httpClientReadBufSize) (known : dataLen ≤ data.length)
    (hasRoom : dataLen < room) (more : dataLen < rem) (pending : network.pending s ≠ []) :
    ∃ bytes responseBuf' counts' s', 0 < bytes.length ∧ bytes.length ≤ httpClientReadBufSize ∧
      bytes.length ≤ min (rem - dataLen) (room - dataLen) ∧
      network.pending s = bytes ++ network.pending s' ∧ responseBuf'.length = responseBuf.length ∧
      responseBuf'.take (written + dataLen) = responseBuf.take written ++ data.take dataLen ∧
      ∀ turns, responseBodyLoop transport (turns + 1) data dataLen written counts clientData s =
        responseBodyLoop transport turns (overwrite data 0 bytes) bytes.length (written + dataLen : Nat)
          counts' { clientData with
            responseBuf := some responseBuf'
            retrieveLen := (rem - dataLen : Nat) } s' := by
  have isMin : min (dataLen : Int) clientData.retrieveLen = dataLen := by omega
  obtain ⟨responseBuf', length, front, fills⟩ :=
    @utilsFillRxBuf_eq clientData responseBuf data written room dataLen hasBuffer isRoom known
  have fewer : min dataLen room = dataLen := by omega
  rw [fewer] at front
  rw [if_pos hasRoom] at fills
  have chunk : httpClientChunkSize - 1 = 1023 := rfl
  have size : httpClientReadBufSize = 1024 := rfl
  have isLeft' : clientData.retrieveLen - dataLen = (rem - dataLen : Nat) := by omega
  rw [isLeft'] at fills
  have least : min (min ((httpClientChunkSize - 1 : Nat) : Int)
      (clientData.responseBufLen - 1 - (written + dataLen : Nat))) ((rem - dataLen : Nat) : Int) =
        (min (min 1023 (room - dataLen)) (rem - dataLen) : Nat) := by
    rw [hasBuffer.2]
    omega
  obtain ⟨bytes, recv, positive, within, _, isPending⟩ := httpRecv_prompt network pending
    (show 0 < min (min 1023 (room - dataLen)) (rem - dataLen) by omega)
  obtain ⟨counts', s', checks, kept⟩ := utilsCheckDeadloop_some network positive 0 counts
    (transport.read s (min (min 1023 (room - dataLen)) (rem - dataLen))).2.2
  have stores := @store_eq data bytes 0 (by omega)
  refine ⟨bytes, responseBuf', counts', s', positive, by omega, by omega, isPending.trans (kept ▸ rfl),
    length, front, fun turns => ?_⟩
  rw [responseBodyLoop, isMin, fills]
  dsimp only [bind, Except.bind]
  rw [if_neg (by decide), if_neg (by omega), least, if_neg (by omega), Int.toNat_natCast, recv]
  dsimp only
  rw [stores]
  dsimp only
  rw [if_neg (by decide), checks]
  rfl

/-- The last turn: the buffer is full, or all of the body has come. -/
theorem responseBodyLoop_last {turns : Nat} {data : List UInt8} {dataLen written room rem : Nat}
    {counts : DeadloopCounts} {clientData : HttpClientData} {responseBuf : List UInt8}
    (hasBuffer : HasBuffer clientData responseBuf) (isRoom : responseBuf.length = written + room + 1)
    (isMore : clientData.isMore = true) (isLeft : clientData.retrieveLen = rem)
    (known : dataLen ≤ data.length) (last : ¬(dataLen < room ∧ dataLen < rem)) :
    ∃ responseBuf', responseBuf'.length = responseBuf.length ∧
      responseBuf'.take (written + min rem room) = responseBuf.take written ++ data.take (min rem room) ∧
      responseBodyLoop transport (turns + 1) data dataLen written counts clientData s =
        .ok (if rem < room then successRet else httpRetrieveMoreData,
          clientData.fill room rem responseBuf', s) := by
  have isMin : min (dataLen : Int) clientData.retrieveLen = (min dataLen rem : Nat) := by omega
  have least : min (min dataLen rem) room = min rem room := by omega
  obtain ⟨responseBuf', length, front, fills⟩ :=
    @utilsFillRxBuf_eq clientData responseBuf data written room (min dataLen rem) hasBuffer isRoom
      (by omega)
  rw [least] at front
  refine ⟨responseBuf', length, front, ?_⟩
  rw [responseBodyLoop, isMin, fills]
  by_cases full : rem < room
  · -- All of the body has come.
    have all : min dataLen rem = rem := by omega
    have isLeft' : clientData.retrieveLen - rem = (rem - room : Nat) := by omega
    rw [all, if_pos full, if_pos full]
    dsimp only [bind, Except.bind]
    rw [if_neg (by decide), if_pos (by omega), isLeft', HttpClientData.fill,
      decide_eq_false (Nat.not_le.mpr full)]
    rfl
  · -- The buffer is full, and what else came with the last read is dropped.
    have isLeft' : clientData.retrieveLen - room = (rem - room : Nat) := by omega
    rw [if_neg (show ¬min dataLen rem < room by omega), if_neg full]
    dsimp only [bind, Except.bind]
    rw [if_pos rfl, isLeft', HttpClientData.fill, decide_eq_true (Nat.not_lt.mp full), ← isMore]
    rfl

theorem responseBodyLoop_moves :
    ∀ {turns : Nat} {data : List UInt8} {dataLen written room rem : Nat} {counts : DeadloopCounts}
      {clientData : HttpClientData} {responseBuf : List UInt8} {s : ν},
      HasBuffer clientData responseBuf → responseBuf.length = written + room + 1 → 0 < room →
      clientData.isMore = true → clientData.retrieveLen = rem →
      data.length = httpClientReadBufSize → dataLen ≤ data.length →
      min rem room ≤ dataLen + (network.pending s).length → 0 < turns → rem + 1 < turns + dataLen →
      ∃ responseBuf' s', responseBodyLoop transport turns data dataLen written counts clientData s =
          .ok (if rem < room then successRet else httpRetrieveMoreData,
            clientData.fill room rem responseBuf', s') ∧
        Moved network (data.take dataLen ++ network.pending s) dataLen written room rem responseBuf
          responseBuf' s'
  | 0, _, _, _, _, _, _, _, _, _, _, _, _, _, _, _, _, _, positive, _ => absurd positive (Nat.lt_irrefl 0)
  | turns + 1, data, dataLen, written, room, rem, counts, clientData, responseBuf, s, hasBuffer, isRoom,
      hasRoom, isMore, isLeft, isData, known, enough, _, inTime => by
      have taken : (data.take dataLen).length = dataLen := List.length_take_of_le known
      by_cases more : dataLen < room ∧ dataLen < rem
      · -- There is more to read.
        have pending : network.pending s ≠ [] := by
          intro none
          rw [none, List.length_nil] at enough
          omega
        obtain ⟨bytes, responseBuf', counts', s', positive, within, fits, isPending, length, front, reads⟩ :=
          @responseBodyLoop_read _ _ network s data dataLen written room rem counts clientData responseBuf
            hasBuffer isRoom isLeft isData known more.1 more.2 pending
        have bufferLength : (overwrite data 0 bytes).length = data.length := overwrite_length (by omega)
        have isRest : (network.pending s).length = bytes.length + (network.pending s').length := by
          rw [isPending, List.length_append]
        have split : min rem room = dataLen + min (rem - dataLen) (room - dataLen) := by omega
        obtain ⟨responseBuf'', s'', moves, moved⟩ := @responseBodyLoop_moves turns
          (overwrite data 0 bytes) bytes.length (written + dataLen) (room - dataLen) (rem - dataLen)
          counts' { clientData with
            responseBuf := some responseBuf'
            retrieveLen := (rem - dataLen : Nat) } responseBuf' s'
          ⟨rfl, hasBuffer.2.trans (congrArg _ length.symm)⟩ (by omega) (by omega) isMore rfl
          (bufferLength.trans isData) (by omega) (by omega) (by omega) (by omega)
        have next : (overwrite data 0 bytes).take bytes.length ++ network.pending s' =
            network.pending s := by
          rw [overwrite_zero, List.take_left, isPending]
        rw [next] at moved
        refine ⟨responseBuf'', s'', ?_, moved.length.trans length, ?_, ?_⟩
        · rw [reads, moves]
          have code : (rem - dataLen < room - dataLen) = (rem < room) := by
            apply propext
            omega
          have isLeft' : rem - dataLen - (room - dataLen) = rem - room := by omega
          have stop : (room - dataLen ≤ rem - dataLen) = (room ≤ rem) := by
            apply propext
            omega
          simp only [HttpClientData.fill, code, isLeft', stop]
        · have isFront := moved.front
          rw [split, ← Nat.add_assoc, isFront, front, List.append_assoc,
            List.take_append, taken, Nat.add_sub_cancel_left, List.take_take,
            Nat.min_eq_right (Nat.le_add_right _ _)]
        · have splitMax : max (min rem room) dataLen =
              dataLen + max (min (rem - dataLen) (room - dataLen)) bytes.length := by omega
          rw [moved.pending, splitMax, ← List.drop_drop, List.drop_left' taken]
      · obtain ⟨responseBuf', length, front, loops⟩ := @responseBodyLoop_last _ transport s turns data dataLen
          written room rem counts clientData responseBuf hasBuffer isRoom isMore isLeft known more
        have whole : max (min rem room) dataLen = dataLen := by omega
        refine ⟨responseBuf', s, loops, length, ?_, ?_⟩
        · rw [front, List.take_append_of_le_length (by omega), List.take_take,
            Nat.min_eq_left (show min rem room ≤ dataLen by omega)]
        · rw [whole, List.drop_left' taken]

/-- A loop that succeeds has had as many bytes as it is to move, or as there is room for. -/
theorem responseBodyLoop_enough {turns : Nat} {data : List UInt8} {dataLen written room rem : Nat}
    {counts : DeadloopCounts} {clientData after : HttpClientData} {responseBuf : List UInt8} {rc : Int}
    {s' : ν} (hasBuffer : HasBuffer clientData responseBuf)
    (isRoom : responseBuf.length = written + room + 1) (isMore : clientData.isMore = true)
    (isLeft : clientData.retrieveLen = rem) (isData : data.length = httpClientReadBufSize)
    (known : dataLen ≤ data.length)
    (loops : responseBodyLoop transport turns data dataLen written counts clientData s = .ok (rc, after, s'))
    (success : 0 ≤ rc) :
    min rem room ≤ dataLen + (network.pending s).length ∧ after.retrieveLen = (rem - room : Nat) := by
  induction turns generalizing data dataLen written room rem counts clientData responseBuf s with
  | zero => cases loops
  | succ turns inductionHypothesis =>
      by_cases more : dataLen < room ∧ dataLen < rem
      · obtain ⟨hasRoom, isLess⟩ := more
        have size : httpClientReadBufSize = 1024 := rfl
        by_cases pending : network.pending s = []
        · -- Nothing is there, and nothing will come.
          have isMin : min (dataLen : Int) clientData.retrieveLen = dataLen := by omega
          obtain ⟨responseBuf', length, _, fills⟩ :=
            @utilsFillRxBuf_eq clientData responseBuf data written room dataLen hasBuffer isRoom known
          rw [if_pos hasRoom] at fills
          rw [responseBodyLoop, isMin, fills] at loops
          dsimp only [bind, Except.bind] at loops
          rw [if_neg (by decide), if_neg (by omega)] at loops
          split at loops
          · cases loops
          · rcases recv : httpRecv transport (min (min ((httpClientChunkSize - 1 : Nat) : Int)
              (clientData.responseBufLen - 1 - (written + dataLen : Nat)))
              (clientData.retrieveLen - dataLen)).toNat s with ⟨ret, len, bytes, s₁⟩
            rw [recv] at loops
            dsimp only at loops
            split at loops
            · cases loops
            · rename_i data' stores
              obtain ⟨fits, rfl⟩ := store_ok stores
              have bufferLength : (overwrite data 0 bytes).length = data.length := overwrite_length fits
              obtain ⟨_, positive, _, isCount, isPending⟩ | ⟨rfl, rfl, same⟩ | failed :=
                httpRecv_cases network.toConnection recv
              · rw [pending] at isPending
                have none := (List.append_eq_nil_iff.mp isPending.symm).1
                rw [none, List.length_nil] at isCount
                omega
              · have kept := @utilsCheckDeadloop_pending _ _ network.toConnection s₁ 0 failureRet counts
                rw [if_neg (by decide)] at loops
                generalize utilsCheckDeadloop transport 0 failureRet counts s₁ = checked at loops kept
                split at loops
                · rename_i gaveUp
                  cases loops
                  exact absurd (gaveUp ▸ success) (by decide)
                · obtain ⟨short, _⟩ := @inductionHypothesis checked.2.2 (overwrite data 0 bytes) 0
                    (written + dataLen) (room - dataLen) (rem - dataLen) checked.2.1 { clientData with
                      responseBuf := some responseBuf'
                      retrieveLen := clientData.retrieveLen - dataLen } responseBuf'
                    ⟨rfl, hasBuffer.2.trans (congrArg _ length.symm)⟩ (by omega) isMore
                    (by dsimp only; omega) (bufferLength.trans isData) (Nat.zero_le _) loops
                  rw [kept, same, pending, List.length_nil] at short
                  omega
              · rw [if_pos failed] at loops
                cases loops
                exact absurd (failed ▸ success) (by decide)
        · obtain ⟨bytes, responseBuf', counts', s₁, _, within, _, isPending, length, _, reads⟩ :=
            @responseBodyLoop_read _ _ network s data dataLen written room rem counts clientData responseBuf
              hasBuffer isRoom isLeft isData known hasRoom isLess pending
          have bufferLength : (overwrite data 0 bytes).length = data.length := overwrite_length (by omega)
          rw [reads] at loops
          obtain ⟨enough, left⟩ := @inductionHypothesis s₁ (overwrite data 0 bytes) bytes.length
            (written + dataLen) (room - dataLen) (rem - dataLen) counts' { clientData with
              responseBuf := some responseBuf'
              retrieveLen := (rem - dataLen : Nat) } responseBuf'
            ⟨rfl, hasBuffer.2.trans (congrArg _ length.symm)⟩ (by omega) isMore rfl
            (bufferLength.trans isData) (by omega) loops
          have isRest : rem - dataLen - (room - dataLen) = rem - room := by omega
          rw [isPending, List.length_append]
          rw [isRest] at left
          exact ⟨by omega, left⟩
      · obtain ⟨responseBuf', _, _, ends⟩ := @responseBodyLoop_last _ transport s turns data dataLen
          written room rem counts clientData responseBuf hasBuffer isRoom isMore isLeft known more
        rw [ends] at loops
        cases loops
        exact ⟨by omega, rfl⟩

theorem httpGetResponseBody_moves {turns dataLen room rem : Nat} {data responseBuf : List UInt8}
    {timeoutMs : UInt32} {clientData : HttpClientData} (hasBuffer : HasBuffer clientData responseBuf)
    (isRoom : responseBuf.length = room + 1) (hasRoom : 0 < room) (isLeft : clientData.retrieveLen = rem)
    (announced : clientData.responseContentLen ≠ -1) (isData : data.length = httpClientReadBufSize)
    (known : dataLen ≤ data.length) (enough : min rem room ≤ dataLen + (network.pending s).length)
    (inTime : rem + 1 < turns) :
    ∃ responseBuf' s', httpGetResponseBody transport turns data dataLen timeoutMs clientData s =
        .ok (if rem < room then successRet else httpRetrieveMoreData,
          clientData.fill room rem responseBuf', s') ∧
      Moved network (data.take dataLen ++ network.pending s) dataLen 0 room rem responseBuf
        responseBuf' s' := by
  have kept := network.tick s
  obtain ⟨responseBuf', s', moves, moved⟩ := @responseBodyLoop_moves _ transport network turns data
    dataLen 0 room rem
    ⟨countdownMs transport.rtTickFromMillisecond (transport.tick s).1 timeoutMs, 0, 0⟩
    { clientData with isMore := true } responseBuf (transport.tick s).2 hasBuffer (by omega) hasRoom rfl
    isLeft isData known (by rw [kept]; exact enough) (by omega) (by omega)
  rw [kept] at moved
  refine ⟨responseBuf', s', ?_, moved⟩
  rw [httpGetResponseBody]
  dsimp only
  rw [if_neg fun unknown => announced unknown.1]
  exact moves

/-! ## The header -/

/-- The string in a buffer, as far as the buffer is known. -/
theorem Filled.cString_eq {data text : List UInt8} {offset : Nat} (filled : Filled data text)
    (within : offset ≤ text.length) :
    cStringAt data offset = .ok ((text.drop offset).takeWhile (· ≠ 0)) := by
  have string : cStringAt data offset = .ok ((data.drop offset).takeWhile (· ≠ 0)) := by
    obtain ⟨rest, rfl⟩ := filled
    rw [cStringAt, if_pos]
    rw [List.drop_append_of_le_length within]
    exact List.mem_append_right _ List.mem_cons_self
  rw [string, filled.cString within string]

theorem Filled.cString_zero {data text : List UInt8} (filled : Filled data text) :
    cStringAt data 0 = .ok (text.takeWhile (· ≠ 0)) := by
  have string := filled.cString_eq (Nat.zero_le _)
  rwa [List.drop_zero] at string

/-- The line of a status, and the lines of a header behind it. -/
structure HeaderFrame where
  status : List UInt8
  headers : List UInt8
  plainStatus : 0 ∉ status
  plain : 0 ∉ headers
  line : IsFirst crlf (status ++ crlf) status.length
  ends : IsFirst headerEnd (headers ++ headerEnd) headers.length

/-- What is behind the line of the status. -/
def HeaderFrame.behind (frame : HeaderFrame) : List UInt8 := frame.headers ++ headerEnd

def HeaderFrame.bytes (frame : HeaderFrame) : List UInt8 := frame.status ++ crlf ++ frame.behind

theorem HeaderFrame.bytes_length (frame : HeaderFrame) :
    frame.bytes.length = frame.status.length + 2 + frame.behind.length := by
  rw [bytes, List.length_append, List.length_append]
  rfl

theorem HeaderFrame.behind_length (frame : HeaderFrame) : frame.behind.length = frame.headers.length + 4 := by
  rw [behind, List.length_append]
  rfl

theorem HeaderFrame.plain_behind (frame : HeaderFrame) : ∀ byte ∈ frame.behind, decide (byte ≠ 0) = true := by
  intro byte among
  rw [decide_eq_true_eq]
  rintro rfl
  rcases List.mem_append.mp among with among | among
  · exact frame.plain among
  · exact absurd among (by decide)

/-- The end of the header is found where it has come, and only there. -/
theorem HeaderFrame.strstr_eq (frame : HeaderFrame) {text pending rest : List UInt8}
    (isBehind : text ++ pending = frame.behind ++ rest) :
    strstr headerEnd (text.takeWhile (· ≠ 0)) =
      if frame.behind.length ≤ text.length then some frame.headers.length else none := by
  split
  · rename_i come
    rw [strstr_iff]
    obtain ⟨front, rfl⟩ : frame.behind <+: text := by
      apply List.prefix_of_prefix_length_le _ (isBehind ▸ List.prefix_append text pending) come
      exact List.prefix_append _ rest
    rw [List.takeWhile_append_of_pos frame.plain_behind]
    exact frame.ends.append _
  · rename_i missing
    cases found : strstr headerEnd (text.takeWhile (· ≠ 0)) with
    | none => rfl
    | some i =>
        obtain ⟨_, front, rfl, _⟩ :=
          frame.ends.splits isBehind (List.takeWhile_prefix _) (strstr_iff.mp found)
        exact absurd (List.prefix_append _ front).length_le missing

/-- The line of the status ends where it has come, and only there. -/
theorem HeaderFrame.crlf_eq (frame : HeaderFrame) {text pending rest : List UInt8}
    (isBytes : text ++ pending = frame.bytes ++ rest) :
    strstr crlf (text.takeWhile (· ≠ 0)) =
      if frame.status.length + 2 ≤ text.length then some frame.status.length else none := by
  have isLine : text ++ pending = frame.status ++ crlf ++ (frame.behind ++ rest) := by
    rw [isBytes, HeaderFrame.bytes, List.append_assoc]
  have isEnd : frame.status.length + 2 = (frame.status ++ crlf).length := by
    rw [List.length_append]
    rfl
  rw [isEnd]
  split
  · rename_i come
    rw [strstr_iff]
    obtain ⟨front, rfl⟩ : frame.status ++ crlf <+: text := by
      apply List.prefix_of_prefix_length_le _ (isLine ▸ List.prefix_append text pending) come
      exact List.prefix_append _ _
    have plain : ∀ byte ∈ frame.status ++ crlf, decide (byte ≠ 0) = true := by
      intro byte among
      rw [decide_eq_true_eq]
      rintro rfl
      rcases List.mem_append.mp among with among | among
      · exact frame.plainStatus among
      · exact absurd among (by decide)
    rw [List.takeWhile_append_of_pos plain]
    exact frame.line.append _
  · rename_i missing
    cases found : strstr crlf (text.takeWhile (· ≠ 0)) with
    | none => rfl
    | some i =>
        obtain ⟨_, front, rfl, _⟩ :=
          frame.line.splits isLine (List.takeWhile_prefix _) (strstr_iff.mp found)
        exact absurd (List.prefix_append _ front).length_le missing

/-- How many bytes the reads of a header bring beyond its `size` bytes, of which `got` have
come. -/
def readAhead (transport : Transport ν) : Nat → Nat → Nat → ν → Nat
  | 0, size, got, _ => got - size
  | turns + 1, size, got, s =>
      if size ≤ got then got - size
      else
        let (ret, _, s) := transport.read s httpClientReadHeadSize
        readAhead transport turns size (got + ret.toNat) s

theorem readAhead_come {turns size got : Nat} (come : size ≤ got) :
    readAhead transport turns size got s = got - size := by
  cases turns with
  | zero => rfl
  | succ turns => rw [readAhead, if_pos come]

theorem readAhead_read {turns size got n : Nat} {bytes : List UInt8} {s' : ν} (missing : got < size)
    (reads : transport.read s httpClientReadHeadSize = ((n : Int), bytes, s')) :
    readAhead transport (turns + 1) size got s = readAhead transport turns size (got + n) s' := by
  rw [readAhead, if_neg (Nat.not_le.mpr missing), reads]
  rfl

/-- What has come is not more than what is there in the end. -/
theorem le_readAhead {turns size got : Nat} : got ≤ size + readAhead transport turns size got s := by
  induction turns generalizing got s with
  | zero =>
      rw [readAhead]
      omega
  | succ turns inductionHypothesis =>
      rw [readAhead]
      split
      · omega
      · exact Nat.le_trans (Nat.le_add_right _ _) inductionHypothesis

/-- Bytes that are read behind others, and a terminator behind them. -/
theorem stores_behind (text : List UInt8) {behind bytes : List UInt8} (room : bytes.length ≤ behind.length) :
    ∃ data, store (text ++ 0 :: behind) text.length bytes = .ok data ∧
      store data (text.length + bytes.length) [0] =
        .ok (text ++ bytes ++ 0 :: behind.drop bytes.length) := by
  have first := @store_eq (text ++ 0 :: behind) bytes text.length
    (by rw [List.length_append, List.length_cons]; omega)
  rw [overwrite_append] at first
  have isEnd : text.length + bytes.length = (text ++ bytes).length := List.length_append.symm
  have second := @store_eq (text ++ bytes ++ (0 :: behind).drop bytes.length) [0]
    (text.length + bytes.length)
    (by simp only [List.length_append, List.length_drop, List.length_cons, List.length_nil]; omega)
  refine ⟨_, first, ?_⟩
  rw [second, isEnd, overwrite_append, List.append_assoc (text ++ bytes)]
  rw [List.length_singleton, List.drop_drop, Nat.add_comm bytes.length, ← List.drop_drop,
    List.drop_one, List.tail_cons]
  rfl

/-- Without room for them and the terminator, one of the two is stored outside. -/
theorem stores_outside (text : List UInt8) {behind bytes : List UInt8} (long : behind.length < bytes.length) :
    (store (text ++ 0 :: behind) text.length bytes).bind
      (fun data => store data (text.length + bytes.length) [0]) = .error .outside := by
  by_cases last : bytes.length = behind.length + 1
  · rw [@store_eq (text ++ 0 :: behind) bytes text.length
      (by rw [List.length_append, List.length_cons]; omega)]
    dsimp only [Except.bind]
    rw [store, if_neg]
    rw [overwrite_length (by rw [List.length_append, List.length_cons]; omega), List.length_append,
      List.length_singleton, List.length_cons]
    omega
  · rw [store, if_neg (by rw [List.length_append, List.length_cons]; omega)]
    rfl

/-- It does not depend on what is in front, nor on how many reads there may be. -/
theorem readAhead_shift (line : Nat) {size got fuel fuel' : Nat}
    (enough : size ≤ got + (network.pending s).length)
    (inTime : size ≤ fuel + got) (inTime' : size ≤ fuel' + got) :
    readAhead transport fuel (line + size) (line + got) s = readAhead transport fuel' size got s := by
  induction fuel generalizing fuel' got s with
  | zero =>
      rw [readAhead, readAhead_come (by omega)]
      omega
  | succ fuel inductionHypothesis =>
      by_cases come : size ≤ got
      · rw [readAhead_come (by omega), readAhead_come come]
        omega
      · obtain ⟨fuel', rfl⟩ : ∃ less, fuel' = less + 1 := ⟨fuel' - 1, by omega⟩
        have pending : network.pending s ≠ [] := by
          rw [← List.length_pos_iff]
          omega
        obtain ⟨bytes, _, some, _, isCount, isPending⟩ :=
          httpRecv_prompt network pending (show 0 < httpClientReadHeadSize by decide)
        have lengths := congrArg List.length isPending
        rw [List.length_append] at lengths
        have more : size ≤ got + bytes.length +
            (network.pending (transport.read s httpClientReadHeadSize).2.2).length := by omega
        rw [readAhead, readAhead, if_neg (by omega), if_neg come]
        dsimp only
        rw [isCount, Nat.add_assoc]
        exact inductionHypothesis more (by omega) (by omega)

/-- The loop reads on until the header has come, if there is room for what the reads bring. -/
theorem headerLoop_frame (frame : HeaderFrame) {turns ahead : Nat} {text stale rest : List UInt8}
    (size : text.length + stale.length + 1 = httpClientReadBufSize)
    (isBehind : text ++ network.pending s = frame.behind ++ rest) (positive : 0 < turns)
    (inTime : frame.behind.length < turns + text.length)
    (isAhead : readAhead transport turns frame.behind.length text.length s = ahead) :
    (frame.behind.length + ahead < httpClientReadBufSize ∧ ∃ s', ahead ≤ rest.length ∧
      network.pending s' = rest.drop ahead ∧
      headerLoop transport turns (text ++ 0 :: stale) text.length s =
        .ok (successRet, frame.headers.length, frame.behind ++ rest.take ahead ++
          0 :: stale.drop (frame.behind.length + ahead - text.length),
          frame.behind.length + ahead, s')) ∨
    httpClientReadBufSize ≤ frame.behind.length + ahead ∧
      headerLoop transport turns (text ++ 0 :: stale) text.length s = .error .outside := by
  induction turns generalizing text stale s with
  | zero => exact absurd positive (Nat.lt_irrefl 0)
  | succ turns inductionHypothesis =>
      have filled : Filled (text ++ 0 :: stale) text := ⟨stale, rfl⟩
      have string := filled.cString_zero
      have found := frame.strstr_eq isBehind
      rw [headerLoop, string]
      dsimp only [bind, Except.bind]
      rw [found]
      by_cases come : frame.behind.length ≤ text.length
      · obtain ⟨front, rfl⟩ : frame.behind <+: text := by
          apply List.prefix_of_prefix_length_le _ (isBehind ▸ List.prefix_append text _) come
          exact List.prefix_append _ rest
        rw [List.append_assoc] at isBehind
        obtain rfl := List.append_cancel_left isBehind
        rw [readAhead_come come, List.length_append, Nat.add_sub_cancel_left] at isAhead
        subst isAhead
        rw [List.length_append] at size
        refine .inl ⟨by omega, s, ?_, ?_, ?_⟩
        · rw [List.length_append]
          omega
        · rw [List.drop_left]
        · rw [if_pos come, List.take_left, List.length_append, Nat.sub_self]
          rfl
      · have pending : network.pending s ≠ [] := by
          intro none
          have lengths := congrArg List.length isBehind
          rw [none, List.append_nil, List.length_append] at lengths
          omega
        obtain ⟨bytes, recv, some, within, isCount, isPending⟩ :=
          httpRecv_prompt network pending (show 0 < httpClientReadHeadSize by decide)
        have isEnd : text.length + bytes.length = (text ++ bytes).length := List.length_append.symm
        rw [readAhead, if_neg come] at isAhead
        dsimp only at isAhead
        rw [isCount, isEnd] at isAhead
        have least := @le_readAhead _ transport (transport.read s httpClientReadHeadSize).2.2 turns
          frame.behind.length (text ++ bytes).length
        rw [isAhead, ← isEnd] at least
        rw [if_neg come, recv]
        dsimp only
        by_cases room : bytes.length ≤ stale.length
        · obtain ⟨data, stores, terminates⟩ := stores_behind text room
          have reads := @inductionHypothesis
            (transport.read s httpClientReadHeadSize).2.2 (text ++ bytes) (stale.drop bytes.length)
            (by rw [List.length_append, List.length_drop]; omega)
            (by rw [List.append_assoc, ← isPending, isBehind]) (by omega) (by rw [← isEnd]; omega) isAhead
          have isStale : bytes.length + (frame.behind.length + ahead - (text ++ bytes).length) =
              frame.behind.length + ahead - text.length := by
            rw [← isEnd]
            omega
          rw [List.drop_drop, isStale] at reads
          rw [stores]
          dsimp only
          rw [if_neg (by decide), terminates, isEnd]
          exact reads
        · have outside := stores_outside text (Nat.not_le.mp room)
          refine .inr ⟨by omega, ?_⟩
          cases stores : store (text ++ 0 :: stale) text.length bytes with
          | error fault =>
              rw [stores] at outside
              cases outside
              rfl
          | ok data =>
              rw [stores] at outside
              dsimp only [Except.bind] at outside ⊢
              rw [if_neg (by decide), outside]

theorem drop_overwrite {buf : List UInt8} {offset i : Nat} {byte : UInt8} (within : offset < buf.length)
    (behind : offset < i) : (overwrite buf offset [byte]).drop i = buf.drop i := by
  have front : (buf.take offset ++ [byte]).length = offset + 1 := by
    rw [List.length_append, List.length_take_of_le within.le]
    rfl
  have split : i = offset + 1 + (i - (offset + 1)) := by omega
  rw [overwrite, List.length_singleton, split, ← List.drop_drop, List.drop_left' front, List.drop_drop]

theorem moveToFront_eq {data : List UInt8} {offset count : Nat} (within : offset + count ≤ data.length) :
    ∃ data', moveToFront data offset count = .ok data' ∧ data'.length = data.length := by
  have short : 0 + ((data.drop offset).take count).length ≤ data.length := by
    rw [List.length_take, List.length_drop]
    omega
  refine ⟨overwrite data 0 ((data.drop offset).take count), ?_, overwrite_length short⟩
  rw [moveToFront, if_pos within]
  exact store_eq short

/-- What is behind the bytes that are moved stays. -/
theorem moveToFront_drop {data data' : List UInt8} {offset count : Nat}
    (moved : moveToFront data offset count = .ok data') : data'.drop count = data.drop count := by
  rw [moveToFront] at moved
  split at moved
  · rename_i within
    obtain ⟨_, rfl⟩ := store_ok moved
    have length : ((data.drop offset).take count).length = count := by
      rw [List.length_take, List.length_drop]
      omega
    rw [overwrite_zero, List.drop_left' length, length]
  · cases moved

/-- A buffer with the bytes behind the line of a status, and behind these with what is left of the
first read. -/
def HeaderFrame.buffer (frame : HeaderFrame) (data text : List UInt8) : List UInt8 :=
  text ++ 0 :: (overwrite data frame.status.length [0]).drop (text.length + 1)

section Buffer

variable (frame : HeaderFrame) {data text : List UInt8}

theorem HeaderFrame.buffer_filled : Filled (frame.buffer data text) text := ⟨_, rfl⟩

theorem HeaderFrame.buffer_length (fits : text.length < data.length)
    (line : frame.status.length < data.length) : (frame.buffer data text).length = data.length := by
  have isCut : (overwrite data frame.status.length [0]).length = data.length :=
    overwrite_length (by rw [List.length_singleton]; omega)
  rw [buffer, List.length_append, List.length_cons, List.length_drop, isCut]
  omega

end Buffer

/-- Behind the line of the status, the loop reads on, and then the length of the content is looked
for. -/
theorem httpParseResponseHeader_frame (frame : HeaderFrame) {turns ahead : Nat} {client : HttpClient}
    {data text rest : List UInt8} {timeoutMs : UInt32} {clientData : HttpClientData}
    (filled : Filled data text) (isData : data.length = httpClientReadBufSize)
    (zeros : data.drop (httpClientReadHeadSize + 1) =
      List.replicate (httpClientReadBufSize - (httpClientReadHeadSize + 1)) 0)
    (short : text.length ≤ httpClientReadHeadSize)
    (isBytes : text ++ network.pending s = frame.bytes ++ rest)
    (come : frame.status.length + 2 ≤ text.length) (inTime : frame.bytes.length < turns)
    (isAhead : readAhead transport frame.bytes.length frame.bytes.length text.length s = ahead) :
    ∃ code, (9 ≤ frame.status.length → code = atoi (frame.status.drop 9)) ∧
      ((frame.behind.length + ahead < httpClientReadBufSize ∧ ∃ s', ahead ≤ rest.length ∧
        network.pending s' = rest.drop ahead ∧
        httpParseResponseHeader transport turns client data text.length timeoutMs clientData s =
          (parseContent transport turns frame.headers.length
            (frame.buffer data (frame.behind ++ rest.take ahead)) (frame.behind.length + ahead) timeoutMs
            { clientData with responseContentLen := -1, isChunked := false } s').bind
              fun result => .ok (result.1, { client with responseCode := code }, result.2)) ∨
      httpClientReadBufSize ≤ frame.behind.length + ahead ∧
        httpParseResponseHeader transport turns client data text.length timeoutMs clientData s =
          .error .outside) := by
  have size : httpClientReadHeadSize = 32 := rfl
  have bufSize : httpClientReadBufSize = 1024 := rfl
  have headSize := frame.bytes_length
  have string := filled.cString_zero
  have found := frame.crlf_eq isBytes
  rw [if_pos come] at found
  have isEnd : frame.status.length + 2 = (frame.status ++ crlf).length := by
    rw [List.length_append]
    rfl
  have isLine : text ++ network.pending s = frame.status ++ crlf ++ (frame.behind ++ rest) := by
    rw [isBytes, HeaderFrame.bytes, List.append_assoc]
  obtain ⟨front, rfl⟩ : frame.status ++ crlf <+: text := by
    apply List.prefix_of_prefix_length_le _ (isLine ▸ List.prefix_append text _) (isEnd ▸ come)
    exact List.prefix_append _ _
  have isText : (frame.status ++ crlf ++ front).length = frame.status.length + 2 + front.length := by
    rw [isEnd, List.length_append]
  have stores := @store_eq data [0] frame.status.length (by rw [List.length_singleton]; omega)
  have isCut : (overwrite data frame.status.length [0]).length = data.length :=
    overwrite_length (by rw [List.length_singleton]; omega)
  have cutZeros := zeros
  rw [← @drop_overwrite data frame.status.length _ 0 (by omega) (by omega)] at cutZeros
  have ends : 0 ∈ (overwrite data frame.status.length [0]).drop 9 := by
    have among : (0 : UInt8) ∈ (overwrite data frame.status.length [0]).drop (9 + 24) :=
      cutZeros ▸ List.mem_replicate.mpr ⟨by decide, rfl⟩
    rw [← List.drop_drop] at among
    exact List.mem_of_mem_drop among
  have isStatus : 9 ≤ frame.status.length →
      ((overwrite data frame.status.length [0]).drop 9).takeWhile (· ≠ 0) = frame.status.drop 9 := by
    intro long
    obtain ⟨tail, rfl⟩ := filled
    rw [List.append_assoc, List.append_assoc, overwrite_append, List.append_assoc,
      List.drop_append_of_le_length long, List.takeWhile_append_of_pos]
    · rw [List.singleton_append, List.takeWhile_cons_of_neg (by decide), List.append_nil]
    · intro byte among
      rw [decide_eq_true_eq]
      rintro rfl
      exact frame.plainStatus (List.mem_of_mem_drop among)
  obtain ⟨data₂, moves, isData₂⟩ := @moveToFront_eq (overwrite data frame.status.length [0])
    (frame.status.length + 2) ((frame.status ++ crlf ++ front).length - (frame.status.length + 2) + 1)
    (by omega)
  have behindMoved := moveToFront_drop moves
  obtain ⟨stale, rfl⟩ : Filled data₂ front := filled.behindLine stores moves
  have isLength : (frame.status ++ crlf ++ front).length - (frame.status.length + 2) = front.length := by
    rw [isText, Nat.add_sub_cancel_left]
  rw [List.append_assoc] at isLine
  have isBehind : front ++ network.pending s = frame.behind ++ rest := List.append_cancel_left isLine
  have room : front.length + stale.length + 1 = httpClientReadBufSize := by
    rw [isCut, isData, List.length_append, List.length_cons] at isData₂
    omega
  have isStale : stale = (overwrite data frame.status.length [0]).drop (front.length + 1) := by
    rw [isLength] at behindMoved
    rw [← behindMoved, ← List.drop_drop, List.drop_left]
    rfl
  have enough : frame.behind.length ≤ front.length + (network.pending s).length := by
    have lengths := congrArg List.length isBehind
    rw [List.length_append, List.length_append] at lengths
    omega
  rw [headSize, isText, readAhead_shift network _ enough (by omega)
    (show frame.behind.length ≤ turns + front.length by omega)] at isAhead
  refine ⟨atoi (((overwrite data frame.status.length [0]).drop 9).takeWhile (· ≠ 0)),
    fun long => congrArg atoi (isStatus long), ?_⟩
  rw [httpParseResponseHeader, string]
  dsimp only [bind, Except.bind]
  rw [found]
  dsimp only
  rw [stores]
  dsimp only
  rw [cStringAt, if_pos ends]
  dsimp only
  rw [moves, isLength]
  dsimp only
  rcases headerLoop_frame network frame room isBehind (show 0 < turns by omega) (by omega) isAhead with
    ⟨fits, s', within, isPending, loops⟩ | ⟨overruns, loops⟩
  · have least := @le_readAhead _ transport s turns frame.behind.length front.length
    rw [isAhead] at least
    have isCount : front.length + 1 + (frame.behind.length + ahead - front.length) =
        (frame.behind ++ rest.take ahead).length + 1 := by
      rw [List.length_append, List.length_take_of_le within]
      omega
    refine .inl ⟨fits, s', within, isPending, ?_⟩
    rw [loops, isStale, List.drop_drop, isCount]
    rfl
  · rw [loops]
    exact .inr ⟨overruns, rfl⟩

/-! ### With a length -/

/-- A header in the form that is parsed, with any number as the length of the content. -/
structure Head (n : Int) where
  status : List UInt8
  headers : List UInt8
  plainStatus : 0 ∉ status
  plain : 0 ∉ headers
  line : IsFirst crlf (status ++ crlf) status.length
  ends : IsFirst headerEnd (headers ++ headerEnd) headers.length
  /-- It is found before the buffer is full. -/
  fits : (headers ++ headerEnd).length + httpClientReadHeadSize ≤ httpClientReadBufSize
  length : ∃ i, IsFirst contentLength (headers ++ headerEnd) i ∧
    (signedDigits ((headers ++ headerEnd).drop (i + 16))).2 ≠ [] ∧
      atoi ((headers ++ headerEnd).drop (i + 16)) = n

variable {n : Int}

def Head.bytes (head : Head n) : List UInt8 := head.status ++ crlf ++ (head.headers ++ headerEnd)

def Head.frame (head : Head n) : HeaderFrame :=
  ⟨head.status, head.headers, head.plainStatus, head.plain, head.line, head.ends⟩

/-- The number in the header does not depend on what has come of the body. -/
theorem Head.number (head : Head n) {data front : List UInt8}
    (filled : Filled data (head.headers ++ headerEnd ++ front)) :
    ∃ i number, strstr contentLength ((head.headers ++ headerEnd ++ front).takeWhile (· ≠ 0)) = some i ∧
      cStringAt data (i + 16) = .ok number ∧ atoi number = n := by
  obtain ⟨i, first, digits, isLength⟩ := head.length
  have inside : i + 16 ≤ (head.headers ++ headerEnd ++ front).length := by
    by_contra outside
    rw [List.length_append] at outside
    rw [List.drop_of_length_le (by omega)] at digits
    exact digits rfl
  refine ⟨i, _, ?_, filled.cString_eq inside, ?_⟩
  · have plain := @List.takeWhile_append_of_pos _ _ head.frame.behind front head.frame.plain_behind
    rw [HeaderFrame.behind] at plain
    exact strstr_iff.mpr (plain ▸ first.append _)
  · rw [atoi_header head.plain digits filled (filled.cString_eq inside), isLength]

/-- What is known of a response when its header has come. -/
def HttpClientData.announce (clientData : HttpClientData) (n : Int) (ahead : Nat) : HttpClientData :=
  { clientData with
    isMore := true
    isChunked := false
    responseContentLen := n
    retrieveLen := n
    responseReceivedLen := clientData.responseReceivedLen + ahead }

/-- Behind a header with a number, the body is read. -/
theorem parseContent_number {bodyEnd i : Nat} {data text number : List UInt8} {timeoutMs : UInt32}
    {clientData : HttpClientData} (filled : Filled data text) (within : bodyEnd + 4 ≤ text.length)
    (named : strstr contentLength (text.takeWhile (· ≠ 0)) = some i)
    (isNumber : cStringAt data (i + 16) = .ok number) (isMore : clientData.isMore = true)
    (notChunked : clientData.isChunked = false) :
    ∃ data', Filled data' (text.drop (bodyEnd + 4)) ∧ data'.length = data.length ∧ ∀ turns,
      parseContent transport turns bodyEnd data text.length timeoutMs clientData s =
        httpGetResponseBody transport turns data' (text.length - (bodyEnd + 4)) timeoutMs
          (clientData.announce (atoi number) (text.length - (bodyEnd + 4))) s := by
  have string := filled.cString_zero
  have room : text.length + 1 ≤ data.length := by
    obtain ⟨rest, rfl⟩ := filled
    rw [List.length_append, List.length_cons]
    omega
  obtain ⟨data', moves, length⟩ := @moveToFront_eq data (bodyEnd + 4)
    (text.length - (bodyEnd + 4) + 1) (by omega)
  refine ⟨data', filled.moveToFront within moves, length, fun turns => ?_⟩
  have sixteen : (literal "Content-Length: ").length = 16 := by decide
  rw [parseContent, string]
  dsimp only [bind, Except.bind]
  rw [named]
  dsimp only
  rw [sixteen, isNumber]
  dsimp only
  rw [moves]
  dsimp only
  rw [HttpClientData.announce, isMore, notChunked]

theorem parseContent_eq (head : Head n) {turns : Nat} {data front : List UInt8} {timeoutMs : UInt32}
    {clientData : HttpClientData} (filled : Filled data (head.headers ++ headerEnd ++ front))
    (isData : data.length = httpClientReadBufSize) (isMore : clientData.isMore = true)
    (notChunked : clientData.isChunked = false) :
    ∃ data', Filled data' front ∧ data'.length = httpClientReadBufSize ∧
      parseContent transport turns head.headers.length data (head.headers ++ headerEnd ++ front).length
        timeoutMs clientData s =
      httpGetResponseBody transport turns data' front.length timeoutMs
        (clientData.announce n front.length) s := by
  obtain ⟨i, number, named, isNumber, isLength⟩ := head.number filled
  have isEnd : head.headers.length + 4 = (head.headers ++ headerEnd).length := by
    rw [List.length_append]
    rfl
  have isLeft : (head.headers ++ headerEnd ++ front).length - (head.headers.length + 4) =
      front.length := by
    rw [isEnd, List.length_append, Nat.add_sub_cancel_left]
  have within : head.headers.length + 4 ≤ (head.headers ++ headerEnd ++ front).length := by
    rw [isEnd]
    exact (List.prefix_append _ front).length_le
  obtain ⟨data', filled', length, parses⟩ := @parseContent_number _ transport s
    head.headers.length i data _ number timeoutMs clientData filled within named isNumber isMore notChunked
  rw [isEnd, List.drop_left] at filled'
  refine ⟨data', filled', length.trans isData, ?_⟩
  rw [parses, isLeft, isLength]

/-- How many bytes behind the header come with it. -/
def Head.ahead (head : Head n) (transport : Transport ν) (s : ν) : Nat :=
  readAhead transport head.bytes.length head.bytes.length 0 s

theorem Head.bytes_length (head : Head n) :
    head.bytes.length = head.status.length + 2 + (head.headers ++ headerEnd).length := by
  rw [Head.bytes, List.length_append, List.length_append]
  rfl

/-- Less than a read comes with a header. -/
theorem readAhead_lt (connection : Connection transport) {turns size got : Nat} {s : ν}
    (missing : got < size) : readAhead transport turns size got s < httpClientReadHeadSize := by
  have positive : 0 < httpClientReadHeadSize := by decide
  induction turns generalizing got s with
  | zero =>
      rw [readAhead]
      omega
  | succ turns inductionHypothesis =>
      have within : (transport.read s httpClientReadHeadSize).1.toNat ≤ httpClientReadHeadSize := by
        by_cases delivered : 0 < (transport.read s httpClientReadHeadSize).1
        · exact (connection.delivers s httpClientReadHeadSize delivered).1
        · omega
      rw [readAhead, if_neg (by omega)]
      generalize transport.read s httpClientReadHeadSize = result at within ⊢
      obtain ⟨ret, _, s'⟩ := result
      dsimp only at within ⊢
      by_cases come : size ≤ got + ret.toNat
      · rw [readAhead_come come]
        omega
      · exact inductionHypothesis (by omega)

theorem Head.ahead_lt (head : Head n) (connection : Connection transport) (s : ν) :
    head.ahead transport s < httpClientReadHeadSize := by
  have length := head.bytes_length
  exact readAhead_lt connection (by omega)

/-- A header whose first line comes with the first read is not long. -/
theorem Head.bytes_le (head : Head n) (connection : Connection transport)
    (come : head.status.length + 2 ≤ (transport.read s httpClientReadHeadSize).1.toNat) :
    head.bytes.length ≤ httpClientReadBufSize := by
  have fits := head.fits
  have length := head.bytes_length
  have within := (connection.delivers s httpClientReadHeadSize (by omega)).1
  omega

/-- The header is read, and then the body. -/
theorem httpParseResponseHeader_eq (head : Head n) {turns : Nat} {client : HttpClient}
    {data text rest : List UInt8} {timeoutMs : UInt32} {clientData : HttpClientData}
    (filled : Filled data text) (isData : data.length = httpClientReadBufSize)
    (zeros : data.drop (httpClientReadHeadSize + 1) =
      List.replicate (httpClientReadBufSize - (httpClientReadHeadSize + 1)) 0)
    (short : text.length ≤ httpClientReadHeadSize)
    (isMore : clientData.isMore = true) (isBytes : text ++ network.pending s = head.bytes ++ rest)
    (come : head.status.length + 2 ≤ text.length) (inTime : head.bytes.length < turns) :
    ∃ client' data' front s', client'.net = client.net ∧ client'.header = client.header ∧
      Filled data' front ∧ data'.length = httpClientReadBufSize ∧ front ++ network.pending s' = rest ∧
      (∀ fuel, head.bytes.length ≤ fuel + text.length →
        front.length = readAhead transport fuel head.bytes.length text.length s) ∧
      httpParseResponseHeader transport turns client data text.length timeoutMs clientData s =
        (httpGetResponseBody transport turns data' front.length timeoutMs
          (clientData.announce n front.length) s').bind
            fun result => .ok (result.1, client', result.2.1, result.2.2) := by
  have size : httpClientReadHeadSize = 32 := rfl
  have headSize : head.bytes.length = head.status.length + 2 + head.frame.behind.length := head.bytes_length
  have fits : head.frame.behind.length + httpClientReadHeadSize ≤ httpClientReadBufSize := head.fits
  obtain ⟨ahead, isAhead⟩ : ∃ ahead,
      readAhead transport head.bytes.length head.bytes.length text.length s = ahead := ⟨_, rfl⟩
  have few : ahead < httpClientReadHeadSize := by
    rw [← isAhead]
    by_cases missing : text.length < head.bytes.length
    · exact readAhead_lt network.toConnection missing
    · rw [readAhead_come (Nat.not_lt.mp missing)]
      omega
  have enough : head.bytes.length ≤ text.length + (network.pending s).length := by
    have lengths := congrArg List.length isBytes
    rw [List.length_append, List.length_append] at lengths
    omega
  obtain ⟨code, -, ⟨inBuffer, s', within, isPending, parses⟩ | ⟨overruns, -⟩⟩ :=
    @httpParseResponseHeader_frame _ _ network s head.frame turns ahead client data text rest timeoutMs
      clientData filled isData zeros short isBytes come inTime isAhead
  · have isFront : (rest.take ahead).length = ahead := List.length_take_of_le within
    have isSize : (head.frame.behind ++ rest.take ahead).length < data.length := by
      rw [List.length_append, isFront, isData]
      exact inBuffer
    have inLine : head.frame.status.length < data.length := by
      have size : httpClientReadHeadSize = 32 := rfl
      have bufSize : httpClientReadBufSize = 1024 := rfl
      have inText : head.frame.status.length + 2 ≤ text.length := come
      omega
    obtain ⟨data', filled', isData', content⟩ := @parseContent_eq _ transport s' _ head turns _
      (rest.take ahead) timeoutMs { clientData with responseContentLen := -1, isChunked := false }
      head.frame.buffer_filled ((head.frame.buffer_length isSize inLine).trans isData) isMore rfl
    refine ⟨{ client with responseCode := code }, data', rest.take ahead, s', rfl, rfl, filled', isData',
      ?_, ?_, ?_⟩
    · rw [isPending, List.take_append_drop]
    · intro fuel inTime'
      have shifted := readAhead_shift network 0 enough inTime'
        (show head.bytes.length ≤ head.bytes.length + text.length by omega)
      rw [Nat.zero_add, Nat.zero_add, isAhead] at shifted
      exact isFront.trans shifted.symm
    · rw [List.length_append, isFront] at content
      rw [isFront]
      exact parses.trans (congrArg (Except.bind · _) content)
  · omega

/-! ## Calls -/

/-- A call that has a response ends: a connection with a response that failed is closed. -/
def endCall (transport : Transport ν) (client : HttpClient) :
    Int × HttpClientData × ν → Outcome (Int × HttpClient × HttpClientData × ν)
  | (rc, clientData, s) =>
      if rc < 0 then
        let (client, s) := httpClientClose transport client s
        .ok (rc, client, clientData, s)
      else .ok (successRet, client, clientData, s)

/-- The buffer of the header behind the first read. -/
def headBuffer (text : List UInt8) : List UInt8 :=
  text ++ List.replicate (httpClientReadBufSize - text.length) 0

section HeadBuffer

variable {text : List UInt8}

theorem headBuffer_length (short : text.length ≤ httpClientReadHeadSize) :
    (headBuffer text).length = httpClientReadBufSize := by
  have size : httpClientReadHeadSize = 32 := rfl
  have bufSize : httpClientReadBufSize = 1024 := rfl
  rw [headBuffer, List.length_append, List.length_replicate]
  omega

theorem headBuffer_filled (short : text.length ≤ httpClientReadHeadSize) :
    Filled (headBuffer text) text := by
  have size : httpClientReadHeadSize = 32 := rfl
  have bufSize : httpClientReadBufSize = 1024 := rfl
  obtain ⟨n, isRest⟩ : ∃ n, httpClientReadBufSize - text.length = n + 1 :=
    ⟨httpClientReadBufSize - text.length - 1, by omega⟩
  exact ⟨List.replicate n 0, by rw [headBuffer, isRest, List.replicate_succ]⟩

theorem headBuffer_zeros (short : text.length ≤ httpClientReadHeadSize) :
    (headBuffer text).drop (httpClientReadHeadSize + 1) =
      List.replicate (httpClientReadBufSize - (httpClientReadHeadSize + 1)) 0 := by
  have size : httpClientReadHeadSize = 32 := rfl
  have bufSize : httpClientReadBufSize = 1024 := rfl
  rw [headBuffer, List.drop_append, List.drop_of_length_le (by omega), List.nil_append,
    List.drop_replicate]
  congr 1
  omega

end HeadBuffer

/-- What the first read brings is in the buffer of the header. -/
theorem recvHead_eq {turns : Nat} {client : HttpClient} {timeoutMs : UInt32}
    {clientData : HttpClientData} (connected : client.net.handle ≠ .zero)
    (fresh : clientData.isMore = false) (more : network.pending s ≠ []) :
    ∃ text : List UInt8, text.length ≤ httpClientReadHeadSize ∧
      (transport.read s httpClientReadHeadSize).1.toNat = text.length ∧
      text ++ network.pending (transport.read s httpClientReadHeadSize).2.2 = network.pending s ∧
      httpClientRecvResponse transport turns client timeoutMs clientData s =
        httpParseResponseHeader transport turns client (headBuffer text) text.length timeoutMs
          { clientData with isMore := true } (transport.read s httpClientReadHeadSize).2.2 := by
  have size : httpClientReadHeadSize = 32 := rfl
  have bufSize : httpClientReadBufSize = 1024 := rfl
  obtain ⟨bytes, recv, positive, within, isCount, isPending⟩ :=
    httpRecv_prompt network more (show 0 < httpClientReadHeadSize by decide)
  have stores := @store_eq (List.replicate httpClientReadBufSize 0) bytes 0
    (by rw [List.length_replicate]; omega)
  rw [overwrite_zero, List.drop_replicate] at stores
  have isBuf := headBuffer_length within
  obtain ⟨rest, isRest⟩ := headBuffer_filled within
  -- The terminator is there already.
  have terminates : store (headBuffer bytes) bytes.length [0] = .ok (headBuffer bytes) := by
    rw [store_eq (by rw [isBuf, List.length_singleton]; omega), isRest, overwrite_append,
      List.append_assoc]
    rfl
  refine ⟨bytes, within, isCount, isPending.symm, ?_⟩
  rw [httpClientRecvResponse]
  dsimp only [bind, Except.bind]
  rw [if_neg connected, if_neg (by rw [fresh]; exact Bool.false_ne_true), recv]
  dsimp only
  rw [stores]
  dsimp only
  rw [headBuffer] at terminates
  rw [if_neg (not_not.mpr rfl), terminates]
  dsimp only
  rw [if_pos (Nat.ne_of_gt positive)]
  rfl

variable {turns : Nat} {client : HttpClient} {timeoutMs : UInt32} {clientData : HttpClientData}
  {responseBuf rest : List UInt8}

/-- A call that reads the header goes on with the body, of which the header brings some. -/
theorem httpClientRecvData_head (head : Head n) (connected : client.net.handle ≠ .zero)
    (hasBuffer : HasBuffer clientData responseBuf) (notEmpty : responseBuf ≠ [])
    (fresh : clientData.isMore = false) (isBytes : network.pending s = head.bytes ++ rest)
    (come : head.status.length + 2 ≤ (transport.read s httpClientReadHeadSize).1.toNat)
    (inTime : head.bytes.length < turns) :
    ∃ client' data' front s', client'.net = client.net ∧ client'.header = client.header ∧
      Filled data' front ∧ data'.length = httpClientReadBufSize ∧ front ++ network.pending s' = rest ∧
      front.length = head.ahead transport s ∧
      httpClientRecvData transport turns client timeoutMs clientData s =
        (httpGetResponseBody transport turns data' front.length timeoutMs
          (clientData.announce n front.length) s').bind (endCall transport client') := by
  have headSize := head.bytes_length
  have more : network.pending s ≠ [] := by
    intro none
    have lengths := congrArg List.length isBytes
    rw [none, List.length_append, List.length_nil] at lengths
    omega
  obtain ⟨text, short, isCount, isPending, receives⟩ :=
    @recvHead_eq _ _ network s turns client timeoutMs clientData connected fresh more
  obtain ⟨client', data', front, s', sameNet, sameHeader, filled', isData', isRest, ahead, parses⟩ :=
    @httpParseResponseHeader_eq _ _ network _ _ head turns client (headBuffer text) text rest timeoutMs
      { clientData with isMore := true } (headBuffer_filled short) (headBuffer_length short)
      (headBuffer_zeros short) short rfl (isPending.trans isBytes) (isCount ▸ come) inTime
  refine ⟨client', data', front, s', sameNet, sameHeader, filled', isData', isRest, ?_, ?_⟩
  · obtain ⟨turns, isSize⟩ : ∃ turns, head.bytes.length = turns + 1 :=
      ⟨head.bytes.length - 1, by omega⟩
    have isAhead := ahead turns (by omega)
    rw [Head.ahead, isAhead, isSize, readAhead, if_neg (by omega)]
    dsimp only
    rw [isCount, Nat.zero_add]
  · have hasRoom : clientData.responseBuf.isSome ∧ clientData.responseBufLen ≠ 0 := by
      rw [hasBuffer.1, hasBuffer.2]
      have positive := List.length_pos_iff.mpr notEmpty
      exact ⟨rfl, by omega⟩
    have same : { clientData with isMore := true }.announce n front.length =
        clientData.announce n front.length := rfl
    rw [httpClientRecvData, if_pos hasRoom, receives, parses, same]
    generalize httpGetResponseBody transport turns data' front.length timeoutMs
      (clientData.announce n front.length) s' = body
    cases body with
    | error fault => rfl
    | ok result => rfl

/-- Where the first read does not bring the line of the status, the response is not read. -/
theorem httpClientRecvResponse_cut (frame : HeaderFrame) (connected : client.net.handle ≠ .zero)
    (fresh : clientData.isMore = false) (isBytes : network.pending s = frame.bytes ++ rest)
    (cut : (transport.read s httpClientReadHeadSize).1.toNat < frame.status.length + 2) :
    httpClientRecvResponse transport turns client timeoutMs clientData s =
      .ok (errHttpUnresolvedDns, client, { clientData with isMore := true, responseContentLen := -1 },
        (transport.read s httpClientReadHeadSize).2.2) := by
  have headSize := frame.bytes_length
  have more : network.pending s ≠ [] := by
    intro none
    have lengths := congrArg List.length isBytes
    rw [none, List.length_append, List.length_nil] at lengths
    omega
  obtain ⟨text, short, isCount, isPending, receives⟩ :=
    @recvHead_eq _ _ network s turns client timeoutMs clientData connected fresh more
  have string := (headBuffer_filled short).cString_zero
  have missing := frame.crlf_eq (isPending.trans isBytes)
  rw [if_neg (Nat.not_le.mpr (isCount ▸ cut))] at missing
  rw [receives, httpParseResponseHeader, string]
  dsimp only [bind, Except.bind]
  rw [missing]
  rfl

/-- Then the connection is closed. -/
theorem httpClientRecvData_cut (head : Head n) (connected : client.net.handle ≠ .zero)
    (hasBuffer : HasBuffer clientData responseBuf) (notEmpty : responseBuf ≠ [])
    (fresh : clientData.isMore = false) (isBytes : network.pending s = head.bytes ++ rest)
    (cut : (transport.read s httpClientReadHeadSize).1.toNat < head.status.length + 2) :
    ∃ client' clientData' s', client'.net.handle = .zero ∧
      httpClientRecvData transport turns client timeoutMs clientData s =
        .ok (errHttpUnresolvedDns, client', clientData', s') := by
  have hasRoom : clientData.responseBuf.isSome ∧ clientData.responseBufLen ≠ 0 := by
    rw [hasBuffer.1, hasBuffer.2]
    have positive := List.length_pos_iff.mpr notEmpty
    exact ⟨rfl, by omega⟩
  refine ⟨(httpClientClose transport client (transport.read s httpClientReadHeadSize).2.2).1,
    { clientData with isMore := true, responseContentLen := -1 },
    (httpClientClose transport client (transport.read s httpClientReadHeadSize).2.2).2, rfl, ?_⟩
  rw [httpClientRecvData, if_pos hasRoom,
    httpClientRecvResponse_cut network head.frame connected fresh isBytes cut]
  dsimp only [bind, Except.bind, pure, Except.pure]
  rw [if_pos (by decide)]

/-- A call for more goes on with the body. -/
theorem httpClientRecvData_more (connected : client.net.handle ≠ .zero)
    (hasBuffer : HasBuffer clientData responseBuf) (notEmpty : responseBuf ≠ [])
    (isMore : clientData.isMore = true) :
    ∃ data responseBuf', data.length = httpClientReadBufSize ∧ responseBuf'.length = responseBuf.length ∧
      httpClientRecvData transport turns client timeoutMs clientData s =
        (httpGetResponseBody transport turns data 0 timeoutMs
          { clientData with responseBuf := some responseBuf' } s).bind (endCall transport client) := by
  have positive := List.length_pos_iff.mpr notEmpty
  have stores := @store_eq responseBuf [0] 0 (by rw [List.length_singleton]; omega)
  have hasRoom : clientData.responseBuf.isSome ∧ clientData.responseBufLen ≠ 0 := by
    rw [hasBuffer.1, hasBuffer.2]
    exact ⟨rfl, by omega⟩
  refine ⟨List.replicate httpClientReadBufSize 0, overwrite responseBuf 0 [0], List.length_replicate,
    overwrite_length (by rw [List.length_singleton]; omega), ?_⟩
  rw [httpClientRecvData, if_pos hasRoom, httpClientRecvResponse, if_neg connected, if_pos isMore,
    hasBuffer.1, Option.getD_some, stores]
  dsimp only [bind, Except.bind]
  generalize httpGetResponseBody transport turns (List.replicate httpClientReadBufSize 0) 0 timeoutMs
      { clientData with responseBuf := some (overwrite responseBuf 0 [0]) } s = body
  cases body with
  | error fault => rfl
  | ok result => rfl

theorem endCall_ok {rc : Int} (notNegative : 0 ≤ rc) :
    endCall transport client (rc, clientData, s) = .ok (successRet, client, clientData, s) := by
  rw [endCall, if_neg (Int.not_lt.mpr notNegative)]

theorem moved_code (room rem : Nat) : 0 ≤ if rem < room then successRet else httpRetrieveMoreData := by
  split <;> decide

variable {room rem : Nat}

/-- The first call delivers what is first of the body. -/
theorem httpClientRecvData_first (head : Head rem) (connected : client.net.handle ≠ .zero)
    (hasBuffer : HasBuffer clientData responseBuf) (isRoom : responseBuf.length = room + 1)
    (hasRoom : 0 < room) (fresh : clientData.isMore = false)
    (isBytes : network.pending s = head.bytes ++ rest) (enough : rem ≤ rest.length)
    (come : head.status.length + 2 ≤ (transport.read s httpClientReadHeadSize).1.toNat)
    (inTime : head.bytes.length + rem + 1 < turns) :
    ∃ client' responseBuf' s', client'.net = client.net ∧ client'.header = client.header ∧
      head.ahead transport s ≤ rest.length ∧
      Moved network rest (head.ahead transport s) 0 room rem responseBuf responseBuf' s' ∧
      httpClientRecvData transport turns client timeoutMs clientData s = .ok (successRet, client',
        (clientData.announce rem (head.ahead transport s)).fill room rem responseBuf', s') := by
  have notEmpty : responseBuf ≠ [] := by
    rw [← List.length_pos_iff]
    omega
  obtain ⟨client', data', front, s', sameNet, sameHeader, ⟨tail, rfl⟩, isData', isRest, ahead, receives⟩ :=
    @httpClientRecvData_head _ _ network s _ turns client timeoutMs clientData responseBuf rest head
      connected hasBuffer notEmpty fresh isBytes come (by omega)
  have lengths := congrArg List.length isRest
  rw [List.length_append] at lengths
  have known : front.length ≤ (front ++ 0 :: tail).length := (List.prefix_append _ _).length_le
  obtain ⟨responseBuf', s'', moves, moved⟩ := @httpGetResponseBody_moves _ transport network s' turns
    front.length room rem (front ++ 0 :: tail) responseBuf timeoutMs
    (clientData.announce rem front.length) hasBuffer isRoom hasRoom rfl
    (by dsimp only [HttpClientData.announce]; omega) isData' known (by omega) (by omega)
  rw [List.take_left, isRest] at moved
  rw [moves] at receives
  rw [← ahead]
  refine ⟨client', responseBuf', s'', sameNet, sameHeader, by omega, moved, receives.trans ?_⟩
  exact endCall_ok (moved_code room rem)

/-- A call for more delivers what is next of the body. -/
theorem httpClientRecvData_next (connected : client.net.handle ≠ .zero)
    (hasBuffer : HasBuffer clientData responseBuf) (isRoom : responseBuf.length = room + 1)
    (hasRoom : 0 < room) (isMore : clientData.isMore = true) (isLeft : clientData.retrieveLen = rem)
    (announced : clientData.responseContentLen ≠ -1) (enough : rem ≤ (network.pending s).length)
    (inTime : rem + 1 < turns) :
    ∃ responseBuf' s', Moved network (network.pending s) 0 0 room rem responseBuf responseBuf' s' ∧
      httpClientRecvData transport turns client timeoutMs clientData s =
        .ok (successRet, client, clientData.fill room rem responseBuf', s') := by
  have notEmpty : responseBuf ≠ [] := by
    rw [← List.length_pos_iff]
    omega
  obtain ⟨data, responseBuf₁, isData, length, receives⟩ := @httpClientRecvData_more _ transport s turns
    client timeoutMs clientData responseBuf connected hasBuffer notEmpty isMore
  obtain ⟨responseBuf', s', moves, moved⟩ := @httpGetResponseBody_moves _ transport network s turns 0 room
    rem data responseBuf₁ timeoutMs { clientData with responseBuf := some responseBuf₁ }
    ⟨rfl, hasBuffer.2.trans (congrArg _ length.symm)⟩ (length.trans isRoom) hasRoom isLeft announced
    isData (Nat.zero_le _) (by omega) inTime
  rw [List.take_zero, List.nil_append] at moved
  rw [moves] at receives
  refine ⟨responseBuf', s', ⟨moved.length.trans length, ?_, moved.pending⟩, receives.trans ?_⟩
  · have front := moved.front
    rwa [List.take_zero] at front ⊢
  · exact endCall_ok (moved_code room rem)

end UIoT.Utils
