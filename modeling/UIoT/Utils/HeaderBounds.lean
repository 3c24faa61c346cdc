import UIoT.Utils.Assembly

/-!
# The buffer of a header

The loop that reads a header asks for 32 bytes behind those that it has, however many these are,
and stores a terminator behind what has come. The buffer has 1024 bytes. So whether the loop stays in
it is up to the server: it does for every splitting into reads just where the header is short
(`receivesInside_iff`). A header whose end has not come in 992 bytes is read past the buffer.
-/

set_option autoImplicit false

namespace UIoT.Utils

open FirstMatch Json

variable {ν : Type} {transport : Transport ν} {s : ν}

/-! ## The reads -/

/-- The first read, and what is behind the status line: the buffer and the bytes with which the loop
begins, if it does. -/
def headerStart (transport : Transport ν) (s : ν) : Outcome (Option (List UInt8 × Nat × ν)) := do
  let (ret, readLen, bytes, s) := httpRecv transport httpClientReadHeadSize s
  let buf ← store (List.replicate httpClientReadBufSize 0) 0 bytes
  if ret ≠ 0 then return none
  else
    let data ← store buf readLen [0]
    let text ← cStringAt data 0
    match strstr crlf text with
    | none => return none
    | some crlfPos =>
        let data ← store data crlfPos [0]
        let _ ← cStringAt data 9
        let data ← moveToFront data (crlfPos + 2) (readLen - (crlfPos + 2) + 1)
        return some (data, readLen - (crlfPos + 2), s)

/-- The loop asks for bytes that the buffer has room for, and stores its terminators in the buffer,
in so many turns. -/
def LoopInside (transport : Transport ν) : Nat → List UInt8 → Nat → ν → Prop
  | 0, _, _, _ => True
  | turns + 1, data, len, s =>
      ∀ text, cStringAt data 0 = .ok text → strstr headerEnd text = none →
        len + httpClientReadHeadSize ≤ httpClientReadBufSize ∧
          ∀ ret readLen bytes s' data', httpRecv transport httpClientReadHeadSize s =
              (ret, readLen, bytes, s') → ret ≠ errHttpConnError → store data len bytes = .ok data' →
            len + readLen < httpClientReadBufSize ∧
              ∀ data'', store data' (len + readLen) [0] = .ok data'' →
                LoopInside transport turns data'' (len + readLen) s'

/-- However a stream is split into reads, its header is received in the buffer. -/
def ReceivesInside (stream : List UInt8) : Prop :=
  ∀ {ν : Type} (transport : Transport ν) (connection : Connection transport) (s : ν),
    connection.pending s = stream → ∀ data len s', headerStart transport s = .ok (some (data, len, s')) →
      ∀ turns, LoopInside transport turns data len s'

/-- The front of a stream that is searched. -/
def visible (stream : List UInt8) : List UInt8 := stream.takeWhile (· ≠ 0)

/-- A header that ends in front of the last 32 bytes of the buffer, or one byte behind that in a
stream that does not fill the buffer. Or the stream ends there. -/
def HeaderShort (behind : List UInt8) : Prop :=
  match strstr headerEnd (visible behind) with
  | some i => i + 4 ≤ 992 ∨ i + 4 = 993 ∧ behind.length ≤ 1023
  | none => behind.length ≤ 992

/-! ### What of a receive the reads are -/

variable {turns : Nat} {client : HttpClient} {timeoutMs : UInt32} {clientData : HttpClientData}

theorem httpRecv_some {maxLen len : Nat} {ret : Int} {bytes : List UInt8} {s' : ν}
    (recv : httpRecv transport maxLen s = (ret, len, bytes, s')) (success : ret = 0) : len ≠ 0 := by
  rw [httpRecv] at recv
  dsimp only at recv
  split at recv
  · cases recv
    omega
  · split at recv <;> cases recv <;> exact absurd success (by decide)

/-- Behind a loop that begins, the receive goes on with the content. -/
theorem httpClientRecvResponse_starts {data : List UInt8} {len : Nat} {s' : ν}
    (connected : client.net.handle ≠ .zero) (fresh : clientData.isMore = false)
    (starts : headerStart transport s = .ok (some (data, len, s'))) :
    ∃ code, httpClientRecvResponse transport turns client timeoutMs clientData s =
      (headerLoop transport turns data len s').bind fun (ret, bodyEnd, data, len, s) =>
        let client := { client with responseCode := code }
        let clientData := { clientData with isMore := true, responseContentLen := -1, isChunked := false }
        if ret ≠ successRet then .ok (ret, client, clientData, s)
        else (parseContent transport turns bodyEnd data len timeoutMs clientData s).bind
          fun (ret, clientData, s) => .ok (ret, client, clientData, s) := by
  rw [headerStart] at starts
  rw [httpClientRecvResponse, if_neg connected, fresh, if_neg Bool.false_ne_true]
  rcases recv : httpRecv transport httpClientReadHeadSize s with ⟨ret, readLen, bytes, s₁⟩
  rw [recv] at starts
  obtain ⟨buf, stores, received⟩ := bind_ok starts
  clear starts
  dsimp only [bind, Except.bind]
  rw [stores]
  dsimp only
  split at received
  · cases received
  · rename_i success
    rw [if_neg success]
    have some := httpRecv_some recv (not_not.mp success)
    obtain ⟨data₁, stores₁, searched⟩ := bind_ok received
    obtain ⟨text, isText, found⟩ := bind_ok searched
    rw [stores₁]
    dsimp only
    rw [if_pos some, httpParseResponseHeader]
    dsimp only [bind, Except.bind]
    rw [isText]
    dsimp only
    split at found
    · cases found
    · rename_i crlfPos isFound
      obtain ⟨data₂, stores₂, checked⟩ := bind_ok found
      obtain ⟨status, isStatus, moves⟩ := bind_ok checked
      obtain ⟨data₃, moved, result⟩ := bind_ok moves
      cases result
      rw [isFound]
      dsimp only
      rw [stores₂]
      dsimp only
      rw [isStatus]
      dsimp only
      rw [moved]
      exact ⟨_, rfl⟩

/-- A loop that stays in its buffer does not fault, on a network that stores no more than it is asked
for. -/
theorem LoopInside.headerLoop {turns : Nat} {data : List UInt8} {len : Nat}
    (stores : ∀ s n, (transport.read s n).2.1.length ≤ n)
    (isData : data.length = httpClientReadBufSize) (terminated : 0 ∈ data)
    (inside : LoopInside transport turns data len s) :
    Utils.headerLoop transport turns data len s ≠ .error .outside := by
  induction turns generalizing data len s with
  | zero =>
      intro fault
      cases fault
  | succ turns inductionHypothesis =>
      have string : cStringAt data 0 = .ok (data.takeWhile (· ≠ 0)) := by
        rw [cStringAt, List.drop_zero, if_pos terminated]
      rw [Utils.headerLoop, string]
      dsimp only [bind, Except.bind]
      split
      · intro fault
        cases fault
      · rename_i none
        obtain ⟨room, reads⟩ := inside _ string none
        rcases recv : httpRecv transport httpClientReadHeadSize s with ⟨ret, readLen, bytes, s'⟩
        have few : bytes.length ≤ httpClientReadHeadSize := by
          have isBytes : bytes = (transport.read s httpClientReadHeadSize).2.1 := by
            rw [httpRecv] at recv
            dsimp only at recv
            split_ifs at recv <;> cases recv <;> rfl
          rw [isBytes]
          exact stores s _
        have stored := @store_eq data bytes len (by omega)
        have isStored : (overwrite data len bytes).length = data.length := overwrite_length (by omega)
        dsimp only
        rw [stored]
        dsimp only
        by_cases failed : ret = errHttpConnError
        · rw [if_pos failed]
          intro fault
          cases fault
        · obtain ⟨bound, goesOn⟩ := reads _ _ _ _ _ recv failed stored
          have ends := @store_eq (overwrite data len bytes) [0] (len + readLen)
            (by rw [List.length_singleton]; omega)
          rw [if_neg failed, ends]
          refine inductionHypothesis ?_ ?_ (goesOn _ ends)
          · rw [overwrite_length, isStored, isData]
            rw [isStored, List.length_singleton]
            omega
          · rw [overwrite]
            exact List.mem_append_left _ (List.mem_append_right _ List.mem_cons_self)

/-! ## Short headers -/

theorem visible_take (stream : List UInt8) (n : Nat) : visible (stream.take n) = (visible stream).take n :=
  List.take_takeWhile.symm

/-- The end of a header is found as soon as it has come. -/
theorem strstr_take_none {stream : List UInt8} {n : Nat} :
    strstr headerEnd (visible (stream.take n)) = none ↔
      ∀ i, strstr headerEnd (visible stream) = some i → n < i + 4 := by
  rw [visible_take]
  constructor
  · intro none i found
    by_contra come
    have first := isFirst_take_iff.mpr ⟨strstr_iff.mp found, Nat.not_lt.mp come⟩
    rw [strstr_iff.mpr first] at none
    cases none
  · intro late
    cases found : strstr headerEnd ((visible stream).take n) with
    | none => rfl
    | some i =>
        obtain ⟨first, come⟩ := isFirst_take_iff.mp (strstr_iff.mp found)
        exact absurd (late i (strstr_iff.mpr first)) (Nat.not_lt.mpr come)

/-- What is read while the end has not come. -/
theorem HeaderShort.inside {behind : List UInt8} (short : HeaderShort behind) {n : Nat}
    (within : n ≤ behind.length) (missing : strstr headerEnd (visible (behind.take n)) = none) :
    n ≤ 992 ∧ (n = 992 → behind.length ≤ 1023) := by
  rw [strstr_take_none] at missing
  rw [HeaderShort] at short
  split at short
  · rename_i i found
    have late := missing i found
    omega
  · omega

/-- A loop in the middle of a stream. -/
theorem HeaderShort.loopInside {behind : List UInt8} (short : HeaderShort behind)
    (connection : Connection transport) {turns : Nat} {data text : List UInt8} (filled : Filled data text)
    (isBehind : text ++ connection.pending s = behind) :
    LoopInside transport turns data text.length s := by
  induction turns generalizing data text s with
  | zero => trivial
  | succ turns inductionHypothesis =>
      intro string isString missing
      have isText := filled.cString (Nat.zero_le _) isString
      rw [List.drop_zero] at isText
      subst isText
      have isFront : behind.take text.length = text := by
        rw [← isBehind, List.take_left]
      have lengths := congrArg List.length isBehind
      rw [List.length_append] at lengths
      have room := short.inside (n := text.length) (by omega) (by rw [isFront]; exact missing)
      have size : httpClientReadHeadSize = 32 := rfl
      have bufSize : httpClientReadBufSize = 1024 := rfl
      refine ⟨by omega, ?_⟩
      intro ret readLen bytes s' data' recv notFailed stored
      obtain ⟨_, rfl⟩ := store_ok stored
      obtain ⟨rest, rfl⟩ := filled
      rcases httpRecv_cases connection recv with ⟨_, _, within, length, isPending⟩ | ⟨_, rfl, same⟩ | failed
      · refine ⟨?_, fun data'' terminated => ?_⟩
        · have total := congrArg List.length isPending
          rw [List.length_append] at total
          omega
        · rw [overwrite_append] at terminated
          have isEnd : text.length + readLen = (text ++ bytes).length := by
            rw [List.length_append, length]
          rw [isEnd] at terminated ⊢
          apply inductionHypothesis (filled_of_store terminated)
          rw [List.append_assoc, ← isPending, isBehind]
      · refine ⟨by omega, fun data'' terminated => ?_⟩
        rw [overwrite_append, List.append_assoc] at terminated
        apply inductionHypothesis (filled_of_store terminated)
        rw [same, isBehind]
      · exact absurd failed notFailed

/-! ## The status line -/

theorem isFirst_visible_split {needle bytes : List UInt8} {i : Nat}
    (first : IsFirst needle (visible bytes) i) :
    ∃ status front, bytes = status ++ needle ++ front ∧ i = status.length := by
  have whole : visible bytes ++ bytes.drop (visible bytes).length = bytes :=
    List.prefix_iff_eq_append.mp (List.takeWhile_prefix _)
  have found := first.append (bytes.drop (visible bytes).length)
  rw [whole] at found
  obtain ⟨front, isFront⟩ := found.found
  have fits := found.fits
  refine ⟨bytes.take i, front, ?_, ?_⟩
  · rw [List.append_assoc, isFront, List.take_append_drop]
  · rw [List.length_take_of_le (by omega)]

/-- The loop begins behind the first line break, and what the first read brought beyond it is in the
buffer. -/
theorem headerStart_some (connection : Connection transport) {data : List UInt8} {len : Nat} {s' : ν}
    (starts : headerStart transport s = .ok (some (data, len, s'))) :
    ∃ crlfPos front, strstr crlf (visible ((connection.pending s).take httpClientReadHeadSize)) =
        some crlfPos ∧ Filled data front ∧ len = front.length ∧
      front ++ connection.pending s' = (connection.pending s).drop (crlfPos + 2) := by
  rw [headerStart] at starts
  rcases recv : httpRecv transport httpClientReadHeadSize s with ⟨ret, readLen, bytes, s₁⟩
  rw [recv] at starts
  obtain ⟨buf, stores, received⟩ := bind_ok starts
  clear starts
  split at received
  · cases received
  · rename_i success
    obtain ⟨data₁, stores₁, searched⟩ := bind_ok received
    obtain ⟨text, isText, found⟩ := bind_ok searched
    clear received searched
    obtain ⟨rfl, _, within, length, isPending⟩ | ⟨rfl, _, _⟩ | rfl := httpRecv_cases connection recv
    · obtain ⟨_, rfl⟩ := store_ok stores
      rw [overwrite_zero, ← length] at stores₁
      have filled := filled_of_store stores₁
      have same := filled.cString (Nat.zero_le _) isText
      rw [List.drop_zero] at same
      subst same
      split at found
      · cases found
      · rename_i crlfPos isFound
        obtain ⟨data₂, stores₂, checked⟩ := bind_ok found
        obtain ⟨status, _, moves⟩ := bind_ok checked
        obtain ⟨data₃, moved, result⟩ := bind_ok moves
        clear found checked moves
        cases result
        have first := strstr_iff.mp isFound
        have isPiece : bytes <+: (connection.pending s).take httpClientReadHeadSize := by
          rw [isPending, List.prefix_take_iff, length]
          exact ⟨List.prefix_append _ _, within⟩
        obtain ⟨status, front, rfl, rfl⟩ := isFirst_visible_split first
        have isEnd : status.length + 2 = (status ++ crlf).length := by
          rw [List.length_append]
          rfl
        refine ⟨status.length, front, ?_, ?_, ?_, ?_⟩
        · obtain ⟨more, isMore⟩ := isPiece
          rw [strstr_iff, ← isMore, visible, List.takeWhile_append]
          split
          · rename_i all
            rw [(List.takeWhile_prefix _).eq_of_length all] at first
            exact first.append _
          · exact first
        · rw [← length] at moved
          exact filled.behindLine stores₂ moved
        · rw [← length, isEnd, @List.length_append _ (status ++ crlf), Nat.add_sub_cancel_left]
        · rw [isPending, isEnd, List.append_assoc, List.drop_left]
    · exact absurd (show failureRet ≠ 0 by decide) success
    · exact absurd (show errHttpConnError ≠ 0 by decide) success

/-- Headers that are short behind their status line, which is found in the first read if at all. -/
def StreamShort (stream : List UInt8) : Prop :=
  ∀ crlfPos, strstr crlf (visible (stream.take httpClientReadHeadSize)) = some crlfPos →
    HeaderShort (stream.drop (crlfPos + 2))

theorem StreamShort.inside {stream : List UInt8} (short : StreamShort stream) : ReceivesInside stream := by
  intro ν transport connection s isStream data len s' starts turns
  obtain ⟨crlfPos, front, found, filled, rfl, isBehind⟩ := headerStart_some connection starts
  rw [isStream] at found isBehind
  exact (short crlfPos found).loopInside connection filled isBehind

/-! ## Long headers -/

/-- A read of the size that is next. -/
theorem inlet_recv {pending : List UInt8} {size n : Nat} {sizes : List Nat} (asked : size < n)
    (there : size < pending.length) :
    httpRecv inlet n ⟨pending, size :: sizes⟩ =
      (0, size + 1, pending.take (size + 1), ⟨pending.drop (size + 1), sizes⟩) := by
  have isSize : min (size + 1) n = size + 1 := Nat.min_eq_left asked
  have length : (pending.take (size + 1)).length = size + 1 := List.length_take_of_le there
  rw [httpRecv]
  dsimp only [inlet]
  rw [isSize, length, if_pos (by omega)]
  rfl

/-- A first read that brings a line break begins the loop. -/
theorem headerStart_eq {bytes : List UInt8} {crlfPos : Nat} {s' : ν}
    (recv : httpRecv transport httpClientReadHeadSize s = (0, bytes.length, bytes, s'))
    (within : bytes.length ≤ httpClientReadHeadSize) (found : strstr crlf (visible bytes) = some crlfPos) :
    ∃ data, headerStart transport s = .ok (some (data, bytes.length - (crlfPos + 2), s')) ∧
      Filled data (bytes.drop (crlfPos + 2)) ∧ data.length = httpClientReadBufSize := by
  obtain ⟨status, front, rfl, rfl⟩ := isFirst_visible_split (strstr_iff.mp found)
  have size : httpClientReadHeadSize = 32 := rfl
  have bufSize : httpClientReadBufSize = 1024 := rfl
  have isEnd : status.length + 2 = (status ++ crlf).length := by
    rw [List.length_append]
    rfl
  have isText : (status ++ crlf ++ front).length = status.length + 2 + front.length := by
    rw [isEnd, List.length_append]
  have stores := @store_eq (List.replicate httpClientReadBufSize 0) (status ++ crlf ++ front) 0
    (by rw [List.length_replicate]; omega)
  rw [overwrite_zero, List.drop_replicate] at stores
  have isBuf : (status ++ crlf ++ front ++ List.replicate
      (httpClientReadBufSize - (status ++ crlf ++ front).length) (0 : UInt8)).length =
        httpClientReadBufSize := by
    rw [List.length_append, List.length_replicate]
    omega
  have zeros : 0 ∈ (status ++ crlf ++ front ++ List.replicate
      (httpClientReadBufSize - (status ++ crlf ++ front).length) (0 : UInt8)).drop 33 := by
    rw [List.drop_append, List.drop_of_length_le (by omega), List.nil_append, List.drop_replicate,
      List.mem_replicate]
    exact ⟨by omega, rfl⟩
  have terminates := @store_eq (status ++ crlf ++ front ++ List.replicate
      (httpClientReadBufSize - (status ++ crlf ++ front).length) 0) [0] (status ++ crlf ++ front).length
    (by rw [isBuf, List.length_singleton]; omega)
  have filled := filled_of_store terminates
  have isData : (overwrite (status ++ crlf ++ front ++ List.replicate
      (httpClientReadBufSize - (status ++ crlf ++ front).length) 0) (status ++ crlf ++ front).length
        [0]).length = httpClientReadBufSize := by
    rw [overwrite_length, isBuf]
    rw [isBuf, List.length_singleton]
    omega
  have lateZeros := zeros
  rw [← @drop_overwrite _ (status ++ crlf ++ front).length 33 0 (by omega) (by omega)] at lateZeros
  generalize overwrite (status ++ crlf ++ front ++ List.replicate
      (httpClientReadBufSize - (status ++ crlf ++ front).length) 0) (status ++ crlf ++ front).length
        [0] = data at terminates filled isData lateZeros
  have string := filled.cString_zero
  have cuts := @store_eq data [0] status.length (by rw [List.length_singleton]; omega)
  have isCut : (overwrite data status.length [0]).length = data.length :=
    overwrite_length (by rw [List.length_singleton]; omega)
  have isStatus : cStringAt (overwrite data status.length [0]) 9 =
      .ok (((overwrite data status.length [0]).drop 9).takeWhile (· ≠ 0)) := by
    rw [cStringAt, if_pos]
    rw [← @drop_overwrite data status.length 33 0 (by omega) (by omega)] at lateZeros
    have later : 33 = 9 + 24 := rfl
    rw [later, ← List.drop_drop] at lateZeros
    exact List.mem_of_mem_drop lateZeros
  obtain ⟨moved, moves, isMoved⟩ := @moveToFront_eq (overwrite data status.length [0])
    (status.length + 2) ((status ++ crlf ++ front).length - (status.length + 2) + 1) (by omega)
  refine ⟨moved, ?_, ?_, isMoved.trans (isCut.trans isData)⟩
  · rw [headerStart, recv]
    dsimp only [bind, Except.bind]
    rw [stores]
    dsimp only
    rw [if_neg (not_not.mpr rfl), terminates]
    dsimp only
    rw [string]
    dsimp only
    rw [visible] at found
    rw [found]
    dsimp only
    rw [cuts]
    dsimp only
    rw [isStatus]
    dsimp only
    rw [moves]
    rfl
  · rw [isEnd, List.drop_left]
    exact filled.behindLine cuts moves

/-- The loop begins with nothing where the first read brings the status line. -/
theorem inlet_start {stream : List UInt8} {crlfPos : Nat} {sizes : List Nat}
    (found : strstr crlf (visible (stream.take httpClientReadHeadSize)) = some crlfPos) :
    ∃ data, headerStart inlet ⟨stream, (crlfPos + 1) :: sizes⟩ =
        .ok (some (data, 0, ⟨stream.drop (crlfPos + 2), sizes⟩)) ∧
      Filled data [] ∧ data.length = httpClientReadBufSize := by
  have first := strstr_iff.mp found
  obtain ⟨status, front, isFront, isPos⟩ := isFirst_visible_split first
  have two : crlf.length = 2 := rfl
  have size : httpClientReadHeadSize = 32 := rfl
  have lengths := congrArg List.length isFront
  rw [List.length_append, List.length_append] at lengths
  have isShort := List.length_take_le httpClientReadHeadSize stream
  have isLong := List.length_take_le' httpClientReadHeadSize stream
  have length : (stream.take (crlfPos + 2)).length = crlfPos + 2 := List.length_take_of_le (by omega)
  have recv : httpRecv inlet httpClientReadHeadSize ⟨stream, (crlfPos + 1) :: sizes⟩ =
      (0, (stream.take (crlfPos + 2)).length, stream.take (crlfPos + 2),
        ⟨stream.drop (crlfPos + 2), sizes⟩) := by
    rw [length]
    exact inlet_recv (by omega) (by omega)
  have isPiece : strstr crlf (visible (stream.take (crlfPos + 2))) = some crlfPos := by
    have again : stream.take (crlfPos + 2) = (stream.take httpClientReadHeadSize).take (crlfPos + 2) := by
      rw [List.take_take, Nat.min_eq_left (by omega)]
    rw [again, visible_take, strstr_iff, isFirst_take_iff]
    exact ⟨first, by omega⟩
  obtain ⟨data, starts, filled, isData⟩ := headerStart_eq recv (by omega) isPiece
  rw [length, Nat.sub_self] at starts
  rw [List.drop_of_length_le (by omega)] at filled
  exact ⟨data, starts, filled, isData⟩

/-- One turn of a loop whose header has not ended. -/
theorem LoopInside.turn {turns size : Nat} {sizes : List Nat} {data text pending : List UInt8}
    (filled : Filled data text) (isData : data.length = httpClientReadBufSize)
    (missing : strstr headerEnd (visible text) = none) (asked : size < httpClientReadHeadSize)
    (there : size < pending.length)
    (inside : LoopInside inlet (turns + 1) data text.length ⟨pending, size :: sizes⟩) :
    text.length + (size + 1) < httpClientReadBufSize ∧
      ∃ data', Filled data' (text ++ pending.take (size + 1)) ∧ data'.length = httpClientReadBufSize ∧
        LoopInside inlet turns data' (text.length + (size + 1)) ⟨pending.drop (size + 1), sizes⟩ := by
  have string := filled.cString_zero
  obtain ⟨room, reads⟩ := inside _ string missing
  have length : (pending.take (size + 1)).length = size + 1 := List.length_take_of_le there
  have stored := @store_eq data (pending.take (size + 1)) text.length (by omega)
  obtain ⟨bound, goesOn⟩ := reads _ _ _ _ _ (inlet_recv asked there) (by decide) stored
  have isStored : (overwrite data text.length (pending.take (size + 1))).length = data.length :=
    overwrite_length (by omega)
  have terminated := @store_eq (overwrite data text.length (pending.take (size + 1))) [0]
    (text.length + (size + 1)) (by rw [List.length_singleton]; omega)
  refine ⟨bound, _, ?_, ?_, goesOn _ terminated⟩
  · obtain ⟨rest, rfl⟩ := filled
    have isEnd : text.length + (size + 1) = (text ++ pending.take (size + 1)).length := by
      rw [List.length_append, length]
    rw [overwrite_append, isEnd] at terminated ⊢
    exact filled_of_store terminated
  · rw [overwrite_length, isStored, isData]
    rw [isStored, List.length_singleton]
    omega

/-- Single bytes are read until a header has come so far. -/
theorem LoopInside.march {behind : List UInt8} {turns : Nat} {sizes : List Nat} :
    ∀ {left : Nat} {data text pending : List UInt8}, Filled data text →
      data.length = httpClientReadBufSize → text ++ pending = behind → left ≤ pending.length →
      (∀ n < text.length + left, strstr headerEnd (visible (behind.take n)) = none) →
      LoopInside inlet (left + turns) data text.length ⟨pending, List.replicate left 0 ++ sizes⟩ →
      ∃ data', Filled data' (behind.take (text.length + left)) ∧ data'.length = httpClientReadBufSize ∧
        LoopInside inlet turns data' (text.length + left) ⟨behind.drop (text.length + left), sizes⟩
  | 0, data, text, pending, filled, isData, isBehind, _, _, inside => by
      rw [Nat.zero_add] at inside
      rw [← isBehind, Nat.add_zero, List.take_left, List.drop_left]
      exact ⟨data, filled, isData, inside⟩
  | left + 1, data, text, pending, filled, isData, isBehind, there, missing, inside => by
      have isFront : behind.take text.length = text := by
        rw [← isBehind, List.take_left]
      have notYet := missing text.length (by omega)
      rw [isFront] at notYet
      rw [Nat.add_right_comm] at inside
      obtain ⟨_, data', filled', isData', goesOn⟩ := inside.turn filled isData notYet (by decide) (by omega)
      have one : (pending.take (0 + 1)).length = 1 := List.length_take_of_le (by omega)
      have isEnd : text.length + (0 + 1) = (text ++ pending.take (0 + 1)).length := by
        rw [List.length_append, one]
      have isEnd' : (text ++ pending.take (0 + 1)).length + left = text.length + (left + 1) := by
        rw [← isEnd]
        omega
      rw [isEnd] at goesOn
      have marched := @LoopInside.march behind turns sizes left data' (text ++ pending.take (0 + 1))
        (pending.drop (0 + 1)) filled' isData'
        (by rw [List.append_assoc, List.take_append_drop, isBehind])
        (by rw [List.length_drop]; omega) (by rw [isEnd']; exact missing) goesOn
      rwa [isEnd'] at marched

/-- A header that is not short is read past the buffer, a byte at a time. -/
theorem ReceivesInside.short {stream : List UInt8} (receives : ReceivesInside stream) :
    StreamShort stream := by
  intro crlfPos found
  generalize isBehind : stream.drop (crlfPos + 2) = behind
  have march : ∀ {left : Nat} {sizes : List Nat}, left ≤ behind.length →
      (∀ n < left, strstr headerEnd (visible (behind.take n)) = none) →
      ∃ data', Filled data' (behind.take left) ∧ data'.length = httpClientReadBufSize ∧
        LoopInside inlet 1 data' left ⟨behind.drop left, sizes⟩ := by
    intro left sizes there missing
    obtain ⟨data, starts, filled, isData⟩ := @inlet_start stream crlfPos (List.replicate left 0 ++ sizes)
      found
    have inside := receives inlet inletConnection.toConnection _ rfl _ _ _ starts (left + 1)
    rw [isBehind] at inside
    have marched := @LoopInside.march behind 1 sizes left data [] behind filled isData rfl there
      (by rwa [List.length_nil, Nat.zero_add]) inside
    rwa [List.length_nil, Nat.zero_add] at marched
  have size : httpClientReadHeadSize = 32 := rfl
  have bufSize : httpClientReadBufSize = 1024 := rfl
  -- A read that begins behind 992 bytes.
  have asked : (∀ n ≤ 993, strstr headerEnd (visible (behind.take n)) = none) → behind.length ≤ 992 := by
    intro missing
    by_contra long
    obtain ⟨data, filled, isData, inside⟩ := @march 993 [] (by omega) fun n before =>
      missing n (Nat.le_of_lt before)
    have string := filled.cString_zero
    have room := (inside _ string (missing 993 (Nat.le_refl _))).1
    omega
  -- A read that fills the buffer.
  have terminated : (∀ n ≤ 992, strstr headerEnd (visible (behind.take n)) = none) →
      behind.length ≤ 1023 := by
    intro missing
    by_contra long
    obtain ⟨data, filled, isData, inside⟩ := @march 992 [31] (by omega) fun n before =>
      missing n (Nat.le_of_lt before)
    have isFront : (behind.take 992).length = 992 := List.length_take_of_le (by omega)
    have bound := (LoopInside.turn filled isData (missing 992 (Nat.le_refl _))
      (show 31 < httpClientReadHeadSize by decide) (by rw [List.length_drop]; omega)
      (isFront.symm ▸ inside)).1
    omega
  rw [HeaderShort]
  split
  · rename_i i ends
    have late : ∀ {n : Nat}, n < i + 4 → strstr headerEnd (visible (behind.take n)) = none := by
      intro n before
      rw [strstr_take_none]
      intro j other
      cases ends.symm.trans other
      exact before
    have fits := (strstr_iff.mp ends).fits
    have shorter := (List.takeWhile_prefix (l := behind) (fun byte => decide (byte ≠ 0))).length_le
    have four : headerEnd.length = 4 := rfl
    change i + headerEnd.length ≤ (visible behind).length at fits
    change (visible behind).length ≤ behind.length at shorter
    rcases Nat.lt_or_ge 993 (i + 4) with far | near
    · have notLong := asked fun n before => late (Nat.lt_of_le_of_lt before far)
      omega
    · by_cases isLast : i + 4 = 993
      · exact .inr ⟨isLast, terminated fun n before => late (by omega)⟩
      · exact .inl (by omega)
  · rename_i none
    apply asked
    intro n _
    rw [strstr_take_none]
    intro i found
    rw [none] at found
    cases found

/-- A header is received in the buffer, however it is split, just where it is short behind a status
line that the first read can bring. -/
theorem receivesInside_iff (stream : List UInt8) : ReceivesInside stream ↔ StreamShort stream :=
  ⟨ReceivesInside.short, StreamShort.inside⟩

/-- A header of 1100 bytes without an end. -/
theorem not_receivesInside :
    ¬ReceivesInside (literal "HTTP/1.1 200 OK\r\n" ++ List.replicate 1100 0x61) := by
  intro receives
  generalize isStream : literal "HTTP/1.1 200 OK\r\n" ++ List.replicate 1100 0x61 = stream at receives
  have line : strstr crlf (visible (stream.take httpClientReadHeadSize)) = some 15 := by
    rw [← isStream]
    decide +kernel
  have ends : strstr headerEnd (visible (stream.drop (15 + 2))) = none := by
    rw [← isStream]
    decide +kernel
  have length : (stream.drop (15 + 2)).length = 1100 := by
    rw [← isStream]
    decide +kernel
  have short := receives.short 15 line
  rw [HeaderShort, ends, length] at short
  exact absurd short (by decide)

end UIoT.Utils
