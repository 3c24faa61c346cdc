import UIoT.Utils.Prompt

/-!
# Assembling a body

Successive calls of `http_client_recv_data` deliver a body piece by piece. What they have
delivered and what is pending are the body, and `is_more` tells whether something is left, but
for lengths that are negative, for bytes that come with the header and do not fit into the
buffer, and for bodies that fill the last buffer (`body_assembled_iff`).
-/

set_option autoImplicit false

namespace UIoT.Utils

open Json

variable {ν : Type}

/-! ## Successive calls -/

/-- A caller of `http_client_recv_data` between two calls, with what they have delivered. -/
structure Reader (ν : Type) where
  client : HttpClient
  clientData : HttpClientData
  world : ν
  delivered : List UInt8

/-- How many bytes a call has delivered, as `ofc_fetch` counts them. -/
def deliveredLen (before after : HttpClientData) : Int :=
  (if before.isMore then before.retrieveLen else after.responseContentLen) - after.retrieveLen

/-- A call into a buffer. -/
def Reader.call (transport : Transport ν) (turns : Nat) (reader : Reader ν) (buf : List UInt8)
    (timeoutMs : UInt32) : Outcome (Int × Reader ν) := do
  let clientData := { reader.clientData with responseBuf := some buf, responseBufLen := buf.length }
  let (rc, client, after, s) ←
    httpClientRecvData transport turns reader.client timeoutMs clientData reader.world
  let bytes := (after.responseBuf.getD []).take (deliveredLen clientData after).toNat
  return (rc, {
    client := client
    clientData := after
    world := s
    delivered := if rc = successRet then reader.delivered ++ bytes else reader.delivered })

/-- What successive calls into buffers of a length reach, where each is for more. -/
inductive Reached (transport : Transport ν) (turns len : Nat) (start : Reader ν) : Reader ν → Prop
  | first {reader : Reader ν} {buf : List UInt8} {timeoutMs : UInt32} :
      buf.length = len → start.call transport turns buf timeoutMs = .ok (successRet, reader) →
      Reached transport turns len start reader
  | next {reader reader' : Reader ν} {buf : List UInt8} {timeoutMs : UInt32} :
      Reached transport turns len start reader → reader.clientData.isMore = true →
      buf.length = len → reader.call transport turns buf timeoutMs = .ok (successRet, reader') →
      Reached transport turns len start reader'

variable {transport : Transport ν} (network : PromptConnection transport)

/-- Every call returns. What the calls have delivered and what is pending are the body, and
there is more as long as the body is not delivered. -/
structure Assembles (turns len : Nat) (body : List UInt8) (start : Reader ν) : Prop where
  begins : ∀ buf timeoutMs, buf.length = len →
    ∃ result, start.call transport turns buf timeoutMs = .ok result
  goesOn : ∀ reader, Reached transport turns len start reader → reader.clientData.isMore = true →
    ∀ buf timeoutMs, buf.length = len → ∃ result, reader.call transport turns buf timeoutMs = .ok result
  inOrder : ∀ reader, Reached transport turns len start reader →
    reader.delivered ++ network.pending reader.world = body
  isMore : ∀ reader, Reached transport turns len start reader →
    (reader.clientData.isMore = false ↔ reader.delivered = body)

/-- A response is to be read. -/
structure Awaiting {n : Int} (head : Head n) (body : List UInt8) (start : Reader ν) : Prop where
  connected : start.client.net.handle ≠ .zero
  fresh : start.clientData.isMore = false
  nothing : start.delivered = []
  pending : network.pending start.world = head.bytes ++ body

/-! ## One call -/

/-- A part of a body is delivered, and what is left of it is pending. -/
structure Between (body : List UInt8) (reader : Reader ν) : Prop where
  connected : reader.client.net.handle ≠ .zero
  announced : reader.clientData.responseContentLen = body.length
  left : reader.clientData.retrieveLen = (body.length - reader.delivered.length : Nat)
  inOrder : reader.delivered ++ network.pending reader.world = body

variable {network} {turns len : Nat} {body buf : List UInt8} {timeoutMs : UInt32}

/-- A call that returns and has filled the buffer. -/
theorem Reader.call_eq {reader : Reader ν} {client' : HttpClient} {after : HttpClientData} {s' : ν}
    {responseBuf : List UInt8} (isBuffer : after.responseBuf = some responseBuf)
    (receives : httpClientRecvData transport turns reader.client timeoutMs
      { reader.clientData with responseBuf := some buf, responseBufLen := buf.length } reader.world =
        .ok (successRet, client', after, s')) :
    reader.call transport turns buf timeoutMs = .ok (successRet, {
      client := client'
      clientData := after
      world := s'
      delivered := reader.delivered ++
        responseBuf.take (deliveredLen reader.clientData after).toNat }) := by
  rw [Reader.call, receives]
  dsimp only [bind, Except.bind, pure, Except.pure]
  rw [if_pos rfl, isBuffer, Option.getD_some]
  rfl

theorem deliveredLen_more {before clientData : HttpClientData} {room rem : Nat} {responseBuf : List UInt8}
    (isMore : before.isMore = true) (left : before.retrieveLen = rem) :
    (deliveredLen before (clientData.fill room rem responseBuf)).toNat = min rem room := by
  rw [deliveredLen, if_pos isMore, left, HttpClientData.fill]
  dsimp only
  omega

theorem deliveredLen_first {before clientData : HttpClientData} {room rem ahead : Nat}
    {responseBuf : List UInt8} (fresh : before.isMore = false) :
    (deliveredLen before ((clientData.announce rem ahead).fill room rem responseBuf)).toNat =
      min rem room := by
  rw [deliveredLen, if_neg (by rw [fresh]; exact Bool.false_ne_true), HttpClientData.fill,
    HttpClientData.announce]
  dsimp only
  omega

/-- A call for more delivers what is next. -/
theorem Between.call {reader : Reader ν} (between : Between network body reader)
    (isMore : reader.clientData.isMore = true) (length : buf.length = len) (room : 2 ≤ len)
    (inTime : body.length + 1 < turns) :
    ∃ reader', reader.call transport turns buf timeoutMs = .ok (successRet, reader') ∧
      Between network body reader' ∧
      reader'.clientData.isMore = decide (len - 1 ≤ body.length - reader.delivered.length) ∧
      reader'.delivered.length = min body.length (reader.delivered.length + (len - 1)) := by
  have isBody := congrArg List.length between.inOrder
  rw [List.length_append] at isBody
  have announced := between.announced
  obtain ⟨responseBuf, s', moved, receives⟩ := @httpClientRecvData_next _ _ network reader.world turns
    reader.client timeoutMs { reader.clientData with responseBuf := some buf, responseBufLen := buf.length }
    buf (len - 1) (body.length - reader.delivered.length) between.connected ⟨rfl, rfl⟩ (by omega)
    (by omega) isMore between.left (by dsimp only; omega) (by omega) (by omega)
  have front := moved.front
  rw [Nat.zero_add, List.take_zero, List.nil_append] at front
  have taken : ((network.pending reader.world).take
      (min (body.length - reader.delivered.length) (len - 1))).length =
        min (body.length - reader.delivered.length) (len - 1) :=
    List.length_take_of_le (by omega)
  refine ⟨_, Reader.call_eq rfl receives, ?_, rfl, ?_⟩
  · refine ⟨between.connected, announced, ?_, ?_⟩
    · dsimp only
      rw [deliveredLen_more isMore between.left, front, List.length_append, taken]
      dsimp only [HttpClientData.fill]
      omega
    · dsimp only
      rw [deliveredLen_more isMore between.left, front, List.append_assoc, moved.pending, Nat.max_zero,
        List.take_append_drop]
      exact between.inOrder
  · dsimp only
    rw [deliveredLen_more isMore between.left, front, List.length_append, taken]
    omega

variable {start : Reader ν}

/-- The first call delivers what is first, and what it drops is gone. -/
theorem Awaiting.call {head : Head body.length} (awaiting : Awaiting network head body start)
    (come : head.status.length + 2 ≤ (transport.read start.world httpClientReadHeadSize).1.toNat)
    (length : buf.length = len) (room : 2 ≤ len)
    (inTime : head.bytes.length + body.length + 1 < turns) :
    ∃ reader', start.call transport turns buf timeoutMs = .ok (successRet, reader') ∧
      reader'.client.net.handle ≠ .zero ∧ reader'.clientData.responseContentLen = body.length ∧
      reader'.clientData.retrieveLen = (body.length - (len - 1) : Nat) ∧
      reader'.clientData.isMore = decide (len - 1 ≤ body.length) ∧
      reader'.delivered = body.take (len - 1) ∧ head.ahead transport start.world ≤ body.length ∧
      network.pending reader'.world =
        body.drop (max (min body.length (len - 1)) (head.ahead transport start.world)) := by
  obtain ⟨client', responseBuf, s', sameNet, _, short, moved, receives⟩ := @httpClientRecvData_first _ _
    network start.world turns start.client timeoutMs
    { start.clientData with responseBuf := some buf, responseBufLen := buf.length } buf body (len - 1)
    body.length head awaiting.connected ⟨rfl, rfl⟩ (by omega) (by omega) awaiting.fresh awaiting.pending
    (Nat.le_refl _) come inTime
  have front := moved.front
  rw [Nat.zero_add, List.take_zero, List.nil_append] at front
  refine ⟨_, Reader.call_eq rfl receives, ?_, rfl, rfl, rfl, ?_, short, moved.pending⟩
  · dsimp only
    rw [sameNet]
    exact awaiting.connected
  · dsimp only
    rw [deliveredLen_first awaiting.fresh, front, awaiting.nothing, List.nil_append,
      List.take_eq_take_iff]
    omega

variable {n : Int} {head : Head n}

/-- Any other first call goes on behind the header as well. -/
theorem Awaiting.call_eq (awaiting : Awaiting network head body start)
    (come : head.status.length + 2 ≤ (transport.read start.world httpClientReadHeadSize).1.toNat)
    (length : buf.length = len) (room : 2 ≤ len) (inTime : head.bytes.length < turns) :
    ∃ client' data front s', httpClientRecvData transport turns start.client timeoutMs
        { start.clientData with responseBuf := some buf, responseBufLen := buf.length } start.world =
      (httpGetResponseBody transport turns data front timeoutMs
        ({ start.clientData with responseBuf := some buf, responseBufLen := buf.length }.announce n front)
        s').bind (endCall transport client') := by
  have notEmpty : buf ≠ [] := by
    rw [← List.length_pos_iff]
    omega
  obtain ⟨client', data, front, s', _, _, _, _, _, _, receives⟩ := @httpClientRecvData_head _ _ network
    start.world _ turns start.client timeoutMs
    { start.clientData with responseBuf := some buf, responseBufLen := buf.length } buf body head
    awaiting.connected ⟨rfl, rfl⟩ notEmpty awaiting.fresh awaiting.pending come inTime
  exact ⟨client', data, front.length, s', receives⟩

/-- A header with the length -1 is taken for one that has not come. -/
theorem Awaiting.call_refused {head : Head (-1)} (awaiting : Awaiting network head body start)
    (come : head.status.length + 2 ≤ (transport.read start.world httpClientReadHeadSize).1.toNat)
    (length : buf.length = len) (room : 2 ≤ len) (inTime : head.bytes.length < turns) :
    ∃ reader', start.call transport turns buf timeoutMs = .ok (errHttpConnError, reader') := by
  obtain ⟨client', data, front, s', receives⟩ := @Awaiting.call_eq _ _ network turns len body buf timeoutMs
    start _ head awaiting come length room inTime
  rw [Reader.call, receives, httpGetResponseBody]
  dsimp only
  rw [if_pos ⟨rfl, Bool.false_ne_true⟩]
  exact ⟨_, rfl⟩

/-- A negative length is the number of bytes to be copied. -/
theorem Awaiting.call_negative (awaiting : Awaiting network head body start) (negative : n < -1)
    (come : head.status.length + 2 ≤ (transport.read start.world httpClientReadHeadSize).1.toNat)
    (length : buf.length = len) (room : 2 ≤ len) (inTime : head.bytes.length < turns) :
    start.call transport turns buf timeoutMs = .error .outside := by
  obtain ⟨client', data, front, s', receives⟩ := @Awaiting.call_eq _ _ network turns len body buf timeoutMs
    start _ head awaiting come length room inTime
  obtain ⟨turns, rfl⟩ : ∃ turns', turns = turns' + 1 := ⟨turns - 1, by omega⟩
  have isMin : min (front : Int) n = n := by omega
  have fills : ∀ clientData : HttpClientData, clientData.responseBufLen = buf.length →
      utilsFillRxBuf 0 n clientData data = .error .outside := by
    intro clientData isLength
    rw [utilsFillRxBuf, if_pos (by omega), copyToResponse, if_pos (.inl (by omega))]
    rfl
  have known : n ≠ -1 := by omega
  rw [Reader.call, receives, httpGetResponseBody]
  dsimp only
  rw [if_neg fun unknown => known unknown.1, responseBodyLoop]
  dsimp only [HttpClientData.announce]
  rw [isMin, fills _ rfl]
  rfl

/-- Where the first read does not bring the line of the status, nothing is delivered. -/
theorem Awaiting.call_cut (awaiting : Awaiting network head body start)
    (cut : (transport.read start.world httpClientReadHeadSize).1.toNat < head.status.length + 2)
    (length : buf.length = len) (room : 2 ≤ len) :
    ∃ reader', start.call transport turns buf timeoutMs = .ok (errHttpUnresolvedDns, reader') := by
  have notEmpty : buf ≠ [] := by
    rw [← List.length_pos_iff]
    omega
  obtain ⟨client', after, s', _, receives⟩ := @httpClientRecvData_cut _ _ network start.world _ turns
    start.client timeoutMs { start.clientData with responseBuf := some buf, responseBufLen := buf.length }
    buf body head awaiting.connected ⟨rfl, rfl⟩ notEmpty awaiting.fresh awaiting.pending cut
  rw [Reader.call, receives]
  exact ⟨_, rfl⟩

/-- Where the first call fails, nothing is reached. -/
theorem assembles_of_failed (failed : ∀ buf timeoutMs, buf.length = len →
    ∃ rc reader', rc ≠ successRet ∧ start.call transport turns buf timeoutMs = .ok (rc, reader')) :
    Assembles network turns len body start := by
  have nothing : ∀ reader, ¬Reached transport turns len start reader := by
    intro reader reached
    induction reached with
    | first length calls =>
        obtain ⟨rc, reader', notSuccess, fails⟩ := failed _ _ length
        cases calls.symm.trans fails
        exact notSuccess rfl
    | next _ _ _ _ impossible => exact impossible
  refine ⟨fun buf timeoutMs length => ?_, ?_, ?_, ?_⟩
  · obtain ⟨rc, reader', _, fails⟩ := failed buf timeoutMs length
    exact ⟨_, fails⟩
  · exact fun reader reached => absurd reached (nothing reader)
  · exact fun reader reached => absurd reached (nothing reader)
  · exact fun reader reached => absurd reached (nothing reader)

/-! ## Runs of calls -/

/-- As long as there is more, every call has filled its buffer. -/
structure Filling (network : PromptConnection transport) (len : Nat) (body : List UInt8)
    (reader : Reader ν) : Prop extends Between network body reader where
  full : reader.clientData.isMore = true →
    0 < reader.delivered.length ∧ len - 1 ∣ reader.delivered.length
  whole : reader.clientData.isMore = false → reader.delivered.length = body.length

theorem Between.delivered_le {reader : Reader ν} (between : Between network body reader) :
    reader.delivered.length ≤ body.length := by
  have isBody := congrArg List.length between.inOrder
  rw [List.length_append] at isBody
  omega

theorem Between.delivered_eq_iff {reader : Reader ν} (between : Between network body reader) :
    reader.delivered = body ↔ reader.delivered.length = body.length := by
  constructor
  · exact congrArg List.length
  · intro length
    have isPrefix : reader.delivered <+: body := ⟨_, between.inOrder⟩
    exact isPrefix.eq_of_length length

theorem Filling.next {reader reader' : Reader ν} (filling : Filling network len body reader)
    (isMore : reader.clientData.isMore = true) (room : 2 ≤ len)
    (between : Between network body reader')
    (more : reader'.clientData.isMore = decide (len - 1 ≤ body.length - reader.delivered.length))
    (delivered : reader'.delivered.length =
      min body.length (reader.delivered.length + (len - 1))) : Filling network len body reader' := by
  obtain ⟨positive, divides⟩ := filling.full isMore
  have within := filling.delivered_le
  refine ⟨between, fun goesOn => ?_, fun ends => ?_⟩
  · have fits := of_decide_eq_true (more.symm.trans goesOn)
    have isSum : reader'.delivered.length = reader.delivered.length + (len - 1) := by omega
    rw [isSum]
    exact ⟨by omega, Nat.dvd_add divides (Nat.dvd_refl _)⟩
  · have short := of_decide_eq_false (more.symm.trans ends)
    omega

/-- The first call fills its buffer, or delivers the body. -/
theorem Awaiting.filling {head : Head body.length} (awaiting : Awaiting network head body start)
    (come : head.status.length + 2 ≤ (transport.read start.world httpClientReadHeadSize).1.toNat)
    (length : buf.length = len) (room : 2 ≤ len)
    (inTime : head.bytes.length + body.length + 1 < turns)
    (fits : head.ahead transport start.world < len) :
    ∃ reader', start.call transport turns buf timeoutMs = .ok (successRet, reader') ∧
      Filling network len body reader' ∧
      reader'.clientData.isMore = decide (len - 1 ≤ body.length) ∧
      reader'.delivered.length = min body.length (len - 1) := by
  obtain ⟨reader', calls, connected', announced, left, more, delivered, short, pending⟩ :=
    awaiting.call come length room inTime
  have isLength : reader'.delivered.length = min body.length (len - 1) := by
    rw [delivered, List.length_take, Nat.min_comm]
  refine ⟨reader', calls, ⟨⟨connected', announced, ?_, ?_⟩, fun goesOn => ?_, fun ends => ?_⟩, more,
    isLength⟩
  · rw [left, isLength]
    omega
  · -- What comes with the header fits into the buffer, so nothing is dropped.
    have moved : max (min body.length (len - 1)) (head.ahead transport start.world) =
        min body.length (len - 1) := by omega
    have same : body.take (len - 1) = body.take (min body.length (len - 1)) := by
      rw [List.take_eq_take_iff]
      omega
    rw [delivered, pending, moved, same, List.take_append_drop]
  · have fits := of_decide_eq_true (more.symm.trans goesOn)
    rw [isLength, Nat.min_eq_right fits]
    exact ⟨by omega, Nat.dvd_refl _⟩
  · have short := of_decide_eq_false (more.symm.trans ends)
    omega

theorem Awaiting.reached_filling {head : Head body.length} (awaiting : Awaiting network head body start)
    (come : head.status.length + 2 ≤ (transport.read start.world httpClientReadHeadSize).1.toNat)
    (room : 2 ≤ len) (inTime : head.bytes.length + body.length + 1 < turns)
    (fits : head.ahead transport start.world < len) {reader : Reader ν}
    (reached : Reached transport turns len start reader) : Filling network len body reader := by
  induction reached with
  | @first reader buf timeoutMs length calls =>
      obtain ⟨after, calls', filling, _⟩ := @Awaiting.filling _ _ _ _ _ _ buf timeoutMs _ _ awaiting
        come length room inTime fits
      cases calls.symm.trans calls'
      exact filling
  | @next reader reader' buf timeoutMs _ isMore length calls filling =>
      obtain ⟨after, calls', between, more, delivered⟩ := @Between.call _ _ _ turns _ _ buf timeoutMs
        reader filling.toBetween isMore length room (by omega)
      cases calls.symm.trans calls'
      exact filling.next isMore room between more delivered

/-- Buffers are filled as long as the body goes on. -/
theorem Awaiting.reached_full {head : Head body.length} (awaiting : Awaiting network head body start)
    (come : head.status.length + 2 ≤ (transport.read start.world httpClientReadHeadSize).1.toNat)
    (room : 2 ≤ len) (inTime : head.bytes.length + body.length + 1 < turns)
    (fits : head.ahead transport start.world < len) {count : Nat} (positive : 0 < count)
    (within : count * (len - 1) ≤ body.length) :
    ∃ reader, Reached transport turns len start reader ∧ reader.clientData.isMore = true ∧
      reader.delivered.length = count * (len - 1) := by
  induction count with
  | zero => exact absurd positive (Nat.lt_irrefl 0)
  | succ count inductionHypothesis =>
      have product : (count + 1) * (len - 1) = count * (len - 1) + (len - 1) := Nat.succ_mul _ _
      generalize isProduct : count * (len - 1) = filled at product inductionHypothesis
      rw [product] at within ⊢
      rcases Nat.eq_zero_or_pos count with none | some
      · have empty : filled = 0 := by rw [← isProduct, none, Nat.zero_mul]
        obtain ⟨reader, calls, _, more, delivered⟩ := @Awaiting.filling _ _ _ _ _ _
          (List.replicate len 0) 0 _ _ awaiting come List.length_replicate room inTime fits
        refine ⟨reader, .first List.length_replicate calls, ?_, ?_⟩
        · rw [more, decide_eq_true (by omega)]
        · omega
      · obtain ⟨reader, reached, isMore, isCount⟩ := inductionHypothesis some (by omega)
        have filling := awaiting.reached_filling come room inTime fits reached
        obtain ⟨reader', calls, _, more, delivered⟩ := @Between.call _ _ _ turns _ _
          (List.replicate len 0) 0 reader filling.toBetween isMore List.length_replicate room (by omega)
        refine ⟨reader', .next reached isMore List.length_replicate calls, ?_, ?_⟩
        · rw [more, decide_eq_true (by omega)]
        · omega

/-! ## The condition -/

theorem Awaiting.assembles {head : Head body.length} (awaiting : Awaiting network head body start)
    (come : head.status.length + 2 ≤ (transport.read start.world httpClientReadHeadSize).1.toNat)
    (room : 2 ≤ len) (inTime : head.bytes.length + body.length + 1 < turns)
    (fits : head.ahead transport start.world < len) (notFull : body = [] ∨ ¬len - 1 ∣ body.length) :
    Assembles network turns len body start := by
  have filling : ∀ {reader}, Reached transport turns len start reader →
      Filling network len body reader := fun reached =>
    awaiting.reached_filling come room inTime fits reached
  refine ⟨fun buf timeoutMs length => ?_, fun reader reached isMore buf timeoutMs length => ?_,
    fun reader reached => (filling reached).inOrder, fun reader reached => ?_⟩
  · obtain ⟨reader', calls, _⟩ := @Awaiting.filling _ _ _ _ _ _ buf timeoutMs _ _ awaiting come length
      room inTime fits
    exact ⟨_, calls⟩
  · obtain ⟨reader', calls, _⟩ := @Between.call _ _ _ turns _ _ buf timeoutMs reader
      (filling reached).toBetween isMore length room (by omega)
    exact ⟨_, calls⟩
  · rw [(filling reached).delivered_eq_iff]
    refine ⟨(filling reached).whole, fun whole => ?_⟩
    cases isMore : reader.clientData.isMore with
    | false => rfl
    | true =>
        obtain ⟨positive, divides⟩ := (filling reached).full isMore
        rw [whole] at positive divides
        rcases notFull with empty | notFull
        · rw [empty] at positive
          exact absurd positive (Nat.lt_irrefl 0)
        · exact absurd divides notFull

/-- A body that fills its last buffer is delivered, and there is said to be more. -/
theorem Awaiting.not_full {head : Head body.length} (awaiting : Awaiting network head body start)
    (come : head.status.length + 2 ≤ (transport.read start.world httpClientReadHeadSize).1.toNat)
    (room : 2 ≤ len) (inTime : head.bytes.length + body.length + 1 < turns)
    (fits : head.ahead transport start.world < len) (assembles : Assembles network turns len body start) :
    body = [] ∨ ¬len - 1 ∣ body.length := by
  rw [or_iff_not_imp_left]
  rintro notEmpty ⟨count, isProduct⟩
  rw [Nat.mul_comm] at isProduct
  have some := List.length_pos_iff.mpr notEmpty
  have positive : 0 < count := by
    rw [isProduct] at some
    exact Nat.pos_of_mul_pos_right some
  obtain ⟨reader, reached, isMore, isLength⟩ :=
    awaiting.reached_full come room inTime fits positive (Nat.le_of_eq isProduct.symm)
  have filling := awaiting.reached_filling come room inTime fits reached
  have whole := filling.delivered_eq_iff.mpr (isLength.trans isProduct.symm)
  rw [(assembles.isMore reader reached).mpr whole] at isMore
  exact Bool.false_ne_true isMore

/-- What comes with the header and does not fit into the buffer is neither delivered nor
pending. -/
theorem Awaiting.ahead_lt {head : Head body.length} (awaiting : Awaiting network head body start)
    (come : head.status.length + 2 ≤ (transport.read start.world httpClientReadHeadSize).1.toNat)
    (room : 2 ≤ len) (inTime : head.bytes.length + body.length + 1 < turns)
    (assembles : Assembles network turns len body start) : head.ahead transport start.world < len := by
  obtain ⟨reader, calls, _, _, _, _, delivered, short, pending⟩ := @Awaiting.call _ _ _ turns len body
    (List.replicate len 0) 0 start head awaiting come List.length_replicate room inTime
  have isBody := congrArg List.length (assembles.inOrder reader (.first List.length_replicate calls))
  rw [delivered, pending, List.length_append, List.length_take, List.length_drop] at isBody
  omega

/-- Successive calls assemble a body just where its length is not negative, what comes with its
header fits into the buffer, and the last buffer is not filled. A response that does not get
that far is refused. -/
theorem body_assembled_iff (network : PromptConnection transport) (head : Head n)
    (isBody : body.length = n.toNat) (room : 2 ≤ len)
    (inTime : head.bytes.length + body.length + 1 < turns)
    (awaiting : Awaiting network head body start) :
    Assembles network turns len body start ↔
      (transport.read start.world httpClientReadHeadSize).1.toNat < head.status.length + 2 ∨ n = -1 ∨
        0 ≤ n ∧ head.ahead transport start.world < len ∧ (body = [] ∨ ¬len - 1 ∣ body.length) := by
  by_cases cut :
      (transport.read start.world httpClientReadHeadSize).1.toNat < head.status.length + 2
  · refine iff_of_true (assembles_of_failed fun buf timeoutMs length => ?_) (.inl cut)
    obtain ⟨reader', fails⟩ := @Awaiting.call_cut _ _ _ turns _ _ _ timeoutMs _ _ _ awaiting cut length room
    exact ⟨_, _, by decide, fails⟩
  have come := Nat.not_lt.mp cut
  rw [or_iff_right cut]
  by_cases unknown : n = -1
  · subst unknown
    refine iff_of_true (assembles_of_failed fun buf timeoutMs length => ?_) (.inl rfl)
    obtain ⟨reader', fails⟩ := @Awaiting.call_refused _ _ _ turns _ _ _ timeoutMs _ _ awaiting come length
      room (by omega)
    exact ⟨_, _, by decide, fails⟩
  rw [or_iff_right unknown]
  by_cases negative : n < -1
  · refine iff_of_false (fun assembles => ?_) (fun condition => by omega)
    have fails := @Awaiting.call_negative _ _ _ turns len _ (List.replicate len 0) 0 _ _ _ awaiting
      negative come List.length_replicate room (by omega)
    obtain ⟨result, calls⟩ := assembles.begins (List.replicate len 0) 0 List.length_replicate
    cases calls.symm.trans fails
  obtain rfl : n = body.length := by omega
  constructor
  · intro assembles
    have fits := awaiting.ahead_lt come room inTime assembles
    exact ⟨by omega, fits, awaiting.not_full come room inTime fits assembles⟩
  · rintro ⟨_, fits, notFull⟩
    exact awaiting.assembles come room inTime fits notFull

/-! ## Responses that come in pieces -/

/-- What is pending, and how many bytes behind the first one the next reads deliver at most. -/
structure Inlet where
  pending : List UInt8
  sizes : List Nat
  deriving DecidableEq, Repr

/-- A read delivers a piece. -/
def inlet : Transport Inlet where
  read s n :=
    let size := match s.sizes with
      | [] => n
      | size :: _ => min (size + 1) n
    ((s.pending.take size).length, s.pending.take size, ⟨s.pending.drop size, s.sizes.tail⟩)
  write s bytes := (bytes.length, s)
  connect s _ _ := (.connection, s)
  disconnect s _ := s
  tick s := (0, s)
  rtTickFromMillisecond n := n
  usingTls := false

theorem inlet_read (s : Inlet) (n : Nat) : ∃ size ≤ n, (0 < n → 0 < size) ∧
    inlet.read s n = (((s.pending.take size).length : Int), s.pending.take size,
      (⟨s.pending.drop size, s.sizes.tail⟩ : Inlet)) := by
  rcases s with ⟨pending, _ | ⟨size, sizes⟩⟩
  · exact ⟨n, Nat.le_refl n, id, rfl⟩
  · exact ⟨min (size + 1) n, Nat.min_le_right _ _, fun positive => by omega, rfl⟩

def inletConnection : PromptConnection inlet where
  pending := Inlet.pending
  delivers s n _ := by
    obtain ⟨size, within, _, reads⟩ := inlet_read s n
    rw [reads]
    refine ⟨?_, rfl, (List.take_append_drop size s.pending).symm⟩
    exact (List.length_take_le _ _).trans within
  waits s n nothing := by
    obtain ⟨size, _, _, reads⟩ := inlet_read s n
    rw [reads] at nothing ⊢
    have none : s.pending.take size = [] := List.length_eq_zero_iff.mp (Int.natCast_eq_zero.mp nothing)
    have whole := List.take_append_drop size s.pending
    rwa [none, List.nil_append] at whole
  tick _ := rfl
  prompt s n more positive := by
    obtain ⟨size, _, some, reads⟩ := inlet_read s n
    have length := List.length_pos_iff.mpr more
    have isPositive := some positive
    rw [reads]
    dsimp only
    rw [List.length_take]
    omega

/-- A client that has sent its request, and has a response to read. -/
def awaitingReader (pending : List UInt8) (sizes : List Nat) : Reader Inlet where
  client :=
    { net := { hostAddress := [], port := 80, handle := .connection }, responseCode := 0, header := none }
  clientData :=
    { isMore := false, isChunked := false, retrieveLen := 0, responseContentLen := 0
      responseReceivedLen := 0, postBufLen := 0, responseBufLen := 0
      postContentType := none, postBuf := none, responseBuf := none }
  world := ⟨pending, sizes⟩
  delivered := []

theorem awaiting_awaitingReader (head : Head n) (sizes : List Nat) :
    Awaiting inletConnection head body (awaitingReader (head.bytes ++ body) sizes) :=
  ⟨NetHandle.noConfusion, rfl, rfl, rfl⟩

def helloHead : Head (literal "hello").length where
  status := literal "HTTP/1.1 200 OK"
  headers := literal "Content-Length: 5"
  plainStatus := by decide
  plain := by decide
  line := strstr_iff.mp (by decide)
  ends := strstr_iff.mp (by decide)
  fits := by decide
  length := ⟨0, strstr_iff.mp (by decide), by decide, by decide⟩

/-- A header with a negative length. -/
def negativeHead : Head (-5) where
  status := literal "HTTP/1.1 200 OK"
  headers := literal "Content-Length: -5"
  plainStatus := by decide
  plain := by decide
  line := strstr_iff.mp (by decide)
  ends := strstr_iff.mp (by decide)
  fits := by decide
  length := ⟨0, strstr_iff.mp (by decide), by decide, by decide⟩

/-- Five bytes, of which the header brings two, in buffers for four. -/
theorem body_assembled_hello :
    Assembles inletConnection 60 5 (literal "hello")
        (awaitingReader (helloHead.bytes ++ literal "hello") [31, 7]) ↔
      (inlet.read ⟨helloHead.bytes ++ literal "hello", [31, 7]⟩ 32).1.toNat <
          helloHead.status.length + 2 ∨ (5 : Int) = -1 ∨
        (0 : Int) ≤ 5 ∧ helloHead.ahead inlet ⟨helloHead.bytes ++ literal "hello", [31, 7]⟩ < 5 ∧
          (literal "hello" = [] ∨ ¬5 - 1 ∣ (literal "hello").length) :=
  body_assembled_iff inletConnection helloHead (by decide) (by decide) (by decide)
    (awaiting_awaitingReader helloHead [31, 7])

/-- Five bytes in a buffer for five leave more to be read, of five bytes that come with the header
a buffer for two drops three, and a negative length is copied. -/
theorem body_not_assembled :
    ¬Assembles inletConnection 60 6 (literal "hello")
        (awaitingReader (helloHead.bytes ++ literal "hello") []) ∧
      ¬Assembles inletConnection 60 3 (literal "hello")
        (awaitingReader (helloHead.bytes ++ literal "hello") []) ∧
      ¬Assembles inletConnection 60 6 [] (awaitingReader (negativeHead.bytes ++ []) []) := by
  have awaiting := @awaiting_awaitingReader (literal "hello") _ helloHead []
  refine ⟨fun assembles => ?_, fun assembles => ?_, fun assembles => ?_⟩
  · have fits : helloHead.ahead inlet
        (awaitingReader (helloHead.bytes ++ literal "hello") []).world < 6 := by decide
    have notFull := awaiting.not_full (by decide) (by decide) (by decide) fits assembles
    exact absurd notFull (by decide)
  · have fits := awaiting.ahead_lt (by decide) (by decide) (by decide) assembles
    exact absurd fits (by decide)
  · have fails := @Awaiting.call_negative _ _ _ 60 6 [] (List.replicate 6 0) 0 _ _ _
      (@awaiting_awaitingReader [] _ negativeHead []) (by decide) (by decide) rfl (by decide) (by decide)
    obtain ⟨result, calls⟩ := assembles.begins (List.replicate 6 0) 0 rfl
    cases calls.symm.trans fails

end UIoT.Utils
