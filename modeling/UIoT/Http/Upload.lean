import UIoT.Http.Client
import UIoT.Utils.RequestSending

/-!
# The body of an upload

The body of the request is what `strncpy` leaves of the buffer: the bytes in front of the first zero
byte, and zeros. It is the buffer just if all bytes behind a zero byte are zero (`strncpyBytes_iff`).
Then the digest that the server makes of the body is that of `http_client_buffer_md5`, which counts
bytes (`uploadsBuffer_iff`). A length of 2^31 bytes or more is a negative number to the client.
-/

set_option autoImplicit false

namespace UIoT.Http

open Utils

variable {ν : Type}

/-- What `_http_send_user_data` hands over for an upload, on this network. -/
def sentBody (transport : Transport ν) (s : ν) (uploadBuffer : Nat → UInt8) (uploadBufferLen : UInt32) :
    Outcome (List UInt8) := do
  let clientData ← uploadData uploadBuffer uploadBufferLen
  let (_, _, writes) ← httpSendUserData transport.recorded clientData (s, [])
  return handed writes

/-- The body is the buffer, and has the digest that is made of the buffer. -/
structure UploadsBuffer (uploadBuffer : Nat → UInt8) (uploadBufferLen : UInt32) : Prop where
  body : ∀ {ν : Type} (transport : Transport ν) (s : ν),
    sentBody transport s uploadBuffer uploadBufferLen = .ok (bytesOf uploadBuffer uploadBufferLen)
  digest : ∀ {ν : Type} (transport : Transport ν) (s : ν) (body : List UInt8),
    sentBody transport s uploadBuffer uploadBufferLen = .ok body →
      md5Hex body = httpClientBufferMd5 uploadBuffer uploadBufferLen

/-- Behind a zero byte there are only zero bytes. -/
def ZerosLast (uploadBuffer : Nat → UInt8) (len : Nat) : Prop :=
  ∀ i j, i < j → j < len → uploadBuffer i = 0 → uploadBuffer j = 0

/-! ## What `strncpy` keeps -/

theorem takeWhile_append_length (bytes : List UInt8) :
    (bytes.takeWhile (· ≠ 0)).length ≤ bytes.length := by
  have whole := congrArg List.length (List.takeWhile_append_dropWhile (p := fun byte : UInt8 => byte ≠ 0)
    (l := bytes))
  rw [List.length_append] at whole
  omega

theorem strncpyBytes_length (src : List UInt8) (n : Nat) : (strncpyBytes src n).length = n := by
  have text := takeWhile_append_length (src.take n)
  have front := List.length_take_le n src
  rw [strncpyBytes, List.length_append, List.length_replicate]
  omega

theorem strncpyBytes_cons (byte : UInt8) (bytes : List UInt8) :
    strncpyBytes (byte :: bytes) (bytes.length + 1) =
      if byte = 0 then List.replicate (bytes.length + 1) 0
      else byte :: strncpyBytes bytes bytes.length := by
  rw [strncpyBytes, strncpyBytes, List.take_succ_cons, List.take_length]
  by_cases zero : byte = 0
  · rw [if_pos zero, List.takeWhile_cons_of_neg]
    · rfl
    · rw [zero]
      decide
  · rw [if_neg zero, List.takeWhile_cons_of_pos, List.length_cons, Nat.succ_sub_succ]
    · rfl
    · exact decide_eq_true zero

theorem replicate_zero_iff (buf : Nat → UInt8) (n : Nat) :
    List.replicate n 0 = (List.range n).map buf ↔ ∀ j < n, buf j = 0 := by
  rw [eq_comm, List.eq_replicate_iff, List.length_map, List.length_range, and_iff_right rfl]
  constructor
  · intro zeros j inside
    exact zeros (buf j) (List.mem_map_of_mem (List.mem_range.mpr inside))
  · intro zeros byte among
    obtain ⟨j, inside, rfl⟩ := List.mem_map.mp among
    exact zeros j (List.mem_range.mp inside)

/-- The bytes are kept just if those behind a zero byte are zero. -/
theorem strncpyBytes_iff (buf : Nat → UInt8) (n : Nat) :
    strncpyBytes ((List.range n).map buf) n = (List.range n).map buf ↔ ZerosLast buf n := by
  induction n generalizing buf with
  | zero => exact iff_of_true rfl fun i j _ inside => absurd inside (Nat.not_lt_zero j)
  | succ n inductionHypothesis =>
      have length : ((List.range n).map (buf ∘ Nat.succ)).length = n := by
        rw [List.length_map, List.length_range]
      have step := strncpyBytes_cons (buf 0) ((List.range n).map (buf ∘ Nat.succ))
      rw [length] at step
      rw [List.range_succ_eq_map, List.map_cons, List.map_map, step]
      by_cases zero : buf 0 = 0
      · have all := replicate_zero_iff buf (n + 1)
        rw [List.range_succ_eq_map, List.map_cons, List.map_map] at all
        rw [if_pos zero, all]
        constructor
        · intro zeros i j _ inside _
          exact zeros j inside
        · intro last j inside
          cases j with
          | zero => exact zero
          | succ j => exact last 0 (j + 1) (Nat.succ_pos j) inside zero
      · rw [if_neg zero, List.cons.injEq, and_iff_right rfl, inductionHypothesis]
        constructor
        · intro last i j before inside isZero
          cases i with
          | zero => exact absurd isZero zero
          | succ i =>
              obtain ⟨j, rfl⟩ := Nat.exists_eq_add_one_of_ne_zero (Nat.ne_zero_of_lt before)
              exact last i j (Nat.lt_of_succ_lt_succ before) (Nat.lt_of_succ_lt_succ inside) isZero
        · intro last i j before inside isZero
          exact last (i + 1) (j + 1) (Nat.succ_lt_succ before) (Nat.succ_lt_succ inside) isZero

theorem bytesOf_length (buf : Nat → UInt8) (len : UInt32) : (bytesOf buf len).length = len.toNat := by
  rw [bytesOf, List.length_map, List.length_range]

/-! ## What is sent -/

section Sending

variable (transport : Transport ν) (s : ν) {uploadBuffer : Nat → UInt8} {len : UInt32}

/-- The body of a length that is an `int`. -/
theorem sentBody_eq (small : len.toNat < 2 ^ 31) :
    sentBody transport s uploadBuffer len =
      .ok (strncpyBytes (bytesOf uploadBuffer len) len.toNat) := by
  have notLast : ¬len + 1 = 0 := by
    intro wraps
    have next : (len + 1).toNat = (len.toNat + 1) % 2 ^ 32 := UInt32.toNat_add len 1
    rw [wraps, Nat.mod_eq_of_lt (by omega)] at next
    exact nomatch next
  have length := strncpyBytes_length (bytesOf uploadBuffer len) len.toNat
  rw [sentBody, uploadData, if_neg notLast]
  dsimp only [bind, Except.bind, pure, Except.pure]
  rw [httpSendUserData, newData]
  dsimp only
  rw [toInt32_of_small small]
  by_cases none : (len.toNat : Int) = 0
  · rw [if_pos none]
    have zero : len.toNat = 0 := Int.ofNat_eq_zero.mp none
    rw [List.eq_nil_of_length_eq_zero (length.trans zero)]
    rfl
  · have within : ¬((len.toNat : Int) < 0 ∨
        ((strncpyBytes (bytesOf uploadBuffer len) len.toNat ++ [0]).length : Int) < len.toNat) := by
      rw [List.length_append, length]
      omega
    rw [if_neg none, if_neg within, Int.toNat_natCast,
      List.take_append_of_le_length (Nat.le_of_eq length.symm), List.take_of_length_le (Nat.le_of_eq length)]
    exact congrArg Except.ok (handed_singleton _)

/-- A longer one is no length to the client. -/
theorem sentBody_fault (large : 2 ^ 31 ≤ len.toNat) :
    sentBody transport s uploadBuffer len = .error .outside := by
  have negative := toInt32_of_large large
  rw [sentBody, uploadData]
  split
  · rfl
  · dsimp only [bind, Except.bind, pure, Except.pure]
    rw [httpSendUserData, newData]
    dsimp only
    rw [if_neg (Int.ne_of_lt negative), if_pos (.inl negative)]
    rfl

end Sending

/-- The digest that is made of the buffer is that of its bytes. -/
theorem httpClientBufferMd5_eq (buffer : Nat → UInt8) (len : UInt32) :
    httpClientBufferMd5 buffer len = md5Hex (bytesOf buffer len) := by
  have short : (bytesOf buffer len).length < 2 ^ 32 := by
    rw [bytesOf_length]
    exact len.toNat_lt
  exact utilsMd5FinishHb2Hex_eq (utilsMd5Update_holds utilsMd5Starts_holds short)

/-- When the body is the buffer. -/
theorem uploadsBuffer_iff (uploadBuffer : Nat → UInt8) (len : UInt32) :
    UploadsBuffer uploadBuffer len ↔ len.toNat < 2 ^ 31 ∧ ZerosLast uploadBuffer len.toNat := by
  constructor
  · intro uploads
    have body := uploads.body accepting ()
    by_cases small : len.toNat < 2 ^ 31
    · rw [sentBody_eq accepting () small, Except.ok.injEq] at body
      exact ⟨small, (strncpyBytes_iff uploadBuffer len.toNat).mp body⟩
    · rw [sentBody_fault accepting () (Nat.not_lt.mp small)] at body
      exact nomatch body
  · rintro ⟨small, last⟩
    have kept := (strncpyBytes_iff uploadBuffer len.toNat).mpr last
    rw [← bytesOf] at kept
    constructor
    · intro ν transport s
      rw [sentBody_eq transport s small, kept]
    · intro ν transport s body isBody
      rw [sentBody_eq transport s small, kept, Except.ok.injEq] at isBody
      rw [← isBody, httpClientBufferMd5_eq]

/-- The bytes 1, 0 and 2 are sent as 1, 0 and 0. -/
theorem not_uploadsBuffer_zero : ¬UploadsBuffer (memoryOf [1, 0, 2]) 3 := by
  intro uploads
  have body := uploads.body accepting ()
  exact absurd body (by decide)

/-- Where a request with these data succeeds, its head has been handed over and the body behind it. -/
theorem upload_handed {transport : Transport ν} {s world : ν} {uploadBuffer : Nat → UInt8} {len : UInt32}
    {writes : Writes} (request : Request) (isPut : request.method = .put)
    (isData : uploadData uploadBuffer len = .ok request.clientData)
    (succeeds : request.run transport s = .ok (successRet, world, writes)) :
    ∃ body, sentBody transport (request.head transport s).2.1 uploadBuffer len = .ok body ∧
      handed writes = handed (request.head transport s).2.2 ++ body := by
  rw [Request.run, httpSendRequest, if_neg request.connected, request.parsed] at succeeds
  dsimp only [bind, Except.bind] at succeeds
  rw [if_neg (not_not.mpr rfl), ← Request.head] at succeeds
  rcases isHead : request.head transport s with ⟨ret, world', headWrites⟩
  rw [isHead] at succeeds
  dsimp only at succeeds ⊢
  have isBody : sentBody transport world' uploadBuffer len = .ok request.postData := by
    rw [sentBody, isData]
    dsimp only [bind, Except.bind]
    rw [request.sendUserData_eq]
    by_cases none : request.postData = []
    · rw [if_pos none, none]
      rfl
    · rw [if_neg none]
      exact congrArg Except.ok (handed_singleton _)
  refine ⟨request.postData, isBody, ?_⟩
  split at succeeds
  · cases succeeds
  · rw [if_pos (.inr isPut), request.sendUserData_eq] at succeeds
    by_cases none : request.postData = []
    · rw [if_pos none] at succeeds
      cases succeeds
      rw [none, List.append_nil]
    · rw [if_neg none] at succeeds
      dsimp only [pure, Except.pure] at succeeds
      rw [Except.ok.injEq, Prod.mk.injEq, Prod.mk.injEq] at succeeds
      rw [← succeeds.2.2, handed_append, handed_singleton]

end UIoT.Http
