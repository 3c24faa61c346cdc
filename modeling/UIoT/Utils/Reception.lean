import UIoT.Lib.FirstMatch
import UIoT.Utils.Httpc

/-!
# Receiving a response

A response comes in pieces of any length. What `http_client_recv_data` finds in its header,
piece by piece, is what is first in the whole of it, and what it stores is the body, the
bytes that came with the header first (`httpClientRecvData_body`).
-/

set_option autoImplicit false

namespace UIoT.Utils

open FirstMatch Json

/-! ## Searching -/

theorem strstr_iff {needle : List UInt8} {text : Cursor} {i : Nat} :
    strstr needle text = some i ↔ IsFirst needle text i := by
  induction text generalizing i with
  | nil =>
      rw [strstr]
      constructor
      · intro found
        split at found
        · rename_i empty
          cases found
          exact isFirst_zero (empty ▸ List.prefix_refl _)
        · cases found
      · intro isFirst
        have fits := isFirst.fits
        rw [List.length_nil] at fits
        rw [if_pos (List.length_eq_zero_iff.mp (by omega)), show i = 0 by omega]
  | cons byte text inductionHypothesis =>
      rw [strstr]
      by_cases here : needle <+: byte :: text
      · rw [if_pos (List.isPrefixOf_iff_prefix.mpr here), Option.some.injEq]
        constructor
        · intro isZero
          subst isZero
          exact isFirst_zero here
        · exact fun isFirst => (isFirst_zero here).unique isFirst
      · rw [if_neg fun found => here (List.isPrefixOf_iff_prefix.mp found), Option.map_eq_some_iff]
        constructor
        · rintro ⟨j, found, rfl⟩
          exact (inductionHypothesis.mp found).cons here
        · intro isFirst
          cases i with
          | zero => exact absurd isFirst.found here
          | succ i =>
              refine ⟨i, inductionHypothesis.mpr ⟨isFirst.found, fun j before => ?_⟩, rfl⟩
              exact isFirst.first (j + 1) (by omega)

/-- The digits in a line do not depend on what is behind it. -/
theorem takeWhile_line (text rest : Cursor) :
    (text ++ 0x0A :: rest).takeWhile isDigit = (text ++ [0x0A]).takeWhile isDigit := by
  induction text with
  | nil => rfl
  | cons byte text inductionHypothesis =>
      rw [List.cons_append, List.cons_append, List.takeWhile_cons, List.takeWhile_cons,
        inductionHypothesis]

theorem signedDigits_line {text rest : Cursor} (digits : (signedDigits (text ++ [0x0A])).2 ≠ []) :
    signedDigits (text ++ 0x0A :: rest) = signedDigits (text ++ [0x0A]) := by
  have split : text ++ 0x0A :: rest = text ++ [0x0A] ++ rest := by simp
  cases number : (text ++ [0x0A]).dropWhile isSpace with
  | nil =>
      rw [signedDigits, number] at digits
      exact absurd rfl digits
  | cons byte behind =>
      obtain ⟨blanks, isText⟩ : byte :: behind <:+ text ++ [0x0A] :=
        number ▸ List.dropWhile_suffix isSpace
      have ends : (byte :: behind).getLast? = some 0x0A := by
        rw [← List.getLast?_append_of_ne_nil blanks (List.cons_ne_nil byte behind), isText,
          List.getLast?_append_of_ne_nil text (List.cons_ne_nil _ _)]
        rfl
      obtain ⟨front, isFront⟩ := List.getLast?_eq_some_iff.mp ends
      have starts : (text ++ 0x0A :: rest).dropWhile isSpace = front ++ 0x0A :: rest := by
        rw [split, List.dropWhile_append, number, isFront]
        simp
      rw [signedDigits, signedDigits, starts, number, isFront]
      rcases front with _ | ⟨first, front⟩
      · rfl
      · by_cases isMinus : first = 0x2D
        · subst isMinus
          exact congrArg (Prod.mk true) (takeWhile_line front rest)
        · by_cases isPlus : first = 0x2B
          · subst isPlus
            exact congrArg (Prod.mk false) (takeWhile_line front rest)
          · have same := takeWhile_line (first :: front) rest
            simp only [List.cons_append] at same ⊢
            split <;> simp_all

/-- A number does not depend on what is behind its line. -/
theorem atoi_line {text rest : Cursor} (digits : (signedDigits (text ++ [0x0A])).2 ≠ []) :
    atoi (text ++ 0x0A :: rest) = atoi (text ++ [0x0A]) := by
  rw [atoi, atoi, signedDigits_line digits]

/-- A number that is not 0 has digits. -/
theorem digits_of_atoi {text : Cursor} (notZero : atoi text ≠ 0) : (signedDigits text).2 ≠ [] := by
  intro none
  apply notZero
  rw [atoi]
  cases number : signedDigits text with
  | mk negative digits =>
      rw [number] at none
      cases none
      cases negative <;> rfl

/-- The digits between blanks and what is no digit. -/
theorem signedDigits_digits {blanks digits rest : Cursor} (areBlanks : ∀ byte ∈ blanks, isSpace byte = true)
    (notEmpty : digits ≠ []) (areDigits : ∀ byte ∈ digits, isDigit byte = true)
    (stop : ∀ byte ∈ rest.head?, isDigit byte = false) :
    signedDigits (blanks ++ (digits ++ rest)) = (false, digits) := by
  have taken : (digits ++ rest).takeWhile isDigit = digits := by
    rw [List.takeWhile_append_of_pos areDigits]
    cases rest with
    | nil => exact List.append_nil _
    | cons byte rest =>
        rw [List.takeWhile_cons_of_neg (by rw [stop byte rfl]; exact Bool.false_ne_true), List.append_nil]
  obtain ⟨first, digits, rfl⟩ := List.exists_cons_of_ne_nil notEmpty
  have isFirst := areDigits first List.mem_cons_self
  have notSpace : isSpace first = false := by
    rw [Bool.eq_false_iff]
    intro isBlank
    rw [isDigit, Bool.and_eq_true, decide_eq_true_eq, decide_eq_true_eq] at isFirst
    rw [isSpace, Bool.or_eq_true, Bool.and_eq_true, decide_eq_true_eq, decide_eq_true_eq,
      decide_eq_true_eq] at isBlank
    rcases isBlank with rfl | ⟨_, small⟩
    · exact absurd isFirst.1 (by decide)
    · exact absurd (UInt8.le_trans isFirst.1 small) (by decide)
  have begins : (blanks ++ (first :: digits ++ rest)).dropWhile isSpace = first :: digits ++ rest := by
    rw [List.dropWhile_append_of_pos areBlanks]
    exact List.dropWhile_cons_of_neg (by rw [notSpace]; exact Bool.false_ne_true)
  rw [signedDigits, begins]
  split
  · rename_i isMinus
    cases (List.cons.inj isMinus).1
    exact absurd isFirst (by decide)
  · rename_i isPlus
    cases (List.cons.inj isPlus).1
    exact absurd isFirst (by decide)
  · rw [taken]

/-- A number is read as it is written, up to the largest one. -/
theorem atoi_digits {blanks digits rest : Cursor} (areBlanks : ∀ byte ∈ blanks, isSpace byte = true)
    (notEmpty : digits ≠ []) (areDigits : ∀ byte ∈ digits, isDigit byte = true)
    (stop : ∀ byte ∈ rest.head?, isDigit byte = false) :
    atoi (blanks ++ (digits ++ rest)) = min (2 ^ 31 - 1) (digitsValue digits : Int) := by
  rw [atoi, signedDigits_digits areBlanks notEmpty areDigits stop]
  dsimp only
  rw [if_neg Bool.false_ne_true]
  omega

/-! ## Connections -/

/-- What a server has sent on a connection and is not read. Reads deliver it in pieces, wait,
or fail. -/
structure Connection {ν : Type} (transport : Transport ν) where
  pending : ν → List UInt8
  delivers : ∀ s n, 0 < (transport.read s n).1 →
    (transport.read s n).1.toNat ≤ n ∧ (transport.read s n).2.1.length = (transport.read s n).1.toNat ∧
      pending s = (transport.read s n).2.1 ++ pending (transport.read s n).2.2
  waits : ∀ s n, (transport.read s n).1 = 0 → pending (transport.read s n).2.2 = pending s
  tick : ∀ s, pending (transport.tick s).2 = pending s

variable {ν : Type} {transport : Transport ν} (connection : Connection transport) {s s' : ν}

theorem httpRecv_cases {maxLen len : Nat} {ret : Int} {bytes : List UInt8}
    (received : httpRecv transport maxLen s = (ret, len, bytes, s')) :
    (ret = 0 ∧ 0 < len ∧ len ≤ maxLen ∧ bytes.length = len ∧
        connection.pending s = bytes ++ connection.pending s') ∨
      (ret = failureRet ∧ len = 0 ∧ connection.pending s' = connection.pending s) ∨
      ret = errHttpConnError := by
  rw [httpRecv] at received
  dsimp only at received
  split at received
  · rename_i positive
    obtain ⟨within, length, isPending⟩ := connection.delivers s maxLen positive
    cases received
    exact .inl ⟨rfl, by omega, within, length, isPending⟩
  · split at received
    · rename_i isZero
      cases received
      exact .inr (.inl ⟨rfl, rfl, connection.waits s maxLen isZero⟩)
    · cases received
      exact .inr (.inr rfl)

/-- The look at the timer leaves what is pending. -/
theorem utilsCheckDeadloop_pending (len : Nat) (ret : Int) (counts : DeadloopCounts) :
    connection.pending (utilsCheckDeadloop transport len ret counts s).2.2 = connection.pending s := by
  rw [utilsCheckDeadloop]
  dsimp only
  split_ifs <;> simp only [connection.tick]

/-! ## Buffers -/

theorem store_ok {buf buf' bytes : List UInt8} {offset : Nat}
    (stored : store buf offset bytes = .ok buf') :
    offset + bytes.length ≤ buf.length ∧ buf' = overwrite buf offset bytes := by
  rw [store] at stored
  split at stored
  · rename_i fits
    cases stored
    exact ⟨fits, rfl⟩
  · cases stored

/-- A buffer holds bytes, and behind them a terminator. -/
def Filled (data text : List UInt8) : Prop := ∃ rest, data = text ++ 0 :: rest

/-- Bytes in front of a terminator that is stored. -/
theorem filled_of_store {text behind data : List UInt8}
    (stored : store (text ++ behind) text.length [0] = .ok data) : Filled data text := by
  obtain ⟨_, rfl⟩ := store_ok stored
  refine ⟨behind.drop 1, ?_⟩
  rw [overwrite_append, List.append_assoc]
  rfl

/-- The string in a buffer. -/
theorem Filled.cString {data text string : List UInt8} {offset : Nat} (filled : Filled data text)
    (within : offset ≤ text.length) (isString : cStringAt data offset = .ok string) :
    string = (text.drop offset).takeWhile (· ≠ 0) := by
  obtain ⟨rest, rfl⟩ := filled
  rw [cStringAt] at isString
  split at isString
  · cases isString
    rw [List.drop_append_of_le_length within, List.takeWhile_append]
    split
    · rw [List.takeWhile_cons_of_neg (by simp), List.append_nil]
      rename_i whole
      exact (List.takeWhile_prefix _).eq_of_length whole |>.symm
    · rfl
  · cases isString

/-- The end of the bytes, moved to the front. -/
theorem Filled.moveToFront {data data' text : List UInt8} {offset : Nat} (filled : Filled data text)
    (within : offset ≤ text.length)
    (moved : moveToFront data offset (text.length - offset + 1) = .ok data') :
    Filled data' (text.drop offset) := by
  obtain ⟨rest, rfl⟩ := filled
  rw [Utils.moveToFront] at moved
  split at moved
  · obtain ⟨_, rfl⟩ := store_ok moved
    have piece : ((text ++ 0 :: rest).drop offset).take (text.length - offset + 1) =
        text.drop offset ++ [0] := by
      rw [List.drop_append_of_le_length within, List.take_append, List.take_of_length_le (by simp),
        List.length_drop]
      simp
    refine ⟨(text ++ 0 :: rest).drop (text.drop offset ++ [0]).length, ?_⟩
    rw [piece, overwrite_zero, List.append_assoc]
    rfl
  · cases moved

/-! ## The body -/

theorem take_overwrite {buf bytes : List UInt8} {offset : Nat} (within : offset ≤ buf.length) :
    (overwrite buf offset bytes).take offset = buf.take offset := by
  have length : (buf.take offset).length = offset := List.length_take_of_le within
  rw [overwrite, List.append_assoc, List.take_append_of_le_length (Nat.le_of_eq length.symm),
    List.take_of_length_le (Nat.le_of_eq length)]

/-- A buffer of the client, of some length. -/
def HasBuffer (clientData : HttpClientData) (responseBuf : List UInt8) : Prop :=
  clientData.responseBuf = some responseBuf ∧ clientData.responseBufLen = responseBuf.length

/-- Bytes that fit are moved behind those that are written. -/
theorem utilsFillRxBuf_ok {written len : Nat} {clientData after : HttpClientData}
    {data responseBuf : List UInt8} {res count : Int} (hasBuffer : HasBuffer clientData responseBuf)
    (fits : written + len + 1 < responseBuf.length)
    (filled : utilsFillRxBuf written len clientData data = .ok (res, count, after)) :
    res = successRet ∧ count = (written + len : Nat) ∧ ∃ responseBuf',
      HasBuffer after responseBuf' ∧ responseBuf'.length = responseBuf.length ∧
        responseBuf'.take (written + len) = responseBuf.take written ++ data.take len ∧
        after = { clientData with
          responseBuf := some responseBuf'
          retrieveLen := clientData.retrieveLen - len } := by
  obtain ⟨isBuffer, isLength⟩ := hasBuffer
  rw [utilsFillRxBuf, isBuffer, isLength, if_pos (by omega), Option.getD_some] at filled
  obtain ⟨copied, copies, filled⟩ := bind_ok filled
  rw [copyToResponse] at copies
  split at copies
  · cases copies
  rename_i inside
  have within : len ≤ data.length := by omega
  obtain ⟨first, stores, copies⟩ := bind_ok copies
  obtain ⟨_, rfl⟩ := store_ok stores
  obtain ⟨_, rfl⟩ := store_ok copies
  cases filled
  have taken : (data.take len).length = len := List.length_take_of_le within
  have first : (overwrite responseBuf written (data.take len)).length = responseBuf.length :=
    overwrite_length (by omega)
  have second : (overwrite (overwrite responseBuf written (data.take len)) (written + len) [0]).length =
      responseBuf.length := by
    rw [overwrite_length, first]
    rw [first, List.length_singleton]
    omega
  have ends : ((written : Int) + len).toNat = written + len := by omega
  rw [Int.toNat_natCast, Int.toNat_natCast, ends]
  refine ⟨rfl, (Int.natCast_add written len).symm, _, ⟨rfl, ?_⟩, second, ?_, ?_⟩
  · dsimp only
    exact congrArg _ second.symm
  · rw [take_overwrite (by omega)]
    have front := @overwrite_take responseBuf (data.take len) written (by omega)
    rwa [taken] at front
  · rw [isLength]

/-- The loop that moves the body: the first bytes are written, the next ones are in a buffer,
and the others are pending. -/
structure InBody (body : List UInt8) (room : Nat) (data : List UInt8) (dataLen written : Nat)
    (clientData : HttpClientData) (s : ν) : Prop where
  responseBuf : ∃ responseBuf, HasBuffer clientData responseBuf ∧ responseBuf.length = room ∧
    responseBuf.take written = body.take written
  fits : body.length + 1 < room
  inside : written ≤ body.length
  left : clientData.retrieveLen = (body.length - written : Nat)
  announced : clientData.responseContentLen = body.length
  noPost : clientData.postBuf = none
  known : dataLen ≤ data.length
  rest : body.drop written = data.take dataLen ++ connection.pending s

/-- The body is stored, and nothing else is pending. -/
structure GotBody (body : List UInt8) (room : Nat) (after : HttpClientData) (s : ν) : Prop where
  responseBuf : ∃ responseBuf, HasBuffer after responseBuf ∧ responseBuf.length = room ∧
    responseBuf.take body.length = body
  retrieveLen : after.retrieveLen = 0
  isMore : after.isMore = false
  announced : after.responseContentLen = body.length
  noPost : after.postBuf = none
  pending : connection.pending s = []

/-- A response that is not received leaves a buffer of the same length. -/
def Lost (room : Nat) (rc : Int) (after : HttpClientData) : Prop :=
  rc < 0 ∧ ∃ responseBuf, HasBuffer after responseBuf ∧ responseBuf.length = room

variable {connection}

theorem responseBodyLoop_body {body : List UInt8} {room : Nat} {rc : Int} {after : HttpClientData} :
    ∀ {turns : Nat} {data : List UInt8} {dataLen written : Nat} {counts : DeadloopCounts}
      {clientData : HttpClientData} {s : ν},
      InBody connection body room data dataLen written clientData s →
      responseBodyLoop transport turns data dataLen written counts clientData s = .ok (rc, after, s') →
        (rc = successRet ∧ GotBody connection body room after s') ∨ Lost room rc after
  | 0, _, _, _, _, _, _, _, received => nomatch received
  | turns + 1, data, dataLen, written, counts, clientData, s, inBody, received => by
      obtain ⟨responseBuf, hasBuffer, isRoom, isWritten⟩ := inBody.responseBuf
      have fits := inBody.fits
      have inside := inBody.inside
      have left := inBody.left
      have rest := congrArg List.length inBody.rest
      rw [List.length_drop, List.length_append, List.length_take_of_le inBody.known] at rest
      rw [responseBodyLoop] at received
      obtain ⟨⟨res, count, moved⟩, filled, received⟩ := bind_ok received
      have isMin : min (dataLen : Int) clientData.retrieveLen = dataLen := by omega
      rw [isMin] at filled
      obtain ⟨rfl, rfl, responseBuf', hasBuffer', length, isWritten', rfl⟩ :=
        utilsFillRxBuf_ok hasBuffer (by omega) filled
      have joined : responseBuf'.take (written + dataLen) = body.take (written + dataLen) := by
        rw [isWritten', isWritten, List.take_add, inBody.rest,
          List.take_append_of_le_length (List.length_take_of_le inBody.known).ge, List.take_take,
          Nat.min_self]
      have behind : body.drop (written + dataLen) = connection.pending s := by
        rw [← List.drop_drop, inBody.rest, List.drop_append_of_le_length
          (List.length_take_of_le inBody.known).ge, List.drop_of_length_le
          (List.length_take_of_le inBody.known).le, List.nil_append]
      dsimp only at received
      rw [if_neg (by decide)] at received
      split at received
      · rename_i none
        cases received
        have whole : written + dataLen = body.length := by omega
        refine .inl ⟨rfl, ⟨responseBuf', hasBuffer', length.trans isRoom, ?_⟩, none, rfl,
          inBody.announced, inBody.noPost, ?_⟩
        · rw [← whole, joined, whole, List.take_length]
        · rw [← behind, whole, List.drop_length]
      · split at received
        · cases received
        · generalize (min (min ((httpClientChunkSize - 1 : Nat) : Int)
            (clientData.responseBufLen - 1 - (written + dataLen : Nat)))
            (clientData.retrieveLen - dataLen)).toNat = maxLen at received
          rcases recv : httpRecv transport maxLen s with ⟨ret, len, bytes, s₁⟩
          rw [recv] at received
          dsimp only at received
          obtain ⟨data', stored, received⟩ := bind_ok received
          obtain ⟨known, rfl⟩ := store_ok stored
          have lost : Lost room errHttpConnError { clientData with
              responseBuf := some responseBuf'
              retrieveLen := clientData.retrieveLen - dataLen } :=
            ⟨by decide, responseBuf', hasBuffer', length.trans isRoom⟩
          split at received
          · rename_i isError
            cases received
            exact .inr (isError ▸ lost)
          · rename_i notError
            have kept := @utilsCheckDeadloop_pending _ _ connection s₁ len ret counts
            split at received
            · rename_i isError
              cases received
              exact .inr (isError ▸ lost)
            · have next : len ≤ (overwrite data 0 bytes).length ∧ connection.pending s =
                  (overwrite data 0 bytes).take len ++ connection.pending s₁ := by
                obtain ⟨_, _, _, isLength, isPending⟩ | ⟨_, none, isPending⟩ | isError :=
                  httpRecv_cases connection recv
                · have front := overwrite_take known
                  rw [Nat.zero_add, isLength, List.take_zero, List.nil_append] at front
                  refine ⟨?_, front.symm ▸ isPending⟩
                  rw [overwrite_length known]
                  omega
                · rw [none, List.take_zero, List.nil_append, isPending]
                  exact ⟨Nat.zero_le _, rfl⟩
                · exact absurd isError notError
              obtain ⟨known, isPending⟩ := next
              refine responseBodyLoop_body ⟨⟨responseBuf', hasBuffer', length.trans isRoom, joined⟩,
                fits, by omega, ?_, inBody.announced, inBody.noPost, known, ?_⟩ received
              · dsimp only
                omega
              · rw [behind, kept, isPending]

theorem httpGetResponseBody_body {body : List UInt8} {room turns dataLen : Nat} {rc : Int}
    {data : List UInt8} {timeoutMs : UInt32} {clientData after : HttpClientData}
    (inBody : InBody connection body room data dataLen 0 clientData s)
    (received : httpGetResponseBody transport turns data dataLen timeoutMs clientData s =
      .ok (rc, after, s')) :
    (rc = successRet ∧ GotBody connection body room after s') ∨ Lost room rc after := by
  obtain ⟨responseBuf, hasBuffer, isRoom, isWritten⟩ := inBody.responseBuf
  rw [httpGetResponseBody] at received
  dsimp only at received
  split at received
  · cases received
    exact .inr ⟨by decide, responseBuf, hasBuffer, isRoom⟩
  · have starts : InBody connection body room data dataLen 0 { clientData with isMore := true }
        (transport.tick s).2 := by
      refine ⟨⟨responseBuf, hasBuffer, isRoom, isWritten⟩, inBody.fits, inBody.inside, inBody.left,
        inBody.announced, inBody.noPost, inBody.known, ?_⟩
      rw [connection.tick]
      exact inBody.rest
    exact responseBodyLoop_body starts received

/-! ## The header -/

abbrev crlf : List UInt8 := literal "\r\n"
abbrev headerEnd : List UInt8 := literal "\r\n\r\n"
abbrev contentLength : List UInt8 := literal "Content-Length"

/-- A response in the form that is parsed: its header has the length of the body. -/
structure Response (body : List UInt8) where
  status : List UInt8
  headers : List UInt8
  plain : 0 ∉ headers
  line : IsFirst crlf (status ++ crlf) status.length
  ends : IsFirst headerEnd (headers ++ headerEnd) headers.length
  length : ∃ i, IsFirst contentLength (headers ++ headerEnd) i ∧
    atoi ((headers ++ headerEnd).drop (i + 16)) = body.length

variable {body : List UInt8}

/-- What is behind the status line. -/
def Response.behind (response : Response body) : List UInt8 := response.headers ++ headerEnd ++ body

def Response.bytes (response : Response body) : List UInt8 :=
  response.status ++ crlf ++ response.behind

/-- The loop that reads on stops at the end of the header. -/
theorem headerLoop_ends {behind : List UInt8} {ret : Int} {bodyEnd len' : Nat} {data' : List UInt8} :
    ∀ {turns : Nat} {data text : List UInt8} {s : ν}, Filled data text →
      text ++ connection.pending s = behind →
      headerLoop transport turns data text.length s = .ok (ret, bodyEnd, data', len', s') →
        (ret = successRet ∧ ∃ text', Filled data' text' ∧ len' = text'.length ∧
          text' ++ connection.pending s' = behind ∧
            IsFirst headerEnd (text'.takeWhile (· ≠ 0)) bodyEnd) ∨ ret = errHttpConnError
  | 0, _, _, _, _, _, loops => nomatch loops
  | turns + 1, data, text, s, filled, isBehind, loops => by
      rw [headerLoop] at loops
      obtain ⟨string, isString, loops⟩ := bind_ok loops
      have isText := filled.cString (Nat.zero_le _) isString
      rw [List.drop_zero] at isText
      subst isText
      cases found : strstr headerEnd (text.takeWhile (· ≠ 0)) with
      | some i =>
          rw [found] at loops
          cases loops
          exact .inl ⟨rfl, text, filled, rfl, isBehind, strstr_iff.mp found⟩
      | none =>
          rw [found] at loops
          rcases recv : httpRecv transport httpClientReadHeadSize s with ⟨ret', len, bytes, s₁⟩
          rw [recv] at loops
          dsimp only at loops
          obtain ⟨data₁, stores, loops⟩ := bind_ok loops
          obtain ⟨rest, rfl⟩ := filled
          obtain ⟨_, rfl⟩ := store_ok stores
          split at loops
          · rename_i isError
            cases loops
            exact .inr isError
          · rename_i notError
            obtain ⟨data₂, stores, loops⟩ := bind_ok loops
            rw [overwrite_append] at stores
            obtain ⟨_, _, _, isLength, isPending⟩ | ⟨_, none, isPending⟩ | isError :=
              httpRecv_cases connection recv
            · have isEnd : text.length + len = (text ++ bytes).length := by
                rw [List.length_append, isLength]
              rw [isEnd] at stores loops
              refine headerLoop_ends (filled_of_store stores) ?_ loops
              rw [List.append_assoc, ← isPending, isBehind]
            · rw [none, Nat.add_zero] at stores loops
              rw [List.append_assoc] at stores
              refine headerLoop_ends (filled_of_store stores) ?_ loops
              rw [isPending, isBehind]
            · exact absurd isError notError

/-- A number in a header does not depend on what is behind the header. -/
theorem atoi_header {headers front data number : List UInt8} {i : Nat} (plain : 0 ∉ headers)
    (digits : (signedDigits ((headers ++ headerEnd).drop (i + 16))).2 ≠ [])
    (filled : Filled data (headers ++ headerEnd ++ front))
    (isNumber : cStringAt data (i + 16) = .ok number) :
    atoi number = atoi ((headers ++ headerEnd).drop (i + 16)) := by
  have isLine : headers ++ headerEnd = headers ++ literal "\r\n\r" ++ [0x0A] := by
    rw [List.append_assoc]
    rfl
  have plain : ∀ byte ∈ (headers ++ headerEnd).drop (i + 16), byte ≠ 0 := by
    intro byte among isZero
    subst isZero
    rcases List.mem_append.mp (List.mem_of_mem_drop among) with among | among
    · exact plain among
    · exact absurd among (by decide)
  have inside : i + 16 < (headers ++ headerEnd).length := by
    by_contra outside
    rw [List.drop_of_length_le (Nat.not_lt.mp outside)] at digits
    exact digits rfl
  have within : i + 16 ≤ (headers ++ headerEnd ++ front).length := by
    rw [List.length_append]
    omega
  rw [filled.cString within isNumber, List.drop_append_of_le_length inside.le,
    List.takeWhile_append_of_pos (by simpa using plain)]
  rw [isLine, List.length_append, List.length_singleton] at inside
  rw [isLine, List.drop_append_of_le_length (by omega)] at digits ⊢
  rw [List.append_assoc]
  exact atoi_line digits

/-- The number that is found in the header is the length of the body. -/
theorem Response.number (response : Response body) {front data number : List UInt8} {i : Nat}
    (notEmpty : body ≠ []) (filled : Filled data (response.headers ++ headerEnd ++ front))
    (found : IsFirst contentLength ((response.headers ++ headerEnd ++ front).takeWhile (· ≠ 0)) i)
    (isNumber : cStringAt data (i + 16) = .ok number) : atoi number = body.length := by
  obtain ⟨j, first, isLength⟩ := response.length
  obtain rfl := found.of_prefix (List.takeWhile_prefix _) (first.append front)
  have positive := List.length_pos_iff.mpr notEmpty
  have digits := @digits_of_atoi ((response.headers ++ headerEnd).drop (i + 16)) (by omega)
  rw [atoi_header response.plain digits filled isNumber, isLength]

variable {room turns : Nat} {rc : Int} {clientData after : HttpClientData} {timeoutMs : UInt32}
  {responseBuf : List UInt8}

theorem parseContent_body (response : Response body) (notEmpty : body ≠ [])
    (fits : body.length + 1 < room) (hasBuffer : HasBuffer clientData responseBuf)
    (isRoom : responseBuf.length = room) (noPost : clientData.postBuf = none) {data text : List UInt8}
    {bodyEnd : Nat} (filled : Filled data text)
    (isBehind : text ++ connection.pending s = response.behind)
    (found : IsFirst headerEnd (text.takeWhile (· ≠ 0)) bodyEnd)
    (parsed : parseContent transport turns bodyEnd data text.length timeoutMs clientData s =
      .ok (rc, after, s')) :
    (rc = successRet ∧ GotBody connection body room after s') ∨ Lost room rc after := by
  obtain ⟨rfl, front, rfl, isBody⟩ := response.ends.splits isBehind (List.takeWhile_prefix _) found
  rw [parseContent] at parsed
  obtain ⟨string, isString, parsed⟩ := bind_ok parsed
  have isText := filled.cString (Nat.zero_le _) isString
  rw [List.drop_zero] at isText
  subst isText
  cases named : strstr contentLength
      ((response.headers ++ headerEnd ++ front).takeWhile (· ≠ 0)) with
  | none =>
      rw [named] at parsed
      cases parsed
      exact .inr ⟨by decide, responseBuf, hasBuffer, isRoom⟩
  | some i =>
      rw [named] at parsed
      obtain ⟨number, isNumber, parsed⟩ := bind_ok parsed
      obtain ⟨data', moved, parsed⟩ := bind_ok parsed
      have isLength := response.number notEmpty filled (strstr_iff.mp named) isNumber
      have isEnd : response.headers.length + 4 = (response.headers ++ headerEnd).length := by
        rw [List.length_append]
        rfl
      have isLeft : (response.headers ++ headerEnd ++ front).length - (response.headers.length + 4) =
          front.length := by
        rw [isEnd, List.length_append, Nat.add_sub_cancel_left]
      have within : response.headers.length + 4 ≤ (response.headers ++ headerEnd ++ front).length := by
        rw [isEnd]
        exact (List.prefix_append _ front).length_le
      have filled' := filled.moveToFront within moved
      rw [isEnd, List.drop_left] at filled'
      obtain ⟨rest, rfl⟩ := filled'
      dsimp only at parsed
      rw [isLeft, isLength] at parsed
      have starts : InBody connection body room (front ++ 0 :: rest) front.length 0
          { clientData with
            responseContentLen := body.length
            retrieveLen := body.length
            responseReceivedLen := clientData.responseReceivedLen + front.length } s := by
        refine ⟨⟨responseBuf, hasBuffer, isRoom, rfl⟩, fits, Nat.zero_le _, rfl, rfl, noPost, ?_, ?_⟩
        · exact (List.prefix_append front _).length_le
        · rw [List.drop_zero, List.take_left]
          exact isBody.symm
      exact httpGetResponseBody_body starts parsed

/-- The end of the status line becomes a terminator, and what is behind it is moved to the
front. -/
theorem Filled.behindLine {status front data data₁ data₂ : List UInt8}
    (filled : Filled data (status ++ crlf ++ front)) (stores : store data status.length [0] = .ok data₁)
    (moved : Utils.moveToFront data₁ (status.length + 2)
      ((status ++ crlf ++ front).length - (status.length + 2) + 1) = .ok data₂) : Filled data₂ front := by
  obtain ⟨rest, rfl⟩ := filled
  obtain ⟨_, rfl⟩ := store_ok stores
  have cut : Filled (overwrite (status ++ crlf ++ front ++ 0 :: rest) status.length [0])
      (status ++ [0, 0x0A] ++ front) := by
    refine ⟨rest, ?_⟩
    rw [List.append_assoc, List.append_assoc, overwrite_append]
    simp [literal]
  have sameLength : (status ++ crlf ++ front).length = (status ++ [0, 0x0A] ++ front).length := by
    simp [literal]
  have isEnd : status.length + 2 = (status ++ [0, 0x0A]).length := by simp
  rw [sameLength] at moved
  have filled₂ := cut.moveToFront (by simp) moved
  rw [isEnd, List.drop_left] at filled₂
  exact filled₂

theorem httpParseResponseHeader_body (response : Response body) (notEmpty : body ≠ [])
    (fits : body.length + 1 < room) (hasBuffer : HasBuffer clientData responseBuf)
    (isRoom : responseBuf.length = room) (noPost : clientData.postBuf = none) {data text : List UInt8}
    {client client' : HttpClient} (filled : Filled data text)
    (isBytes : text ++ connection.pending s = response.bytes)
    (parsed : httpParseResponseHeader transport turns client data text.length timeoutMs clientData s =
      .ok (rc, client', after, s')) :
    client'.net = client.net ∧ client'.header = client.header ∧
      ((rc = successRet ∧ GotBody connection body room after s') ∨ Lost room rc after) := by
  rw [httpParseResponseHeader] at parsed
  dsimp only at parsed
  obtain ⟨string, isString, parsed⟩ := bind_ok parsed
  have isText := filled.cString (Nat.zero_le _) isString
  rw [List.drop_zero] at isText
  subst isText
  cases found : strstr crlf (text.takeWhile (· ≠ 0)) with
  | none =>
      rw [found] at parsed
      cases parsed
      exact ⟨rfl, rfl, .inr ⟨by decide, responseBuf, hasBuffer, isRoom⟩⟩
  | some crlfPos =>
      rw [found] at parsed
      obtain ⟨data₁, stores, parsed⟩ := bind_ok parsed
      obtain ⟨status, _, parsed⟩ := bind_ok parsed
      obtain ⟨data₂, moved, parsed⟩ := bind_ok parsed
      obtain ⟨⟨ret, bodyEnd, data₃, len, s₁⟩, loops, parsed⟩ := bind_ok parsed
      obtain ⟨rfl, front, rfl, isBehind⟩ := response.line.splits isBytes (List.takeWhile_prefix _)
        (strstr_iff.mp found)
      have filled₂ : Filled data₂ front := filled.behindLine stores moved
      have isLength : (response.status ++ crlf ++ front).length - (response.status.length + 2) =
          front.length := by
        have isEnd : response.status.length + 2 = (response.status ++ crlf).length := by
          rw [List.length_append]
          rfl
        rw [isEnd, List.length_append, Nat.add_sub_cancel_left]
      rw [isLength] at loops
      rcases headerLoop_ends filled₂ isBehind loops with
        ⟨rfl, text', filled', rfl, isBehind', ends⟩ | rfl
      · dsimp only at parsed
        rw [if_neg (not_not.mpr rfl)] at parsed
        obtain ⟨⟨rc', after', s₂⟩, content, parsed⟩ := bind_ok parsed
        cases parsed
        have reset : HasBuffer { clientData with responseContentLen := -1, isChunked := false }
            responseBuf := hasBuffer
        refine ⟨rfl, rfl, ?_⟩
        exact parseContent_body response notEmpty fits reset isRoom noPost filled' isBehind' ends
          content
      · cases parsed
        have negative : errHttpConnError < 0 := by decide
        exact ⟨rfl, rfl, .inr ⟨negative, responseBuf, hasBuffer, isRoom⟩⟩

/-! ## The response -/

/-- What a server has sent in answer: nothing yet, or a response. -/
def Answered (connection : Connection transport) (body : List UInt8) (s : ν) : Prop :=
  connection.pending s = [] ∨ ∃ response : Response body, connection.pending s = response.bytes

theorem httpClientRecvResponse_body (answered : Answered connection body s) (notEmpty : body ≠ [])
    (fits : body.length + 1 < room) (hasBuffer : HasBuffer clientData responseBuf)
    (isRoom : responseBuf.length = room) (noPost : clientData.postBuf = none)
    (notMore : clientData.isMore = false) {client client' : HttpClient}
    (received : httpClientRecvResponse transport turns client timeoutMs clientData s =
      .ok (rc, client', after, s')) :
    client'.net = client.net ∧ client'.header = client.header ∧
      ((rc = successRet ∧ GotBody connection body room after s') ∨ Lost room rc after) := by
  have lost : ∀ {rc}, rc < 0 → Lost room rc { clientData with isMore := true } := fun negative =>
    ⟨negative, responseBuf, hasBuffer, isRoom⟩
  rw [httpClientRecvResponse] at received
  dsimp only at received
  split at received
  · cases received
    exact ⟨rfl, rfl, .inr ⟨by decide, responseBuf, hasBuffer, isRoom⟩⟩
  · rw [if_neg (by rw [notMore]; exact Bool.false_ne_true)] at received
    rcases recv : httpRecv transport httpClientReadHeadSize s with ⟨ret, len, bytes, s₁⟩
    rw [recv] at received
    dsimp only at received
    obtain ⟨buf, stores, received⟩ := bind_ok received
    obtain ⟨rfl, positive, _, isLength, isPending⟩ | ⟨rfl, _, _⟩ | rfl := httpRecv_cases connection recv
    · rw [if_neg (not_not.mpr rfl)] at received
      obtain ⟨buf', stores', parsed⟩ := bind_ok received
      rw [if_pos (Nat.ne_of_gt positive), ← isLength] at parsed
      rcases answered with none | ⟨response, isBytes⟩
      · -- There is nothing to deliver.
        rw [none] at isPending
        have length := congrArg List.length isPending
        rw [List.length_append, List.length_nil] at length
        omega
      · obtain ⟨_, rfl⟩ := store_ok stores
        rw [overwrite_zero, ← isLength] at stores'
        have filled := filled_of_store stores'
        have waits : HasBuffer { clientData with isMore := true } responseBuf := hasBuffer
        exact httpParseResponseHeader_body response notEmpty fits waits isRoom noPost filled
          (isPending.symm.trans isBytes) parsed
    · rw [if_pos (by decide)] at received
      cases received
      exact ⟨rfl, rfl, .inr (lost (by decide))⟩
    · rw [if_pos (by decide)] at received
      cases received
      exact ⟨rfl, rfl, .inr (lost (by decide))⟩

/-- What is received is the body of the response, or the connection is closed. -/
theorem httpClientRecvData_body (answered : Answered connection body s) (notEmpty : body ≠ [])
    (fits : body.length + 1 < room) (hasBuffer : HasBuffer clientData responseBuf)
    (isRoom : responseBuf.length = room) (noPost : clientData.postBuf = none)
    (notMore : clientData.isMore = false) {client client' : HttpClient}
    (received : httpClientRecvData transport turns client timeoutMs clientData s =
      .ok (rc, client', after, s')) :
    (rc = successRet ∧ client'.header = client.header ∧ GotBody connection body room after s') ∨
      (client'.net.handle = .zero ∧ Lost room rc after) := by
  obtain ⟨isBuffer, isLength⟩ := hasBuffer
  have hasRoom : clientData.responseBuf.isSome ∧ clientData.responseBufLen ≠ 0 := by
    rw [isBuffer, isLength]
    exact ⟨rfl, by omega⟩
  rw [httpClientRecvData, if_pos hasRoom] at received
  obtain ⟨⟨rc', client₁, after', s₁⟩, response, received⟩ := bind_ok received
  obtain ⟨_, header, ⟨rfl, got⟩ | lost⟩ := httpClientRecvResponse_body answered notEmpty fits
    ⟨isBuffer, isLength⟩ isRoom noPost notMore response
  · dsimp only at received
    rw [if_neg (by decide)] at received
    cases received
    exact .inl ⟨rfl, header, got⟩
  · dsimp only at received
    rw [if_pos lost.1] at received
    cases received
    exact .inr ⟨rfl, lost⟩

end UIoT.Utils
