import UIoT.Lib.JsonReader
import UIoT.Utils.Httpc
import UIoT.Utils.JsonScan

/-!
# Heads of requests

`_http_send_header` formats the lines that a request begins with into a buffer of 300 bytes, with
`%d` for its offsets, and puts what follows them behind them into a buffer that is written
whenever it is full.

A transport can be recorded: beside it stand the bytes that it was handed over to write, with its
answers. A filling hands over its text in buffers of 1024 bytes up to the first one that is not
accepted whole (`fillTxLoop_fills`). What is handed over begins with the lines of the request,
whatever else the client and the network do, just where the lines are short and the last offset
is a signed number (`sendsHead_iff`).
-/

set_option autoImplicit false

namespace UIoT.Utils

open Json

variable {ν : Type} {transport : Transport ν} {s : ν}

/-! ## Numbers -/

theorem formatNat_eq_map (n : Nat) :
    formatNat n = ((decimal n).1 :: (decimal n).2).map digitByte := List.map_cons.symm

theorem isDigit_formatNat {n : Nat} : ∀ byte ∈ formatNat n, isDigit byte = true := by
  intro byte member
  rw [formatNat_eq_map] at member
  obtain ⟨digit, _, rfl⟩ := List.mem_map.mp member
  exact isDigit_digitByte digit

/-- The number is read back. -/
theorem digitsValue_formatNat (n : Nat) : digitsValue (formatNat n) = n := by
  have value : ∀ digit : Digit, (digitByte digit).toNat - 0x30 = digit.val := by decide
  have step : (fun (m : Nat) (digit : Digit) => 10 * m + ((digitByte digit).toNat - 0x30)) =
      fun m digit => 10 * m + digit.val := by
    funext m digit
    rw [value]
  rw [digitsValue, formatNat_eq_map, List.foldl_map, step]
  exact ofDigits_decimal n

/-- A number is all of the digits in front of what is no digit. -/
theorem digits_formatNat (n : Nat) {byte : UInt8} (rest : List UInt8) (stop : isDigit byte = false) :
    (formatNat n ++ byte :: rest).takeWhile isDigit = formatNat n ∧
      (formatNat n ++ byte :: rest).dropWhile isDigit = byte :: rest := by
  apply takeWhile_stop isDigit (formatNat n) (byte :: rest) isDigit_formatNat
  intro a isFirst
  cases isFirst
  exact stop

theorem formatUnsignedAsInt_eq {n : UInt32} (small : n.toNat < 2 ^ 31) :
    formatUnsignedAsInt n = formatNat n.toNat := by
  rw [formatUnsignedAsInt, toInt32_of_small small, formatInt, if_neg (by omega), List.nil_append, Int.natAbs_natCast]

theorem formatNat_length {n : Nat} (small : n < 2 ^ 31) : (formatNat n).length ≤ 10 := by
  have few := @decimal_length n 9 (by omega)
  rw [formatNat, List.length_cons, List.length_map]
  omega

/-! ## Recording -/

/-- What is handed over to be written, with the answers. -/
abbrev Writes := List (List UInt8 × Int)

def handed (writes : Writes) : List UInt8 := writes.flatMap Prod.fst

theorem handed_append (writes more : Writes) : handed (writes ++ more) = handed writes ++ handed more :=
  List.flatMap_append

theorem handed_singleton (write : List UInt8 × Int) : handed [write] = write.1 := List.flatMap_singleton ..

/-- A transport beside what it was handed over. -/
abbrev Transport.recorded (transport : Transport ν) : Transport (ν × Writes) where
  read s n :=
    let (ret, bytes, world) := transport.read s.1 n
    (ret, bytes, world, s.2)
  write s bytes :=
    let (ret, world) := transport.write s.1 bytes
    (ret, world, s.2 ++ [(bytes, ret)])
  connect s hostAddress port :=
    let (handle, world) := transport.connect s.1 hostAddress port
    (handle, world, s.2)
  disconnect s handle := (transport.disconnect s.1 handle, s.2)
  tick s :=
    let (now, world) := transport.tick s.1
    (now, world, s.2)
  rtTickFromMillisecond := transport.rtTickFromMillisecond
  usingTls := transport.usingTls

theorem fillTxLoop_recorded {turns : Nat} {sendBuf buf : List UInt8} {idx : Nat} {writes : Writes} :
    fillTxLoop transport turns sendBuf idx buf s =
      let (ret, sendBuf, idx, world, _) := fillTxLoop transport.recorded turns sendBuf idx buf (s, writes)
      (ret, sendBuf, idx, world) := by
  induction turns generalizing sendBuf buf idx s writes with
  | zero => rfl
  | succ turns inductionHypothesis =>
      rw [fillTxLoop, fillTxLoop]
      dsimp only
      split_ifs <;> first | rfl | exact inductionHypothesis

/-! ## Filling the buffer -/

/-- A full buffer that is accepted whole. -/
def Whole (write : List UInt8 × Int) : Prop :=
  write.1.length = httpClientSendBufSize ∧ write.2 = httpClientSendBufSize

theorem none_written : ∀ write ∈ ([] : Writes), Whole write := by
  intro write among
  cases among

/-- A text that is handed over in full buffers. The rest of it stays in the buffer, or it is given
up where a buffer is not accepted whole. -/
inductive Fills (text : List UInt8) : Writes → Int → List UInt8 → Nat → Prop
  | whole {writes : Writes} {sendBuf : List UInt8} {idx : Nat} : (∀ write ∈ writes, Whole write) →
      handed writes ++ sendBuf.take idx = text → sendBuf.length = httpClientSendBufSize →
      idx < httpClientSendBufSize → Fills text writes successRet sendBuf idx
  | refused {writes : Writes} {last : List UInt8 × Int} {ret : Int} {rest : List UInt8} {idx : Nat} :
      (∀ write ∈ writes, Whole write) → last.1.length = httpClientSendBufSize →
      last.2 ≠ httpClientSendBufSize → handed (writes ++ [last]) ++ rest = text → ret ≠ successRet →
      Fills text (writes ++ [last]) ret last.1 idx

theorem Fills.cons {first text sendBuf : List UInt8} {writes : Writes} {ret : Int} {idx : Nat}
    (isFull : first.length = httpClientSendBufSize) (fills : Fills text writes ret sendBuf idx) :
    Fills (first ++ text) ((first, (httpClientSendBufSize : Int)) :: writes) ret sendBuf idx := by
  have all : ∀ {writes : Writes}, (∀ write ∈ writes, Whole write) →
      ∀ write ∈ (first, (httpClientSendBufSize : Int)) :: writes, Whole write := by
    intro writes wholes write among
    rcases List.mem_cons.mp among with rfl | among
    · exact ⟨isFull, rfl⟩
    · exact wholes write among
  cases fills with
  | whole wholes isText length inside =>
      refine .whole (all wholes) ?_ length inside
      rw [handed, List.flatMap_cons, List.append_assoc, ← isText]
      rfl
  | @refused writes last ret rest _ wholes isLast notWhole isText failed =>
      have isAll : handed ((first, (httpClientSendBufSize : Int)) :: writes ++ [last]) ++ rest =
          first ++ text := by
        rw [List.cons_append, handed, List.flatMap_cons, List.append_assoc, ← isText]
        rfl
      exact .refused (all wholes) isLast notWhole isAll failed

theorem fillTxLoop_fills {turns : Nat} {sendBuf buf : List UInt8} {idx : Nat} {writes : Writes}
    (length : sendBuf.length = httpClientSendBufSize) (inside : idx < httpClientSendBufSize)
    (inTime : buf.length < turns) :
    ∃ ret sendBuf' idx' world new, fillTxLoop transport.recorded turns sendBuf idx buf (s, writes) =
        (ret, sendBuf', idx', world, writes ++ new) ∧
      Fills (sendBuf.take idx ++ buf) new ret sendBuf' idx' := by
  induction turns generalizing sendBuf buf idx s writes with
  | zero => exact absurd inTime (Nat.not_lt_zero _)
  | succ turns inductionHypothesis =>
      rw [fillTxLoop]
      dsimp only
      by_cases short : idx + buf.length < httpClientSendBufSize
      · have whole : buf.take (httpClientSendBufSize - idx) = buf := List.take_of_length_le (by omega)
        rw [whole, if_neg (Nat.ne_of_lt short), List.drop_length, if_pos rfl]
        refine ⟨_, _, _, _, [], by rw [List.append_nil], .whole none_written ?_ ?_ short⟩
        · exact overwrite_take (by omega)
        · rw [overwrite_length (by omega), length]
      · have isPiece : (buf.take (httpClientSendBufSize - idx)).length = httpClientSendBufSize - idx :=
          List.length_take_of_le (by omega)
        have isEnd : idx + (buf.take (httpClientSendBufSize - idx)).length = httpClientSendBufSize := by
          omega
        have isFull : (overwrite sendBuf idx (buf.take (httpClientSendBufSize - idx))).length =
            httpClientSendBufSize := by
          rw [overwrite_length (by omega), length]
        have content : overwrite sendBuf idx (buf.take (httpClientSendBufSize - idx)) =
            sendBuf.take idx ++ buf.take (httpClientSendBufSize - idx) := by
          have front := @overwrite_take sendBuf (buf.take (httpClientSendBufSize - idx)) idx (by omega)
          rwa [isEnd, List.take_of_length_le (Nat.le_of_eq isFull)] at front
        have text : overwrite sendBuf idx (buf.take (httpClientSendBufSize - idx)) ++
            buf.drop (buf.take (httpClientSendBufSize - idx)).length = sendBuf.take idx ++ buf := by
          rw [content, isPiece, List.append_assoc, List.take_append_drop]
        rw [if_pos isEnd]
        generalize overwrite sendBuf idx (buf.take (httpClientSendBufSize - idx)) = first at *
        by_cases whole : (transport.write s first).1 = httpClientSendBufSize
        · have notNegative : ¬(transport.write s first).1 < 0 := by
            rw [whole]
            decide
          rw [if_neg notNegative, if_neg (not_not.mpr whole), whole]
          split
          · rename_i noMore
            refine ⟨_, _, _, _, _, rfl, ?_⟩
            rw [noMore, List.append_nil] at text
            rw [← text]
            have none : Fills [] [] successRet first 0 := by
              exact .whole none_written rfl isFull (by decide)
            have one := none.cons isFull
            rwa [List.append_nil] at one
          · obtain ⟨ret, sendBuf', idx', world, new, fills, rest⟩ := @inductionHypothesis
              (transport.write s first).2 first
              (buf.drop (buf.take (httpClientSendBufSize - idx)).length) 0
              (writes ++ [(first, (httpClientSendBufSize : Int))]) isFull (by decide)
              (by rw [List.length_drop]; omega)
            rw [List.append_assoc] at fills
            rw [← text]
            exact ⟨ret, sendBuf', idx', world, _, fills, rest.cons isFull⟩
        · have refused : ∀ {ret : Int}, ret ≠ successRet → Fills (sendBuf.take idx ++ buf)
              [(first, (transport.write s first).1)] ret first
                (idx + (buf.take (httpClientSendBufSize - idx)).length) := by
            intro ret failed
            have isText : handed ([] ++ [(first, (transport.write s first).1)]) ++
                buf.drop (buf.take (httpClientSendBufSize - idx)).length = sendBuf.take idx ++ buf := by
              rw [← text, List.nil_append, handed_singleton]
            exact .refused none_written isFull whole isText failed
          split
          · rename_i negative
            exact ⟨_, _, _, _, _, rfl, refused (Int.ne_of_lt negative)⟩
          · refine ⟨_, _, _, _, _, rfl, refused ?_⟩
            split <;> decide

theorem utilsFillTxBuffer_fills {sendBuf text : List UInt8} {idx : Nat} {writes : Writes}
    (length : sendBuf.length = httpClientSendBufSize) (inside : idx < httpClientSendBufSize) :
    ∃ ret sendBuf' idx' world new, utilsFillTxBuffer transport.recorded sendBuf idx text (s, writes) =
        (ret, sendBuf', idx', world, writes ++ new) ∧
      Fills (sendBuf.take idx ++ text) new ret sendBuf' idx' ∧ (ret ≠ successRet → idx' = idx) := by
  obtain ⟨ret, sendBuf', idx', world, new, loops, fills⟩ := @fillTxLoop_fills _ transport s
    (text.length + 1) sendBuf text idx writes length inside (Nat.lt_succ_self _)
  rw [utilsFillTxBuffer, loops]
  cases fills with
  | whole wholes isText isFull short =>
      exact ⟨_, _, _, _, _, rfl, .whole wholes isText isFull short, fun failed => absurd rfl failed⟩
  | refused wholes isLast notWhole isText failed =>
      refine ⟨_, _, _, _, _, rfl, .refused wholes isLast notWhole isText failed, fun _ => ?_⟩
      exact if_neg failed

/-- What does not fill the buffer is put behind what is there. -/
theorem utilsFillTxBuffer_append {text rest buf : List UInt8}
    (length : (text ++ rest).length = httpClientSendBufSize)
    (short : text.length + buf.length < httpClientSendBufSize) :
    (text ++ buf ++ rest.drop buf.length).length = httpClientSendBufSize ∧
      utilsFillTxBuffer transport (text ++ rest) text.length buf s =
        (successRet, text ++ buf ++ rest.drop buf.length, (text ++ buf).length, s) := by
  have whole : buf.take (httpClientSendBufSize - text.length) = buf :=
    List.take_of_length_le (by omega)
  constructor
  · rw [← length]
    simp only [List.length_append, List.length_drop] at length ⊢
    omega
  · rw [utilsFillTxBuffer, fillTxLoop, whole]
    dsimp only
    rw [if_neg (Nat.ne_of_lt short), List.drop_length, if_pos rfl, overwrite_append, List.length_append]
    rfl

/-! ## The head -/

/-- What is put behind the lines of a request. -/
def headPieces (client : HttpClient) (clientData : HttpClientData) : List (List UInt8) :=
  client.header.toList ++
    (clientData.postBuf.map fun _ =>
      postLine (literal "Content-Length: ") (formatInt clientData.postBufLen)).toList ++
    (clientData.postBuf.bind fun _ => clientData.postContentType.map
      (postLine (literal "Content-Type: "))).toList ++ [literal "\r\n"]

/-- The fillings whose codes are not looked at. -/
def fillAll (transport : Transport ν) (pieces : List (List UInt8)) (filled : List UInt8 × Nat × ν) :
    List UInt8 × Nat × ν :=
  pieces.foldl (fun filled text => (utilsFillTxBuffer transport filled.1 filled.2.1 text filled.2.2).2)
    filled

theorem fillAll_cons (text : List UInt8) (pieces : List (List UInt8)) (filled : List UInt8 × Nat × ν) :
    fillAll transport (text :: pieces) filled =
      fillAll transport pieces (utilsFillTxBuffer transport filled.1 filled.2.1 text filled.2.2).2 := rfl

/-- The lines, as far as their buffer has room for them. -/
def cutLines (host path : List UInt8) (method : HttpRequestMethod) (sizeFetched rangeLen : UInt32) :
    List UInt8 :=
  (requestLines host path method sizeFetched rangeLen).take (httpClientRequestBufSize - 1)

theorem cutLines_length (host path : List UInt8) (method : HttpRequestMethod)
    (sizeFetched rangeLen : UInt32) : (cutLines host path method sizeFetched rangeLen).length ≤ 299 :=
  List.length_take_le _ _

/-- The buffer with a text at its front. -/
def bufferOf (text : List UInt8) : List UInt8 :=
  text ++ (List.replicate httpClientSendBufSize 0).drop text.length

theorem bufferOf_length {text : List UInt8} (short : text.length ≤ httpClientSendBufSize) :
    (bufferOf text).length = httpClientSendBufSize := by
  rw [bufferOf, List.length_append, List.length_drop, List.length_replicate]
  omega

/-- The lines do not fill the buffer. -/
theorem httpSendHeader_pieces (client : HttpClient) (host path : List UInt8) (method : HttpRequestMethod)
    (sizeFetched rangeLen : UInt32) (clientData : HttpClientData) :
    httpSendHeader transport client host path method sizeFetched rangeLen clientData s =
      let lines := cutLines host path method sizeFetched rangeLen
      let (sendBuf, len, s) := fillAll transport (headPieces client clientData)
        (bufferOf lines, lines.length, s)
      let (ret, s) := transport.write s (sendBuf.take len)
      (if ret ≤ 0 then if ret = 0 then errHttpClosed else errHttpConnError else successRet, s) := by
  have cut := cutLines_length host path method sizeFetched rangeLen
  have size : httpClientSendBufSize = 1024 := rfl
  rw [httpSendHeader]
  rw [← cutLines]
  generalize cutLines host path method sizeFetched rangeLen = lines at cut ⊢
  obtain ⟨_, first⟩ := @utilsFillTxBuffer_append ν transport s [] (List.replicate httpClientSendBufSize 0)
    lines (by simp) (by rw [List.length_nil]; omega)
  rw [List.nil_append, List.length_nil, List.nil_append] at first
  dsimp only
  rw [first]
  dsimp only
  rw [if_neg (by decide), fillAll, headPieces, bufferOf]
  generalize client.header = header
  generalize (clientData.postBuf.map fun _ =>
    postLine (literal "Content-Length: ") (formatInt clientData.postBufLen)) = lengthLine
  generalize (clientData.postBuf.bind fun _ => clientData.postContentType.map
    (postLine (literal "Content-Type: "))) = typeLine
  generalize literal "\r\n" = ending
  generalize utilsFillTxBuffer transport = fill
  cases header <;> cases lengthLine <;> cases typeLine <;> rfl

theorem fillAll_recorded {pieces : List (List UInt8)} {sendBuf : List UInt8} {idx : Nat}
    {writes : Writes} :
    fillAll transport pieces (sendBuf, idx, s) =
      let (sendBuf, idx, world, _) := fillAll transport.recorded pieces (sendBuf, idx, s, writes)
      (sendBuf, idx, world) := by
  induction pieces generalizing sendBuf idx s writes with
  | nil => rfl
  | cons text pieces inductionHypothesis =>
      rw [fillAll_cons, fillAll_cons, utilsFillTxBuffer, utilsFillTxBuffer,
        @fillTxLoop_recorded _ _ _ _ _ _ _ writes]
      exact inductionHypothesis

/-- What a platform is handed over does not depend on whether it is recorded. -/
theorem httpSendHeader_recorded (client : HttpClient) (host path : List UInt8)
    (method : HttpRequestMethod) (sizeFetched rangeLen : UInt32) (clientData : HttpClientData)
    (writes : Writes) :
    httpSendHeader transport client host path method sizeFetched rangeLen clientData s =
      let (ret, world, _) := httpSendHeader transport.recorded client host path method sizeFetched
        rangeLen clientData (s, writes)
      (ret, world) := by
  rw [httpSendHeader_pieces, httpSendHeader_pieces]
  dsimp only
  rw [@fillAll_recorded _ _ _ _ _ _ writes]

theorem fillAll_keeps {pieces : List (List UInt8)} {sendBuf : List UInt8} {idx : Nat} {writes : Writes}
    (length : sendBuf.length = httpClientSendBufSize) (inside : idx < httpClientSendBufSize) :
    ∃ sendBuf' idx' world writes',
      fillAll transport.recorded pieces (sendBuf, idx, s, writes) = (sendBuf', idx', world, writes') ∧
        handed writes ++ sendBuf.take idx <+: handed writes' ++ sendBuf'.take idx' := by
  induction pieces generalizing sendBuf idx s writes with
  | nil => exact ⟨sendBuf, idx, s, writes, rfl, List.prefix_refl _⟩
  | cons text pieces inductionHypothesis =>
      obtain ⟨ret, sendBuf', idx', world, new, filled, fills, same⟩ :=
        @utilsFillTxBuffer_fills _ transport s sendBuf text idx writes length inside
      have step : fillAll transport.recorded (text :: pieces) (sendBuf, idx, s, writes) =
          fillAll transport.recorded pieces (sendBuf', idx', world, writes ++ new) := by
        rw [fillAll_cons, filled]
      rw [step]
      have next : sendBuf'.length = httpClientSendBufSize ∧ idx' < httpClientSendBufSize ∧
          handed writes ++ sendBuf.take idx <+: handed (writes ++ new) ++ sendBuf'.take idx' := by
        rw [handed_append, List.append_assoc]
        cases fills with
        | whole wholes isText isFull short =>
            refine ⟨isFull, short, ?_⟩
            rw [isText]
            exact List.prefix_append_right_inj _ |>.mpr (List.prefix_append _ _)
        | @refused writes' last _ rest _ wholes isLast notWhole isText failed =>
            rw [same failed]
            refine ⟨isLast, inside, (List.prefix_append_right_inj _).mpr ?_⟩
            have long : idx ≤ (handed (writes' ++ [last])).length := by
              rw [handed_append, handed_singleton, List.length_append, isLast]
              omega
            have front : sendBuf.take idx <+: handed (writes' ++ [last]) := by
              apply List.prefix_of_prefix_length_le (List.prefix_append _ text)
                (isText ▸ List.prefix_append _ rest)
              exact (List.length_take_le _ _).trans long
            exact front.trans (List.prefix_append _ _)
      obtain ⟨isFull, short, kept⟩ := next
      obtain ⟨sendBuf'', idx'', world', writes', all, keeps⟩ :=
        @inductionHypothesis world sendBuf' idx' (writes ++ new) isFull short
      exact ⟨sendBuf'', idx'', world', writes', all, kept.trans keeps⟩

/-- What is handed over of a head begins with its lines. -/
theorem httpSendHeader_keeps (client : HttpClient) (host path : List UInt8) (method : HttpRequestMethod)
    (sizeFetched rangeLen : UInt32) (clientData : HttpClientData) :
    ∃ ret world writes, httpSendHeader transport.recorded client host path method sizeFetched rangeLen
        clientData (s, []) = (ret, world, writes) ∧
      cutLines host path method sizeFetched rangeLen <+: handed writes := by
  have cut := cutLines_length host path method sizeFetched rangeLen
  rw [httpSendHeader_pieces]
  generalize cutLines host path method sizeFetched rangeLen = lines at cut ⊢
  obtain ⟨sendBuf, idx, world, writes, all, keeps⟩ := @fillAll_keeps _ transport s
    (headPieces client clientData) (bufferOf lines) lines.length []
    (bufferOf_length (cut.trans (by decide))) (Nat.lt_of_le_of_lt cut (by decide))
  dsimp only
  rw [all]
  refine ⟨_, _, _, rfl, ?_⟩
  rw [bufferOf, List.take_left] at keeps
  rw [handed_append, handed_singleton]
  exact keeps

/-- The lines that a request is to begin with. -/
def headLines (host path : List UInt8) (method : HttpRequestMethod) (sizeFetched rangeLen : UInt32) :
    List UInt8 :=
  methodText method ++ literal " " ++ path ++ literal " HTTP/1.1\r\nHost: " ++ host ++
    literal "\r\n" ++
    if rangeLen ≠ 0 then
      literal "Range: bytes=" ++ formatNat sizeFetched.toNat ++ literal "-" ++
        formatNat (sizeFetched.toNat + rangeLen.toNat) ++ literal "\r\n"
    else []

/-- Whatever else a client sends and the network does, what is handed over begins with the lines, or
there is an error and nothing is handed over. -/
def SendsHead (host path : List UInt8) (method : HttpRequestMethod) (sizeFetched rangeLen : UInt32) :
    Prop :=
  ∀ {ν : Type} (transport : Transport ν) (client : HttpClient) (clientData : HttpClientData) (s : ν)
    (ret : Int) (world : ν) (writes : Writes),
    httpSendHeader transport.recorded client host path method sizeFetched rangeLen clientData (s, []) =
        (ret, world, writes) →
      headLines host path method sizeFetched rangeLen <+: handed writes ∨ ret < 0 ∧ writes = []

/-! ## Lines that are cut -/

variable {host path : List UInt8} {method : HttpRequestMethod} {sizeFetched rangeLen : UInt32}

theorem formatUnsignedAsInt_negative {n : UInt32} (large : ¬n.toNat < 2 ^ 31) :
    ∃ text, formatUnsignedAsInt n = 0x2D :: text := by
  rw [formatUnsignedAsInt, formatInt, if_pos (toInt32_of_large (Nat.not_lt.mp large))]
  exact ⟨_, rfl⟩

/-- The digits of a number do not begin with a sign. -/
theorem formatNat_minus {n : Nat} {rest text : List UInt8} (front : formatNat n ++ rest <+: 0x2D :: text) :
    False := by
  rw [formatNat_eq_map, List.map_cons, List.cons_append, List.cons_prefix_cons] at front
  have isDigit := isDigit_digitByte (decimal n).1
  rw [front.1] at isDigit
  exact absurd isDigit (by decide)

/-- A printed offset is the right one where it is a signed number. -/
theorem formatUnsignedAsInt_of_prefix {n : UInt32} {k : Nat} {byte : UInt8} {rest more : List UInt8}
    (stop : isDigit byte = false)
    (front : formatNat k ++ byte :: rest <+: formatUnsignedAsInt n ++ byte :: more) :
    n.toNat = k ∧ n.toNat < 2 ^ 31 := by
  by_cases small : n.toNat < 2 ^ 31
  · refine ⟨?_, small⟩
    rw [formatUnsignedAsInt_eq small] at front
    obtain ⟨behind, isText⟩ := front
    have digits := congrArg (fun text => digitsValue (text.takeWhile isDigit)) isText
    rw [List.append_assoc, List.cons_append, (digits_formatNat k _ stop).1,
      (digits_formatNat n.toNat _ stop).1, digitsValue_formatNat, digitsValue_formatNat] at digits
    exact digits.symm
  · obtain ⟨text, isText⟩ := formatUnsignedAsInt_negative small
    rw [isText] at front
    exact (formatNat_minus front).elim

theorem requestLines_eq_headLines
    (isSigned : rangeLen = 0 ∨ sizeFetched.toNat + rangeLen.toNat < 2 ^ 31) :
    requestLines host path method sizeFetched rangeLen = headLines host path method sizeFetched rangeLen := by
  rw [requestLines, headLines]
  by_cases none : rangeLen = 0
  · rw [if_neg (not_not.mpr none), if_neg (not_not.mpr none)]
  · have small := isSigned.resolve_left none
    have isSum : (sizeFetched + rangeLen).toNat = sizeFetched.toNat + rangeLen.toNat := by
      rw [UInt32.toNat_add, Nat.mod_eq_of_lt (by omega)]
    rw [if_pos none, if_pos none, formatUnsignedAsInt_eq (by omega),
      formatUnsignedAsInt_eq (isSum ▸ small), isSum]

theorem isSigned_of_prefix (front : headLines host path method sizeFetched rangeLen <+:
    requestLines host path method sizeFetched rangeLen) :
    rangeLen = 0 ∨ sizeFetched.toNat + rangeLen.toNat < 2 ^ 31 := by
  rw [or_iff_not_imp_left]
  intro some
  have dash : literal "-" = [0x2D] := by decide
  have ending : literal "\r\n" = [0x0D, 0x0A] := by decide
  rw [requestLines, headLines, if_pos some, if_pos some, List.prefix_append_right_inj, List.append_assoc,
    List.append_assoc, List.append_assoc, List.append_assoc, List.append_assoc, List.append_assoc,
    List.prefix_append_right_inj, dash, ending, List.singleton_append, List.singleton_append] at front
  obtain ⟨_, small⟩ := formatUnsignedAsInt_of_prefix (by decide) front
  rw [formatUnsignedAsInt_eq small, List.prefix_append_right_inj, List.cons_prefix_cons] at front
  obtain ⟨isSum, short⟩ := formatUnsignedAsInt_of_prefix (by decide) front.2
  rwa [isSum] at short

theorem prefix_of_both {α : Type} {text front more rest : List α} {a b : α} (differ : a ≠ b)
    (first : text <+: front ++ a :: more) (second : text <+: front ++ b :: rest) : text <+: front := by
  rcases List.prefix_or_prefix_of_prefix first (List.prefix_append front _) with inside | ⟨behind, rfl⟩
  · exact inside
  · rw [List.prefix_append_right_inj] at first second
    cases behind with
    | nil =>
        rw [List.append_nil]
    | cons c behind =>
        rw [List.cons_prefix_cons] at first second
        exact absurd (first.1.symm.trans second.1) differ

/-! ## The condition -/

/-- A network that accepts all that it is given. -/
def accepting : Transport Unit where
  read _ _ := (0, [], ())
  write _ bytes := (bytes.length, ())
  connect _ _ _ := (.connection, ())
  disconnect _ _ := ()
  tick _ := (0, ())
  rtTickFromMillisecond n := n
  usingTls := false

theorem fillAll_short {pieces : List (List UInt8)} {text rest : List UInt8}
    (length : (text ++ rest).length = httpClientSendBufSize)
    (short : (text ++ pieces.flatten).length < httpClientSendBufSize) :
    ∃ rest', fillAll transport pieces (text ++ rest, text.length, s) =
      (text ++ pieces.flatten ++ rest', (text ++ pieces.flatten).length, s) := by
  induction pieces generalizing text rest with
  | nil =>
      rw [List.flatten_nil, List.append_nil]
      exact ⟨rest, rfl⟩
  | cons piece pieces inductionHypothesis =>
      rw [List.flatten_cons, ← List.append_assoc] at short ⊢
      have first : text.length + piece.length < httpClientSendBufSize := by
        rw [List.length_append, List.length_append] at short
        omega
      obtain ⟨length', filled⟩ := @utilsFillTxBuffer_append _ transport s text rest piece length first
      obtain ⟨rest', all⟩ := inductionHypothesis length' short
      refine ⟨rest', ?_⟩
      rw [fillAll_cons, filled]
      exact all

/-- A client whose header follows the lines. -/
def clientWith (header : Option (List UInt8)) : HttpClient where
  net := { hostAddress := [], port := 80, handle := .connection }
  responseCode := 0
  header := header

def noData : HttpClientData where
  isMore := false
  isChunked := false
  retrieveLen := 0
  responseContentLen := 0
  responseReceivedLen := 0
  postBufLen := 0
  responseBufLen := 0
  postContentType := none
  postBuf := none
  responseBuf := none

/-- What is handed over with a header of at most one byte. -/
theorem SendsHead.front (sends : SendsHead host path method sizeFetched rangeLen)
    {header : Option (List UInt8)} (short : (header.getD []).length ≤ 1) :
    headLines host path method sizeFetched rangeLen <+:
      cutLines host path method sizeFetched rangeLen ++ (header.getD [] ++ literal "\r\n") := by
  have cut := cutLines_length host path method sizeFetched rangeLen
  rcases run : httpSendHeader accepting.recorded (clientWith header) host path method sizeFetched rangeLen
    noData ((), []) with ⟨ret, world, writes⟩
  have result := sends accepting (clientWith header) noData () ret world writes run
  rw [httpSendHeader_pieces] at run
  generalize cutLines host path method sizeFetched rangeLen = lines at cut run ⊢
  have pieces : (headPieces (clientWith header) noData).flatten = header.getD [] ++ literal "\r\n" := by
    cases header <;> rfl
  have ending : (literal "\r\n").length = 2 := rfl
  have size : httpClientSendBufSize = 1024 := rfl
  obtain ⟨rest, all⟩ := @fillAll_short _ accepting.recorded ((), []) (headPieces (clientWith header) noData)
    lines _ (bufferOf_length (by omega)) (by
      rw [pieces, List.length_append, List.length_append]
      omega)
  dsimp only at run
  rw [bufferOf, all, pieces] at run
  cases run
  rcases result with front | ⟨_, none⟩
  · rwa [List.nil_append, handed_singleton, List.take_left] at front
  · cases none

/-- A head is sent as it is to be just where its lines fit into their buffer and their last offset is
a signed number. -/
theorem sendsHead_iff (host path : List UInt8) (method : HttpRequestMethod)
    (sizeFetched rangeLen : UInt32) :
    SendsHead host path method sizeFetched rangeLen ↔
      (headLines host path method sizeFetched rangeLen).length < httpClientRequestBufSize ∧
        (rangeLen = 0 ∨ sizeFetched.toNat + rangeLen.toNat < 2 ^ 31) := by
  constructor
  · intro sends
    have bare := @SendsHead.front _ _ _ _ _ sends none (by decide)
    have other := @SendsHead.front _ _ _ _ _ sends (some (literal "A")) (by decide)
    have front : headLines host path method sizeFetched rangeLen <+:
        cutLines host path method sizeFetched rangeLen :=
      prefix_of_both (show (0x0D : UInt8) ≠ 0x41 by decide) bare other
    refine ⟨?_, isSigned_of_prefix (front.trans (List.take_prefix _ _))⟩
    have long := front.length_le.trans (cutLines_length host path method sizeFetched rangeLen)
    exact Nat.lt_of_le_of_lt long (by decide)
  · rintro ⟨short, isSigned⟩ ν transport client clientData s ret world writes isHead
    obtain ⟨ret', world', writes', isHead', keeps⟩ := @httpSendHeader_keeps _ transport s client host path
      method sizeFetched rangeLen clientData
    cases isHead.symm.trans isHead'
    rw [cutLines, requestLines_eq_headLines isSigned, List.take_of_length_le (Nat.le_sub_one_of_lt short)]
      at keeps
    exact .inl keeps

/-- A host and a path of 200 bytes lose their last lines, and an offset of 2 ^ 31 gets a sign. -/
theorem not_sendsHead :
    ¬SendsHead (List.replicate 200 0x68) (0x2F :: List.replicate 199 0x70) .get 0 4096 ∧
      ¬SendsHead (literal "host") (literal "/app") .get 0x80000000 4096 := by
  constructor
  · intro sends
    have front := @SendsHead.front _ _ _ _ _ sends none (by decide)
    exact absurd front (by decide +kernel)
  · intro sends
    have front := @SendsHead.front _ _ _ _ _ sends none (by decide)
    exact absurd front (by decide +kernel)

end UIoT.Utils
