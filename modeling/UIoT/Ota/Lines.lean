import UIoT.Ota.Reliable

/-!
# A server that sends lines

A server of a file that never fails: a read delivers a line of what it has sent, or of the bytes
behind the last line of a header as many as there is room for, where it is `eager`
(`lineServer`). How many bytes of a body come with its header is then known (`lineHead_ahead`).
-/

set_option autoImplicit false

namespace UIoT.Ota

open FirstMatch Json Utils

/-- How many bytes a read delivers at most. -/
def lineSize (eager : Bool) (maxLen : Nat) : List UInt8 → Nat
  | 0x0D :: _ => 1
  | 0x0A :: _ => if eager then maxLen else 1
  | pending => (pending.takeWhile (· ≠ 0x0A)).length + 1

/-- A platform with a server of a file that sends lines. -/
def lineOutlet (eager : Bool) (file : List UInt8) : Platform (List UInt8) where
  read s n :=
    let size := min n (lineSize eager n s)
    ((s.take size).length, s.take size, s.drop size)
  write s request := (request.length, s ++ answer file request)
  connect _ _ _ := (.connection, [])
  disconnect _ _ := []
  tick s := (0, s)
  rtTickFromMillisecond n := n
  usingTls := false
  malloc s := (true, s)
  publish s _ _ _ := (0, s)
  downloadNameSet s _ := (some (literal "download"), s)
  downloadInit s _ := (true, s)
  downloadWrite s _ _ := (successRet, s)
  downloadEnd s := (0, s)
  fetchCallback := none
  missingArguments s := ([], [], s)

def partialContent : List UInt8 := literal "HTTP/1.1 206 Partial Content"

def lengthLine (n : Nat) : List UInt8 := literal "Content-Length: " ++ formatNat n

theorem lengthLine_plain {byte : UInt8} (n : Nat) (notDigit : isDigit byte = false)
    (absent : byte ∉ literal "Content-Length: ") : byte ∉ lengthLine n := by
  rw [lengthLine, List.mem_append, not_or]
  refine ⟨absent, fun member => ?_⟩
  rw [isDigit_formatNat _ member] at notDigit
  exact Bool.false_ne_true notDigit.symm

theorem lengthLine_length {n : Nat} (small : n < 2 ^ 31) : (lengthLine n).length ≤ 26 := by
  have digits := formatNat_length small
  have sixteen : (literal "Content-Length: ").length = 16 := by decide
  rw [lengthLine, List.length_append, sixteen]
  omega

theorem partialContent_plain : 0 ∉ partialContent := by decide

theorem isFirst_partialContent : IsFirst crlf (partialContent ++ crlf) partialContent.length :=
  strstr_iff.mp (by decide)

theorem zero_not_mem_lengthLine (n : Nat) : 0 ∉ lengthLine n :=
  lengthLine_plain n (by decide) (by decide)

theorem isFirst_lengthLine (n : Nat) :
    IsFirst headerEnd (lengthLine n ++ headerEnd) (lengthLine n).length :=
  (isFirst_zero (List.prefix_refl headerEnd)).behind (lengthLine_plain n (by decide) (by decide))

theorem lengthLine_fits {n : Nat} (small : n < 2 ^ 31) :
    (lengthLine n ++ headerEnd).length + httpClientReadHeadSize ≤ httpClientReadBufSize := by
  have length := lengthLine_length small
  have ending : headerEnd.length = 4 := rfl
  have size : httpClientReadHeadSize = 32 := rfl
  have bufSize : httpClientReadBufSize = 1024 := rfl
  rw [List.length_append]
  omega

/-- The length is found, and read. -/
theorem lengthLine_read {n : Nat} (small : n < 2 ^ 31) :
    ∃ i, IsFirst contentLength (lengthLine n ++ headerEnd) i ∧
      (signedDigits ((lengthLine n ++ headerEnd).drop (i + 16))).2 ≠ [] ∧
        atoi ((lengthLine n ++ headerEnd).drop (i + 16)) = n := by
  have name : literal "Content-Length: " = contentLength ++ literal ": " := by decide
  have sixteen : (literal "Content-Length: ").length = 16 := by decide
  have behind : (lengthLine n ++ headerEnd).drop (0 + 16) = formatNat n ++ headerEnd := by
    rw [Nat.zero_add, lengthLine, List.append_assoc, List.drop_left' sixteen]
  refine ⟨0, isFirst_zero ⟨literal ": " ++ formatNat n ++ headerEnd, ?_⟩, ?_, ?_⟩
  · rw [lengthLine, name]
    simp only [List.append_assoc]
  · rw [behind, signedDigits_formatNat]
    exact List.cons_ne_nil _ _
  · rw [behind, atoi_formatNat small]

/-- The header of a response for `n` bytes. -/
def lineHead (n : Nat) (small : n < 2 ^ 31) : Head n where
  status := partialContent
  headers := lengthLine n
  plainStatus := partialContent_plain
  plain := zero_not_mem_lengthLine n
  line := isFirst_partialContent
  ends := isFirst_lengthLine n
  fits := lengthLine_fits small
  length := lengthLine_read small

/-- A response with a part of the file. -/
def lineResponse (file : List UInt8) (first rangeLen : Nat) : List UInt8 :=
  httpResponse partialContent ((file.drop first).take (rangeLen + 1))

theorem httpResponse_eq {body : List UInt8} (small : body.length < 2 ^ 31) :
    httpResponse partialContent body = (lineHead body.length small).bytes ++ body := by
  rw [httpResponse, Head.bytes]
  simp only [lineHead, lengthLine, List.append_assoc]

theorem lineSize_positive (eager : Bool) {maxLen : Nat} (positive : 0 < maxLen) (pending : List UInt8) :
    0 < lineSize eager maxLen pending := by
  rw [lineSize.eq_def]
  split
  · exact Nat.one_pos
  · split
    · exact positive
    · exact Nat.one_pos
  · exact Nat.succ_pos _

variable {eager : Bool} {file : List UInt8}

theorem lineOutlet_write {request s : List UInt8} {first last : Nat}
    (named : rangeOf request = some (first, last)) :
    ((lineOutlet eager file).write s request).2 =
      s ++ httpResponse partialContent (slice file first last) := by
  show s ++ answer file request = _
  rw [answer, named]
  rfl

theorem lineOutlet_delivers (s : List UInt8) (n : Nat) :
    ((lineOutlet eager file).read s n).1.toNat ≤ n ∧
      ((lineOutlet eager file).read s n).2.1.length = ((lineOutlet eager file).read s n).1.toNat ∧
      s = ((lineOutlet eager file).read s n).2.1 ++ ((lineOutlet eager file).read s n).2.2 := by
  refine ⟨(List.length_take_le _ _).trans (Nat.min_le_left _ _), rfl, ?_⟩
  exact (List.take_append_drop _ s).symm

theorem lineOutlet_waits {s : List UInt8} {n : Nat} (nothing : ((lineOutlet eager file).read s n).1 = 0) :
    ((lineOutlet eager file).read s n).2.2 = s := by
  have none : s.take (min n (lineSize eager n s)) = [] :=
    List.length_eq_zero_iff.mp (Int.natCast_eq_zero.mp nothing)
  have whole := List.take_append_drop (min n (lineSize eager n s)) s
  rwa [none, List.nil_append] at whole

theorem lineOutlet_prompt {s : List UInt8} {n : Nat} (more : s ≠ []) (positive : 0 < n) :
    0 < ((lineOutlet eager file).read s n).1 := by
  have size := lineSize_positive eager positive s
  have length := List.length_pos_iff.mpr more
  have taken : (s.take (min n (lineSize eager n s))).length =
      min (min n (lineSize eager n s)) s.length := List.length_take
  show (0 : Int) < (s.take (min n (lineSize eager n s))).length
  omega

theorem lineOutlet_replies (small : file.length < 2 ^ 31) {s request : List UInt8} {first last : Nat}
    (named : rangeOf request = some (first, last)) :
    0 < ((lineOutlet eager file).write s request).1 ∧ ∃ head : Head (slice file first last).length,
      ((lineOutlet eager file).write s request).2 = s ++ (head.bytes ++ slice file first last) := by
  have short : (slice file first last).length < 2 ^ 31 := by
    rw [slice, List.length_take, List.length_drop]
    omega
  refine ⟨?_, lineHead _ short, ?_⟩
  · have notEmpty : request ≠ [] := by
      rintro rfl
      have noRange : rangeOf [] = none := by decide
      cases noRange.symm.trans named
    exact Int.natCast_pos.mpr (List.length_pos_iff.mpr notEmpty)
  · rw [lineOutlet_write named, httpResponse_eq short]

theorem lineOutlet_answers (small : file.length < 2 ^ 31) {s request : List UInt8} {first last : Nat}
    (idle : s = []) (named : rangeOf request = some (first, last)) :
    ∃ response : Response (slice file first last),
      ((lineOutlet eager file).write s request).2 = response.bytes := by
  obtain ⟨response, isAnswer⟩ := answered_outlet small named
  refine ⟨response, ?_⟩
  show s ++ answer file request = _
  rw [idle, List.nil_append, isAnswer]

/-- The server of the file on this platform. -/
def lineServer (eager : Bool) (file : List UInt8) (small : file.length < 2 ^ 31) :
    ReliableServer (lineOutlet eager file) file where
  pending s := s
  delivers s n _ := lineOutlet_delivers s n
  waits _ _ nothing := lineOutlet_waits nothing
  tick _ := rfl
  answers _ _ _ _ idle _ named _ := .inr (@lineOutlet_answers eager file small _ _ _ _ idle named)
  connect _ _ _ := rfl
  disconnect _ _ := rfl
  malloc _ := rfl
  publish _ _ _ _ := rfl
  downloadInit _ _ := rfl
  downloadWrite _ _ _ := rfl
  fetchCallback _ isCallback := nomatch isCallback
  missingArguments _ := rfl
  prompt _ _ more positive := lineOutlet_prompt more positive
  replies _ _ _ _ named _ := lineOutlet_replies small named

/-! ## Reading a header -/

theorem lineOutlet_read {s line rest : List UInt8} {n : Nat} (isLine : s = line ++ rest)
    (size : min n (lineSize eager n s) = line.length) :
    (lineOutlet eager file).read s n = ((line.length : Int), line, rest) := by
  show (((s.take (min n (lineSize eager n s))).length : Int), s.take (min n (lineSize eager n s)),
    s.drop (min n (lineSize eager n s))) = ((line.length : Int), line, rest)
  rw [size, isLine, List.take_left, List.drop_left]

/-- A line ends with its line feed. -/
theorem lineSize_line {line rest : List UInt8} (maxLen : Nat) (text : ∃ byte ∈ line.head?, byte ≠ 0x0D)
    (plain : 0x0A ∉ line) : lineSize eager maxLen (line ++ 0x0A :: rest) = line.length + 1 := by
  have kept : ∀ byte ∈ line, decide (byte ≠ 0x0A) = true := by
    intro byte member
    rw [decide_eq_true_eq]
    rintro rfl
    exact plain member
  have taken := (takeWhile_stop (fun byte => decide (byte ≠ 0x0A)) line (0x0A :: rest) kept
    (by rintro _ ⟨⟩; decide)).1
  obtain ⟨byte, isFirst, notReturn⟩ := text
  obtain ⟨tail, rfl⟩ := List.head?_eq_some_iff.mp isFirst
  rw [lineSize.eq_def]
  split
  · rename_i isReturn
    exact absurd (List.cons.inj isReturn).1 notReturn
  · rename_i isFeed
    exact absurd ((List.cons.inj isFeed).1 ▸ List.mem_cons_self) plain
  · rw [taken]

/-- A read for a header delivers a line that is not long. -/
theorem lineOutlet_line {line rest : List UInt8} (text : ∃ byte ∈ line.head?, byte ≠ 0x0D)
    (plain : 0x0A ∉ line) (short : line.length < httpClientReadHeadSize) :
    (lineOutlet eager file).read (line ++ 0x0A :: rest) httpClientReadHeadSize =
      (((line.length + 1 : Nat) : Int), line ++ [0x0A], rest) := by
  have size := @lineSize_line eager line rest httpClientReadHeadSize text plain
  have isLength : (line ++ [0x0A]).length = line.length + 1 := List.length_append
  rw [← isLength]
  apply lineOutlet_read
  · rw [List.append_assoc]
    rfl
  · rw [size, isLength]
    omega

variable {n : Nat} {small : n < 2 ^ 31} {rest : List UInt8}

/-- The first read brings the line of the status. -/
theorem lineOutlet_status :
    (lineOutlet eager file).read ((lineHead n small).bytes ++ rest) httpClientReadHeadSize =
      (((30 : Nat) : Int), partialContent ++ crlf, lengthLine n ++ headerEnd ++ rest) := by
  have isBytes : (lineHead n small).bytes ++ rest =
      partialContent ++ [0x0D] ++ 0x0A :: (lengthLine n ++ headerEnd ++ rest) := by
    rw [Head.bytes]
    simp only [lineHead, List.append_assoc]
    rfl
  rw [isBytes]
  exact lineOutlet_line ⟨0x48, rfl, by decide⟩ (by decide) (by decide)

/-- The lines behind it are read one after another, up to the last line feed. -/
theorem readAhead_lines (short : n < 2 ^ 31) {turns got : Nat} :
    readAhead (lineOutlet eager file).toTransport (turns + 2) (got + (lengthLine n).length + 4) got
        (lengthLine n ++ headerEnd ++ rest) =
      readAhead (lineOutlet eager file).toTransport turns (got + (lengthLine n).length + 4)
        (got + (lengthLine n).length + 3) (0x0A :: rest) := by
  have length := lengthLine_length short
  have plain : 0x0A ∉ lengthLine n ++ [0x0D] := by
    rw [List.mem_append, not_or]
    exact ⟨lengthLine_plain n (by decide) (by decide), by decide⟩
  have isLength : (lengthLine n ++ [0x0D]).length = (lengthLine n).length + 1 := List.length_append
  have isText : lengthLine n ++ headerEnd ++ rest =
      lengthLine n ++ [0x0D] ++ 0x0A :: 0x0D :: 0x0A :: rest := by
    rw [List.append_assoc, List.append_assoc]
    rfl
  have readLine := @lineOutlet_line eager file _ (0x0D :: 0x0A :: rest) ⟨0x43, rfl, by decide⟩ plain
    (by rw [isLength]; show _ < 32; omega)
  have readReturn := @lineOutlet_read eager file (0x0D :: 0x0A :: rest) [0x0D] (0x0A :: rest)
    httpClientReadHeadSize rfl rfl
  rw [isLength] at readLine
  rw [isText, readAhead_read (by omega) readLine, readAhead_read (by omega) readReturn]
  rfl

/-- The last line feed comes alone, or with what is behind it. -/
theorem lineOutlet_last : ∃ bytes s', (lineOutlet eager file).read (0x0A :: rest) httpClientReadHeadSize =
    ((((if eager then min 31 rest.length else 0) + 1 : Nat) : Int), bytes, s') := by
  cases eager with
  | false => exact ⟨[0x0A], rest, rfl⟩
  | true =>
      refine ⟨(0x0A :: rest).take 32, (0x0A :: rest).drop 32, ?_⟩
      have isLength : ((0x0A :: rest).take 32).length = min 31 rest.length + 1 := by
        rw [List.length_take, List.length_cons]
        omega
      rw [if_pos rfl, ← isLength]
      rfl

/-- What comes with the header is what its last read brings. -/
theorem lineHead_ahead :
    (lineHead n small).ahead (lineOutlet eager file).toTransport ((lineHead n small).bytes ++ rest) =
      if eager then min 31 rest.length else 0 := by
  have size : (lineHead n small).bytes.length = 0 + 30 + (lengthLine n).length + 4 := by
    have length := (lineHead n small).bytes_length
    rw [length, List.length_append]
    show 30 + ((lengthLine n).length + 4) = _
    omega
  obtain ⟨bytes, s', readLast⟩ := @lineOutlet_last eager file rest
  have reads : ∀ turns, readAhead (lineOutlet eager file).toTransport (turns + 4)
      (lineHead n small).bytes.length 0 ((lineHead n small).bytes ++ rest) =
        if eager then min 31 rest.length else 0 := by
    intro turns
    rw [readAhead_read (by omega) lineOutlet_status, size, readAhead_lines small,
      readAhead_read (by omega) readLast, readAhead_come (by omega)]
    omega
  obtain ⟨turns, isTurns⟩ : ∃ turns, (lineHead n small).bytes.length = turns + 4 :=
    ⟨0 + 30 + (lengthLine n).length, size⟩
  have isAhead := reads turns
  rw [← isTurns] at isAhead
  exact isAhead

end UIoT.Ota
