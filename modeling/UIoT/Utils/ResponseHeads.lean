import UIoT.Utils.Contents

/-!
# Heads of responses

A response begins with the line of its status and with fields whose names may be written in capitals or
not. The client takes the status from the first 32 bytes, and looks in the others for one way to write
one name: `Content-Length` with a blank behind the colon. So it finds what the head of a response says
where the first read brings the line of the status, the reads that bring the others end in the buffer,
and the number 16 bytes behind the first such name is the length (`findsResponse_iff`).
-/

set_option autoImplicit false

namespace UIoT.Utils

open FirstMatch Json

/-! ## Fields -/

/-- `tchar` -/
def isTokenByte (byte : UInt8) : Bool :=
  isDigit byte || (0x41 ≤ byte && byte ≤ 0x5A) || (0x61 ≤ byte && byte ≤ 0x7A) ||
    (literal "!#$%&'*+-.^_`|~").contains byte

/-- A byte of a value or of a reason, or a blank. -/
def isFieldByte (byte : UInt8) : Bool := byte = 0x09 || (0x20 ≤ byte && byte ≠ 0x7F)

def isFieldBlank (byte : UInt8) : Bool := byte = 0x20 || byte = 0x09

def lowerCase (byte : UInt8) : UInt8 := if 0x41 ≤ byte ∧ byte ≤ 0x5A then byte + 0x20 else byte

/-- A field, with the blanks in front of its value and behind it. -/
structure HeaderField where
  name : List UInt8
  blanks : List UInt8
  value : List UInt8
  trailing : List UInt8
  hasName : name ≠ []
  isName : ∀ byte ∈ name, isTokenByte byte = true
  areBlanks : ∀ byte ∈ blanks, isFieldBlank byte = true
  isValue : ∀ byte ∈ value, isFieldByte byte = true
  areTrailing : ∀ byte ∈ trailing, isFieldBlank byte = true

def HeaderField.line (field : HeaderField) : List UInt8 :=
  field.name ++ [0x3A] ++ field.blanks ++ field.value ++ field.trailing

/-- Names are told apart in lower case. -/
def HeaderField.isLength (field : HeaderField) : Prop :=
  field.name.map lowerCase = literal "content-length"

/-- Lines, with a line break between any two. -/
def linesText : List HeaderField → List UInt8
  | [] => []
  | [field] => field.line
  | field :: fields => field.line ++ crlf ++ linesText fields

theorem linesText_cons (field : HeaderField) {fields : List HeaderField} (more : fields ≠ []) :
    linesText (field :: fields) = field.line ++ crlf ++ linesText fields := by
  cases fields with
  | nil => exact absurd rfl more
  | cons _ _ => rfl

theorem byte_table {P : UInt8 → Prop} (table : ∀ value : Fin 256, P (UInt8.ofNat value.val))
    (byte : UInt8) : P byte := by
  have entry := table ⟨byte.toNat, byte.toNat_lt⟩
  rwa [UInt8.ofNat_toNat] at entry

theorem isFieldByte_token : ∀ byte : UInt8, isTokenByte byte = true → isFieldByte byte = true :=
  byte_table (by decide +kernel)

theorem isFieldByte_blank : ∀ byte : UInt8, isFieldBlank byte = true → isFieldByte byte = true :=
  byte_table (by decide +kernel)

theorem not_digit_blank : ∀ byte : UInt8, isFieldBlank byte = true → isDigit byte = false ∧ byte ≠ 0 :=
  byte_table (by decide +kernel)

theorem isSpace_blank : ∀ byte : UInt8, isFieldBlank byte = true → isSpace byte = true :=
  byte_table (by decide +kernel)

theorem HeaderField.line_bytes (field : HeaderField) : ∀ byte ∈ field.line, isFieldByte byte = true := by
  intro byte among
  rw [line, List.mem_append, List.mem_append, List.mem_append, List.mem_append] at among
  rcases among with (((inName | isColon) | inBlanks) | inValue) | inTrailing
  · exact isFieldByte_token byte (field.isName byte inName)
  · rw [List.mem_singleton.mp isColon]
    rfl
  · exact isFieldByte_blank byte (field.areBlanks byte inBlanks)
  · exact field.isValue byte inValue
  · exact isFieldByte_blank byte (field.areTrailing byte inTrailing)

/-- Neither a terminator nor a line break is in a line. -/
theorem HeaderField.not_mem_line (field : HeaderField) {byte : UInt8} (other : isFieldByte byte = false) :
    byte ∉ field.line := by
  intro among
  rw [field.line_bytes byte among] at other
  cases other

theorem not_mem_linesText {byte : UInt8} (other : isFieldByte byte = false) (notBreak : byte ∉ crlf)
    (fields : List HeaderField) : byte ∉ linesText fields := by
  induction fields with
  | nil => exact List.not_mem_nil
  | cons field fields inductionHypothesis =>
      have notLine := field.not_mem_line other
      cases fields with
      | nil => exact notLine
      | cons next fields =>
          rw [linesText_cons field (List.cons_ne_nil _ _), List.mem_append, List.mem_append]
          rintro ((inLine | inBreak) | inOthers)
          · exact notLine inLine
          · exact notBreak inBreak
          · exact inductionHypothesis inOthers

theorem HeaderField.line_ne_nil (field : HeaderField) : field.line ≠ [] := by
  rw [line]
  simp [field.hasName]

/-- Lines begin with the first one. -/
theorem linesText_front (field : HeaderField) (fields : List HeaderField) :
    ∃ rest, linesText (field :: fields) = field.line ++ rest := by
  cases fields with
  | nil => exact ⟨[], (List.append_nil _).symm⟩
  | cons next fields =>
      exact ⟨crlf ++ linesText (next :: fields), by
        rw [linesText_cons field (List.cons_ne_nil _ _), List.append_assoc]⟩

/-- A blank line is not found in front of the one that ends the lines. -/
theorem isFirst_linesText {fields : List HeaderField} (some : fields ≠ []) :
    IsFirst headerEnd (linesText fields ++ headerEnd) (linesText fields).length := by
  induction fields with
  | nil => exact absurd rfl some
  | cons field fields inductionHypothesis =>
      have without : (0x0D : UInt8) ∉ field.line := field.not_mem_line (by decide)
      cases fields with
      | nil => exact (isFirst_zero (List.prefix_refl headerEnd)).behind without
      | cons next fields =>
          have later := inductionHypothesis (List.cons_ne_nil _ _)
          -- What is behind the line break begins with a name.
          obtain ⟨byte, rest, isText, notReturn⟩ : ∃ byte rest,
              linesText (next :: fields) ++ headerEnd = byte :: rest ∧ byte ≠ 0x0D := by
            obtain ⟨rest, isText⟩ := linesText_front next fields
            obtain ⟨byte, name, isName⟩ := List.exists_cons_of_ne_nil next.line_ne_nil
            refine ⟨byte, name ++ rest ++ headerEnd, ?_, ?_⟩
            · rw [isText, isName]
              rfl
            · rintro rfl
              exact next.not_mem_line (by decide) (isName ▸ List.mem_cons_self)
          have behindBreak : IsFirst headerEnd (crlf ++ (linesText (next :: fields) ++ headerEnd))
              ((linesText (next :: fields)).length + 1 + 1) := by
            refine (later.cons ?_).cons ?_
            · exact fun found => absurd (List.cons_prefix_cons.mp found).1 (by decide)
            · intro found
              rw [isText] at found
              have third := (List.cons_prefix_cons.mp (List.cons_prefix_cons.mp found).2).2
              exact notReturn (List.cons_prefix_cons.mp third).1.symm
          rw [linesText_cons field (List.cons_ne_nil _ _), List.append_assoc, List.append_assoc,
            List.length_append, List.length_append]
          have two : crlf.length = 2 := rfl
          have isIndex : field.line.length + crlf.length + (linesText (next :: fields)).length =
              field.line.length + ((linesText (next :: fields)).length + 1 + 1) := by omega
          rw [isIndex]
          exact behindBreak.behind without

/-! ## Heads -/

/-- The head of a response: a status of three digits, any reason, and one field with the length of the
body among any others. It fits into the buffer. -/
structure ResponseHead where
  statusCode : List UInt8
  reason : List UInt8
  inFront : List HeaderField
  lengthField : HeaderField
  others : List HeaderField
  threeDigits : statusCode.length = 3
  isStatus : ∀ byte ∈ statusCode, isDigit byte = true
  isReason : ∀ byte ∈ reason, isFieldByte byte = true
  named : lengthField.isLength
  once : ∀ field ∈ inFront ++ others, ¬field.isLength
  hasDigits : lengthField.value ≠ []
  isNumber : ∀ byte ∈ lengthField.value, isDigit byte = true
  fits : (literal "HTTP/1.1 " ++ statusCode ++ [space] ++ reason ++ crlf ++
    (linesText (inFront ++ lengthField :: others) ++ headerEnd)).length ≤ httpClientReadBufSize

variable (head : ResponseHead)

def ResponseHead.statusLine : List UInt8 :=
  literal "HTTP/1.1 " ++ head.statusCode ++ [space] ++ head.reason

def ResponseHead.fields : List HeaderField := head.inFront ++ head.lengthField :: head.others

/-- What a reader of the head takes for the status and for the length. -/
def ResponseHead.status : Nat := digitsValue head.statusCode

def ResponseHead.contentLength : Nat := digitsValue head.lengthField.value

theorem isFieldByte_digit : ∀ byte : UInt8, isDigit byte = true → isFieldByte byte = true :=
  byte_table (by decide +kernel)

theorem ResponseHead.not_mem_statusLine {byte : UInt8} (other : isFieldByte byte = false) :
    byte ∉ head.statusLine := by
  have notFixed : byte ∉ literal "HTTP/1.1 " := by
    intro among
    have plain : ∀ byte ∈ literal "HTTP/1.1 ", isFieldByte byte = true := by decide +kernel
    rw [plain byte among] at other
    cases other
  rw [statusLine, List.mem_append, List.mem_append, List.mem_append]
  rintro (((inVersion | inStatus) | isSpace) | inReason)
  · exact notFixed inVersion
  · rw [isFieldByte_digit byte (head.isStatus byte inStatus)] at other
    cases other
  · rw [List.mem_singleton.mp isSpace] at other
    cases other
  · rw [head.isReason byte inReason] at other
    cases other

theorem ResponseHead.plainStatus : 0 ∉ head.statusLine := head.not_mem_statusLine (by decide)

theorem ResponseHead.plain : 0 ∉ linesText head.fields :=
  not_mem_linesText (by decide) (by decide) head.fields

theorem ResponseHead.line : IsFirst crlf (head.statusLine ++ crlf) head.statusLine.length :=
  (isFirst_zero (List.prefix_refl crlf)).behind (head.not_mem_statusLine (by decide))

theorem ResponseHead.ends :
    IsFirst headerEnd (linesText head.fields ++ headerEnd) (linesText head.fields).length :=
  isFirst_linesText (by simp [fields])

/-- The line of the status, and the lines of the fields. -/
def ResponseHead.frame : HeaderFrame where
  status := head.statusLine
  headers := linesText head.fields
  plainStatus := head.plainStatus
  plain := head.plain
  line := head.line
  ends := head.ends

def ResponseHead.bytes : List UInt8 := head.frame.bytes

theorem ResponseHead.statusLine_drop :
    head.statusLine.drop 9 = head.statusCode ++ space :: head.reason := by
  have nine : (literal "HTTP/1.1 ").length = 9 := by decide
  rw [statusLine, List.append_assoc, List.append_assoc, List.drop_left' nine]
  rfl

/-! ## Where the length is -/

/-- A name that the text ends in, up to a byte, is behind the head. -/
theorem name_behind (frame : HeaderFrame) {front : List UInt8} {i : Nat}
    (found : strstr contentLength (visible (frame.behind ++ front)) = some i)
    (late : (frame.behind ++ front).length < i + 16) : frame.behind.length ≤ i := by
  by_contra inHead
  have size := frame.behind_length
  have first := strstr_iff.mp found
  have isPrefix : contentLength <+: (frame.behind ++ front).drop i :=
    first.found.trans ((List.takeWhile_prefix _).drop i)
  obtain ⟨more, isMore⟩ := isPrefix
  have fourteen : contentLength.length = 14 := by decide
  rw [List.length_append] at late
  -- One of the last two bytes of the head would be in the name.
  have among : ∀ {p : Nat} {byte : UInt8}, i ≤ p → p < i + 14 →
      (frame.behind ++ front)[p]? = some byte → byte ∈ contentLength := by
    intro p byte behind within isByte
    have isIndex : p = i + (p - i) := by omega
    rw [isIndex, ← List.getElem?_drop, ← isMore, List.getElem?_append_left (by omega)] at isByte
    exact List.mem_of_getElem? isByte
  have ending : ∀ k < 4, (frame.behind ++ front)[frame.headers.length + k]? = headerEnd[k]? := by
    intro k small
    rw [List.getElem?_append_left (by omega), HeaderFrame.behind,
      List.getElem?_append_right (Nat.le_add_right _ _), Nat.add_sub_cancel_left]
  by_cases last : i ≤ frame.headers.length + 2
  · exact absurd (among last (by omega) (ending 2 (by decide))) (by decide)
  · exact absurd (among (by omega) (by omega) (ending 3 (by decide))) (by decide)

theorem name_within {text : List UInt8} {i : Nat} (found : strstr contentLength (visible text) = some i) :
    i + 14 ≤ text.length := by
  have fits := (strstr_iff.mp found).fits
  have shorter := (List.takeWhile_prefix (l := text) (fun byte => decide (byte ≠ 0))).length_le
  change i + 14 ≤ (visible text).length at fits
  change (visible text).length ≤ text.length at shorter
  omega

theorem takeWhile_zeros {bytes : List UInt8} (zeros : ∀ byte ∈ bytes, byte = 0) :
    bytes.takeWhile (· ≠ 0) = [] := by
  cases bytes with
  | nil => rfl
  | cons byte bytes =>
      rw [zeros byte List.mem_cons_self]
      rfl

/-- The number that is read is the one in the text, though the buffer goes on behind it. -/
theorem atoi_number (frame : HeaderFrame) {front first number : List UInt8} {i : Nat}
    (long : 18 ≤ frame.behind.length) (short : first.length ≤ httpClientReadHeadSize)
    (line : frame.status.length ≤ httpClientReadHeadSize)
    (found : strstr contentLength (visible (frame.behind ++ front)) = some i)
    (isNumber : cStringAt (frame.buffer (headBuffer first) (frame.behind ++ front)) (i + 16) = .ok number) :
    atoi number = atoi (visible ((frame.behind ++ front).drop (i + 16))) := by
  obtain ⟨stale, isBuffer, zeros⟩ := @frame.buffer_zeros (frame.behind ++ front) first short line
  rw [isBuffer] at isNumber
  by_cases within : i + 16 ≤ (frame.behind ++ front).length
  · have filled : Filled (frame.behind ++ front ++ 0 :: stale) (frame.behind ++ front) := ⟨stale, rfl⟩
    rw [filled.cString within isNumber]
    rfl
  · have behind := name_behind frame found (Nat.not_le.mp within)
    have inText := name_within found
    have size : httpClientReadHeadSize = 32 := rfl
    have isIndex : i + 16 = (frame.behind ++ front).length + (i + 16 - (frame.behind ++ front).length) := by
      omega
    obtain ⟨j, isNext⟩ : ∃ j, i + 16 - (frame.behind ++ front).length = j + 1 :=
      ⟨i + 15 - (frame.behind ++ front).length, by omega⟩
    have isRest : (frame.behind ++ front ++ 0 :: stale).drop (i + 16) = stale.drop j := by
      rw [isIndex, ← List.drop_drop, List.drop_left, isNext, List.drop_succ_cons]
    have restZeros : ∀ byte ∈ stale.drop j, byte = 0 := by
      intro byte among
      apply zeros
      rw [Nat.sub_eq_zero_of_le (by omega)]
      exact List.mem_of_mem_drop among
    rw [cStringAt, isRest, takeWhile_zeros restZeros] at isNumber
    rw [List.drop_of_length_le (by omega)]
    split at isNumber
    · cases isNumber
      rfl
    · cases isNumber

/-- Where it is the length of what is behind the head, it is in the text. -/
theorem number_within (frame : HeaderFrame) {front : List UInt8} {i : Nat}
    (found : strstr contentLength (visible (frame.behind ++ front)) = some i)
    (nothing : atoi (visible ((frame.behind ++ front).drop (i + 16))) = 0 → front = []) :
    i + 16 ≤ (frame.behind ++ front).length := by
  by_contra late
  have behind := name_behind frame found (Nat.not_le.mp late)
  have inText := name_within found
  rw [List.drop_of_length_le (by omega)] at nothing
  rw [nothing rfl, List.append_nil] at inText
  omega

/-! ### The parts of a head -/

theorem line_length_le {field : HeaderField} {fields : List HeaderField} (among : field ∈ fields) :
    field.line.length ≤ (linesText fields).length := by
  induction fields with
  | nil => cases among
  | cons first fields inductionHypothesis =>
      rcases List.mem_cons.mp among with rfl | later
      · obtain ⟨rest, isText⟩ := linesText_front field fields
        rw [isText, List.length_append]
        exact Nat.le_add_right _ _
      · rw [linesText_cons first (List.ne_nil_of_mem later), List.length_append]
        exact Nat.le_trans (inductionHypothesis later) (Nat.le_add_left _ _)

theorem ResponseHead.behind_long : 18 ≤ head.frame.behind.length := by
  have among : head.lengthField ∈ head.fields := by simp [fields]
  have inLines := line_length_le among
  have isName := congrArg List.length head.named
  rw [List.length_map] at isName
  have fourteen : (literal "content-length").length = 14 := by decide
  have hasDigits := List.length_pos_iff.mpr head.hasDigits
  have size := head.frame.behind_length
  change head.frame.behind.length = (linesText head.fields).length + 4 at size
  rw [HeaderField.line, List.length_append, List.length_append, List.length_append,
    List.length_append] at inLines
  omega

/-- The status is the number behind the version. -/
theorem ResponseHead.atoi_status : atoi (head.statusLine.drop 9) = head.status := by
  have notEmpty : head.statusCode ≠ [] := by
    rw [← List.length_pos_iff, head.threeDigits]
    decide
  have isNumber := @atoi_digits [] head.statusCode (space :: head.reason) nofun notEmpty head.isStatus
    (by
      intro byte isFirst
      cases isFirst
      rfl)
  have small : digitsValue head.statusCode ≤ 999 := by
    obtain ⟨a, b, c, isCode⟩ := List.length_eq_three.mp head.threeDigits
    have isDigits := head.isStatus
    rw [isCode] at isDigits ⊢
    have value : ∀ byte ∈ [a, b, c], byte.toNat - 0x30 ≤ 9 := by
      intro byte among
      have digit := isDigits byte among
      rw [isDigit, Bool.and_eq_true, decide_eq_true_eq, decide_eq_true_eq] at digit
      have most : byte.toNat ≤ 57 := digit.2
      omega
    have first := value a (by simp)
    have second := value b (by simp)
    have third := value c (by simp)
    change 10 * (10 * (10 * 0 + (a.toNat - 0x30)) + (b.toNat - 0x30)) + (c.toNat - 0x30) ≤ 999
    omega
  rw [head.statusLine_drop, status]
  rw [List.nil_append] at isNumber
  rw [isNumber]
  omega

/-! ## What is found -/

variable {ν : Type} {transport : Transport ν} (network : PromptConnection transport) {s : ν}
  {turns : Nat} {client : HttpClient} {timeoutMs : UInt32} {clientData : HttpClientData}
  {responseBuf : List UInt8}

/-- How many bytes behind the head come with its last read. -/
def ResponseHead.ahead (transport : Transport ν) (s : ν) : Nat :=
  readAhead transport head.bytes.length head.bytes.length 0 s

/-- With enough turns, the client finds the status, the length and the first bytes of the body, as many
as there is room for. -/
def FindsResponse (transport : Transport ν) (client : HttpClient) (timeoutMs : UInt32)
    (clientData : HttpClientData) (room : Nat) (s : ν) (head : ResponseHead) (body : List UInt8) : Prop :=
  ∃ least, ∀ turns, least < turns → ∃ rc client' after s' buf,
    httpClientRecvResponse transport turns client timeoutMs clientData s = .ok (rc, client', after, s') ∧
      0 ≤ rc ∧ client'.responseCode = head.status ∧ after.responseContentLen = head.contentLength ∧
      after.responseBuf = some buf ∧ buf.take (min body.length room) = body.take (min body.length room)

variable {head} {body : List UInt8}

theorem ResponseHead.found (isLength : body.length = head.contentLength)
    (connected : client.net.handle ≠ .zero) (fresh : clientData.isMore = false)
    (hasBuffer : HasBuffer clientData responseBuf) (hasRoom : 2 ≤ responseBuf.length)
    (isBytes : network.pending s = head.bytes ++ body)
    (come : head.statusLine.length + 2 ≤ (transport.read s httpClientReadHeadSize).1.toNat)
    (inBuffer : head.frame.behind.length + head.ahead transport s < httpClientReadBufSize)
    (found : LengthFound (head.frame.behind ++ body.take (head.ahead transport s)) head.contentLength) :
    FindsResponse transport client timeoutMs clientData (responseBuf.length - 1) s head body := by
  refine ⟨head.bytes.length + body.length + 2, fun turns inTime => ?_⟩
  have nine : 9 ≤ head.statusLine.length := by
    have fixed : (literal "HTTP/1.1 ").length = 9 := by decide
    rw [ResponseHead.statusLine, List.length_append, List.length_append, List.length_append]
    omega
  obtain ⟨i, named, isNumber⟩ := found
  have inText : i + 16 ≤ (head.frame.behind ++ body.take (head.ahead transport s)).length := by
    apply number_within head.frame named
    intro isZero
    rw [isNumber, ← isLength] at isZero
    have none : body = [] := List.length_eq_zero_iff.mp (by omega)
    rw [none, List.take_nil]
  obtain ⟨short, inLine⟩ := firstRead_short network head.frame come
  have number := (@head.frame.buffer_filled (firstBuffer network s)
    (head.frame.behind ++ body.take (head.ahead transport s))).cString_eq inText
  have isValue := (atoi_number head.frame head.behind_long short inLine named number).trans isNumber
  obtain ⟨code, buf, s', isCode, front, receives⟩ := @httpClientRecvResponse_content _ _ network s turns
    client timeoutMs clientData responseBuf head.frame body _ i body.length connected fresh hasBuffer hasRoom isBytes
    come inBuffer named number (isValue.trans (congrArg Nat.cast isLength.symm)) (Nat.min_le_left _ _)
    (show head.bytes.length + body.length + 1 < turns by omega)
  exact ⟨_, _, _, _, buf, receives, moved_code _ _, (isCode nine).trans head.atoi_status,
    congrArg Nat.cast isLength, rfl, front⟩

/-- A response that is found has its status in the first read, its head in the buffer, and its length
where it is looked for. -/
theorem FindsResponse.parts (connected : client.net.handle ≠ .zero) (fresh : clientData.isMore = false)
    (hasBuffer : HasBuffer clientData responseBuf) (notEmpty : responseBuf ≠ [])
    {room : Nat} (isBytes : network.pending s = head.bytes ++ body)
    (finds : FindsResponse transport client timeoutMs clientData room s head body) :
    head.statusLine.length + 2 ≤ (transport.read s httpClientReadHeadSize).1.toNat ∧
      head.frame.behind.length + head.ahead transport s < httpClientReadBufSize ∧
      LengthFound (head.frame.behind ++ body.take (head.ahead transport s)) head.contentLength := by
  obtain ⟨least, returns⟩ := finds
  obtain ⟨rc, client', after, s', buf, receives, success, -, isLength, -⟩ :=
    returns (least + head.bytes.length + 1) (by omega)
  obtain ⟨come, inBuffer, i, number, n, named, isNumber, isValue, _, announced, _⟩ :=
    httpClientRecvResponse_needs network head.frame connected fresh hasBuffer notEmpty isBytes
      (show head.bytes.length < least + head.bytes.length + 1 by omega) receives success
  obtain ⟨short, inLine⟩ := firstRead_short network head.frame come
  refine ⟨come, inBuffer, i, named, ?_⟩
  change atoi (visible ((head.frame.behind ++ body.take (head.frame.ahead transport s)).drop (i + 16))) = _
  rw [← atoi_number head.frame head.behind_long short inLine named isNumber, isValue, ← announced]
  exact isLength

/-- The lines in front of another one. -/
def linesInFront (fields : List HeaderField) : List UInt8 :=
  (fields.map fun field => field.line ++ crlf).flatten

theorem linesInFront_cons (field : HeaderField) (fields : List HeaderField) :
    linesInFront (field :: fields) = field.line ++ crlf ++ linesInFront fields := by
  rw [linesInFront, List.map_cons, List.flatten_cons]
  rfl

/-- What is behind a line: a line break and the others, if there are any. -/
def linesBehind (fields : List HeaderField) : List UInt8 :=
  if fields = [] then [] else crlf ++ linesText fields

theorem linesText_split (fields : List HeaderField) (field : HeaderField) (others : List HeaderField) :
    linesText (fields ++ field :: others) = linesInFront fields ++ (field.line ++ linesBehind others) := by
  induction fields with
  | nil =>
      rw [List.nil_append, linesBehind]
      split
      · rename_i none
        rw [none, List.append_nil]
        rfl
      · rename_i more
        rw [linesText_cons field more, List.append_assoc]
        rfl
  | cons first fields inductionHypothesis =>
      rw [List.cons_append, linesText_cons first (by simp), inductionHypothesis, linesInFront_cons,
        List.append_assoc (first.line ++ crlf)]

/-- Lines without the name are passed over. -/
theorem isFirst_name {fields : List HeaderField} {text : List UInt8}
    (absent : ∀ field ∈ fields, ¬contentLength <:+: field.line) (isFirst : IsFirst contentLength text 0) :
    IsFirst contentLength (linesInFront fields ++ text) (linesInFront fields).length := by
  induction fields with
  | nil => exact isFirst
  | cons first fields inductionHypothesis =>
      have later := inductionHypothesis fun other among => absent other (List.mem_cons_of_mem _ among)
      have fromBreak : IsFirst contentLength (0x0A :: (linesInFront fields ++ text))
          ((linesInFront fields).length + 1) :=
        later.cons fun found => absurd (List.cons_prefix_cons.mp found).1 (by decide)
      have passed := fromBreak.past (show (0x0D : UInt8) ∉ contentLength by decide)
        (absent first List.mem_cons_self)
      have isLines : linesInFront (first :: fields) = first.line ++ 0x0D :: 0x0A :: linesInFront fields := by
        rw [linesInFront_cons, List.append_assoc]
        rfl
      have isIndex : first.line.length + ((linesInFront fields).length + 1 + 1) =
          (first.line ++ 0x0D :: 0x0A :: linesInFront fields).length := by
        rw [List.length_append]
        rfl
      rw [isLines, ← isIndex, List.append_assoc]
      exact passed

/-- A length is found that is written in the one way, with a blank, behind lines without the name. -/
theorem ResponseHead.lengthFound (named : head.lengthField.name = literal "Content-Length")
    (hasBlank : head.lengthField.blanks ≠ []) (small : head.contentLength < 2 ^ 31)
    (absent : ∀ field ∈ head.inFront, ¬Utils.contentLength <:+: field.line) (front : List UInt8) :
    LengthFound (head.frame.behind ++ front) head.contentLength := by
  obtain ⟨blank, blanks, isBlanks⟩ := List.exists_cons_of_ne_nil hasBlank
  have isBehind : ∀ front, head.frame.behind ++ front = linesInFront head.inFront ++
      (head.lengthField.line ++ (linesBehind head.others ++ (headerEnd ++ front))) := by
    intro front
    have split := linesText_split head.inFront head.lengthField head.others
    change linesText (head.inFront ++ head.lengthField :: head.others) ++ headerEnd ++ front = _
    rw [split]
    simp only [List.append_assoc]
  refine ⟨(linesInFront head.inFront).length, ?_, ?_⟩
  · have plain := @List.takeWhile_append_of_pos _ _ head.frame.behind front head.frame.plain_behind
    rw [visible, plain, isBehind, strstr_iff]
    apply isFirst_name absent
    rw [HeaderField.line, named]
    simp only [List.append_assoc]
    exact isFirst_zero (List.prefix_append _ _)
  · have fourteen : (literal "Content-Length").length = 14 := by decide
    have isNumber : (head.frame.behind ++ front).drop ((linesInFront head.inFront).length + 16) =
        blanks ++ (head.lengthField.value ++
          (head.lengthField.trailing ++ (linesBehind head.others ++ (headerEnd ++ front)))) := by
      have two : 16 = 14 + 2 := rfl
      rw [isBehind, ← List.drop_drop, List.drop_left, HeaderField.line, named, isBlanks]
      simp only [List.append_assoc]
      rw [two, ← List.drop_drop, List.drop_left' fourteen]
      rfl
    -- A blank or a line break is behind the digits.
    obtain ⟨byte, rest, isRest, notDigit, notZero⟩ : ∃ byte rest, head.lengthField.trailing ++
        (linesBehind head.others ++ (headerEnd ++ front)) = byte :: rest ∧
          isDigit byte = false ∧ byte ≠ 0 := by
      cases isTrailing : head.lengthField.trailing with
      | nil =>
          rw [linesBehind]
          split
          · exact ⟨0x0D, 0x0A :: 0x0D :: 0x0A :: front, rfl, by decide, by decide⟩
          · exact ⟨0x0D, 0x0A :: (linesText head.others ++ (headerEnd ++ front)), rfl, by decide, by decide⟩
      | cons byte trailing =>
          have isBlank := head.lengthField.areTrailing byte (isTrailing ▸ List.mem_cons_self)
          exact ⟨byte, _, rfl, not_digit_blank byte isBlank⟩
    have plain : ∀ byte, isFieldByte byte = true → decide (byte ≠ 0) = true := by
      intro byte isByte
      rw [decide_eq_true_eq]
      rintro rfl
      cases isByte
    have stops : (byte :: rest).takeWhile (· ≠ 0) = byte :: rest.takeWhile (· ≠ 0) :=
      List.takeWhile_cons_of_pos (decide_eq_true notZero)
    rw [isNumber, isRest, visible, List.takeWhile_append_of_pos, List.takeWhile_append_of_pos, stops,
      atoi_digits]
    · change min (2 ^ 31 - 1) ((digitsValue head.lengthField.value : Nat) : Int) = _
      rw [ResponseHead.contentLength] at small ⊢
      omega
    · intro byte among
      exact isSpace_blank byte (head.lengthField.areBlanks byte (isBlanks ▸ List.mem_cons_of_mem _ among))
    · exact head.hasDigits
    · exact head.isNumber
    · intro first isFirst
      cases isFirst
      exact notDigit
    · intro byte among
      exact plain byte (isFieldByte_digit byte (head.isNumber byte among))
    · intro byte among
      have isBlank := head.lengthField.areBlanks byte (isBlanks ▸ List.mem_cons_of_mem _ among)
      exact plain byte (isFieldByte_blank byte isBlank)

/-- A response is found just where its first read brings the line of the status, its head ends in the
buffer with what comes behind it, and its length is found in these. -/
theorem findsResponse_iff (network : PromptConnection transport) (head : ResponseHead)
    (body : List UInt8) (client : HttpClient) (timeoutMs : UInt32) (s : ν)
    (isLength : body.length = head.contentLength) (connected : client.net.handle ≠ .zero)
    (fresh : clientData.isMore = false) (hasBuffer : HasBuffer clientData responseBuf)
    (hasRoom : 2 ≤ responseBuf.length) (isBytes : network.pending s = head.bytes ++ body) :
    FindsResponse transport client timeoutMs clientData (responseBuf.length - 1) s head body ↔
      head.statusLine.length + 2 ≤ (transport.read s httpClientReadHeadSize).1.toNat ∧
        head.frame.behind.length + head.ahead transport s < httpClientReadBufSize ∧
        LengthFound (head.frame.behind ++ body.take (head.ahead transport s)) head.contentLength := by
  constructor
  · intro finds
    have notEmpty : responseBuf ≠ [] := by
      rw [← List.length_pos_iff]
      omega
    exact finds.parts network connected fresh hasBuffer notEmpty isBytes
  · rintro ⟨come, inBuffer, found⟩
    exact head.found network isLength connected fresh hasBuffer hasRoom isBytes come inBuffer found

/-! ### Responses that are found, and others -/

/-- A field with the length 5. -/
def fiveField (name blanks : List UInt8) (hasName : name ≠ [])
    (isName : ∀ byte ∈ name, isTokenByte byte = true)
    (areBlanks : ∀ byte ∈ blanks, isFieldBlank byte = true) : HeaderField where
  name := name
  blanks := blanks
  value := literal "5"
  trailing := []
  hasName := hasName
  isName := isName
  areBlanks := areBlanks
  isValue := by decide +kernel
  areTrailing := nofun

/-- A head with one field. -/
def fiveHead (reason : List UInt8) (field : HeaderField) (isReason : ∀ byte ∈ reason, isFieldByte byte = true)
    (named : field.isLength) (isFive : field.value = literal "5")
    (fits : (literal "HTTP/1.1 200 " ++ reason ++ crlf ++ (field.line ++ headerEnd)).length ≤ 1024) :
    ResponseHead where
  statusCode := literal "200"
  reason := reason
  inFront := []
  lengthField := field
  others := []
  threeDigits := by decide
  isStatus := by decide +kernel
  isReason := isReason
  named := named
  once := nofun
  hasDigits := by
    rw [isFive]
    decide +kernel
  isNumber := by
    rw [isFive]
    decide +kernel
  fits := fits

def plainHead : ResponseHead :=
  fiveHead (literal "OK")
    (fiveField (literal "Content-Length") [space] (by decide) (by decide +kernel) (by decide +kernel))
    (by decide +kernel) rfl rfl (by decide +kernel)

/-- Without a blank. -/
def compactHead : ResponseHead :=
  fiveHead (literal "OK")
    (fiveField (literal "Content-Length") [] (by decide) (by decide +kernel) (by decide +kernel))
    (by decide +kernel) rfl rfl (by decide +kernel)

/-- In lower case. -/
def lowerHead : ResponseHead :=
  fiveHead (literal "OK")
    (fiveField (literal "content-length") [space] (by decide) (by decide +kernel) (by decide +kernel))
    (by decide +kernel) rfl rfl (by decide +kernel)

/-- With a reason of 20 bytes. -/
def wordyHead : ResponseHead :=
  fiveHead (literal "This is what you get")
    (fiveField (literal "Content-Length") [space] (by decide) (by decide +kernel) (by decide +kernel))
    (by decide +kernel) rfl rfl (by decide +kernel)

/-- Five bytes behind a plain head. -/
theorem finds_hello : FindsResponse inlet waitingClient 1000 waitingData 15
    ⟨plainHead.bytes ++ literal "hello", []⟩ plainHead (literal "hello") :=
  (@findsResponse_iff _ inlet waitingData (List.replicate 16 0) inletConnection plainHead (literal "hello")
    waitingClient 1000 ⟨plainHead.bytes ++ literal "hello", []⟩ (by decide) (by decide) rfl ⟨rfl, rfl⟩
    (by decide) rfl).mpr (by decide +kernel)

/-- Five bytes behind heads that say the same. -/
theorem not_finds_hello :
    ¬FindsResponse inlet waitingClient 1000 waitingData 15
        ⟨compactHead.bytes ++ literal "hello", []⟩ compactHead (literal "hello") ∧
      ¬FindsResponse inlet waitingClient 1000 waitingData 15
        ⟨lowerHead.bytes ++ literal "hello", []⟩ lowerHead (literal "hello") ∧
      ¬FindsResponse inlet waitingClient 1000 waitingData 15
        ⟨wordyHead.bytes ++ literal "hello", []⟩ wordyHead (literal "hello") := by
  have connected : waitingClient.net.handle ≠ .zero := by decide
  have hasBuffer : HasBuffer waitingData (List.replicate 16 0) := ⟨rfl, rfl⟩
  refine ⟨fun finds => ?_, fun finds => ?_, fun finds => ?_⟩
  · have parts := finds.parts inletConnection connected rfl hasBuffer (by decide) rfl
    exact absurd parts (by decide +kernel)
  · have parts := finds.parts inletConnection connected rfl hasBuffer (by decide) rfl
    exact absurd parts (by decide +kernel)
  · have parts := finds.parts inletConnection connected rfl hasBuffer (by decide) rfl
    exact absurd parts (by decide +kernel)

end UIoT.Utils
