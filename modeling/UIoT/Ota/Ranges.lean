import UIoT.Ota.Server

/-!
# Requests that name their ranges

A request to a short URL without line breaks names its range where the file is short enough
for `%d` (`namesRanges_of_short`). There are servers of files: one whose reads deliver what a
script has for them, or fail (`outletServer`).
-/

set_option autoImplicit false

namespace UIoT.Ota

open FirstMatch Json Utils

/-! ## Short URLs -/

/-- The host and the path are in the URL, behind each other. -/
theorem utilsParseUrl_parts {url host path : List UInt8} {rc : Int}
    (parsed : utilsParseUrl url = .ok (rc, host, path)) :
    host <:+: url ∧ path <:+: url ∧ host.length + path.length ≤ url.length := by
  have nothing : [] <:+: url ∧ [] <:+: url ∧ 0 + 0 ≤ url.length :=
    ⟨List.nil_infix, List.nil_infix, Nat.zero_le _⟩
  rw [utilsParseUrl] at parsed
  split at parsed
  · cases parsed
    exact nothing
  · rename_i i _
    dsimp only at parsed
    split at parsed
    · cases parsed
      exact nothing
    · rename_i pathPtr isPath
      have behind := (strchr_suffix isPath).1
      have start := List.drop_suffix (i + 3) url
      have parts : ∀ hostLen pathLen, hostLen + pathPtr.length ≤ (url.drop (i + 3)).length →
          (url.drop (i + 3)).take hostLen <:+: url ∧ pathPtr.take pathLen <:+: url ∧
            ((url.drop (i + 3)).take hostLen).length + (pathPtr.take pathLen).length ≤ url.length := by
        intro hostLen pathLen ends
        have within := start.length_le
        refine ⟨?_, ?_, ?_⟩
        · exact (List.take_prefix _ _).isInfix.trans start.isInfix
        · exact (List.take_prefix _ _).isInfix.trans (behind.trans start).isInfix
        · rw [List.length_take, List.length_take]
          omega
      have short := behind.length_le
      split at parsed <;> split at parsed <;> cases parsed <;> exact parts _ _ (by omega)

/-- What is in front of the range in a request. -/
def requestFront (host path : List UInt8) : List UInt8 :=
  literal "GET " ++ path ++ literal " HTTP/1.1" ++ 0x0D :: (literal "\nHost: " ++ host)

/-- The line with the range is behind it. -/
theorem isFirst_rangeLine {host path : List UInt8} (plainHost : 0x0D ∉ host) (plainPath : 0x0D ∉ path)
    (rest : List UInt8) :
    IsFirst rangeLine (requestFront host path ++ (rangeLine ++ rest)) (requestFront host path).length := by
  have start : IsFirst rangeLine (rangeLine ++ rest) 0 := isFirst_zero (List.prefix_append _ _)
  have hostLine : IsFirst rangeLine (literal "\nHost: " ++ host ++ (rangeLine ++ rest))
      ((literal "\nHost: " ++ host).length + 0) := by
    apply start.behind
    simp only [List.mem_append, not_or]
    exact ⟨by decide, plainHost⟩
  have notHere : ¬rangeLine <+: 0x0D :: (literal "\nHost: " ++ host ++ (rangeLine ++ rest)) := by
    intro found
    have isLine : rangeLine = 0x0D :: 0x0A :: 0x52 :: literal "ange: bytes=" := by decide
    have isHost : literal "\nHost: " = 0x0A :: 0x48 :: literal "ost: " := by decide
    rw [isLine, isHost, List.cons_prefix_cons, List.cons_append, List.cons_append,
      List.cons_prefix_cons, List.cons_append, List.cons_append, List.cons_prefix_cons] at found
    exact absurd found.2.2.1 (by decide)
  have without : 0x0D ∉ literal "GET " ++ path ++ literal " HTTP/1.1" := by
    simp only [List.mem_append, not_or]
    exact ⟨⟨by decide, plainPath⟩, by decide⟩
  have line := (hostLine.cons notHere).behind without
  rw [requestFront, List.append_assoc _ (_ :: _) (rangeLine ++ rest), List.cons_append, List.length_append,
    List.length_cons]
  exact line

/-- The lines of a request for a range. -/
theorem requestLines_eq (host path : List UInt8) {first : Nat} (small : first + 4096 < 2 ^ 31) :
    requestLines host path .get (UInt32.ofNat first) httpOtaRangeLen =
      requestFront host path ++ (rangeLine ++ (formatNat first ++ 0x2D ::
        (formatNat (first + 4096) ++ crlf))) := by
  have isFirst : (UInt32.ofNat first).toNat = first :=
    UInt32.toNat_ofNat_of_lt' (by show _ < 2 ^ 32; omega)
  have isLast : (UInt32.ofNat first + httpOtaRangeLen).toNat = first + 4096 := by
    rw [UInt32.toNat_add, isFirst]
    show (first + 4096) % 2 ^ 32 = _
    omega
  rw [requestLines, formatUnsignedAsInt_eq (by omega), formatUnsignedAsInt_eq (by omega), isFirst, isLast,
    if_pos (by decide)]
  have isMethod : Utils.methodText .get ++ literal " " = literal "GET " := by decide
  have isHost : literal " HTTP/1.1\r\nHost: " = literal " HTTP/1.1" ++ 0x0D :: literal "\nHost: " := by
    decide
  have isLine : rangeLine = literal "\r\n" ++ literal "Range: bytes=" := by decide
  have isMinus : literal "-" = [0x2D] := by decide
  rw [isMethod, isHost, isLine, isMinus, requestFront]
  simp only [List.append_assoc, List.cons_append, List.nil_append]

/-- A request to a short URL without line breaks names its range. -/
theorem namesRanges_of_short {url file : List UInt8} (plain : 0x0D ∉ url) (short : url.length ≤ 240)
    (small : file.length + 4096 ≤ 2 ^ 31) : NamesRanges url file := by
  intro host path parsed first inFile
  obtain ⟨isHost, isPath, parts⟩ := utilsParseUrl_parts parsed
  have fewDigits := @formatNat_length first (by omega)
  have fewDigits' := @formatNat_length (first + 4096) (by omega)
  have frontLength : (requestFront host path).length = path.length + host.length + 21 := by
    have method : (literal "GET ").length = 4 := by decide
    have version : (literal " HTTP/1.1").length = 9 := by decide
    have hostName : (literal "\nHost: ").length = 7 := by decide
    rw [requestFront]
    simp only [List.length_append, List.length_cons, method, version, hostName]
    omega
  have lineLength : rangeLine.length = 15 := by decide
  have room : httpClientRequestBufSize - 1 = 299 := rfl
  -- The request fits into its buffer.
  have fits : (requestLines host path .get (UInt32.ofNat first) httpOtaRangeLen).length ≤
      httpClientRequestBufSize - 1 := by
    have ending : crlf.length = 2 := rfl
    rw [requestLines_eq host path (by omega)]
    simp only [List.length_append, List.length_cons]
    omega
  have text : requestText host path (UInt32.ofNat first) httpOtaRangeLen =
      requestFront host path ++ (rangeLine ++ (formatNat first ++ 0x2D ::
        (formatNat (first + 4096) ++ 0x0D :: (0x0A :: (acceptHeader ++ crlf))))) := by
    have isEnd : crlf = [0x0D, 0x0A] := by decide
    rw [requestText, List.take_of_length_le fits, requestLines_eq host path (by omega)]
    simp only [List.append_assoc, List.cons_append, isEnd, List.nil_append]
  have found := isFirst_rangeLine (fun member => plain (isHost.mem member))
    (fun member => plain (isPath.mem member)) (formatNat first ++ 0x2D ::
        (formatNat (first + 4096) ++ 0x0D :: (0x0A :: (acceptHeader ++ crlf))))
  obtain ⟨taken, dropped⟩ := digits_formatNat first
    (formatNat (first + 4096) ++ 0x0D :: (0x0A :: (acceptHeader ++ crlf)))
    (show isDigit 0x2D = false by decide)
  obtain ⟨taken', dropped'⟩ := digits_formatNat (first + 4096) (0x0A :: (acceptHeader ++ crlf))
    (show isDigit 0x0D = false by decide)
  rw [text, rangeOf, strstr_iff.mpr found]
  dsimp only
  rw [← List.append_assoc, ← List.length_append, List.drop_left, dropped, taken]
  split
  · rename_i rest isRest
    obtain rfl := (List.cons.inj isRest).2
    rw [taken', dropped', digitsValue_formatNat, digitsValue_formatNat, if_neg]
    · rfl
    · have isEnd : crlf = [0x0D, 0x0A] := by decide
      rw [not_or, not_or, not_not, isEnd]
      exact ⟨List.cons_ne_nil _ _, List.cons_ne_nil _ _, _, rfl⟩
  · rename_i noMinus
    exact absurd rfl (noMinus _)

/-! ## A server that plays a script -/

/-- What is sent and not read, and how many bytes the next reads deliver at most. A read of none
fails. -/
structure Outlet where
  pending : List UInt8
  reads : List Nat
  deriving DecidableEq, Repr

/-- A response with the length of its body. -/
def httpResponse (status body : List UInt8) : List UInt8 :=
  status ++ crlf ++ (literal "Content-Length: " ++ formatNat body.length ++ headerEnd ++ body)

/-- A request that names no range is answered with the whole file. -/
def answer (file request : List UInt8) : List UInt8 :=
  match rangeOf request with
  | some (first, last) => httpResponse (literal "HTTP/1.1 206 Partial Content") (slice file first last)
  | none => httpResponse (literal "HTTP/1.1 200 OK") file

/-- A platform with a server of a file. -/
def outlet (file : List UInt8) : Platform Outlet where
  read s n :=
    match s.reads with
    | 0 :: reads => (-1, [], ⟨[], reads⟩)
    | size :: reads =>
        ((s.pending.take (min size n)).length, s.pending.take (min size n),
          ⟨s.pending.drop (min size n), reads⟩)
    | [] => ((s.pending.take n).length, s.pending.take n, ⟨s.pending.drop n, []⟩)
  write s request := (request.length, { s with pending := s.pending ++ answer file request })
  connect s _ _ := (.connection, { s with pending := [] })
  disconnect s _ := { s with pending := [] }
  tick s := (0, s)
  rtTickFromMillisecond n := n
  usingTls := false
  malloc s := (true, s)
  publish s _ _ _ := (0, s)
  downloadNameSet s _ := (some (literal "download"), s)
  downloadInit s _ := (true, s)
  downloadWrite s _ _ := (successRet, s)
  downloadEnd s := (0, s)
  fetchCallback := none
  missingArguments s := ([], [], s)

/-- The digits in front of the end of a header. -/
theorem signedDigits_formatNat (n : Nat) :
    signedDigits (formatNat n ++ headerEnd) = (false, formatNat n) := by
  have some : formatNat n ≠ [] := by
    rw [formatNat_eq_map]
    exact List.cons_ne_nil _ _
  apply @signedDigits_digits [] _ _ nofun some isDigit_formatNat
  intro byte isFirst
  cases isFirst
  rfl

/-- The number in front of the end of a header. -/
theorem atoi_formatNat {n : Nat} (small : n < 2 ^ 31) : atoi (formatNat n ++ headerEnd) = n := by
  rw [atoi, signedDigits_formatNat]
  dsimp only
  rw [digitsValue_formatNat, if_neg Bool.false_ne_true]
  omega

/-- The responses are in the form that is parsed. -/
def plainResponse (status body : List UInt8) (line : 0x0D ∉ status) (small : body.length < 2 ^ 31) :
    Response body where
  status := status
  headers := literal "Content-Length: " ++ formatNat body.length
  plain := by
    rw [List.mem_append, not_or]
    exact ⟨by decide, fun member => Bool.false_ne_true (isDigit_formatNat _ member)⟩
  line := (isFirst_zero (List.prefix_refl crlf)).behind line
  ends := by
    have without : 0x0D ∉ literal "Content-Length: " ++ formatNat body.length := by
      rw [List.mem_append, not_or]
      exact ⟨by decide, fun member => Bool.false_ne_true (isDigit_formatNat _ member)⟩
    exact (isFirst_zero (List.prefix_refl headerEnd)).behind without
  length := by
    have name : literal "Content-Length: " = contentLength ++ literal ": " := by decide
    have sixteen : (literal "Content-Length: ").length = 16 := by decide
    refine ⟨0, isFirst_zero ⟨literal ": " ++ formatNat body.length ++ headerEnd, ?_⟩, ?_⟩
    · rw [name]
      simp only [List.append_assoc]
    · rw [Nat.zero_add, List.append_assoc, List.drop_left' sixteen, atoi_formatNat small]

theorem answered_outlet {file request : List UInt8} {first last : Nat} (small : file.length < 2 ^ 31)
    (named : rangeOf request = some (first, last)) :
    ∃ response : Response (slice file first last), answer file request = response.bytes := by
  have short : (slice file first last).length < 2 ^ 31 := by
    rw [slice, List.length_take, List.length_drop]
    omega
  refine ⟨plainResponse (literal "HTTP/1.1 206 Partial Content") _ (by decide) short, ?_⟩
  rw [answer, named]
  rfl

/-- The server of the file on this platform. -/
def outletServer (file : List UInt8) (small : file.length < 2 ^ 31) : FileServer (outlet file) file where
  pending s := s.pending
  delivers := by
    rintro ⟨pending, reads⟩ n positive
    have delivered : ∀ m ≤ n, (pending.take m).length ≤ n := fun m within =>
      (List.length_take_le _ _).trans within
    match reads with
    | [] => exact ⟨delivered n (Nat.le_refl n), rfl, (List.take_append_drop n pending).symm⟩
    | 0 :: reads =>
        have fails : ¬(0 : Int) < -1 := by decide
        exact absurd positive fails
    | (size + 1) :: reads =>
        exact ⟨delivered _ (Nat.min_le_right _ _), rfl, (List.take_append_drop _ pending).symm⟩
  waits := by
    rintro ⟨pending, reads⟩ n nothing
    have same : ∀ m, ((pending.take m).length : Int) = 0 → pending.drop m = pending := by
      intro m isZero
      have none : pending.take m = [] := List.length_eq_zero_iff.mp (by omega)
      have whole := List.take_append_drop m pending
      rwa [none, List.nil_append] at whole
    match reads with
    | [] => exact same _ nothing
    | 0 :: reads =>
        have fails : (-1 : Int) ≠ 0 := by decide
        exact absurd nothing fails
    | (size + 1) :: reads => exact same _ nothing
  tick _ := rfl
  answers := by
    intro s request first last idle _ named _
    obtain ⟨response, isAnswer⟩ := answered_outlet small named
    refine .inr ⟨response, ?_⟩
    show s.pending ++ answer file request = _
    rw [show s.pending = [] from idle, List.nil_append, isAnswer]
  connect _ _ _ := rfl
  disconnect _ _ := rfl
  malloc _ := rfl
  publish _ _ _ _ := rfl
  downloadInit _ _ := rfl
  downloadWrite _ _ _ := rfl
  fetchCallback _ isCallback := nomatch isCallback
  missingArguments _ := rfl

end UIoT.Ota
