import UIoT.Utils.RequestHead

/-!
# Sending requests

`_http_send_request` writes the head of a request in buffers of 1024 bytes, the rest of it at
once, and the data behind it. The codes of the buffers are dropped, and of the last two writes it is
only looked at whether they accept anything.

So a request is sent just where either one of the last two writes fails or every write accepts
what it is given, as long as no line is cut and the rest of the head is not empty
(`sendsRequest_iff`). A buffer that is accepted in part is another case: what is put behind it
depends on what is left in the buffer.
-/

set_option autoImplicit false

namespace UIoT.Utils

open Json

variable {ν : Type} {transport : Transport ν} {s : ν}

/-! ## What is accepted -/

def accepted (writes : Writes) : List UInt8 := writes.flatMap fun write => write.1.take write.2.toNat

theorem accepted_append (writes more : Writes) :
    accepted (writes ++ more) = accepted writes ++ accepted more := List.flatMap_append

theorem accepted_singleton (bytes : List UInt8) (answer : Int) :
    accepted [(bytes, answer)] = bytes.take answer.toNat := List.flatMap_singleton ..

theorem accepted_whole {writes : Writes} (wholes : ∀ write ∈ writes, Whole write) :
    accepted writes = handed writes := by
  induction writes with
  | nil => rfl
  | cons write writes inductionHypothesis =>
      obtain ⟨isFull, isAnswer⟩ := wholes write List.mem_cons_self
      rw [accepted, handed, List.flatMap_cons, List.flatMap_cons, isAnswer, Int.toNat_natCast, ← isFull,
        List.take_length]
      exact congrArg _ (inductionHypothesis fun other among => wholes other (List.mem_cons_of_mem _ among))

/-- A full buffer that is accepted in part. -/
def Torn (answer : Int) : Prop := 0 < answer ∧ answer ≠ httpClientSendBufSize

/-- What a series of fillings has written of a text, and what of it waits in the buffer. -/
structure Advance (front text : List UInt8) (new : Writes) (sendBuf : List UInt8) (idx : Nat) :
    Prop where
  length : sendBuf.length = httpClientSendBufSize
  inside : idx < httpClientSendBufSize
  full : ∀ write ∈ new, write.1.length = httpClientSendBufSize
  whole : (∀ write ∈ new, write.2 = httpClientSendBufSize) →
    handed new ++ sendBuf.take idx = front ++ text
  short : (∀ write ∈ new, ¬Torn write.2) → (accepted new).length + idx ≤ front.length + text.length
  missing : (∀ write ∈ new, ¬Torn write.2) → (∃ write ∈ new, write.2 ≠ httpClientSendBufSize) →
    (accepted new).length + idx < front.length + text.length
  keeps : (∀ write ∈ new, ¬Torn write.2) → front <+: accepted new ++ sendBuf.take idx

theorem Advance.none {sendBuf : List UInt8} {idx : Nat} (length : sendBuf.length = httpClientSendBufSize)
    (inside : idx < httpClientSendBufSize) : Advance (sendBuf.take idx) [] [] sendBuf idx where
  length := length
  inside := inside
  full write among := nomatch among
  whole _ := (List.append_nil _).symm
  short _ := by
    rw [List.length_take]
    exact Nat.le_of_eq (by simp only [accepted, List.flatMap_nil, List.length_nil]; omega)
  missing _ refused := by
    obtain ⟨_, among, _⟩ := refused
    cases among
  keeps _ := List.prefix_refl _

/-- The first filling leaves in the buffer what the next one begins with. -/
theorem Advance.trans {front text more sendBuf sendBuf' : List UInt8} {new new' : Writes} {idx idx' : Nat}
    (first : Advance front text new sendBuf idx)
    (second : Advance (sendBuf.take idx) more new' sendBuf' idx') :
    Advance front (text ++ more) (new ++ new') sendBuf' idx' := by
  have isIdx : (sendBuf.take idx).length = idx := by
    rw [List.length_take, first.length]
    exact Nat.min_eq_left (Nat.le_of_lt first.inside)
  have left : ∀ {property : List UInt8 × Int → Prop}, (∀ write ∈ new ++ new', property write) →
      ∀ write ∈ new, property write := fun all write among => all write (List.mem_append_left _ among)
  have right : ∀ {property : List UInt8 × Int → Prop}, (∀ write ∈ new ++ new', property write) →
      ∀ write ∈ new', property write := fun all write among => all write (List.mem_append_right _ among)
  refine ⟨second.length, second.inside, ?_, ?_, ?_, ?_, ?_⟩
  · intro write among
    rcases List.mem_append.mp among with among | among
    · exact first.full write among
    · exact second.full write among
  · intro wholes
    rw [handed_append, List.append_assoc, second.whole (right wholes), ← List.append_assoc,
      first.whole (left wholes), List.append_assoc]
  · intro untorn
    have one := first.short (left untorn)
    have two := second.short (right untorn)
    rw [accepted_append, List.length_append, List.length_append]
    omega
  · rintro untorn ⟨write, among, refused⟩
    have one := first.short (left untorn)
    have two := second.short (right untorn)
    rw [accepted_append, List.length_append, List.length_append]
    rcases List.mem_append.mp among with among | among
    · have less := first.missing (left untorn) ⟨write, among, refused⟩
      omega
    · have less := second.missing (right untorn) ⟨write, among, refused⟩
      omega
  · intro untorn
    rw [accepted_append, List.append_assoc]
    refine (first.keeps (left untorn)).trans ?_
    exact (List.prefix_append_right_inj _).mpr (second.keeps (right untorn))

/-- A refused buffer takes its text with it, and what was in front of it waits again. -/
theorem Advance.refused {front text : List UInt8} {writes : Writes} {last : List UInt8 × Int}
    {rest : List UInt8} (inside : front.length < httpClientSendBufSize)
    (wholes : ∀ write ∈ writes, Whole write) (isLast : last.1.length = httpClientSendBufSize)
    (notWhole : last.2 ≠ httpClientSendBufSize) (isText : handed (writes ++ [last]) ++ rest = front ++ text) :
    Advance front text (writes ++ [last]) last.1 front.length := by
  have lengths := congrArg List.length isText
  rw [handed_append, handed_singleton, List.length_append, List.length_append, List.length_append,
    isLast] at lengths
  have isAccepted : ¬Torn last.2 → accepted (writes ++ [last]) = handed writes := by
    intro untorn
    have none : last.2.toNat = 0 := by
      rw [Torn, not_and, not_not] at untorn
      have positive : ¬0 < last.2 := fun positive => notWhole (untorn positive)
      omega
    rw [accepted_append, accepted_singleton, none, List.take_zero, List.append_nil, accepted_whole wholes]
  have missing : (∀ write ∈ writes ++ [last], ¬Torn write.2) →
      (accepted (writes ++ [last])).length + front.length < front.length + text.length := by
    intro untorn
    rw [isAccepted (untorn last (List.mem_append_right _ List.mem_cons_self))]
    omega
  refine ⟨isLast, inside, ?_, ?_, fun untorn => Nat.le_of_lt (missing untorn), fun untorn _ => missing untorn,
    ?_⟩
  · intro write among
    rcases List.mem_append.mp among with among | among
    · exact (wholes write among).1
    · rw [List.mem_singleton] at among
      rw [among, isLast]
  · intro accepts
    exact absurd (accepts last (List.mem_append_right _ List.mem_cons_self)) notWhole
  · intro untorn
    rw [isAccepted (untorn last (List.mem_append_right _ List.mem_cons_self))]
    have isFront : front <+: handed writes ++ last.1 := by
      rw [handed_append, handed_singleton] at isText
      apply List.prefix_of_prefix_length_le (List.prefix_append front text)
        (isText ▸ List.prefix_append _ rest)
      rw [List.length_append]
      omega
    cases writes with
    | nil =>
        rw [handed, List.flatMap_nil, List.nil_append] at isFront ⊢
        rw [← List.prefix_iff_eq_take.mp isFront]
    | cons write writes =>
        have long : front.length ≤ (handed (write :: writes)).length := by
          rw [handed, List.flatMap_cons, List.length_append, (wholes write List.mem_cons_self).1]
          omega
        exact (List.prefix_of_prefix_length_le isFront (List.prefix_append _ _) long).trans
          (List.prefix_append _ _)

theorem fillAll_advance {pieces : List (List UInt8)} {sendBuf : List UInt8} {idx : Nat} {writes : Writes}
    (length : sendBuf.length = httpClientSendBufSize) (inside : idx < httpClientSendBufSize) :
    ∃ sendBuf' idx' world new,
      fillAll transport.recorded pieces (sendBuf, idx, s, writes) = (sendBuf', idx', world, writes ++ new) ∧
        Advance (sendBuf.take idx) pieces.flatten new sendBuf' idx' := by
  induction pieces generalizing sendBuf idx s writes with
  | nil => exact ⟨sendBuf, idx, s, [], by rw [List.append_nil]; rfl, .none length inside⟩
  | cons text pieces inductionHypothesis =>
      obtain ⟨ret, sendBuf', idx', world, new, filled, fills, same⟩ :=
        @utilsFillTxBuffer_fills _ transport s sendBuf text idx writes length inside
      have isIdx : (sendBuf.take idx).length = idx := by
        rw [List.length_take, length]
        exact Nat.min_eq_left (Nat.le_of_lt inside)
      have first : Advance (sendBuf.take idx) text new sendBuf' idx' := by
        cases fills with
        | whole wholes isText isFull short =>
            have lengths := congrArg List.length isText
            rw [List.length_append, List.length_append, List.length_take, isFull,
              Nat.min_eq_left (Nat.le_of_lt short), isIdx] at lengths
            refine ⟨isFull, short, fun write among => (wholes write among).1, fun _ => isText, fun _ => ?_,
              ?_, fun _ => ?_⟩
            · rw [accepted_whole wholes, isIdx, lengths]
            · rintro _ ⟨write, among, refused⟩
              exact absurd (wholes write among).2 refused
            · rw [accepted_whole wholes, isText]
              exact List.prefix_append _ _
        | refused wholes isLast notWhole isText failed =>
            rw [same failed]
            have refused := Advance.refused (by rw [isIdx]; exact inside) wholes isLast notWhole isText
            rwa [isIdx] at refused
      obtain ⟨sendBuf'', idx'', world', new', all, second⟩ :=
        @inductionHypothesis world sendBuf' idx' (writes ++ new) first.length first.inside
      refine ⟨sendBuf'', idx'', world', new ++ new', ?_, ?_⟩
      · rw [fillAll_cons, filled, all, List.append_assoc]
      · rw [List.flatten_cons]
        exact first.trans second

/-- What the writes of a head were, and what they were answered. -/
theorem httpSendHeader_advance (client : HttpClient) (host path : List UInt8)
    (method : HttpRequestMethod) (sizeFetched rangeLen : UInt32) (clientData : HttpClientData) :
    ∃ full sendBuf len last world,
      httpSendHeader transport.recorded client host path method sizeFetched rangeLen clientData (s, []) =
        (if last ≤ 0 then if last = 0 then errHttpClosed else errHttpConnError else successRet, world,
          full ++ [(sendBuf.take len, last)]) ∧
      Advance (cutLines host path method sizeFetched rangeLen) (headPieces client clientData).flatten full
        sendBuf len := by
  have cut := cutLines_length host path method sizeFetched rangeLen
  rw [httpSendHeader_pieces]
  generalize cutLines host path method sizeFetched rangeLen = lines at cut ⊢
  obtain ⟨sendBuf, len, world, full, all, advance⟩ := @fillAll_advance _ transport s
    (headPieces client clientData) (bufferOf lines) lines.length []
    (bufferOf_length (cut.trans (by decide))) (Nat.lt_of_le_of_lt cut (by decide))
  rw [bufferOf, List.take_left] at advance
  dsimp only
  rw [all]
  exact ⟨full, sendBuf, len, _, _, rfl, advance⟩

/-! ## Requests -/

/-- A request of a connected client to a URL that is parsed, with as much data as is announced. -/
structure Request where
  client : HttpClient
  url : List UInt8
  host : List UInt8
  path : List UInt8
  method : HttpRequestMethod
  sizeFetched : UInt32
  rangeLen : UInt32
  clientData : HttpClientData
  connected : client.net.handle ≠ .zero
  parsed : utilsParseUrl url = .ok (successRet, host, path)
  announced : ∀ postBuf ∈ clientData.postBuf,
    0 ≤ clientData.postBufLen ∧ clientData.postBufLen ≤ postBuf.length
  /-- It is an `int`. -/
  small : clientData.postBufLen < 2 ^ 31

namespace Request

variable (request : Request)

def lines : List UInt8 :=
  headLines request.host request.path request.method request.sizeFetched request.rangeLen

def lengthLine : Option (List UInt8) :=
  request.clientData.postBuf.map fun _ =>
    literal "Content-Length: " ++ formatInt request.clientData.postBufLen ++ literal "\r\n"

def typeLine : Option (List UInt8) :=
  request.clientData.postBuf.bind fun _ => request.clientData.postContentType.map fun type =>
    literal "Content-Type: " ++ type ++ literal "\r\n"

/-- What is behind the lines, up to the blank line. -/
def fields : List UInt8 :=
  request.client.header.getD [] ++ request.lengthLine.getD [] ++ request.typeLine.getD [] ++
    literal "\r\n"

def postData : List UInt8 :=
  match request.clientData.postBuf with
  | some postBuf => postBuf.take request.clientData.postBufLen.toNat
  | none => []

/-- What a request is to be. -/
def text : List UInt8 := request.lines ++ request.fields ++ request.postData

/-- The head of a request as it is formatted. -/
def formatted : List UInt8 :=
  cutLines request.host request.path request.method request.sizeFetched request.rangeLen ++
    (headPieces request.client request.clientData).flatten

/-- There are data to be sent, by a method that sends them. -/
def SendsData : Prop :=
  (request.method = .post ∨ request.method = .put) ∧ request.postData ≠ []

/-- No line is cut, the last offset is a signed number, and the method sends the data that there
are. -/
structure Complete : Prop where
  lines : request.lines.length < httpClientRequestBufSize
  isSigned : request.rangeLen = 0 ∨ request.sizeFetched.toNat + request.rangeLen.toNat < 2 ^ 31
  type : ∀ line ∈ request.typeLine, line.length < httpClientRequestBufSize
  data : request.postData = [] ∨ request.SendsData

def head (transport : Transport ν) (s : ν) : Int × ν × Writes :=
  httpSendHeader transport.recorded request.client request.host request.path request.method
    request.sizeFetched request.rangeLen request.clientData (s, [])

def run (transport : Transport ν) (s : ν) : Outcome (Int × ν × Writes) :=
  httpSendRequest transport.recorded request.client request.url request.method request.sizeFetched
    request.rangeLen request.clientData (s, [])

/-! ### The answers of a network to the full buffers of a head, to the rest of it, and to the data -/

def fullAnswers (transport : Transport ν) (s : ν) : List Int :=
  (request.head transport s).2.2.dropLast.map Prod.snd

def lastAnswer (transport : Transport ν) (s : ν) : Int :=
  ((request.head transport s).2.2.getLast?.map Prod.snd).getD 0

def dataAnswer (transport : Transport ν) (s : ν) : Int :=
  (transport.write (request.head transport s).2.1 request.postData).1

end Request

/-- A request is sent with success only if what is accepted is the request, and it is where every
write accepts what it is given. -/
def SendsRequest (request : Request) (transport : Transport ν) (s : ν) : Prop :=
  ∃ rc world writes, request.run transport s = .ok (rc, world, writes) ∧
    (rc = successRet → accepted writes = request.text) ∧
    ((∀ write ∈ writes, write.2 = write.1.length) → rc = successRet)

def WholeAnswers (answers : List Int) : Prop := ∀ answer ∈ answers, answer = httpClientSendBufSize

/-- One of the last two writes fails, where it is not that of an empty rest behind full buffers. Or
everything is accepted of a head without cuts. -/
inductive AnswersFit (request : Request) (full : List Int) (last data : Int) : Prop
  | restFails : last ≤ 0 →
      ¬(WholeAnswers full ∧ last = 0 ∧ httpClientSendBufSize ∣ request.formatted.length) →
      AnswersFit request full last data
  | dataFails : 0 < last → request.SendsData → data ≤ 0 → AnswersFit request full last data
  | accepts : 0 < last → WholeAnswers full →
      ((request.formatted.length % httpClientSendBufSize : Nat) : Int) ≤ last →
      request.Complete → (request.postData = [] ∨ (request.postData.length : Int) ≤ data) →
      AnswersFit request full last data

variable {request : Request}

theorem Request.sendUserData_eq (request : Request) {world : ν} {writes : Writes} :
    httpSendUserData transport.recorded request.clientData (world, writes) =
      if request.postData = [] then .ok (successRet, world, writes)
      else
        let (answer, world) := transport.write world request.postData
        .ok (if answer ≤ 0 then if answer = 0 then errHttpClosed else errHttpConnError else successRet,
          world, writes ++ [(request.postData, answer)]) := by
  have announced := request.announced
  rw [postData, httpSendUserData]
  cases isBuf : request.clientData.postBuf with
  | none => rfl
  | some postBuf =>
      obtain ⟨notNegative, within⟩ := announced postBuf isBuf
      dsimp only
      by_cases none : request.clientData.postBufLen = 0
      · rw [if_pos none, none, Int.toNat_zero, if_pos List.take_zero]
        rfl
      · have some : postBuf.take request.clientData.postBufLen.toNat ≠ [] := by
          intro isEmpty
          have length := congrArg List.length isEmpty
          rw [List.length_take, List.length_nil] at length
          omega
        rw [if_neg none, if_neg (by omega), if_neg some]
        rfl

theorem code_of_answer (answer : Int) :
    (if (if answer ≤ 0 then if answer = 0 then errHttpClosed else errHttpConnError else successRet) < 0
      then errHttpConnError
      else if answer ≤ 0 then if answer = 0 then errHttpClosed else errHttpConnError else successRet) =
      if answer ≤ 0 then errHttpConnError else successRet := by
  by_cases refused : answer ≤ 0
  · rw [if_pos refused, if_pos refused]
    by_cases closed : answer = 0
    · rw [if_pos closed]
      rfl
    · rw [if_neg closed]
      rfl
  · rw [if_neg refused, if_neg refused]
    rfl

theorem Request.run_eq {ret last : Int} {rest : List UInt8} {world : ν} {full : Writes}
    (isHead : request.head transport s = (ret, world, full ++ [(rest, last)]))
    (isRet : ret = if last ≤ 0 then if last = 0 then errHttpClosed else errHttpConnError else successRet) :
    (last ≤ 0 ∧ request.run transport s = .ok (errHttpConnError, world, full ++ [(rest, last)])) ∨
      (0 < last ∧ ¬request.SendsData ∧
        request.run transport s = .ok (successRet, world, full ++ [(rest, last)])) ∨
      (0 < last ∧ request.SendsData ∧ ∃ world', request.run transport s =
        .ok (if request.dataAnswer transport s ≤ 0 then errHttpConnError else successRet, world',
          full ++ [(rest, last)] ++ [(request.postData, request.dataAnswer transport s)])) := by
  rw [dataAnswer, isHead, run, httpSendRequest, if_neg request.connected, request.parsed]
  dsimp only [bind, Except.bind]
  rw [head] at isHead
  rw [if_neg (not_not.mpr rfl), isHead]
  dsimp only
  by_cases failed : last ≤ 0
  · have notSuccess : ret ≠ 0 := by
      rw [isRet, if_pos failed]
      split <;> decide
    rw [if_pos notSuccess]
    exact .inl ⟨failed, rfl⟩
  · rw [if_neg failed] at isRet
    subst isRet
    rw [if_neg (not_not.mpr rfl)]
    have positive := Int.not_le.mp failed
    by_cases sends : request.method = .post ∨ request.method = .put
    · rw [if_pos sends, request.sendUserData_eq]
      by_cases none : request.postData = []
      · rw [if_pos none]
        exact .inr (.inl ⟨positive, fun data => data.2 none, rfl⟩)
      · rw [if_neg none]
        refine .inr (.inr ⟨positive, ⟨sends, none⟩, ?_⟩)
        dsimp only
        rw [code_of_answer]
        exact ⟨_, rfl⟩
    · rw [if_neg sends]
      exact .inr (.inl ⟨positive, fun data => sends data.1, rfl⟩)

theorem httpSendUserData_recorded (clientData : HttpClientData) (writes : Writes) :
    httpSendUserData transport clientData s =
      (httpSendUserData transport.recorded clientData (s, writes)).map fun (rc, world, _) =>
        (rc, world) := by
  rw [httpSendUserData, httpSendUserData]
  cases clientData.postBuf with
  | none => rfl
  | some postBuf =>
      dsimp only
      split_ifs <;> rfl

/-- What is sent does not depend on whether it is recorded. -/
theorem httpSendRequest_recorded {client : HttpClient} {url : Cursor} {method : HttpRequestMethod}
    {sizeFetched rangeLen : UInt32} {clientData : HttpClientData} {writes : Writes} :
    httpSendRequest transport client url method sizeFetched rangeLen clientData s =
      (httpSendRequest transport.recorded client url method sizeFetched rangeLen clientData
        (s, writes)).map fun (rc, world, _) => (rc, world) := by
  rw [httpSendRequest, httpSendRequest]
  split
  · rfl
  · rcases utilsParseUrl url with fault | ⟨rc, host, path⟩
    · rfl
    · dsimp only [bind, Except.bind]
      rw [httpSendHeader_recorded client host path method sizeFetched rangeLen clientData writes]
      rcases httpSendHeader transport.recorded client host path method sizeFetched rangeLen clientData
        (s, writes) with ⟨ret, world, more⟩
      dsimp only
      rw [httpSendUserData_recorded clientData more]
      rcases httpSendUserData transport.recorded clientData (world, more) with fault | ⟨rc', world', all⟩ <;>
        split_ifs <;> rfl

/-! ## The text of a head -/

/-- Only the line with the type is cut. -/
theorem Request.pieces_eq (request : Request) :
    (headPieces request.client request.clientData).flatten =
      request.client.header.getD [] ++ request.lengthLine.getD [] ++
        (request.typeLine.getD []).take (httpClientRequestBufSize - 1) ++ literal "\r\n" := by
  have announced := request.announced
  have small := request.small
  rw [headPieces, lengthLine, typeLine]
  cases isBuf : request.clientData.postBuf with
  | none => cases request.client.header <;> simp
  | some postBuf =>
      obtain ⟨notNegative, _⟩ := announced postBuf isBuf
      have few : (formatInt request.clientData.postBufLen).length ≤ 10 := by
        rw [formatInt, if_neg (Int.not_lt.mpr notNegative), List.nil_append]
        exact formatNat_length (by omega)
      have whole : postLine (literal "Content-Length: ") (formatInt request.clientData.postBufLen) =
          literal "Content-Length: " ++ formatInt request.clientData.postBufLen ++ literal "\r\n" := by
        have name : (literal "Content-Length: ").length = 16 := rfl
        have ending : (literal "\r\n").length = 2 := rfl
        apply List.take_of_length_le
        rw [List.length_append, List.length_append]
        have size : httpClientRequestBufSize = 300 := rfl
        omega
      simp only [Option.map_some, Option.bind_some, whole]
      generalize literal "Content-Length: " ++ formatInt request.clientData.postBufLen ++
        literal "\r\n" = line
      cases request.client.header <;> cases request.clientData.postContentType <;>
        simp [postLine]

theorem Request.pieces_length (request : Request) :
    (headPieces request.client request.clientData).flatten.length ≤ request.fields.length := by
  rw [request.pieces_eq, fields]
  simp only [List.length_append, List.length_take]
  omega

theorem Request.pieces_eq_fields_iff (request : Request) :
    (∀ line ∈ request.typeLine, line.length < httpClientRequestBufSize) ↔
      request.fields.length ≤ (headPieces request.client request.clientData).flatten.length := by
  rw [request.pieces_eq, fields]
  have size : httpClientRequestBufSize = 300 := rfl
  simp only [List.length_append, List.length_take]
  cases request.typeLine with
  | none => simp
  | some line =>
      simp only [Option.getD_some, Option.mem_some, forall_eq']
      omega

theorem Request.Complete.formatted_eq (complete : request.Complete) :
    request.formatted = request.lines ++ request.fields := by
  have lines := complete.lines
  rw [formatted, cutLines, requestLines_eq_headLines complete.isSigned]
  rw [Request.lines] at lines
  rw [List.take_of_length_le (Nat.le_sub_one_of_lt lines), request.pieces_eq, fields, Request.lines]
  have type := complete.type
  cases isType : request.typeLine with
  | none => rfl
  | some line =>
      rw [Option.getD_some, List.take_of_length_le (Nat.le_sub_one_of_lt (type line isType))]

theorem Request.head_advance (request : Request) (transport : Transport ν) (s : ν) :
    ∃ full sendBuf len world, request.head transport s =
        (if request.lastAnswer transport s ≤ 0 then
            if request.lastAnswer transport s = 0 then errHttpClosed else errHttpConnError
          else successRet, world, full ++ [(sendBuf.take len, request.lastAnswer transport s)]) ∧
      request.fullAnswers transport s = full.map Prod.snd ∧
      Advance (cutLines request.host request.path request.method request.sizeFetched request.rangeLen)
        (headPieces request.client request.clientData).flatten full sendBuf len := by
  obtain ⟨full, sendBuf, len, last, world, isHead, advance⟩ := @httpSendHeader_advance _ transport s
    request.client request.host request.path request.method request.sizeFetched request.rangeLen
    request.clientData
  rw [← head] at isHead
  have isLast : request.lastAnswer transport s = last := by
    rw [lastAnswer, isHead]
    simp
  refine ⟨full, sendBuf, len, world, ?_, ?_, advance⟩
  · rw [isLast, isHead]
  · rw [fullAnswers, isHead]
    simp

/-- What is left of a head behind full buffers. -/
theorem Advance.rest_length {front text sendBuf : List UInt8} {full : Writes} {len : Nat}
    (advance : Advance front text full sendBuf len)
    (wholes : ∀ write ∈ full, write.2 = httpClientSendBufSize) :
    (sendBuf.take len).length = (front ++ text).length % httpClientSendBufSize := by
  have isLen : (sendBuf.take len).length = len := by
    rw [List.length_take, advance.length]
    exact Nat.min_eq_left (Nat.le_of_lt advance.inside)
  have lengths := congrArg List.length (advance.whole wholes)
  have buffers : (handed full).length = full.length * httpClientSendBufSize := by
    rw [handed, List.length_flatMap]
    have same : full.map (fun write => write.1.length) = List.replicate full.length 1024 := by
      rw [List.eq_replicate_iff, List.length_map]
      refine ⟨rfl, fun length among => ?_⟩
      obtain ⟨write, inFull, rfl⟩ := List.mem_map.mp among
      exact advance.full write inFull
    rw [same, List.sum_replicate_nat]
  rw [List.length_append, buffers, isLen] at lengths
  rw [isLen, ← lengths, Nat.mul_add_mod_self_right, Nat.mod_eq_of_lt advance.inside]

/-! ## The condition -/

theorem mem_writes {full : Writes} {rest : List UInt8} {last : Int} {property : List UInt8 × Int → Prop}
    (onFull : ∀ write ∈ full, property write) (onRest : property (rest, last)) :
    ∀ write ∈ full ++ [(rest, last)], property write := by
  intro write among
  rcases List.mem_append.mp among with among | among
  · exact onFull write among
  · rw [List.mem_singleton] at among
    rwa [among]

theorem AnswersFit.sends (fit : AnswersFit request (request.fullAnswers transport s)
    (request.lastAnswer transport s) (request.dataAnswer transport s)) :
    SendsRequest request transport s := by
  obtain ⟨full, sendBuf, len, world, isHead, isFull, advance⟩ := request.head_advance transport s
  have runs := Request.run_eq isHead rfl
  rw [isFull] at fit
  generalize request.lastAnswer transport s = last at fit runs
  generalize request.dataAnswer transport s = data at fit runs
  cases fit with
  | restFails failed notEmpty =>
      obtain ⟨_, ran⟩ | ⟨positive, _⟩ | ⟨positive, _⟩ := runs
      · refine ⟨_, _, _, ran, fun success => absurd success (by decide), fun accepts => ?_⟩
        have wholes : ∀ write ∈ full, write.2 = httpClientSendBufSize := by
          intro write among
          rw [accepts write (List.mem_append_left _ among), advance.full write among]
        have isLast := accepts _ (List.mem_append_right _ List.mem_cons_self)
        have isRest := advance.rest_length wholes
        refine absurd ⟨?_, ?_, ?_⟩ notEmpty
        · intro answer among
          obtain ⟨write, inFull, rfl⟩ := List.mem_map.mp among
          exact wholes write inFull
        · dsimp only at isLast
          omega
        · apply Nat.dvd_of_mod_eq_zero
          rw [Request.formatted, ← isRest]
          dsimp only at isLast
          omega
      · exact absurd positive (Int.not_lt.mpr failed)
      · exact absurd positive (Int.not_lt.mpr failed)
  | dataFails positive sends refused =>
      obtain ⟨failed, _⟩ | ⟨_, sendsNot, _⟩ | ⟨_, _, world', ran⟩ := runs
      · exact absurd positive (Int.not_lt.mpr failed)
      · exact absurd sends sendsNot
      · rw [if_pos refused] at ran
        refine ⟨_, _, _, ran, fun success => absurd success (by decide), fun accepts => ?_⟩
        have isData := accepts _ (List.mem_append_right _ List.mem_cons_self)
        have some := List.length_pos_iff.mpr sends.2
        dsimp only at isData
        omega
  | accepts positive wholes enough complete dataEnough =>
      have onFull : ∀ write ∈ full, write.2 = httpClientSendBufSize := fun write among =>
        wholes _ (List.mem_map_of_mem among)
      have isWhole : ∀ write ∈ full, Whole write := fun write among =>
        ⟨advance.full write among, onFull write among⟩
      have isHeadText : accepted (full ++ [(sendBuf.take len, last)]) = request.lines ++ request.fields := by
        have isRest := advance.rest_length onFull
        rw [accepted_append, accepted_singleton, accepted_whole isWhole, List.take_of_length_le,
          advance.whole onFull, ← complete.formatted_eq, Request.formatted]
        rw [isRest]
        rw [Request.formatted] at enough
        omega
      obtain ⟨failed, _⟩ | ⟨_, sendsNot, ran⟩ | ⟨_, sends, world', ran⟩ := runs
      · exact absurd positive (Int.not_lt.mpr failed)
      · refine ⟨_, _, _, ran, fun _ => ?_, fun _ => rfl⟩
        rw [isHeadText, Request.text, complete.data.resolve_right sendsNot, List.append_nil]
      · have enoughData := dataEnough.resolve_left sends.2
        have some := List.length_pos_iff.mpr sends.2
        rw [if_neg (by omega)] at ran
        refine ⟨_, _, _, ran, fun _ => ?_, fun _ => rfl⟩
        rw [accepted_append, isHeadText, accepted_singleton, Request.text, List.take_of_length_le (by omega)]

/-- What is accepted of a head is all of it, where it is the head that it is to be. -/
theorem Advance.accepts {sendBuf data : List UInt8} {full : Writes} {len : Nat} {last : Int}
    (advance : Advance
      (cutLines request.host request.path request.method request.sizeFetched request.rangeLen)
      (headPieces request.client request.clientData).flatten full sendBuf len)
    (untorn : ∀ write ∈ full, ¬Torn write.2) (short : data.length ≤ request.postData.length)
    (isText : accepted (full ++ [(sendBuf.take len, last)]) ++ data = request.text) :
    (∀ write ∈ full, write.2 = httpClientSendBufSize) ∧ (sendBuf.take len).length ≤ last.toNat ∧
      data.length = request.postData.length ∧ request.lines.length < httpClientRequestBufSize ∧
      (request.rangeLen = 0 ∨ request.sizeFetched.toNat + request.rangeLen.toNat < 2 ^ 31) ∧
      ∀ line ∈ request.typeLine, line.length < httpClientRequestBufSize := by
  have isLen : (sendBuf.take len).length = len := by
    rw [List.length_take, advance.length]
    exact Nat.min_eq_left (Nat.le_of_lt advance.inside)
  have isAccepted : accepted (full ++ [(sendBuf.take len, last)]) =
      accepted full ++ (sendBuf.take len).take last.toNat := by
    rw [accepted_append, accepted_singleton]
  have inside : accepted (full ++ [(sendBuf.take len, last)]) <+: accepted full ++ sendBuf.take len := by
    rw [isAccepted]
    exact (List.prefix_append_right_inj _).mpr (List.take_prefix _ _)
  have lengths := congrArg List.length isText
  rw [Request.text, List.length_append, List.length_append, List.length_append] at lengths
  have isHead : request.lines ++ request.fields <+: accepted full ++ sendBuf.take len := by
    have front : accepted (full ++ [(sendBuf.take len, last)]) <+:
        request.lines ++ request.fields ++ request.postData := ⟨data, isText⟩
    refine (List.prefix_of_prefix_length_le (List.prefix_append _ request.postData) front ?_).trans inside
    rw [List.length_append]
    omega
  have linesFront := (List.prefix_append request.lines request.fields).trans isHead
  have cutFront := advance.keeps untorn
  have atMost := advance.short untorn
  have pieces := request.pieces_length
  have cut := cutLines_length request.host request.path request.method request.sizeFetched
    request.rangeLen
  have size : httpClientRequestBufSize = 300 := rfl
  -- The lines are in front of what is accepted as they are formatted and as they are to be.
  have signed : request.lines.length ≤ (cutLines request.host request.path request.method
      request.sizeFetched request.rangeLen).length →
      request.rangeLen = 0 ∨ request.sizeFetched.toNat + request.rangeLen.toNat < 2 ^ 31 := by
    intro shorter
    have front := List.prefix_of_prefix_length_le linesFront cutFront shorter
    exact isSigned_of_prefix (front.trans (List.take_prefix _ _))
  have notLonger : (cutLines request.host request.path request.method request.sizeFetched
      request.rangeLen).length ≤ request.lines.length := by
    by_contra longer
    have same : (cutLines request.host request.path request.method request.sizeFetched
        request.rangeLen).length ≤ request.lines.length := by
      rw [cutLines, requestLines_eq_headLines (signed (by omega))]
      exact (List.take_prefix _ _).length_le
    exact longer same
  have isLong := isHead.length_le
  rw [List.length_append, List.length_append, isLen] at isLong
  have insideLength := inside.length_le
  rw [isAccepted, List.length_append, List.length_append, List.length_take, isLen] at insideLength
  rw [isAccepted, List.length_append, List.length_take, isLen] at lengths
  refine ⟨?_, ?_, ?_, ?_, signed (by omega), ?_⟩
  · by_contra refused
    push Not at refused
    have less := advance.missing untorn refused
    omega
  · rw [isLen]
    omega
  · omega
  · omega
  · exact request.pieces_eq_fields_iff.mpr (by omega)

theorem AnswersFit.of_sends (untorn : ∀ answer ∈ request.fullAnswers transport s, ¬Torn answer)
    (sends : SendsRequest request transport s) : AnswersFit request (request.fullAnswers transport s)
      (request.lastAnswer transport s) (request.dataAnswer transport s) := by
  obtain ⟨full, sendBuf, len, world, isHead, isFull, advance⟩ := request.head_advance transport s
  have runs := Request.run_eq isHead rfl
  rw [isFull] at untorn ⊢
  generalize request.lastAnswer transport s = last at runs ⊢
  generalize request.dataAnswer transport s = data at runs ⊢
  have untornFull : ∀ write ∈ full, ¬Torn write.2 := fun write among =>
    untorn _ (List.mem_map_of_mem among)
  obtain ⟨rc, world', writes, ran, isText, succeeds⟩ := sends
  -- What is accepted of the head decides, once both writes have accepted something.
  have decided : ∀ {behind : List UInt8}, behind.length ≤ request.postData.length → 0 < last →
      accepted (full ++ [(sendBuf.take len, last)]) ++ behind = request.text →
      (behind.length = request.postData.length → (request.postData = [] ∨ request.SendsData) ∧
        (request.postData = [] ∨ (request.postData.length : Int) ≤ data)) →
      AnswersFit request (full.map Prod.snd) last data := by
    intro behind short positive isAccepted dataAccepted
    obtain ⟨wholes, enough, same, lines, isSigned, type⟩ :=
      advance.accepts untornFull short isAccepted
    obtain ⟨hasData, enoughData⟩ := dataAccepted same
    refine .accepts positive ?_ ?_ ⟨lines, isSigned, type, hasData⟩ enoughData
    · intro answer among
      obtain ⟨write, inFull, rfl⟩ := List.mem_map.mp among
      exact wholes write inFull
    · rw [Request.formatted, ← advance.rest_length wholes]
      omega
  obtain ⟨failed, ran'⟩ | ⟨positive, sendsNot, ran'⟩ | ⟨positive, sendsData, world'', ran'⟩ := runs
  · refine .restFails failed ?_
    rintro ⟨wholes, isZero, divides⟩
    cases ran.symm.trans ran'
    have onFull : ∀ write ∈ full, write.2 = httpClientSendBufSize := fun write among =>
      wholes _ (List.mem_map_of_mem among)
    have isRest := advance.rest_length onFull
    rw [Request.formatted] at divides
    rw [Nat.mod_eq_zero_of_dvd divides] at isRest
    have success := succeeds (mem_writes (fun write among => by
      rw [onFull write among, advance.full write among]) (by rw [isRest, isZero]; rfl))
    exact absurd success (by decide)
  · cases ran.symm.trans ran'
    refine decided (Nat.zero_le _) positive ((List.append_nil _).trans (isText rfl)) fun same => ?_
    have none := List.length_eq_zero_iff.mp same.symm
    exact ⟨.inl none, .inl none⟩
  · cases ran.symm.trans ran'
    by_cases refused : data ≤ 0
    · exact .dataFails positive sendsData refused
    · rw [if_neg refused] at isText
      have whole := isText rfl
      rw [accepted_append, accepted_singleton] at whole
      refine decided (List.length_take_le' _ _) positive whole fun same => ⟨.inr sendsData, .inr ?_⟩
      rw [List.length_take] at same
      omega

/-- The answers that fit are enough, and they are needed as long as no full buffer is accepted in
part. -/
theorem sendsRequest_iff (request : Request) (transport : Transport ν) (s : ν) :
    (AnswersFit request (request.fullAnswers transport s) (request.lastAnswer transport s)
        (request.dataAnswer transport s) → SendsRequest request transport s) ∧
      (SendsRequest request transport s →
        AnswersFit request (request.fullAnswers transport s) (request.lastAnswer transport s)
            (request.dataAnswer transport s) ∨
          ∃ answer ∈ request.fullAnswers transport s, Torn answer) := by
  refine ⟨AnswersFit.sends, fun sends => ?_⟩
  rw [or_iff_not_imp_right]
  intro untorn
  push Not at untorn
  exact AnswersFit.of_sends untorn sends

/-- A request for `http://h/a` with a header. -/
def requestWith (header : List UInt8) : Request where
  client := clientWith (some header)
  url := literal "http://h/a"
  host := literal "h"
  path := literal "/a"
  method := .get
  sizeFetched := 0
  rangeLen := 0
  clientData := noData
  connected := NetHandle.noConfusion
  parsed := by decide
  announced _ none := nomatch none
  small := by decide

/-- A network that accepts no more than it is told, write for write. -/
def rationed : Transport (List Nat) where
  read s _ := (0, [], s)
  write s bytes := (min (s.headD 0) bytes.length, s.tail)
  connect s _ _ := (.connection, s)
  disconnect s _ := s
  tick s := (0, s)
  rtTickFromMillisecond n := n
  usingTls := false

/-- The code of a run, whether every write accepts what it is given, and what is accepted. -/
def outcome (ran : Outcome (Int × ν × Writes)) : Outcome (Int × Bool × List UInt8) :=
  ran.map fun (rc, _, writes) =>
    (rc, writes.all fun write => write.2 = write.1.length, accepted writes)

theorem SendsRequest.outcome (sends : SendsRequest request transport s) {rc : Int} {all : Bool}
    {bytes : List UInt8} (isOutcome : Utils.outcome (request.run transport s) = .ok (rc, all, bytes)) :
    (rc = successRet → bytes = request.text) ∧ (all = true → rc = successRet) := by
  obtain ⟨rc', world, writes, ran, isText, succeeds⟩ := sends
  rw [ran] at isOutcome
  cases isOutcome
  refine ⟨isText, fun all => succeeds fun write among => ?_⟩
  exact of_decide_eq_true (List.all_eq_true.mp all write among)

/-- A head of 1024 bytes is an error where all of it is accepted. A head of 1124 bytes is sent with
success where its first buffer is refused, and one of 28 bytes where a single byte is accepted. -/
theorem not_sendsRequest :
    ¬SendsRequest (requestWith (List.replicate 996 0x61)) accepting () ∧
      ¬SendsRequest (requestWith (List.replicate 1096 0x61)) rationed [0, 1024] ∧
      ¬SendsRequest (requestWith []) rationed [1] := by
  refine ⟨fun sends => ?_, fun sends => ?_, fun sends => ?_⟩
  · have result := @SendsRequest.outcome _ _ _ _ sends errHttpConnError true
      ((requestWith (List.replicate 996 0x61)).text) (by decide +kernel)
    exact absurd (result.2 rfl) (by decide)
  · have result := @SendsRequest.outcome _ _ _ _ sends successRet false ((requestWith []).text)
      (by decide +kernel)
    exact absurd (result.1 rfl) (by decide +kernel)
  · have result := @SendsRequest.outcome _ _ _ _ sends successRet false (literal "G") (by decide +kernel)
    exact absurd (result.1 rfl) (by decide +kernel)

/-- A header that repeats the lines makes up for a buffer that is accepted in part. -/
example : outcome ((requestWith (List.replicate 39 (requestWith []).lines).flatten).run rationed
      [1014, 1024]) =
    .ok (successRet, false, (requestWith (List.replicate 39 (requestWith []).lines).flatten).text) := by
  decide +kernel

end UIoT.Utils
