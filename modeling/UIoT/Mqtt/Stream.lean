import UIoT.Mqtt.ReadPacket

/-!
# A byte stream that is delivered in parts

A wire holds the bytes that are still to come and what each read will do: how
many bytes it delivers at most, or that it fails. `wholeCall` says of a call of
`_read_mqtt_packet` that its packet is not cut: once the first byte has come,
every read delivers in full, up to the pieces of a body that is dropped anyway;
or the read of the body fails with a code on which the connection is dropped.
Such a call leaves the stream at the start of a packet, or reports one of those
codes (`readMqttPacket_whole`).
-/

set_option autoImplicit false

namespace UIoT.Mqtt

open Base128

/-! ## Packets in a stream -/

/-- A packet as it comes in: its remaining length may be written with more bytes
than needed. -/
structure FramedPacket where
  header : UInt8
  field : List UInt8
  body : List UInt8
  isField : IsFieldOf field body.length
  short : field.length ≤ maxNoOfRemainingLengthBytes

def FramedPacket.bytes (packet : FramedPacket) : List UInt8 :=
  packet.header :: (packet.field ++ packet.body)

/-- What a packet says. -/
def FramedPacket.content (packet : FramedPacket) : UInt8 × List UInt8 :=
  (packet.header, packet.body)

/-- A packet fits a receive buffer, with the shortest encoding of its length. -/
def FramedPacket.fits (size : Nat) (packet : FramedPacket) : Bool :=
  1 + (encode packet.body.length).length + packet.body.length ≤ size

/-! ## The wire -/

/-- What a read does: it delivers at most so many bytes, or it fails with a
negative code. -/
inductive Delivery where
  | delivers (count : Nat)
  | fails (code : Nat)

/-- The bytes still to come, and what the reads will do; after them, reads time
out with nothing. -/
structure Wire where
  bytes : List UInt8
  schedule : List Delivery

deriving instance DecidableEq, Repr for Delivery, Wire

/-- The value that a failing read returns. -/
abbrev failCode (code : Nat) : Int := Int.negSucc code

/-- A read of `n` bytes on a wire. -/
def Wire.read (wire : Wire) (n : Nat) : Int × List UInt8 × Wire :=
  match wire.schedule with
  | [] => (0, [], wire)
  | .delivers count :: schedule =>
      let bytes := wire.bytes.take (min count n)
      (bytes.length, bytes, ⟨wire.bytes.drop (min count n), schedule⟩)
  | .fails code :: schedule => (failCode code, [], ⟨wire.bytes, schedule⟩)

/-- The network behind a wire. -/
def wireNetwork : NetworkStack Wire := ⟨Wire.read⟩

/-! ## Calls that are not cut -/

/-- The codes on which `uiot_mqtt_yield` drops the connection. -/
def dropsConnection (ret : Int) : Bool :=
  ret = errSslReadTimeout ∨ ret = errSslReadFailed ∨ ret = errTcpPeerShutdown ∨
    ret = errTcpReadFailed

/-- So many reads of one byte deliver; what the reads behind them do. -/
def afterEach : Nat → List Delivery → Option (List Delivery)
  | 0, schedule => some schedule
  | n + 1, .delivers count :: schedule => if 0 < count then afterEach n schedule else none
  | _ + 1, _ => none

/-- Reads of at most `size` bytes each deliver `left` bytes, none of them coming
back empty. -/
def drainsWhole (size : Nat) : Nat → List Delivery → Bool
  | 0, _ => true
  | left + 1, .delivers count :: schedule =>
      let got := min count (if size ≤ left + 1 then size else left + 1)
      0 < got && drainsWhole size (left + 1 - got) schedule
  | _ + 1, _ => false

/-- A body is not cut, or its read fails with a code on which the connection is
dropped. -/
def wholeBody (size remLen : Nat) (schedule : List Delivery) : Bool :=
  if remLen = 0 then true
  else if size ≤ remLen then drainsWhole size remLen schedule
  else
    match schedule with
    | [] => false
    | .delivers count :: _ => remLen ≤ count
    | .fails code :: _ =>
        1 + (encode remLen).length + remLen ≤ size && dropsConnection (failCode code)

/-- A call does not cut the packet at the front of the wire. -/
def wholeCall (size : Nat) (wire : Wire) : Bool :=
  match wire.schedule with
  | .delivers (_ + 1) :: schedule =>
      match decode wire.bytes.tail with
      | none => true
      | some (remLen, rest) =>
          match afterEach (wire.bytes.tail.length - rest.length) schedule with
          | none => false
          | some schedule => wholeBody size remLen schedule
  | _ => true

/-! ## What the reads deliver -/

theorem read_part {count n : Nat} {front rest : List UInt8} {schedule : List Delivery}
    (length : front.length = min count n) :
    wireNetwork.read ⟨front ++ rest, .delivers count :: schedule⟩ n =
      ((front.length : Int), front, ⟨rest, schedule⟩) := by
  simp only [wireNetwork, Wire.read, ← length, List.take_left, List.drop_left]

/-- A read of one byte that delivers. -/
theorem read_byte {count : Nat} (positive : 0 < count) (byte : UInt8) (rest : List UInt8)
    (schedule : List Delivery) :
    wireNetwork.read ⟨byte :: rest, .delivers count :: schedule⟩ 1 = (1, [byte], ⟨rest, schedule⟩) :=
  @read_part count 1 [byte] rest schedule (Nat.min_eq_right positive).symm

theorem afterEach_reads {bytes rest : List UInt8} {schedule later : List Delivery}
    (arrive : afterEach bytes.length schedule = some later) :
    ReadsEach wireNetwork ⟨bytes ++ rest, schedule⟩ bytes ⟨rest, later⟩ := by
  induction bytes generalizing schedule with
  | nil =>
      obtain rfl := Option.some.inj arrive
      exact .nil _
  | cons byte bytes inductionHypothesis =>
      rw [List.length_cons] at arrive
      match schedule, arrive with
      | .delivers count :: schedule, arrive =>
          rw [afterEach] at arrive
          split at arrive
          · rename_i positive
            exact .cons (read_byte positive byte _ schedule) (inductionHypothesis arrive)
          · cases arrive
      | [], arrive => cases arrive
      | .fails code :: schedule, arrive => cases arrive

theorem drainsWhole_drains {size : Nat} {body rest : List UInt8} {schedule : List Delivery}
    (whole : drainsWhole size body.length schedule = true) :
    ∃ later, Drains wireNetwork size body.length ⟨body ++ rest, schedule⟩ ⟨rest, later⟩ := by
  induction schedule generalizing body with
  | nil =>
      cases body with
      | nil => exact ⟨[], .done _⟩
      | cons byte body => cases whole
  | cons delivery schedule inductionHypothesis =>
      cases body with
      | nil => exact ⟨_, .done _⟩
      | cons byte body =>
          cases delivery with
          | fails code => cases whole
          | delivers count =>
              rw [List.length_cons, drainsWhole, Bool.and_eq_true, decide_eq_true_eq] at whole
              obtain ⟨positive, more⟩ := whole
              generalize isPiece : (if size ≤ body.length + 1 then size else body.length + 1) = piece
                at positive more
              have within : piece ≤ body.length + 1 := by
                rw [← isPiece]
                split <;> omega
              obtain ⟨got, left, cut, length⟩ : ∃ got left, byte :: body = got ++ left ∧
                  got.length = min count piece :=
                ⟨_, _, (List.take_append_drop (min count piece) _).symm,
                  List.length_take_of_le (by rw [List.length_cons]; omega)⟩
              have leftLength : left.length = body.length + 1 - min count piece := by
                have total := congrArg List.length cut
                rw [List.length_cons, List.length_append] at total
                omega
              rw [← leftLength] at more
              obtain ⟨later, drains⟩ := inductionHypothesis more
              have read : wireNetwork.read ⟨byte :: body ++ rest, .delivers count :: schedule⟩
                  (if size ≤ (byte :: body).length then size else (byte :: body).length) =
                  (((min count piece : Nat) : Int), got, ⟨left ++ rest, schedule⟩) := by
                rw [List.length_cons, isPiece, cut, List.append_assoc, ← length]
                exact read_part length
              have drainsRest : Drains wireNetwork size ((byte :: body).length - min count piece)
                  ⟨left ++ rest, schedule⟩ ⟨rest, later⟩ := by
                rw [List.length_cons, ← leftLength]
                exact drains
              exact ⟨later, .piece positive (by rw [List.length_cons]; omega) read drainsRest⟩

/-! ## One call -/

/-- What a call makes of the packet at the front of a stream when it does not
cut it. -/
inductive CallOutcome (size : Nat) (packet : FramedPacket) (rest : List UInt8) (read : PacketRead)
    (after : Wire) : Prop where
  | nothing (failed : read.ret ≠ successRet) (bytes : after.bytes = packet.bytes ++ rest)
  | taken (fits : packet.fits size = true) (success : read.ret = successRet)
      (content : packetInBuf read.readBuf = some packet.content) (bytes : after.bytes = rest)
  | dropped (tooLong : packet.fits size = false) (failed : read.ret = errMqttBufferTooShort)
      (bytes : after.bytes = rest)
  | lost (code : dropsConnection read.ret = true)

/-- A call whose first read delivers nothing takes nothing. -/
theorem readMqttPacket_nothing (size : Nat) (readBuf : List UInt8) {wire after : Wire} {ret : Int}
    (read : wireNetwork.read wire 1 = (ret, [], after)) (none : ret ≤ 0) :
    (readMqttPacket wireNetwork size readBuf wire).1.ret ≠ successRet ∧
      (readMqttPacket wireNetwork size readBuf wire).2 = after := by
  have nothingToRead : errMqttNothingToRead ≠ successRet := by decide
  simp only [readMqttPacket, read]
  split
  · rename_i negative
    exact ⟨Int.ne_of_lt negative, rfl⟩
  · rw [if_pos (by omega)]
    exact ⟨nothingToRead, rfl⟩

/-- A body that fits, and whose read fails, fails the call. -/
theorem readMqttPacket_fails {size : Nat} (readBuf : List UInt8) {header : UInt8}
    {field : List UInt8} {remLen : Nat} {s afterHeader afterField after : Wire} {code : Nat}
    (head : HeadArrives wireNetwork header field remLen s afterHeader afterField)
    (positive : 0 < remLen) (fits : 1 + (encode remLen).length + remLen ≤ size)
    (read : wireNetwork.read afterField remLen = (failCode code, [], after)) :
    (readMqttPacket wireNetwork size readBuf s).1.ret = failCode code := by
  have notDrained : ¬size ≤ remLen := by omega
  have notOversize : ¬(0 < remLen ∧ size < 1 + (encode remLen).length + remLen) := by omega
  have negative : failCode code < 0 := Int.negSucc_lt_zero code
  rw [readMqttPacket_head head]
  simp only [if_neg notDrained, if_neg notOversize, if_pos positive, read, if_pos negative]

section Whole

variable {size : Nat} {packet : FramedPacket} {rest : List UInt8}

/-- The head of a packet arrives when its reads deliver. -/
theorem headArrives_of_afterEach {count : Nat} {schedule later : List Delivery}
    (positive : 0 < count) (arrive : afterEach packet.field.length schedule = some later) :
    HeadArrives wireNetwork packet.header packet.field packet.body.length
      ⟨packet.bytes ++ rest, .delivers count :: schedule⟩
      ⟨packet.field ++ (packet.body ++ rest), schedule⟩ ⟨packet.body ++ rest, later⟩ where
  headerRead := by
    rw [FramedPacket.bytes, List.cons_append, List.append_assoc]
    exact read_byte positive _ _ _
  fieldRead := afterEach_reads arrive
  isField := packet.isField
  short := packet.short

/-- What is asked of the reads behind the first one. -/
theorem wholeCall_delivers {count : Nat} {schedule : List Delivery}
    (whole : wholeCall size ⟨packet.bytes ++ rest, .delivers (count + 1) :: schedule⟩ = true) :
    ∃ later, afterEach packet.field.length schedule = some later ∧
      wholeBody size packet.body.length later = true := by
  have tail : (packet.bytes ++ rest).tail = packet.field ++ (packet.body ++ rest) := by
    rw [FramedPacket.bytes, List.cons_append, List.tail_cons, List.append_assoc]
  have length : (packet.field ++ (packet.body ++ rest)).length - (packet.body ++ rest).length =
      packet.field.length := by
    rw [List.length_append]
    omega
  simp only [wholeCall, tail, decode_append packet.isField, length] at whole
  split at whole
  · cases whole
  · rename_i later arrive
    exact ⟨later, arrive, whole⟩

/-- A packet that fits and whose body arrives is taken. -/
theorem takes_of_arrives (readBuf : List UInt8) {s afterHeader afterField after : Wire}
    (head : HeadArrives wireNetwork packet.header packet.field packet.body.length s afterHeader
      afterField)
    (fits : packet.fits size = true)
    (arrives : packet.body = [] ∧ after = afterField ∨
      packet.body ≠ [] ∧
        wireNetwork.read afterField packet.body.length =
          ((packet.body.length : Int), packet.body, after))
    (bytes : after.bytes = rest) :
    CallOutcome size packet rest (readMqttPacket wireNetwork size readBuf s).1
      (readMqttPacket wireNetwork size readBuf s).2 := by
  obtain ⟨buf, result⟩ := readMqttPacket_fits readBuf head (of_decide_eq_true fits) arrives
  have decodes := packetInBuf_bytes
    ⟨packet.header, packet.body, packet.isField.value_lt_of_length_le packet.short⟩ buf
  rw [result]
  exact .taken fits rfl decodes bytes

/-- A call that does not cut the packet at the front of the stream takes it, drops
it, leaves it, or reports that the connection is lost. -/
theorem readMqttPacket_whole (large : 2 ≤ size) (readBuf : List UInt8) {schedule : List Delivery}
    (whole : wholeCall size ⟨packet.bytes ++ rest, schedule⟩ = true) :
    CallOutcome size packet rest
      (readMqttPacket wireNetwork size readBuf ⟨packet.bytes ++ rest, schedule⟩).1
      (readMqttPacket wireNetwork size readBuf ⟨packet.bytes ++ rest, schedule⟩).2 := by
  match schedule, whole with
  | [], _ =>
      obtain ⟨failed, same⟩ := readMqttPacket_nothing size readBuf
        (show wireNetwork.read ⟨packet.bytes ++ rest, []⟩ 1 = (0, [], _) from rfl) (Int.le_refl 0)
      exact .nothing failed (congrArg Wire.bytes same)
  | .fails code :: schedule, _ =>
      obtain ⟨failed, same⟩ := readMqttPacket_nothing size readBuf
        (show wireNetwork.read ⟨packet.bytes ++ rest, .fails code :: schedule⟩ 1 =
          (failCode code, [], _) from rfl) (Int.le_of_lt (Int.negSucc_lt_zero code))
      exact .nothing failed (congrArg Wire.bytes same)
  | .delivers 0 :: schedule, _ =>
      obtain ⟨failed, same⟩ := readMqttPacket_nothing size readBuf
        (@read_part 0 1 [] (packet.bytes ++ rest) schedule rfl) (Int.le_refl 0)
      exact .nothing failed (congrArg Wire.bytes same)
  | .delivers (count + 1) :: schedule, whole =>
      obtain ⟨later, arrive, whole⟩ := wholeCall_delivers whole
      have head := @headArrives_of_afterEach packet rest (count + 1) _ _ (Nat.succ_pos count) arrive
      have notFits : ¬1 + (encode packet.body.length).length + packet.body.length ≤ size →
          packet.fits size = false := fun tooLong => decide_eq_false tooLong
      unfold wholeBody at whole
      split at whole
      · rename_i none
        have empty : packet.body = [] := List.length_eq_zero_iff.mp none
        have fits : packet.fits size = true := by
          refine decide_eq_true ?_
          rw [none, encode_of_lt (by omega), List.length_singleton]
          exact large
        exact takes_of_arrives readBuf head fits (.inl ⟨empty, rfl⟩) (by rw [empty]; rfl)
      rename_i some
      have positive : 0 < packet.body.length := Nat.pos_of_ne_zero some
      have nonempty : packet.body ≠ [] := List.length_pos_iff.mp positive
      split at whole
      · rename_i drained
        obtain ⟨last, drains⟩ := @drainsWhole_drains size packet.body rest later whole
        obtain ⟨buf, result⟩ := readMqttPacket_drained readBuf head drained (by omega) drains
        rw [result]
        exact .dropped (notFits (by omega)) rfl rfl
      rename_i notDrained
      split at whole
      · cases whole
      · rename_i enough schedule
        have read := @read_part enough packet.body.length packet.body rest schedule
          (Nat.min_eq_right (of_decide_eq_true whole)).symm
        by_cases fits : 1 + (encode packet.body.length).length + packet.body.length ≤ size
        · exact takes_of_arrives readBuf head (decide_eq_true fits) (.inr ⟨nonempty, read⟩) rfl
        · obtain ⟨buf, result⟩ := readMqttPacket_oversize readBuf head (Nat.not_le.mp notDrained)
            positive (Nat.not_le.mp fits) read
          rw [result]
          exact .dropped (notFits fits) rfl rfl
      · rename_i code schedule
        rw [Bool.and_eq_true, decide_eq_true_eq] at whole
        have failed := @readMqttPacket_fails size readBuf _ _ _ _ _ _ ⟨packet.body ++ rest, schedule⟩
          code head positive whole.1 rfl
        exact .lost (failed ▸ whole.2)

end Whole

end UIoT.Mqtt
