import UIoT.Mqtt.Resubscribe

/-!
# Sending a packet

A write of the network takes some of the bytes that it is offered, or fails. The loop of
`send_mqtt_packet` moves the start of its offer behind the bytes that were taken, but
offers as many bytes as before. So the write behind a partial one offers bytes behind the
packet (`second_write_offers_more`), and a packet is sent right just if there is no such
write (`sendMqttPacket_sends_iff`).
-/

set_option autoImplicit false

namespace UIoT.Mqtt

/-! ## The transport -/

/-- A call of `send` with what the loop of `HAL_TCP_Write` reads behind it: whether
`errno` asks for another try, and whether there is time left. -/
structure SendCall where
  /-- What `send` returns when it is offered so many bytes. -/
  send : Nat → Int
  again : Bool
  timeLeft : Bool
  atMost : ∀ len, send len ≤ len

/-- The loop of `HAL_TCP_Write` once `len_sent` bytes have been sent. The calls are those
until the time is up. -/
def tcpWriteLoop (len : Nat) : List SendCall → Nat → Nat
  | [], lenSent => lenSent
  | call :: calls, lenSent =>
      let ret := call.send (len - lenSent)
      if 0 < ret then
        let lenSent := lenSent + ret.toNat
        if lenSent < len ∧ call.timeLeft then tcpWriteLoop len calls lenSent else lenSent
      else if call.again then
        if lenSent < len ∧ call.timeLeft then tcpWriteLoop len calls lenSent else lenSent
      else lenSent

/-- `HAL_TCP_Write` -/
def halTcpWrite (calls : List SendCall) (len : Nat) : Int :=
  let lenSent := tcpWriteLoop len calls 0
  if 0 < lenSent then lenSent else errTcpWriteFailed

/-- A write that is offered `len` bytes fails or takes some of them. -/
def TakesSome (len : Nat) (result : Int) : Prop := result < 0 ∨ 1 ≤ result ∧ result ≤ len

instance (len : Nat) (result : Int) : Decidable (TakesSome len result) :=
  inferInstanceAs (Decidable (_ ∨ _))

theorem tcpWriteLoop_le {len : Nat} :
    ∀ {calls : List SendCall} {lenSent : Nat}, lenSent ≤ len → tcpWriteLoop len calls lenSent ≤ len
  | [], _, within => within
  | call :: calls, lenSent, within => by
      have atMost := call.atMost (len - lenSent)
      have more : lenSent + (call.send (len - lenSent)).toNat ≤ len := by omega
      rw [tcpWriteLoop]
      dsimp only
      split
      · split
        · exact tcpWriteLoop_le more
        · exact more
      · split
        · split
          · exact tcpWriteLoop_le within
          · exact within
        · exact within

theorem halTcpWrite_takesSome (calls : List SendCall) (len : Nat) :
    TakesSome len (halTcpWrite calls len) := by
  have within : tcpWriteLoop len calls 0 ≤ len := tcpWriteLoop_le (Nat.zero_le len)
  rw [halTcpWrite]
  split
  · right
    omega
  · left
    decide

/-! ## The property -/

/-- The offers of the loop of `send_mqtt_packet`: where they start in the send buffer, and
how many bytes they count. -/
def sendOffers (length : Nat) : List Int → Nat → List (Nat × Nat)
  | [], _ => []
  | sendLen :: results, sent =>
      if sent < length then
        (sent, length) ::
          if sendLen < 0 then [] else sendOffers length results (sent + sendLen.toNat)
      else []

/-- The offers of `send_mqtt_packet`. -/
def packetOffers (client : Client) (length : Nat) (results : List Int) : List (Nat × Nat) :=
  if client.writeBufSize ≤ length then [] else sendOffers length results 0

/-- The bytes of some outputs that are on the wire. -/
def wireBytes (outputs : List Output) : List UInt8 :=
  outputs.flatMap fun
    | .wire bytes => bytes
    | _ => []

/-- What is on the wire are the first bytes of the packet, only bytes of the packet have
been offered, and success says that they are all taken. -/
structure SendsPacket (client : Client) (length : Nat) (results : List Int) : Prop where
  onWire : wireBytes (sendMqttPacket client length results).2 <+: client.writeBuf.take length
  offered : ∀ offer ∈ packetOffers client length results, offer.1 + offer.2 ≤ length
  success : (sendMqttPacket client length results).1 = successRet ↔
    (wireBytes (sendMqttPacket client length results).2).length = length

/-- There is no write behind one that has taken a part of the packet. -/
def NoSecondWrite (length : Nat) : List Int → Prop
  | [] => True
  | [_] => True
  | first :: _ :: _ => first < 0 ∨ first = length

variable {client : Client} {length : Nat} {results : List Int}

/-! ## The loop -/

theorem wireBytes_single (bytes : List UInt8) : wireBytes [.wire bytes] = bytes :=
  List.append_nil bytes

/-- What is sent when the packet is not too large for the buffer. -/
theorem sendMqttPacket_eq (fits : length < client.writeBufSize) :
    sendMqttPacket client length results =
      (if acceptedBytes length results 0 = length then successRet else failureRet,
        [.wire (client.writeBuf.take (acceptedBytes length results 0))]) := by
  rw [sendMqttPacket, if_neg (Nat.not_le.mpr fits), sendLoop_eq, List.drop_zero, Nat.sub_zero]

/-- When all bytes that are taken are bytes of the packet, they are what is on the wire, and
success says that they are all there. -/
theorem sendsPacket_of_within (fits : length < client.writeBufSize)
    (isSize : client.writeBuf.length = client.writeBufSize)
    (within : acceptedBytes length results 0 ≤ length)
    (offered : ∀ offer ∈ sendOffers length results 0, offer.1 + offer.2 ≤ length) :
    SendsPacket client length results := by
  have sent : sendMqttPacket client length results = _ := sendMqttPacket_eq fits
  have taken : (client.writeBuf.take (acceptedBytes length results 0)).length =
      acceptedBytes length results 0 := List.length_take_of_le (by omega)
  refine ⟨?_, ?_, ?_⟩
  · rw [sent, wireBytes_single]
    exact List.take_prefix_take_left within
  · rw [packetOffers, if_neg (Nat.not_le.mpr fits)]
    exact offered
  · rw [sent, wireBytes_single, taken]
    constructor
    · intro success
      by_contra short
      rw [if_neg short] at success
      cases success
    · intro whole
      rw [if_pos whole]

/-- The loop ends when the whole packet is taken. -/
theorem acceptedBytes_stops : acceptedBytes length results length = length := by
  cases results with
  | nil => rfl
  | cons sendLen results => rw [acceptedBytes, if_neg (Nat.lt_irrefl length)]

theorem sendOffers_stops : sendOffers length results length = [] := by
  cases results with
  | nil => rfl
  | cons sendLen results => rw [sendOffers, if_neg (Nat.lt_irrefl length)]

/-- The first write offers the packet, and only it does so when it fails or takes all. -/
theorem within_cons {sendLen : Int} (takes : TakesSome length sendLen)
    (last : results = [] ∨ sendLen < 0 ∨ sendLen = length) :
    acceptedBytes length (sendLen :: results) 0 ≤ length ∧
      ∀ offer ∈ sendOffers length (sendLen :: results) 0, offer.1 + offer.2 ≤ length := by
  have whole : ∀ offer ∈ [(0, length)], offer.1 + offer.2 ≤ length := by
    intro offer among
    rw [List.mem_singleton.mp among, Nat.zero_add]
  rw [acceptedBytes, sendOffers, Nat.zero_add]
  split
  · split
    · exact ⟨Nat.zero_le length, whole⟩
    · rename_i notFailed
      have taken : sendLen.toNat ≤ length := by
        rcases takes with failed | ⟨_, atMost⟩ <;> omega
      rcases last with rfl | failed | rfl
      · exact ⟨taken, whole⟩
      · exact absurd failed notFailed
      · rw [Int.toNat_natCast, acceptedBytes_stops, sendOffers_stops]
        exact ⟨Nat.le_refl length, whole⟩
  · exact ⟨Nat.zero_le length, fun _ among => absurd among List.not_mem_nil⟩

/-- Without a write behind a partial one, what is taken and offered is inside the packet. -/
theorem within_of_noSecondWrite (takes : ∀ result ∈ results, TakesSome length result)
    (noSecond : NoSecondWrite length results) :
    acceptedBytes length results 0 ≤ length ∧
      ∀ offer ∈ sendOffers length results 0, offer.1 + offer.2 ≤ length := by
  match results, noSecond with
  | [], _ => exact ⟨Nat.zero_le length, fun _ among => nomatch among⟩
  | [_], _ => exact within_cons (takes _ List.mem_cons_self) (.inl rfl)
  | _ :: _ :: _, last => exact within_cons (takes _ List.mem_cons_self) (.inr last)

/-- The write behind a partial one offers bytes behind the packet. -/
theorem second_write_offers_more (takes : ∀ result ∈ results, TakesSome length result)
    (second : ¬NoSecondWrite length results) :
    ∃ offer ∈ sendOffers length results 0, length < offer.1 + offer.2 := by
  match results, second with
  | [], second => exact absurd trivial second
  | [_], second => exact absurd trivial second
  | first :: next :: later, second =>
      rw [NoSecondWrite, not_or] at second
      obtain ⟨notFailed, notAll⟩ := second
      obtain ⟨least, atMost⟩ := (takes first List.mem_cons_self).resolve_left notFailed
      refine ⟨(first.toNat, length), ?_, ?_⟩
      · rw [sendOffers, if_pos (by omega), if_neg notFailed, Nat.zero_add, sendOffers,
          if_pos (by omega)]
        exact List.mem_cons_of_mem _ List.mem_cons_self
      · dsimp only
        omega

/-- **Sending.** A packet in the send buffer is sent right, whatever the network takes of
what it is offered, just if it is refused for its length or no write follows a partial
one. -/
theorem sendMqttPacket_sends_iff (client : Client) (length : Nat) (results : List Int)
    (isSize : client.writeBuf.length = client.writeBufSize) (notEmpty : 0 < client.writeBufSize)
    (takes : ∀ result ∈ results, TakesSome length result) :
    SendsPacket client length results ↔
      client.writeBufSize ≤ length ∨ NoSecondWrite length results := by
  by_cases large : client.writeBufSize ≤ length
  · have refused : sendMqttPacket client length results = (errMqttBufferTooShort, []) :=
      if_pos large
    refine iff_of_true ⟨?_, ?_, ?_⟩ (.inl large)
    · rw [refused]
      exact List.nil_prefix
    · rw [packetOffers, if_pos large]
      exact fun _ among => nomatch among
    · rw [refused]
      refine iff_of_false (by decide) fun isLength => ?_
      have none : 0 = length := isLength
      omega
  · have fits := Nat.not_le.mp large
    constructor
    · intro sends
      right
      by_contra second
      obtain ⟨offer, among, more⟩ := second_write_offers_more takes second
      have offered := sends.offered offer
      rw [packetOffers, if_neg large] at offered
      exact absurd (offered among) (Nat.not_le.mpr more)
    · rintro (refused | noSecond)
      · exact absurd refused large
      · obtain ⟨within, offered⟩ := within_of_noSecondWrite takes noSecond
        exact sendsPacket_of_within fits isSize within offered

/-- A packet of ten bytes that the first write takes. -/
theorem sendMqttPacket_sends_whole : SendsPacket (uiotMqttInit ⟨2000, true⟩) 10 [10, 10] :=
  (sendMqttPacket_sends_iff (uiotMqttInit ⟨2000, true⟩) 10 [10, 10] List.length_replicate
    (by decide) (by decide)).mpr (.inr (.inr rfl))

/-- When four bytes of ten are taken, the next write offers ten bytes again. Four of them
are behind the packet and go out with it, and the packet counts as not sent. -/
theorem bytes_behind_packet_sent :
    sendMqttPacket (uiotMqttInit ⟨2000, true⟩) 10 [4, 10] =
        (failureRet, [.wire (List.replicate 14 0)]) ∧
      packetOffers (uiotMqttInit ⟨2000, true⟩) 10 [4, 10] = [(0, 10), (4, 10)] ∧
        ¬SendsPacket (uiotMqttInit ⟨2000, true⟩) 10 [4, 10] := by
  have offers : packetOffers (uiotMqttInit ⟨2000, true⟩) 10 [4, 10] = [(0, 10), (4, 10)] := rfl
  refine ⟨rfl, offers, fun sends => ?_⟩
  have within : 4 + 10 ≤ 10 := sends.offered (4, 10) (offers ▸ by decide)
  exact absurd within (by decide)

end UIoT.Mqtt
