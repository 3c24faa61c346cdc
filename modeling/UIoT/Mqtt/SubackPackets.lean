import UIoT.Mqtt.PublishPackets

/-!
# SUBACK

`deserialize_suback_packet` stores the return codes of a SUBACK in an array of the
caller. It stops behind one code too many, and takes a SUBACK without codes for a good
one (`empty_suback_accepted`). The packets that it handles right are those with as many
codes as the array has room for, and those that are too short for a packet id
(`deserializeSubackPacket_sound_iff`).
-/

set_option autoImplicit false

namespace UIoT.Mqtt

open Base128 LengthPrefix

/-! ## What is stored -/

/-- The codes that the loop of `deserialize_suback_packet` has stored when it ends. -/
def storedGrantedQoSs (maxCount : Nat) : Nat → Nat → List UInt8 → List UInt8
  | 0, _, _ => []
  | left + 1, count, curdata =>
      if maxCount < count then []
      else
        let (grantedQoS, curdata) := mqttReadChar curdata
        grantedQoS :: storedGrantedQoSs maxCount left (count + 1) curdata

/-- The codes that `deserialize_suback_packet` stores, whatever it returns. -/
def subackStored (maxCount : Nat) (buf : List UInt8) (bufLen : Nat) : List UInt8 :=
  if bufLen < 5 then []
  else
    let (header, rest) := readFixedHeader buf
    if MessageTypes.ofHeader (headerType header) ≠ some .suback then []
    else
      match rest with
      | .error _ => []
      | .ok (decodedLen, curdata) =>
          if decodedLen < 2 then []
          else storedGrantedQoSs maxCount (decodedLen - 2) 0 (mqttReadUint16 curdata).2

/-! ## The property -/

/-- No more codes are stored than there is room for, and a SUBACK is accepted just if it
has one at least and as many as there is room for, with these codes. -/
structure SubackSound (maxCount : Nat) (buf : List UInt8) (bufLen remLen : Nat)
    (curdata : List UInt8) : Prop where
  stored : (subackStored maxCount buf bufLen).length ≤ maxCount
  accepts : ∀ ack, deserializeSubackPacket maxCount buf bufLen = .ok ack ↔
    (3 ≤ remLen ∧ remLen - 2 ≤ maxCount) ∧
      ack = (UInt16.ofNat (mqttReadUint16 curdata).1, (curdata.drop 2).take (remLen - 2))

variable {maxCount left count remLen bufLen : Nat} {buf curdata : List UInt8} {header : UInt8}

/-! ## The loop -/

/-- The loop stores up to one code more than there is room for. -/
theorem storedGrantedQoSs_length :
    ∀ {left count : Nat} {curdata : List UInt8}, count ≤ maxCount + 1 →
      (storedGrantedQoSs maxCount left count curdata).length = min left (maxCount + 1 - count)
  | 0, count, curdata, _ => by
      rw [storedGrantedQoSs, Nat.zero_min]
      rfl
  | left + 1, count, curdata, within => by
      rw [storedGrantedQoSs]
      split
      · rw [List.length_nil]
        omega
      · rw [List.length_cons, storedGrantedQoSs_length (by omega)]
        omega

/-- The loop succeeds just if it never finds the array overrun, with the codes in order. -/
theorem readGrantedQoSs_iff :
    ∀ {left count : Nat} {curdata codes : List UInt8}, left ≤ curdata.length →
      (readGrantedQoSs maxCount left count curdata = .ok codes ↔
        (left = 0 ∨ count + left ≤ maxCount + 1) ∧ codes = curdata.take left)
  | 0, count, curdata, codes, _ => by
      rw [readGrantedQoSs, List.take_zero]
      constructor
      · intro accepted
        exact ⟨.inl rfl, (Except.ok.inj accepted).symm⟩
      · rintro ⟨_, rfl⟩
        rfl
  | left + 1, count, [], codes, present => by
      rw [List.length_nil] at present
      omega
  | left + 1, count, code :: curdata, codes, present => by
      rw [List.length_cons] at present
      have loop := fun codes => @readGrantedQoSs_iff left (count + 1) curdata codes (by omega)
      rw [readGrantedQoSs]
      constructor
      · intro accepted
        split at accepted
        · cases accepted
        · rename_i room
          cases read : readGrantedQoSs maxCount left (count + 1) curdata with
          | error ret =>
              simp only [mqttReadChar, List.tail_cons, read, bind, Except.bind] at accepted
              cases accepted
          | ok later =>
              simp only [mqttReadChar, List.tail_cons, List.headD_cons, read, bind,
                Except.bind] at accepted
              obtain ⟨within, rfl⟩ := (loop later).mp read
              refine ⟨.inr (by omega), ?_⟩
              rw [List.take_succ_cons]
              exact (Except.ok.inj accepted).symm
      · rintro ⟨within, rfl⟩
        rw [if_neg (by omega)]
        simp only [mqttReadChar, List.tail_cons, List.headD_cons,
          (loop (curdata.take left)).mpr ⟨by omega, rfl⟩, bind, Except.bind]
        rfl

/-- What the loop answers with is what it has stored. -/
theorem readGrantedQoSs_stored :
    ∀ {left count : Nat} {curdata codes : List UInt8},
      readGrantedQoSs maxCount left count curdata = .ok codes →
        storedGrantedQoSs maxCount left count curdata = codes
  | 0, count, curdata, codes, accepted => Except.ok.inj accepted
  | left + 1, count, curdata, codes, accepted => by
      rw [readGrantedQoSs] at accepted
      rw [storedGrantedQoSs]
      split at accepted
      · cases accepted
      · rename_i room
        rw [if_neg room]
        cases read : readGrantedQoSs maxCount left (count + 1) (mqttReadChar curdata).2 with
        | error ret =>
            simp only [read, bind, Except.bind] at accepted
            cases accepted
        | ok later =>
            simp only [read, bind, Except.bind] at accepted
            rw [← Except.ok.inj accepted]
            exact congrArg _ (readGrantedQoSs_stored read)

/-! ## The packet -/

/-- The decoder of the remaining length takes a byte at least. -/
theorem decodeRemLenFromBuf_length {total : Nat} {rest : List UInt8} :
    ∀ {tries multiplier value : Nat} {buf : List UInt8},
      decodeRemLenFromBuf tries multiplier value buf = (successRet, total, rest) →
        rest.length ≤ buf.length - 1
  | 0, multiplier, value, buf, decoded => by
      rw [decodeRemLenFromBuf] at decoded
      have same : errMqttPacketReadError = successRet := congrArg Prod.fst decoded
      exact absurd same (by decide)
  | tries + 1, multiplier, value, buf, decoded => by
      rw [decodeRemLenFromBuf] at decoded
      dsimp only [mqttReadChar] at decoded
      rw [← List.length_tail]
      split at decoded
      · have later := decodeRemLenFromBuf_length decoded
        omega
      · cases decoded
        exact Nat.le_refl _

theorem readFixedHeader_length (isRead : readFixedHeader buf = (header, .ok (remLen, curdata))) :
    curdata.length ≤ buf.length - 2 := by
  rw [readFixedHeader] at isRead
  dsimp only at isRead
  cases decoded : mqttReadPacketRemLenFromBuf (mqttReadChar buf).2 with
  | mk ret rest =>
      obtain ⟨value, rest⟩ := rest
      rw [decoded] at isRead
      dsimp only at isRead
      by_cases success : ret = successRet
      · rw [if_pos success] at isRead
        subst success
        cases isRead
        have shorter := decodeRemLenFromBuf_length decoded
        rw [mqttReadChar, List.length_tail] at shorter
        omega
      · rw [if_neg success] at isRead
        cases isRead

/-- A SUBACK is accepted just if the buffer has room for five bytes, the packet for a
packet id, and the loop ends. -/
theorem deserializeSubackPacket_iff {ack : UInt16 × List UInt8}
    (isRead : readFixedHeader buf = (header, .ok (remLen, curdata)))
    (isType : MessageTypes.ofHeader (headerType header) = some .suback) :
    deserializeSubackPacket maxCount buf bufLen = .ok ack ↔
      5 ≤ bufLen ∧ 2 ≤ remLen ∧
        readGrantedQoSs maxCount (remLen - 2) 0 (curdata.drop 2) = .ok ack.2 ∧
          ack.1 = UInt16.ofNat (mqttReadUint16 curdata).1 := by
  have behind : (mqttReadUint16 curdata).2 = curdata.drop 2 := by
    rw [← List.tail_drop, ← List.tail_drop]
    rfl
  rw [deserializeSubackPacket, isRead]
  dsimp only
  rw [if_neg (not_not.mpr isType)]
  constructor
  · intro accepted
    split at accepted
    · cases accepted
    rename_i enough
    simp only [bind, Except.bind, pure, Except.pure] at accepted
    split at accepted
    · cases accepted
    rename_i long
    rw [behind] at accepted
    cases read : readGrantedQoSs maxCount (remLen - 2) 0 (curdata.drop 2) with
    | error ret =>
        rw [read] at accepted
        cases accepted
    | ok codes =>
        rw [read] at accepted
        cases accepted
        exact ⟨Nat.not_lt.mp enough, Nat.not_lt.mp long, rfl, rfl⟩
  · rintro ⟨enough, long, read, isId⟩
    rw [if_neg (Nat.not_lt.mpr enough)]
    simp only [bind, Except.bind, pure, Except.pure]
    rw [if_neg (Nat.not_lt.mpr long), behind, read, ← isId]

theorem subackStored_eq (isRead : readFixedHeader buf = (header, .ok (remLen, curdata)))
    (isType : MessageTypes.ofHeader (headerType header) = some .suback) :
    subackStored maxCount buf bufLen =
      if bufLen < 5 ∨ remLen < 2 then []
      else storedGrantedQoSs maxCount (remLen - 2) 0 (mqttReadUint16 curdata).2 := by
  rw [subackStored, isRead]
  dsimp only
  rw [if_neg (not_not.mpr isType)]
  by_cases short : bufLen < 5
  · rw [if_pos short, if_pos (.inl short)]
  · simp only [short, if_false, false_or]

/-- **The return codes of a SUBACK.** A SUBACK is handled right, at the front of a buffer
that holds it, unless it has no codes and the buffer is longer than it, or it has more
codes than there is room for. -/
theorem deserializeSubackPacket_sound_iff (maxCount : Nat) (buf : List UInt8) (bufLen : Nat)
    (header : UInt8) (remLen : Nat) (curdata : List UInt8)
    (isRead : readFixedHeader buf = (header, .ok (remLen, curdata)))
    (isType : MessageTypes.ofHeader (headerType header) = some .suback)
    (present : remLen ≤ curdata.length) (fits : buf.length ≤ bufLen) :
    SubackSound maxCount buf bufLen remLen curdata ↔
      remLen - 2 ≤ maxCount ∧ ¬(remLen = 2 ∧ 5 ≤ bufLen) := by
  have room := readFixedHeader_length isRead
  have body : remLen - 2 ≤ (curdata.drop 2).length := by
    rw [List.length_drop]
    omega
  constructor
  · intro sound
    refine ⟨?_, ?_⟩
    · by_contra many
      have stored := sound.stored
      rw [subackStored_eq isRead isType, if_neg (by omega), storedGrantedQoSs_length (by omega)]
        at stored
      omega
    · rintro ⟨rfl, enough⟩
      have accepted : deserializeSubackPacket maxCount buf bufLen =
          .ok (UInt16.ofNat (mqttReadUint16 curdata).1, []) :=
        (deserializeSubackPacket_iff isRead isType).mpr ⟨enough, Nat.le_refl 2, rfl, rfl⟩
      obtain ⟨⟨three, _⟩, _⟩ := (sound.accepts _).mp accepted
      omega
  · rintro ⟨few, notEmpty⟩
    refine ⟨?_, fun ack => ?_⟩
    · rw [subackStored_eq isRead isType]
      split
      · exact Nat.zero_le _
      · rw [storedGrantedQoSs_length (by omega)]
        omega
    · rw [deserializeSubackPacket_iff isRead isType, readGrantedQoSs_iff body]
      constructor
      · rintro ⟨enough, long, ⟨_, isCodes⟩, isId⟩
        exact ⟨⟨by omega, few⟩, Prod.ext isId isCodes⟩
      · rintro ⟨⟨long, _⟩, rfl⟩
        exact ⟨by omega, by omega, ⟨.inr (by omega), rfl⟩, rfl⟩

/-- A SUBACK with one code, in a buffer of its size. -/
theorem deserializeSubackPacket_sound_single :
    SubackSound 1 [0x90, 3, 0, 1, 2] 5 3 [0, 1, 2] :=
  (deserializeSubackPacket_sound_iff 1 [0x90, 3, 0, 1, 2] 5 0x90 3 [0, 1, 2] (by rfl) (by decide)
    (by decide) (by decide)).mpr ⟨by decide, by decide⟩

/-- An empty SUBACK at the front of a read buffer is accepted, without codes; one with two
codes has both stored though there is room for one. -/
theorem empty_suback_accepted :
    deserializeSubackPacket 1 [0x90, 2, 0, 1, 0, 0] 6 = .ok (1, []) ∧
      ¬SubackSound 1 [0x90, 2, 0, 1, 0, 0] 6 2 [0, 1, 0, 0] ∧
        subackStored 1 [0x90, 4, 0, 1, 2, 2] 6 = [2, 2] := by
  have accepted : deserializeSubackPacket 1 [0x90, 2, 0, 1, 0, 0] 6 = .ok (1, []) := by decide
  refine ⟨accepted, fun sound => ?_, by decide⟩
  obtain ⟨⟨three, _⟩, _⟩ := (sound.accepts _).mp accepted
  exact absurd three (by decide)

end UIoT.Mqtt
