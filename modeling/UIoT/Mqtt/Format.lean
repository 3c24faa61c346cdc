import UIoT.Lib.LengthPrefix
import UIoT.Mqtt.Packets

/-!
# The packets that a receiver understands

The protocol says which byte lists are packets and what they ask for. These are
the readers of a receiver that goes by it: of the fixed header, of SUBSCRIBE and
UNSUBSCRIBE, and of CONNECT without a will. The flag by which older versions of
the protocol repeat a request is not looked at.
-/

set_option autoImplicit false

namespace UIoT.Mqtt

open Base128 LengthPrefix

/-! ## The fixed header -/

/-- The first byte and the body of what is exactly one packet. -/
def decodeFrame : List UInt8 → Option (UInt8 × List UInt8)
  | [] => none
  | header :: rest =>
      (decode rest).bind fun (remLen, body) =>
        if rest.length - body.length ≤ maxNoOfRemainingLengthBytes ∧ body.length = remLen then
          some (header, body)
        else none

theorem decodeFrame_encode {header : UInt8} {remLen : Nat} {body : List UInt8}
    {frame : UInt8 × List UInt8} :
    decodeFrame (header :: (encode remLen ++ body)) = some frame ↔
      frame = (header, body) ∧ body.length = remLen ∧ remLen < 2 ^ 28 := by
  have length : (encode remLen ++ body).length - body.length = (encode remLen).length := by
    rw [List.length_append]
    omega
  have short : (encode remLen).length ≤ maxNoOfRemainingLengthBytes ↔ remLen < 2 ^ 28 :=
    encode_length_le_iff 3 remLen
  rw [decodeFrame, decode_encode_append, Option.bind_some]
  dsimp only
  rw [length]
  constructor
  · intro decoded
    split at decoded
    · rename_i fits
      cases decoded
      exact ⟨rfl, fits.2, short.mp fits.1⟩
    · cases decoded
  · rintro ⟨rfl, whole, fits⟩
    rw [if_pos ⟨short.mpr fits, whole⟩]

/-! ## Strings -/

/-- A string that fits its length field is written as the protocol has it. -/
theorem mqttWriteUtf8String_eq {string : CString} (short : string.length < 65536) :
    mqttWriteUtf8String string = writeString string := by
  rw [mqttWriteUtf8String, mqttWriteUint16, UInt16.toNat_ofNat', Nat.mod_eq_of_lt short]
  rfl

theorem mqttWriteUtf8String_length (string : CString) :
    (mqttWriteUtf8String string).length = 2 + string.length := by
  rw [mqttWriteUtf8String, List.length_append]
  rfl

/-! ## Requests for topics -/

/-- A filter and the quality of service asked for. -/
def readSubscription : Reader (List UInt8 × UInt8) := fun input =>
  (readString input).bind fun (filter, rest) =>
    match rest with
    | [] => none
    | qos :: rest => if qos ≤ 2 then some ((filter, qos), rest) else none

def writeSubscription (subscription : List UInt8 × UInt8) : List UInt8 :=
  writeString subscription.1 ++ [subscription.2]

/-- What is asked for, behind the header of such a request. -/
def decodeRequest {α : Type} (type : UInt8) (read : Reader α) (packet : List UInt8) :
    Option (Nat × List α) :=
  (decodeFrame packet).bind fun (header, body) =>
    if header &&& 0xF7 ≠ type then none
    else (readNat16 body).bind fun (packetId, rest) => (items read rest).map (packetId, ·)

/-- The packet id and the subscriptions of a SUBSCRIBE. -/
def decodeSubscribe : List UInt8 → Option (Nat × List (List UInt8 × UInt8)) :=
  decodeRequest 0x82 readSubscription

/-- The packet id and the filters of an UNSUBSCRIBE. -/
def decodeUnsubscribe : List UInt8 → Option (Nat × List (List UInt8)) :=
  decodeRequest 0xA2 readString

theorem inverts_subscription {subscription : List UInt8 × UInt8}
    (short : subscription.1.length < 65536) (small : subscription.2 ≤ 2) :
    Inverts readSubscription writeSubscription subscription := by
  intro after
  have back := inverts_string short ([subscription.2] ++ after)
  rw [writeSubscription, List.append_assoc, readSubscription, back, Option.bind_some]
  exact if_pos small

theorem readSubscription_eq {input rest : List UInt8} {subscription : List UInt8 × UInt8}
    (isRead : readSubscription input = some (subscription, rest)) :
    input = writeSubscription subscription ++ rest ∧ subscription.1.length < 65536 := by
  obtain ⟨⟨filter, tail⟩, isFilter, taken⟩ := Option.bind_eq_some_iff.mp isRead
  obtain ⟨rfl, short⟩ := readString_eq isFilter
  dsimp only at taken
  split at taken
  · cases taken
  · split at taken
    · cases taken
      refine ⟨?_, short⟩
      rw [writeSubscription, List.append_assoc]
      rfl
    · cases taken

/-! ## Connecting -/

/-- What a CONNECT says. -/
structure ConnectContents where
  clientId : List UInt8
  username : Option (List UInt8)
  password : Option (List UInt8)
  cleanSession : Bool
  keepAlive : Nat
  deriving DecidableEq, Repr

/-- A field that is there if its flag says so. -/
def readOptional (present : Bool) : Reader (Option (List UInt8)) := fun input =>
  if present then (readString input).map fun (string, rest) => (some string, rest)
  else some (none, input)

/-- The payload of a CONNECT behind its flags: a password needs a user name, and
nothing follows the last field. -/
def decodeConnectFields (flags : UInt8) (input : List UInt8) : Option ConnectContents := do
  let (keepAlive, input) ← readNat16 input
  let (clientId, input) ← readString input
  let (username, input) ← readOptional (flags &&& 0x80 ≠ 0) input
  let (password, input) ← readOptional (flags &&& 0x40 ≠ 0) input
  if username.isNone ∧ password.isSome then none
  else if input ≠ [] then none
  else some ⟨clientId, username, password, flags &&& 0x02 ≠ 0, keepAlive⟩

/-- What a CONNECT of version 3.1.1 without a will says. -/
def decodeConnect (packet : List UInt8) : Option ConnectContents := do
  let (header, body) ← decodeFrame packet
  let (protocol, input) ← readString body
  match input with
  | level :: flags :: input =>
      if header ≠ 0x10 ∨ protocol ≠ [0x4D, 0x51, 0x54, 0x54] ∨ level ≠ 4 then none
      else if flags &&& 0x3D ≠ 0 then none
      else decodeConnectFields flags input
  | _ => none

end UIoT.Mqtt
