import UIoT.Mqtt.Format

/-!
# CONNECT

`_serialize_connect_packet` decides three times which of the user name and the
password are there: for the length, for the flags and for the payload. The flag of
the password is always set. So a receiver recovers the options just if both are
there and every string fits its length field (`serializeConnectPacket_decodes_iff`),
and takes a CONNECT without a password for none (`missing_password_malformed`).
-/

set_option autoImplicit false

namespace UIoT.Mqtt

open Base128 LengthPrefix

/-! ## The property -/

/-- What a CONNECT with these options is to say. -/
def ConnectParams.contents (options : ConnectParams) : ConnectContents where
  clientId := options.clientId
  username := options.username
  password := options.password
  cleanSession := options.cleanSession ≠ 0
  keepAlive := options.keepAliveInterval.toNat

/-! ## The condition -/

/-- The user name and the password are there, and the strings fit their length fields. -/
structure ConnectEncodable (options : ConnectParams) : Prop where
  clientId : options.clientId.length < 65536
  username : ∃ username, options.username = some username ∧ username.length < 65536
  password : ∃ password, options.password = some password ∧ password.length < 65536

variable {options : ConnectParams} {bufLen : Nat} {packet : List UInt8}

/-! ## The flags -/

theorem connectFlags_noWill : connectFlags options &&& 0x3D = 0 := by
  rw [connectFlags]
  split <;> split <;> decide

theorem connectFlags_username : connectFlags options &&& 0x80 ≠ 0 ↔ options.username.isSome := by
  rw [connectFlags]
  cases options.username with
  | none => split <;> decide
  | some username => split <;> simp <;> decide

theorem connectFlags_password : connectFlags options &&& 0x40 ≠ 0 := by
  rw [connectFlags]
  split <;> split <;> decide

theorem connectFlags_cleanSession :
    connectFlags options &&& 0x02 ≠ 0 ↔ options.cleanSession ≠ 0 := by
  rw [connectFlags]
  by_cases isClean : options.cleanSession = 0
  · rw [if_neg (not_not.mpr isClean)]
    split <;> simp [isClean] <;> decide
  · rw [if_pos isClean]
    split <;> simp [isClean] <;> decide

/-! ## The payload -/

/-- A field as it is written where it is there. -/
def optionalBytes (string : Option CString) : List UInt8 := (string.map mqttWriteUtf8String).getD []

/-- What the serializer writes behind the flags. -/
def connectFields (options : ConnectParams) : List UInt8 :=
  mqttWriteUint16 options.keepAliveInterval ++ (mqttWriteUtf8String options.clientId ++
    (optionalBytes options.username ++ optionalBytes options.password))

theorem readOptional_bytes {string : Option CString} {present : Bool} (after : List UInt8)
    (isPresent : present = string.isSome) (short : ∀ text ∈ string, text.length < 65536) :
    readOptional present (optionalBytes string ++ after) = some (string, after) := by
  subst isPresent
  cases string with
  | none => rfl
  | some text =>
      have isShort := short text rfl
      rw [readOptional, optionalBytes, Option.map_some, Option.getD_some, mqttWriteUtf8String_eq isShort,
        inverts_string isShort]
      rfl

/-- A field that is read is there as its flag has it, and fits its length field. -/
theorem readOptional_some {string : Option (List UInt8)} {present : Bool} {input rest : List UInt8}
    (isRead : readOptional present input = some (string, rest)) :
    string.isSome = present ∧ ∀ text ∈ string, text.length < 65536 := by
  cases present with
  | false =>
      cases isRead
      exact ⟨rfl, fun _ isText => nomatch isText⟩
  | true =>
      obtain ⟨⟨text, after⟩, isString, same⟩ := Option.map_eq_some_iff.mp isRead
      cases same
      refine ⟨rfl, fun _ isText => ?_⟩
      cases isText
      exact (readString_eq isString).2

theorem decodeConnectFields_iff :
    decodeConnectFields (connectFlags options) (connectFields options) = some options.contents ↔
      ConnectEncodable options := by
  have isKeepAlive := inverts_nat16 options.keepAliveInterval.toNat_lt
    (mqttWriteUtf8String options.clientId ++
      (optionalBytes options.username ++ optionalBytes options.password))
  have isPassword : decide (connectFlags options &&& 0x40 ≠ 0) = true :=
    decide_eq_true connectFlags_password
  have isUsername : decide (connectFlags options &&& 0x80 ≠ 0) = options.username.isSome :=
    Bool.eq_iff_iff.mpr (decide_eq_true_iff.trans connectFlags_username)
  have isClean : decide (connectFlags options &&& 0x02 ≠ 0) = decide (options.cleanSession ≠ 0) :=
    Bool.eq_iff_iff.mpr (by rw [decide_eq_true_iff, decide_eq_true_iff]; exact connectFlags_cleanSession)
  rw [decodeConnectFields, connectFields,
    show mqttWriteUint16 options.keepAliveInterval = writeNat16 options.keepAliveInterval.toNat from rfl,
    isKeepAlive, isPassword, isUsername, isClean]
  constructor
  · intro decoded
    obtain ⟨keepAlive, isKeepAlive, decoded⟩ := Option.bind_eq_some_iff.mp decoded
    cases isKeepAlive
    obtain ⟨⟨clientId, rest⟩, isClientId, decoded⟩ := Option.bind_eq_some_iff.mp decoded
    obtain ⟨⟨username, rest'⟩, readUsername, decoded⟩ := Option.bind_eq_some_iff.mp decoded
    obtain ⟨⟨password, rest''⟩, readPassword, decoded⟩ := Option.bind_eq_some_iff.mp decoded
    obtain ⟨_, shortUsername⟩ := readOptional_some readUsername
    obtain ⟨hasPassword, shortPassword⟩ := readOptional_some readPassword
    dsimp only at decoded
    split at decoded
    · cases decoded
    rename_i hasUsername
    split at decoded
    · cases decoded
    have same := Option.some.inj decoded
    have sameId : clientId = options.clientId := congrArg ConnectContents.clientId same
    have sameUsername : username = options.username := congrArg ConnectContents.username same
    have samePassword : password = options.password := congrArg ConnectContents.password same
    subst sameId sameUsername samePassword
    refine ⟨(readString_eq isClientId).2, ?_, ?_⟩
    · cases isSome : options.username with
      | none =>
          rw [isSome] at hasUsername
          exact absurd ⟨rfl, hasPassword⟩ hasUsername
      | some text => exact ⟨text, rfl, shortUsername text isSome⟩
    · obtain ⟨text, isText⟩ := Option.isSome_iff_exists.mp hasPassword
      exact ⟨text, isText, shortPassword text isText⟩
  · rintro ⟨shortId, ⟨username, isSome, shortUsername⟩, ⟨password, isSome', shortPassword⟩⟩
    have usernameBack := @readOptional_bytes options.username _ (optionalBytes options.password) rfl
      (fun text isText => by rw [isSome] at isText; cases isText; exact shortUsername)
    have passwordBack := @readOptional_bytes options.password true [] (by rw [isSome']; rfl)
      (fun text isText => by rw [isSome'] at isText; cases isText; exact shortPassword)
    rw [List.append_nil] at passwordBack
    rw [mqttWriteUtf8String_eq shortId]
    simp only [Option.bind_eq_bind, Option.bind_some, inverts_string shortId _, usernameBack, passwordBack]
    rw [isSome, isSome']
    simp [ConnectParams.contents, isSome, isSome']

/-! ## The packet -/

/-- The name of the protocol, `MQTT`. -/
abbrev protocolName : List UInt8 := [0x4D, 0x51, 0x54, 0x54]

/-- The bytes behind the fixed header. -/
def connectBody (options : ConnectParams) : List UInt8 :=
  writeString protocolName ++ (4 :: connectFlags options :: connectFields options)

theorem optionalBytes_length (string : Option CString) :
    (optionalBytes string).length = (string.map fun text => text.length + 2).getD 0 := by
  cases string with
  | none => rfl
  | some text =>
      rw [optionalBytes, Option.map_some, Option.getD_some, mqttWriteUtf8String_length, Nat.add_comm]
      rfl

theorem getPacketConnectRemLen_eq (version : options.mqttVersion = 4) :
    getPacketConnectRemLen options = (connectBody options).length := by
  have notOld : ¬(4 : UInt8) = 3 := by decide
  have header : (writeString protocolName).length = 6 := rfl
  have number : (mqttWriteUint16 options.keepAliveInterval).length = 2 := rfl
  rw [getPacketConnectRemLen, version, if_neg notOld, if_pos rfl, connectBody, connectFields,
    List.length_append, List.length_cons, List.length_cons, List.length_append, List.length_append,
    List.length_append, optionalBytes_length, optionalBytes_length, mqttWriteUtf8String_length, header,
    number]
  cases options.username with
  | none =>
      cases options.password with
      | none => simp only [Option.map_none, Option.getD_none]; omega
      | some password =>
          simp only [Option.map_none, Option.getD_none, Option.map_some, Option.getD_some]
          omega
  | some username =>
      cases options.password with
      | none => simp only [Option.map_none, Option.getD_none, Option.map_some, Option.getD_some]; omega
      | some password => simp only [Option.map_some, Option.getD_some]; omega

theorem serializeConnectPacket_ok (version : options.mqttVersion = 4)
    (built : serializeConnectPacket bufLen options = .ok packet) :
    packet = 0x10 :: (encode (connectBody options).length ++ connectBody options) := by
  have header : mqttInitPacketHeader .connect .qos0 0 0 = .ok 0x10 := rfl
  rw [serializeConnectPacket, header, version] at built
  dsimp only at built
  split at built
  · cases built
  · split at built
    · cases built
    · cases built
      rw [getPacketConnectRemLen_eq version, mqttWritePacketRemLen_eq_encode]
      simp only [connectBody, connectFields, optionalBytes, List.append_assoc, List.cons_append,
        List.nil_append, if_true]
      rfl

/-- What a receiver makes of the packet, as long as its length has a field. -/
theorem decodeConnect_eq : decodeConnect
    (0x10 :: (encode (connectBody options).length ++ connectBody options)) =
      if (connectBody options).length < 2 ^ 28 then
        decodeConnectFields (connectFlags options) (connectFields options)
      else none := by
  have isProtocol := @inverts_string protocolName (by decide)
    (4 :: connectFlags options :: connectFields options)
  split
  · rename_i small
    have isFrame := (@decodeFrame_encode 0x10 _ (connectBody options) _).mpr ⟨rfl, rfl, small⟩
    rw [decodeConnect, isFrame]
    simp only [Option.bind_eq_bind, Option.bind_some, connectBody, isProtocol]
    rw [if_neg (by simp), if_neg (not_not.mpr connectFlags_noWill)]
  · rename_i large
    cases isFrame : decodeFrame
        (0x10 :: (encode (connectBody options).length ++ connectBody options)) with
    | none =>
        rw [decodeConnect, isFrame]
        rfl
    | some frame => exact absurd (decodeFrame_encode.mp isFrame).2.2 large

theorem connectBody_small (encodable : ConnectEncodable options) :
    (connectBody options).length < 2 ^ 28 := by
  obtain ⟨shortId, ⟨username, isUsername, shortUsername⟩, ⟨password, isPassword, shortPassword⟩⟩ :=
    encodable
  have header : (writeString protocolName).length = 6 := rfl
  have number : (mqttWriteUint16 options.keepAliveInterval).length = 2 := rfl
  rw [connectBody, connectFields, List.length_append, List.length_cons, List.length_cons,
    List.length_append, List.length_append, List.length_append, optionalBytes_length,
    optionalBytes_length, mqttWriteUtf8String_length, header, number, isUsername, isPassword]
  simp only [Option.map_some, Option.getD_some]
  omega

/-- **CONNECT.** A receiver recovers the options from the packet just if the user name
and the password are there and all strings fit. -/
theorem serializeConnectPacket_decodes_iff (bufLen : Nat) (options : ConnectParams)
    (version : options.mqttVersion = 4) (packet : List UInt8)
    (built : serializeConnectPacket bufLen options = .ok packet) :
    decodeConnect packet = some options.contents ↔ ConnectEncodable options := by
  rw [serializeConnectPacket_ok version built, decodeConnect_eq]
  constructor
  · intro decoded
    split at decoded
    · exact decodeConnectFields_iff.mp decoded
    · cases decoded
  · intro encodable
    rw [if_pos (connectBody_small encodable)]
    exact decodeConnectFields_iff.mpr encodable

/-- Options of a device: client `c`, user `u`, password `p`. -/
def deviceOptions (password : Option CString) : ConnectParams where
  clientId := [0x63]
  username := some [0x75]
  password := password
  mqttVersion := 4
  keepAliveInterval := 60
  cleanSession := 1
  autoConnectEnable := 1

/-- The packet with a password. -/
theorem serializeConnectPacket_decodes_device : ∃ packet,
    serializeConnectPacket 64 (deviceOptions (some [0x70])) = .ok packet ∧
      decodeConnect packet = some (deviceOptions (some [0x70])).contents := by
  have packetOf : serializeConnectPacket 64 (deviceOptions (some [0x70])) =
      .ok [0x10, 19, 0, 4, 0x4D, 0x51, 0x54, 0x54, 4, 0xC2, 0, 60, 0, 1, 0x63, 0, 1, 0x75, 0, 1, 0x70] := by
    decide +kernel
  exact ⟨_, packetOf, (serializeConnectPacket_decodes_iff 64 _ rfl _ packetOf).mpr
    ⟨by decide, ⟨_, rfl, by decide⟩, ⟨_, rfl, by decide⟩⟩⟩

/-- The flags of the packet without one have a password all the same. -/
theorem missing_password_malformed : ∃ packet,
    serializeConnectPacket 64 (deviceOptions none) = .ok packet ∧
      decodeConnect packet ≠ some (deviceOptions none).contents := by
  refine ⟨[0x10, 16, 0, 4, 0x4D, 0x51, 0x54, 0x54, 4, 0xC2, 0, 60, 0, 1, 0x63, 0, 1, 0x75],
    by decide +kernel, ?_⟩
  decide

end UIoT.Mqtt
