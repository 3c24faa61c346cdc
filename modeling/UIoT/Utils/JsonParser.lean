import UIoT.Lib.Json

/-!
# Looking a value up in a JSON text

`LITE_json_value_of` takes a dotted path, and steps from member to member with
`json_get_value_by_name`, which runs over the members that
`json_get_next_object` cuts out of the text. A pointer into a C string is what
is left of the string from there on (`Cursor`), so a length comes with each
cursor where the source keeps one.
-/

set_option autoImplicit false

namespace UIoT.Utils

open Json

/-- A pointer into a C string: the bytes in front of the terminator. -/
abbrev Cursor := List UInt8

abbrev space : UInt8 := 0x20

/-- The bytes of a string literal of the source. -/
def literal (text : String) : List UInt8 := text.toList.map fun char => char.toNat.toUInt8

/-- `strchr` -/
def strchr (byte : UInt8) : Cursor → Option Cursor
  | [] => none
  | b :: rest => if b = byte then some (b :: rest) else strchr byte rest

/-- `enum JSONTYPE` -/
inductive JsonType where
  | none
  | string
  | object
  | array
  | number
  | boolean
  | null
  deriving DecidableEq, Repr

/-- `json_get_object` -/
def jsonGetObject (type : JsonType) : Cursor → Option Cursor
  | [] => .none
  | byte :: rest =>
      if byte = space then jsonGetObject type rest
      else if byte = (if type = .object then openBrace else openBracket) then some (byte :: rest)
      else .none

/-! ## The next member -/

/-- What `json_get_next_object` tells of a member. -/
structure Entry where
  key : Cursor
  keyLen : Nat
  value : Cursor
  valueLen : Nat
  type : JsonType
  deriving DecidableEq, Repr

def isDigit (byte : UInt8) : Bool := 0x30 ≤ byte && byte ≤ 0x39

/-- The first loop of `json_get_next_object`: the type of the value, where it
begins, and where the second loop starts. -/
def beginOfValue : Cursor → Option (JsonType × Cursor × Cursor)
  | [] => none
  | byte :: rest =>
      if byte = quote then some (.string, rest, rest)
      else if byte = openBrace then some (.object, byte :: rest, rest)
      else if byte = openBracket then some (.array, byte :: rest, rest)
      else if byte = minus ∨ isDigit byte then some (.number, byte :: rest, rest)
      else if byte = 0x74 ∨ byte = 0x54 ∨ byte = 0x66 ∨ byte = 0x46 then
        some (.boolean, byte :: rest, byte :: rest)
      else if byte = 0x6E ∨ byte = 0x4E then some (.null, byte :: rest, byte :: rest)
      else beginOfValue rest

/-- The second loop on a number: `len` bytes are behind the cursor. -/
def numberLen (len : Nat) : Cursor → Nat
  | [] => 0
  | byte :: rest => if !isDigit byte && byte ≠ point then len else numberLen (len + 1) rest

/-- The second loop on a string, an object or an array: the bytes in front of
the closing mark, nested marks being counted in `iMarkDepth`. -/
def markedLen (opening closing : UInt8) (depth len : Nat) : Cursor → Option Nat
  | [] => none
  | byte :: rest =>
      if byte = closing then
        if depth = 0 then some len else markedLen opening closing (depth - 1) (len + 1) rest
      else if byte = opening then markedLen opening closing (depth + 1) (len + 1) rest
      else markedLen opening closing depth (len + 1) rest

/-- The second loop of `json_get_next_object`: `iValueLen` -/
def valueLen : JsonType → Cursor → Cursor → Nat
  | .none, _, _ => 0
  | .string, _, pos => (markedLen quote quote 0 0 pos).getD 0
  | .object, _, pos => ((markedLen openBrace closeBrace 0 1 pos).map (· + 1)).getD 0
  | .array, _, pos => ((markedLen openBracket closeBracket 0 1 pos).map (· + 1)).getD 0
  | .number, _, pos => numberLen 1 pos
  | .boolean, value, _ =>
      if (literal "true").isPrefixOf value || (literal "TRUE").isPrefixOf value then 4
      else if (literal "false").isPrefixOf value || (literal "FALSE").isPrefixOf value then 5
      else 0
  | .null, value, _ =>
      if (literal "null").isPrefixOf value || (literal "NULL").isPrefixOf value then 4 else 0

/-- The part of `json_get_next_object` after the key: the returned position is
none where the source returns a null pointer. -/
def valueFrom (key : Cursor) (keyLen : Nat) (pos : Cursor) : Option (Entry × Cursor) :=
  match beginOfValue pos with
  | none => none
  | some (type, value, scan) =>
      let len := valueLen type value scan
      let entry := { key := key, keyLen := keyLen, value := value, valueLen := len, type := type }
      some (entry, value.drop (if type = .string then len + 1 else len))

/-- `json_get_next_object` -/
def jsonGetNextObject (type : JsonType) (str : Cursor) : Option (Entry × Cursor) :=
  if type = .object then
    match strchr quote str with
    | none => none
    | some opening =>
        let name := opening.drop 1
        match strchr quote name with
        | none => none
        | some closing =>
            match strchr colon closing with
            | none => none
            | some pos => valueFrom name (name.length - closing.length) pos
  else valueFrom [] 0 str

/-! ## The lookup -/

/-- `json_object_for_each_kv`: the members in the order of the loop, which has
at most one turn for each byte (`jsonObjectForEachKv_eq`). -/
def jsonObjectForEachKv : Nat → Cursor → List Entry
  | 0, _ => []
  | turns + 1, pos =>
      match jsonGetNextObject .object pos with
      | none => []
      | some (entry, next) => entry :: jsonObjectForEachKv turns next

/-- `json_parse_name_value`: the members that the callback is called on, until
it asks to stop. -/
def jsonParseNameValue (str : Cursor) : List Entry :=
  match jsonGetObject .object str with
  | none => []
  | some pos =>
      (jsonObjectForEachKv pos.length pos).filter fun entry =>
        entry.keyLen ≠ 0 && entry.valueLen ≠ 0

/-- `json_get_value_by_name`: its callback compares as many bytes as the name
has (`strncmp`). -/
def jsonGetValueByName (str : Cursor) (name : List UInt8) : Option (Cursor × Nat) :=
  ((jsonParseNameValue str).find? fun entry => name.isPrefixOf entry.key).map fun entry =>
    (entry.value, entry.valueLen)

/-- The loop of `LITE_json_value_of` over the components of the path: each step
starts at the value of the one before and goes to the end of the text. -/
def valueOfPath : List (List UInt8) → Cursor → Option (Cursor × Nat)
  | [], _ => none
  | [name], src => jsonGetValueByName src name
  | name :: path, src =>
      match jsonGetValueByName src name with
      | none => none
      | some (value, _) => valueOfPath path value

/-- `LITE_json_value_of` -/
def liteJsonValueOf (key : List UInt8) (src : Cursor) : Option (List UInt8) :=
  (valueOfPath (key.splitOn point) src).map fun found => found.1.take found.2

example : liteJsonValueOf (literal "a.b") (literal "\x7b\"a\":\x7b\"x\":[1],\"b\":-2.5\x7d\x7d") =
    some (literal "-2.5") := by decide

end UIoT.Utils
