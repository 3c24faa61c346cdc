import Mathlib.Data.List.Find
import UIoT.Utils.JsonIteration
import UIoT.Utils.JsonLookup

/-!
# The memory that the member scan reads

`json_object_for_each_kv` on a C string in memory. A pointer is the bytes from
it to the terminator, with the terminator; behind that nothing may be read. The
scan stays in the string, and the loop ends, as long as no string value is left
open by the last byte of the text (`forEachKv_safe_iff`): behind the quote that opens
such a value `json_get_next_object` skips one byte more, as it does behind a
string's closing quote, and the loop looks there for the next member.
-/

set_option autoImplicit false

namespace UIoT.Utils

open Json (quote colon minus point openBrace closeBrace openBracket closeBracket)
open JsonSyntax

/-! ## Pointers -/

/-- A pointer into a string in memory: what the string holds from there on, its
terminator included. -/
abbrev Pointer := List UInt8

/-- What stands in memory for a string. -/
def terminated (text : Cursor) : Pointer := text ++ [0]

/-- A read behind the terminator of a string. -/
inductive Overread where
  | behindTerminator
  deriving DecidableEq, Repr

def readByte : Pointer → Except Overread UInt8
  | [] => .error .behindTerminator
  | byte :: _ => .ok byte

/-- `strlen` -/
def strlenOf (len : Nat) : Pointer → Except Overread Nat
  | [] => .error .behindTerminator
  | byte :: rest => if byte = 0 then .ok len else strlenOf (len + 1) rest

/-- `strchr`, for a byte that is not the terminator. -/
def strchrOf (byte : UInt8) : Pointer → Except Overread (Option Pointer)
  | [] => .error .behindTerminator
  | b :: rest =>
      if b = byte then .ok (some (b :: rest))
      else if b = 0 then .ok none
      else strchrOf byte rest

/-! ## The scan -/

/-- `json_get_object` -/
def objectPointer (type : JsonType) : Pointer → Except Overread (Option Pointer)
  | [] => .error .behindTerminator
  | byte :: rest =>
      if byte = 0 then .ok none
      else if byte = space then objectPointer type rest
      else if byte = (if type = .object then openBrace else openBracket) then
        .ok (some (byte :: rest))
      else .ok none

/-- The first loop of `json_get_next_object`. -/
def beginPointer : Pointer → Except Overread (Option (JsonType × Pointer × Pointer))
  | [] => .error .behindTerminator
  | byte :: rest =>
      if byte = 0 then .ok none
      else if byte = quote then .ok (some (.string, rest, rest))
      else if byte = openBrace then .ok (some (.object, byte :: rest, rest))
      else if byte = openBracket then .ok (some (.array, byte :: rest, rest))
      else if byte = minus ∨ isDigit byte then .ok (some (.number, byte :: rest, rest))
      else if byte = 0x74 ∨ byte = 0x54 ∨ byte = 0x66 ∨ byte = 0x46 then
        .ok (some (.boolean, byte :: rest, byte :: rest))
      else if byte = 0x6E ∨ byte = 0x4E then .ok (some (.null, byte :: rest, byte :: rest))
      else beginPointer rest

/-- The second loop on a number. -/
def numberRead (len : Nat) : Pointer → Except Overread Nat
  | [] => .error .behindTerminator
  | byte :: rest =>
      if byte = 0 then .ok 0
      else if !isDigit byte && byte ≠ point then .ok len
      else numberRead (len + 1) rest

/-- The second loop on a string, an object or an array. -/
def markedRead (opening closing : UInt8) (depth len : Nat) :
    Pointer → Except Overread (Option Nat)
  | [] => .error .behindTerminator
  | byte :: rest =>
      if byte = 0 then .ok none
      else if byte = closing then
        if depth = 0 then .ok (some len)
        else markedRead opening closing (depth - 1) (len + 1) rest
      else if byte = opening then markedRead opening closing (depth + 1) (len + 1) rest
      else markedRead opening closing depth (len + 1) rest

/-- The second loop on a literal, which runs to the terminator when the value is
none of the `words`. -/
def wordRead (words : List (List UInt8)) (value : Pointer) : Except Overread Nat := do
  let len ← strlenOf 0 value
  match words.find? fun word => word.length ≤ len && word.isPrefixOf value with
  | some word => return word.length
  | none => return 0

/-- The second loop of `json_get_next_object`: `iValueLen` -/
def lengthRead : JsonType → Pointer → Pointer → Except Overread Nat
  | .none, _, _ => return 0
  | .string, _, pos => return (← markedRead quote quote 0 0 pos).getD 0
  | .object, _, pos => return ((← markedRead openBrace closeBrace 0 1 pos).map (· + 1)).getD 0
  | .array, _, pos => return ((← markedRead openBracket closeBracket 0 1 pos).map (· + 1)).getD 0
  | .number, _, pos => numberRead 1 pos
  | .boolean, value, _ =>
      wordRead [literal "true", literal "TRUE", literal "false", literal "FALSE"] value
  | .null, value, _ => wordRead [literal "null", literal "NULL"] value

/-- The part of `json_get_next_object` after the key: no position where it
returns a null pointer. -/
def valuePointer (key : Pointer) (keyLen : Nat) (pos : Pointer) :
    Except Overread (Option (Entry × Pointer)) := do
  match ← beginPointer pos with
  | none => return none
  | some (type, value, scan) =>
      let len ← lengthRead type value scan
      let entry := { key := key, keyLen := keyLen, value := value, valueLen := len, type := type }
      return some (entry, value.drop (if type = .string then len + 1 else len))

/-- `json_get_next_object`, for an object. -/
def nextObjectPointer (str : Pointer) : Except Overread (Option (Entry × Pointer)) := do
  match ← strchrOf quote str with
  | none => return none
  | some opening =>
      let name := opening.drop 1
      match ← strchrOf quote name with
      | none => return none
      | some closing =>
          match ← strchrOf colon closing with
          | none => return none
          | some pos => valuePointer name (name.length - closing.length) pos

/-! ## The loop -/

inductive Ending where
  | finished
  | overread
  | running
  deriving DecidableEq, Repr

/-- The turns of `json_object_for_each_kv`: the members reported, and how it ends. -/
structure Run where
  entries : List Entry
  outcome : Ending
  deriving DecidableEq, Repr

/-- A turn in front of a run. -/
def Run.after (entry : Entry) (run : Run) : Run := { run with entries := entry :: run.entries }

/-- The loop of `json_object_for_each_kv` from a position on, at most as many
turns as given. -/
def loopFrom : Nat → Option Pointer → Run
  | _, none => ⟨[], .finished⟩
  | turns, some pos =>
      match readByte pos with
      | .error _ => ⟨[], .overread⟩
      | .ok byte =>
          if byte = 0 then ⟨[], .finished⟩
          else
            match turns with
            | 0 => ⟨[], .running⟩
            | turns + 1 =>
                match nextObjectPointer pos with
                | .error _ => ⟨[], .overread⟩
                | .ok none => loopFrom turns none
                | .ok (some (entry, next)) => (loopFrom turns (some next)).after entry

/-- `json_object_for_each_kv` over a string in memory. -/
def forEachKv (turns : Nat) (text : Cursor) : Run :=
  match objectPointer .object (terminated text) with
  | .error _ => ⟨[], .overread⟩
  | .ok pos => loopFrom turns pos

/-! ## The scan stays in the string -/

def Entry.terminated (entry : Entry) : Entry :=
  { entry with key := Utils.terminated entry.key, value := Utils.terminated entry.value }

section

variable {text : Cursor}

theorem strlenOf_terminated (clean : 0 ∉ text) (len : Nat) :
    strlenOf len (terminated text) = .ok (len + text.length) := by
  induction text generalizing len with
  | nil => rfl
  | cons byte text ih =>
      obtain ⟨notEnd, clean⟩ := List.ne_and_not_mem_of_not_mem_cons clean
      have next := ih clean (len + 1)
      rw [terminated] at next ⊢
      rw [List.cons_append, strlenOf, if_neg (Ne.symm notEnd), next, List.length_cons]
      congr 1
      omega

theorem strchrOf_terminated {byte : UInt8} (notEnd : byte ≠ 0) (clean : 0 ∉ text) :
    strchrOf byte (terminated text) = .ok ((strchr byte text).map terminated) := by
  induction text with
  | nil => simp [terminated, strchrOf, strchr, notEnd.symm]
  | cons head text ih =>
      obtain ⟨headNotEnd, clean⟩ := List.ne_and_not_mem_of_not_mem_cons clean
      have next := ih clean
      rw [terminated] at next ⊢
      rw [List.cons_append, strchrOf, strchr]
      by_cases found : head = byte
      · rw [if_pos found, if_pos found]
        rfl
      · rw [if_neg found, if_neg found, if_neg (Ne.symm headNotEnd), next]

theorem objectPointer_terminated (type : JsonType) (clean : 0 ∉ text) :
    objectPointer type (terminated text) = .ok ((jsonGetObject type text).map terminated) := by
  induction text with
  | nil => rfl
  | cons byte text ih =>
      obtain ⟨notEnd, clean⟩ := List.ne_and_not_mem_of_not_mem_cons clean
      have next := ih clean
      rw [terminated] at next ⊢
      rw [List.cons_append, objectPointer, jsonGetObject, if_neg (Ne.symm notEnd), next]
      generalize (if type = .object then openBrace else openBracket) = mark
      split
      · rfl
      · split <;> rfl

theorem numberRead_terminated (clean : 0 ∉ text) (len : Nat) :
    numberRead len (terminated text) = .ok (numberLen len text) := by
  induction text generalizing len with
  | nil => rfl
  | cons byte text ih =>
      obtain ⟨notEnd, clean⟩ := List.ne_and_not_mem_of_not_mem_cons clean
      have next := ih clean (len + 1)
      rw [terminated] at next ⊢
      rw [List.cons_append, numberRead, numberLen, if_neg (Ne.symm notEnd), next]
      split <;> rfl

theorem markedRead_terminated {opening closing : UInt8} (clean : 0 ∉ text) (depth len : Nat) :
    markedRead opening closing depth len (terminated text) =
      .ok (markedLen opening closing depth len text) := by
  induction text generalizing depth len with
  | nil => rfl
  | cons byte text ih =>
      obtain ⟨notEnd, clean⟩ := List.ne_and_not_mem_of_not_mem_cons clean
      have next := ih clean
      simp only [terminated] at next ⊢
      rw [List.cons_append, markedRead, markedLen, if_neg (Ne.symm notEnd), next, next, next]
      split
      · split <;> rfl
      · split <;> rfl

theorem beginPointer_terminated (clean : 0 ∉ text) :
    beginPointer (terminated text) =
      .ok ((beginOfValue text).map fun found =>
        (found.1, terminated found.2.1, terminated found.2.2)) := by
  induction text with
  | nil => rfl
  | cons byte text ih =>
      obtain ⟨notEnd, clean⟩ := List.ne_and_not_mem_of_not_mem_cons clean
      have next := ih clean
      rw [terminated] at next ⊢
      rw [List.cons_append, beginPointer, beginOfValue, if_neg (Ne.symm notEnd), next]
      repeat' split
      all_goals rfl

/-- A word without the terminator begins a string in memory where it begins its
text. -/
theorem isPrefixOf_terminated {word : List UInt8} (clean : 0 ∉ word) :
    word.isPrefixOf (terminated text) = word.isPrefixOf text := by
  induction word generalizing text with
  | nil => simp
  | cons byte word ih =>
      obtain ⟨notEnd, clean⟩ := List.ne_and_not_mem_of_not_mem_cons clean
      cases text with
      | nil => simp [terminated, List.isPrefixOf, notEnd.symm]
      | cons head text =>
          have next := @ih text clean
          rw [terminated] at next ⊢
          rw [List.cons_append, List.isPrefixOf, List.isPrefixOf, next]

theorem wordRead_terminated {words : List (List UInt8)} (clean : 0 ∉ text)
    (cleanWords : ∀ word ∈ words, 0 ∉ word) :
    wordRead words (terminated text) =
      .ok ((words.find? fun word => word.isPrefixOf text).elim 0 List.length) := by
  have same : ∀ word ∈ words, (word.length ≤ text.length && word.isPrefixOf (terminated text)) =
      word.isPrefixOf text := by
    intro word member
    rw [isPrefixOf_terminated (cleanWords word member)]
    cases begins : word.isPrefixOf text with
    | false => simp
    | true => simp [(List.isPrefixOf_iff_prefix.mp begins).length_le]
  rw [wordRead, strlenOf_terminated clean, Nat.zero_add]
  simp only [bind, Except.bind, List.find?_congr same]
  cases words.find? fun word => word.isPrefixOf text <;> rfl

theorem lengthRead_terminated (type : JsonType) {value scan : Cursor} (cleanValue : 0 ∉ value)
    (cleanScan : 0 ∉ scan) :
    lengthRead type (terminated value) (terminated scan) = .ok (valueLen type value scan) := by
  cases type with
  | none => rfl
  | string => rw [lengthRead, markedRead_terminated cleanScan]; rfl
  | object => rw [lengthRead, markedRead_terminated cleanScan]; rfl
  | array => rw [lengthRead, markedRead_terminated cleanScan]; rfl
  | number => exact numberRead_terminated cleanScan 1
  | boolean =>
      rw [lengthRead, wordRead_terminated cleanValue (by decide), valueLen]
      simp only [List.find?_cons, List.find?_nil]
      cases (literal "true").isPrefixOf value <;> cases (literal "TRUE").isPrefixOf value <;>
        cases (literal "false").isPrefixOf value <;> cases (literal "FALSE").isPrefixOf value <;> rfl
  | null =>
      rw [lengthRead, wordRead_terminated cleanValue (by decide), valueLen]
      simp only [List.find?_cons, List.find?_nil]
      cases (literal "null").isPrefixOf value <;> cases (literal "NULL").isPrefixOf value <;> rfl

end

/-! ## Where a member is cut -/

/-- The type of a value by its first byte, for the bytes that begin one. -/
def startOf (byte : UInt8) : Option JsonType :=
  if byte = quote then some .string
  else if byte = openBrace then some .object
  else if byte = openBracket then some .array
  else if byte = minus ∨ isDigit byte then some .number
  else if byte = 0x74 ∨ byte = 0x54 ∨ byte = 0x66 ∨ byte = 0x46 then some .boolean
  else if byte = 0x6E ∨ byte = 0x4E then some .null
  else none

/-- Where the value begins for the callback and where its scan goes on. -/
def startAt (type : JsonType) (byte : UInt8) (rest : Cursor) : Cursor × Cursor :=
  match type with
  | .string => (rest, rest)
  | .boolean => (byte :: rest, byte :: rest)
  | .null => (byte :: rest, byte :: rest)
  | _ => (byte :: rest, rest)

theorem beginOfValue_cons (byte : UInt8) (rest : Cursor) :
    beginOfValue (byte :: rest) =
      match startOf byte with
      | some type => some (type, startAt type byte rest)
      | none => beginOfValue rest := by
  rw [beginOfValue, startOf]
  split_ifs <;> rfl

/-- The text in front of the value of a member. -/
inductive Lead : Cursor → Prop
  | intro {before name between gap : List UInt8} : quote ∉ before → quote ∉ name →
      colon ∉ between → (∀ byte ∈ gap, startOf byte = none) →
      Lead (before ++ quote :: (name ++ quote :: (between ++ colon :: gap)))

theorem beginOfValue_skip {gap : List UInt8} (rest : Cursor)
    (none : ∀ byte ∈ gap, startOf byte = none) :
    beginOfValue (gap ++ rest) = beginOfValue rest := by
  induction gap with
  | nil => rfl
  | cons byte gap ih =>
      rw [List.cons_append, beginOfValue_cons, none byte List.mem_cons_self]
      exact ih fun other member => none other (List.mem_cons_of_mem _ member)

theorem beginOfValue_split {pos value scan : Cursor} {type : JsonType}
    (result : beginOfValue pos = some (type, value, scan)) :
    ∃ gap byte rest, pos = gap ++ byte :: rest ∧ (∀ other ∈ gap, startOf other = none) ∧
      startOf byte = some type ∧ (value, scan) = startAt type byte rest := by
  induction pos with
  | nil => simp [beginOfValue] at result
  | cons byte pos ih =>
      rw [beginOfValue_cons] at result
      cases start : startOf byte with
      | some found =>
          simp only [start, Option.some.injEq, Prod.mk.injEq] at result
          obtain ⟨rfl, place⟩ := result
          exact ⟨[], byte, pos, rfl, by simp, start, place.symm⟩
      | none =>
          simp only [start] at result
          obtain ⟨gap, first, rest, rfl, skipped, found, place⟩ := ih result
          refine ⟨byte :: gap, first, rest, rfl, ?_, found, place⟩
          intro other member
          rcases List.mem_cons.mp member with rfl | inGap
          · exact start
          · exact skipped other inGap

theorem startOf_colon : startOf colon = none := by decide

/-- Behind the text in front of a value the scan cuts the value. -/
theorem lead_next {lead : List UInt8} (isLead : Lead lead) (byte : UInt8) (rest : Cursor) :
    ∃ key keyLen, jsonGetNextObject .object (lead ++ byte :: rest) =
      valueFrom key keyLen (byte :: rest) := by
  obtain @⟨before, name, between, gap, unquoted, unquotedName, noColon, noStart⟩ := isLead
  have begins : ∀ key keyLen, valueFrom key keyLen (colon :: (gap ++ byte :: rest)) =
      valueFrom key keyLen (byte :: rest) := by
    intro key keyLen
    have skip : beginOfValue (colon :: (gap ++ byte :: rest)) = beginOfValue (byte :: rest) := by
      rw [beginOfValue_cons, startOf_colon]
      exact beginOfValue_skip (byte :: rest) noStart
    rw [valueFrom, skip, valueFrom]
  have separated : colon ∉ quote :: between :=
    List.not_mem_cons_of_ne_of_not_mem (by decide) noColon
  have whole : before ++ quote :: (name ++ quote :: (between ++ colon :: gap)) ++ byte :: rest =
      before ++ (quote :: (name ++ (quote :: between ++ colon :: (gap ++ byte :: rest)))) := by
    simp
  have cut : jsonGetNextObject .object (before ++ (quote :: (name ++ (quote :: between ++
      colon :: (gap ++ byte :: rest))))) =
      valueFrom (name ++ (quote :: between ++ colon :: (gap ++ byte :: rest)))
        ((name ++ (quote :: between ++ colon :: (gap ++ byte :: rest))).length -
          (quote :: between ++ colon :: (gap ++ byte :: rest)).length)
        (colon :: (gap ++ byte :: rest)) := by
    rw [jsonGetNextObject, if_pos rfl, strchr_skip _ unquoted, strchr_here]
    have closes : strchr quote (quote :: between ++ colon :: (gap ++ byte :: rest)) =
        some (quote :: between ++ colon :: (gap ++ byte :: rest)) := strchr_here _ _
    simp only [List.drop_one, List.tail_cons]
    rw [strchr_skip _ unquotedName, closes]
    simp only
    rw [strchr_skip _ separated, strchr_here]
  rw [whole, cut]
  exact ⟨_, _, begins _ _⟩

/-- Nothing in front of the first byte of the value matters to its scan. -/
theorem valueFrom_split {key pos next : Cursor} {keyLen : Nat} {entry : Entry}
    (result : valueFrom key keyLen pos = some (entry, next)) :
    ∃ gap byte rest type, pos = gap ++ byte :: rest ∧ (∀ other ∈ gap, startOf other = none) ∧
      startOf byte = some type ∧ entry.key = key ∧ entry.keyLen = keyLen ∧
      valueFrom key keyLen (byte :: rest) = some (entry, next) := by
  have found := result
  rw [valueFrom] at found
  cases begun : beginOfValue pos with
  | none => simp only [begun, reduceCtorEq] at found
  | some place =>
      obtain ⟨type, value, scan⟩ := place
      obtain ⟨gap, byte, rest, rfl, noStart, start, _⟩ := beginOfValue_split begun
      refine ⟨gap, byte, rest, type, rfl, noStart, start, ?_⟩
      rw [valueFrom, beginOfValue_skip _ noStart, ← valueFrom] at result
      simp only [begun, Option.some.injEq, Prod.mk.injEq] at found
      obtain ⟨rfl, rfl⟩ := found
      exact ⟨rfl, rfl, result⟩

/-- What the scan finds stands behind a name and a colon. -/
theorem name_split {pos : Cursor} {result : Entry × Cursor}
    (found : jsonGetNextObject .object pos = some result) :
    ∃ before name between behind key, pos = before ++ quote :: key ∧
      key = name ++ quote :: (between ++ colon :: behind) ∧
      quote ∉ before ∧ quote ∉ name ∧ colon ∉ between ∧
      valueFrom key name.length (colon :: behind) = some result := by
  rw [jsonGetNextObject, if_pos rfl] at found
  cases quoted : strchr quote pos with
  | none => simp only [quoted, reduceCtorEq] at found
  | some opening =>
      obtain ⟨before, behindQuote, rfl, rfl, unquoted⟩ := strchr_split quoted
      simp only [quoted, List.drop_one, List.tail_cons] at found
      cases closed : strchr quote behindQuote with
      | none => simp only [closed, reduceCtorEq] at found
      | some closing =>
          obtain ⟨name, behindName, rfl, rfl, unquotedName⟩ := strchr_split closed
          simp only [closed] at found
          cases separated : strchr colon (quote :: behindName) with
          | none => simp only [separated, reduceCtorEq] at found
          | some scan =>
              obtain ⟨front, behind, split, rfl, noColon⟩ := strchr_split separated
              simp only [separated, List.length_append, Nat.add_sub_cancel] at found
              cases front with
              | nil => exact absurd (List.cons.inj split).1 (by decide)
              | cons head between =>
                  obtain ⟨rfl, rfl⟩ := List.cons.inj split
                  exact ⟨before, name, between, behind, _, rfl, rfl, unquoted, unquotedName,
                    fun member => noColon (List.mem_cons_of_mem _ member), found⟩

/-- The scan cuts a value that has such a text in front of it. -/
theorem next_split {pos next : Cursor} {entry : Entry}
    (result : jsonGetNextObject .object pos = some (entry, next)) :
    ∃ lead byte rest type, pos = lead ++ byte :: rest ∧ Lead lead ∧ startOf byte = some type ∧
      entry.key <:+ pos ∧ entry.keyLen ≤ entry.key.length ∧
      valueFrom entry.key entry.keyLen (byte :: rest) = some (entry, next) := by
  obtain ⟨before, name, between, behind, key, rfl, isKey, unquoted, unquotedName, noColon, cut⟩ :=
    name_split result
  obtain ⟨gap, byte, rest, type, split, noStart, start, sameKey, sameLen, found⟩ :=
    valueFrom_split cut
  cases gap with
  | nil =>
      rw [List.nil_append, List.cons.injEq] at split
      rw [← split.1, startOf_colon] at start
      cases start
  | cons first gap =>
      obtain ⟨rfl, rfl⟩ := List.cons.inj split
      subst isKey
      refine ⟨before ++ quote :: (name ++ quote :: (between ++ colon :: gap)), byte, rest, type, ?_,
        .intro unquoted unquotedName noColon ?_, start, ?_, ?_, ?_⟩
      · simp
      · exact fun other member => noStart other (List.mem_cons_of_mem _ member)
      · rw [sameKey]
        exact ⟨before ++ [quote], by simp⟩
      · rw [sameKey, sameLen, List.length_append]
        exact Nat.le_add_right _ _
      · rw [sameKey, sameLen]
        exact found

theorem valueFrom_start {byte : UInt8} {type : JsonType} (start : startOf byte = some type)
    (key : Cursor) (keyLen : Nat) (rest : Cursor) :
    valueFrom key keyLen (byte :: rest) =
      some (⟨key, keyLen, (startAt type byte rest).1,
          valueLen type (startAt type byte rest).1 (startAt type byte rest).2, type⟩,
        (startAt type byte rest).1.drop (if type = .string then
          valueLen type (startAt type byte rest).1 (startAt type byte rest).2 + 1
          else valueLen type (startAt type byte rest).1 (startAt type byte rest).2)) := by
  rw [valueFrom, beginOfValue_cons, start]

/-! ## The extent of a value -/

theorem markedLen_lt {opening closing : UInt8} {depth len found : Nat} {text : Cursor}
    (result : markedLen opening closing depth len text = some found) :
    found < len + text.length := by
  induction text generalizing depth len with
  | nil => simp [markedLen] at result
  | cons byte text ih =>
      rw [markedLen] at result
      rw [List.length_cons]
      split at result
      · split at result
        · cases result
          omega
        · have bound := ih result
          omega
      · split at result
        · have bound := ih result
          omega
        · have bound := ih result
          omega

theorem numberLen_le (len : Nat) (text : Cursor) : numberLen len text ≤ len + text.length := by
  induction text generalizing len with
  | nil => exact Nat.zero_le _
  | cons byte text ih =>
      rw [numberLen, List.length_cons]
      split
      · omega
      · have bound := ih (len + 1)
        omega

theorem words_le {first second value : List UInt8} {len : Nat}
    (begins : (first.isPrefixOf value || second.isPrefixOf value) = true)
    (lenFirst : first.length = len) (lenSecond : second.length = len) : len ≤ value.length := by
  rcases Bool.or_eq_true_iff.mp begins with isFirst | isSecond
  · exact lenFirst ▸ (List.isPrefixOf_iff_prefix.mp isFirst).length_le
  · exact lenSecond ▸ (List.isPrefixOf_iff_prefix.mp isSecond).length_le

theorem bracketLen_le (opening closing : UInt8) (rest : Cursor) :
    ((markedLen opening closing 0 1 rest).map (· + 1)).getD 0 ≤ rest.length + 1 := by
  cases found : markedLen opening closing 0 1 rest with
  | none => exact Nat.zero_le _
  | some len =>
      have bound := markedLen_lt found
      simp only [Option.map_some, Option.getD_some]
      omega

theorem stringLen_lt {rest : Cursor} (nonempty : rest ≠ []) :
    (markedLen quote quote 0 0 rest).getD 0 + 1 ≤ rest.length := by
  cases found : markedLen quote quote 0 0 rest with
  | none => exact List.length_pos_iff.mpr nonempty
  | some len =>
      have bound := markedLen_lt found
      rw [Option.getD_some]
      omega

/-- A value ends in the text. -/
theorem valueLen_le (type : JsonType) (byte : UInt8) (rest : Cursor) :
    valueLen type (startAt type byte rest).1 (startAt type byte rest).2 ≤
      (startAt type byte rest).1.length := by
  cases type with
  | none => exact Nat.zero_le _
  | string =>
      cases rest with
      | nil => exact Nat.le_refl 0
      | cons head rest => exact Nat.le_of_succ_le (stringLen_lt (List.cons_ne_nil head rest))
  | object => exact bracketLen_le openBrace closeBrace rest
  | array => exact bracketLen_le openBracket closeBracket rest
  | number =>
      change numberLen 1 rest ≤ rest.length + 1
      have bound := numberLen_le 1 rest
      omega
  | boolean =>
      change valueLen .boolean (byte :: rest) (byte :: rest) ≤ (byte :: rest).length
      rw [valueLen]
      split
      · rename_i begins
        exact words_le begins (by decide) (by decide)
      · split
        · rename_i begins
          exact words_le begins (by decide) (by decide)
        · exact Nat.zero_le _
  | null =>
      change valueLen .null (byte :: rest) (byte :: rest) ≤ (byte :: rest).length
      rw [valueLen]
      split
      · rename_i begins
        exact words_le begins (by decide) (by decide)
      · exact Nat.zero_le _

/-! ## The scan in memory -/

theorem drop_terminated {text : Cursor} {len : Nat} (within : len ≤ text.length) :
    (terminated text).drop len = terminated (text.drop len) :=
  List.drop_append_of_le_length within

/-- The value of a string that is left open by the last byte of the text. -/
def Entry.LeftOpen (entry : Entry) : Prop := entry.type = .string ∧ entry.value = []

instance (entry : Entry) : Decidable entry.LeftOpen := inferInstanceAs (Decidable (_ ∧ _))

/-- Where the loop goes on in memory. -/
def resume (found : Entry × Cursor) : Entry × Pointer :=
  (found.1.terminated, if found.1.LeftOpen then [] else terminated found.2)

theorem startAt_suffix (type : JsonType) (byte : UInt8) (rest : Cursor) :
    (startAt type byte rest).1 <:+ byte :: rest ∧ (startAt type byte rest).2 <:+ byte :: rest := by
  cases type <;> exact ⟨by simp [startAt], by simp [startAt]⟩

/-- The position behind a value, in memory. -/
theorem drop_value (type : JsonType) (byte : UInt8) (rest : Cursor) :
    let value := (startAt type byte rest).1
    let len := valueLen type value (startAt type byte rest).2
    let skip := if type = .string then len + 1 else len
    (terminated value).drop skip =
      if type = .string ∧ value = [] then [] else terminated (value.drop skip) := by
  intro value len skip
  by_cases leftOpen : type = .string ∧ value = []
  · obtain ⟨isString, empty⟩ := leftOpen
    have none : rest = [] := by
      subst isString
      exact empty
    subst isString none
    rfl
  · rw [if_neg leftOpen]
    refine drop_terminated ?_
    change (if type = .string then len + 1 else len) ≤ value.length
    split
    · rename_i isString
      subst isString
      exact stringLen_lt fun empty => leftOpen ⟨rfl, empty⟩
    · exact valueLen_le type byte rest

theorem valuePointer_terminated (key : Cursor) (keyLen : Nat) {pos : Cursor} (clean : 0 ∉ pos) :
    valuePointer (terminated key) keyLen (terminated pos) =
      .ok ((valueFrom key keyLen pos).map resume) := by
  rw [valuePointer, beginPointer_terminated clean, valueFrom]
  cases begun : beginOfValue pos with
  | none => rfl
  | some place =>
      obtain ⟨type, value, scan⟩ := place
      obtain ⟨gap, byte, rest, rfl, _, _, place⟩ := beginOfValue_split begun
      obtain rfl : value = (startAt type byte rest).1 := congrArg Prod.fst place
      obtain rfl : scan = (startAt type byte rest).2 := congrArg Prod.snd place
      have cleanRest : 0 ∉ byte :: rest := fun member => clean (List.mem_append_right _ member)
      obtain ⟨isValue, isScan⟩ := startAt_suffix type byte rest
      have cleanValue := fun member => cleanRest (isValue.subset member)
      have cleanScan := fun member => cleanRest (isScan.subset member)
      simp only [bind, Except.bind, pure, Except.pure, Option.map_some,
        lengthRead_terminated type cleanValue cleanScan, resume]
      rw [drop_value]
      rfl

/-- One turn in memory is a turn on the text, unless it meets a string that the
end of the text leaves open. -/
theorem nextObjectPointer_terminated {pos : Cursor} (clean : 0 ∉ pos) :
    nextObjectPointer (terminated pos) =
      .ok ((jsonGetNextObject .object pos).map resume) := by
  rw [nextObjectPointer, jsonGetNextObject, if_pos rfl, strchrOf_terminated (by decide) clean]
  cases quoted : strchr quote pos with
  | none => rfl
  | some opening =>
      obtain ⟨before, behindQuote, rfl, rfl, _⟩ := strchr_split quoted
      have cleanName : 0 ∉ behindQuote := fun member =>
        clean (List.mem_append_right _ (List.mem_cons_of_mem _ member))
      have name : (terminated (quote :: behindQuote)).drop 1 = terminated behindQuote := rfl
      simp only [bind, Except.bind, Option.map_some, name, List.drop_one, List.tail_cons,
        @strchrOf_terminated behindQuote quote (by decide) cleanName]
      cases closed : strchr quote behindQuote with
      | none => rfl
      | some closing =>
          obtain ⟨key, behindName, rfl, rfl, _⟩ := strchr_split closed
          have cleanClosing : 0 ∉ quote :: behindName := fun member =>
            cleanName (List.mem_append_right _ member)
          simp only [Option.map_some, @strchrOf_terminated (quote :: behindName) colon (by decide)
            cleanClosing]
          cases separated : strchr colon (quote :: behindName) with
          | none => rfl
          | some scan =>
              obtain ⟨front, behind, split, rfl, _⟩ := strchr_split separated
              have cleanScan : 0 ∉ colon :: behind := fun member =>
                cleanClosing (split ▸ List.mem_append_right _ member)
              have length : (terminated (key ++ quote :: behindName)).length -
                  (terminated (quote :: behindName)).length =
                  (key ++ quote :: behindName).length - (quote :: behindName).length := by
                simp only [terminated, List.length_append, List.length_cons, List.length_nil]
                omega
              simp only [Option.map_some, length]
              exact valuePointer_terminated _ _ cleanScan

/-! ## Texts that end in an opening quote -/

/-- The text of a value in front of `rest` as the loop leaves it behind. -/
inductive Skipped : List UInt8 → Cursor → Prop
  | string {bytes : List UInt8} {rest : Cursor} : quote ∉ bytes →
      Skipped (quote :: (bytes ++ [quote])) rest
  | closed {opening closing : UInt8} {inner : List UInt8} {rest : Cursor} :
      Bracket opening closing → Balanced opening closing inner →
      Skipped (opening :: (inner ++ [closing])) rest
  | unclosed {opening closing : UInt8} {rest : Cursor} : Bracket opening closing →
      (∀ inner behind, rest = inner ++ closing :: behind → ¬Balanced opening closing inner) →
      Skipped [opening] rest
  | other {byte : UInt8} {type : JsonType} {rest : Cursor} : startOf byte = some type →
      type ≠ .string → type ≠ .object → type ≠ .array → Skipped [byte] rest

/-- A text whose last byte is a quote where the value of a member begins. -/
inductive Dangling : Cursor → Prop
  | here {lead : List UInt8} : Lead lead → Dangling (lead ++ [quote])
  | later {lead value rest : List UInt8} : Lead lead → Skipped value rest → Dangling rest →
      Dangling (lead ++ (value ++ rest))

theorem Lead.skip {text lead : List UInt8} (absent : quote ∉ text) (isLead : Lead lead) :
    Lead (text ++ lead) := by
  obtain @⟨before, name, between, gap, unquoted, unquotedName, noColon, noStart⟩ := isLead
  rw [← List.append_assoc]
  exact .intro (List.not_mem_append absent unquoted) unquotedName noColon noStart

theorem Lead.unskip {text lead rest more : List UInt8} (absent : quote ∉ text) (isLead : Lead lead)
    (same : text ++ rest = lead ++ more) : ∃ lead', Lead lead' ∧ rest = lead' ++ more := by
  obtain @⟨before, name, between, gap, unquoted, unquotedName, noColon, noStart⟩ := isLead
  rw [List.append_assoc] at same
  rcases List.append_eq_append_iff.mp same with ⟨front, rfl, split⟩ | ⟨front, rfl, split⟩
  · rw [split, ← List.append_assoc]
    exact ⟨_, .intro (fun member => unquoted (List.mem_append_right _ member)) unquotedName noColon
      noStart, rfl⟩
  · cases front with
    | nil =>
        rw [List.nil_append] at split
        exact ⟨_, .intro List.not_mem_nil unquotedName noColon noStart, by rw [← split]; rfl⟩
    | cons head front =>
        rw [List.cons_append, List.cons_append, List.cons.injEq] at split
        exact (absent (List.mem_append_right _ (by rw [← split.1]; exact List.mem_cons_self))).elim

/-- Bytes in front of the next quote do not matter. -/
theorem dangling_append_iff {text rest : List UInt8} (absent : quote ∉ text) :
    Dangling (text ++ rest) ↔ Dangling rest := by
  constructor
  · intro dangling
    generalize whole : text ++ rest = pos at dangling
    cases dangling with
    | here isLead =>
        obtain ⟨lead, isLead, rfl⟩ := isLead.unskip absent whole
        exact .here isLead
    | later isLead skipped dangling =>
        obtain ⟨lead, isLead, rfl⟩ := isLead.unskip absent whole
        exact .later isLead skipped dangling
  · intro dangling
    cases dangling with
    | here isLead =>
        rw [← List.append_assoc]
        exact .here (isLead.skip absent)
    | later isLead skipped dangling =>
        rw [← List.append_assoc]
        exact .later (isLead.skip absent) skipped dangling

theorem dangling_cons_iff {byte : UInt8} (other : byte ≠ quote) (rest : Cursor) :
    Dangling (byte :: rest) ↔ Dangling rest :=
  @dangling_append_iff [byte] rest (by simpa using other.symm)

theorem Dangling.quote_mem {pos : Cursor} (dangling : Dangling pos) : quote ∈ pos := by
  cases dangling with
  | here _ => simp
  | later isLead _ _ =>
      obtain @⟨before, name, between, gap, _, _, _, _⟩ := isLead
      simp

/-! ## A turn on such a text -/

theorem numberLen_take (len : Nat) (text : Cursor) : quote ∉ text.take (numberLen len text - len) := by
  induction text generalizing len with
  | nil => simp
  | cons byte text ih =>
      rw [numberLen]
      split
      · rw [Nat.sub_self, List.take_zero]
        exact List.not_mem_nil
      · rename_i goesOn
        have notQuote : quote ≠ byte := by
          rintro rfl
          exact goesOn (by decide)
        have next := ih (len + 1)
        rcases Nat.lt_or_ge len (numberLen (len + 1) text) with further | stopped
        · obtain ⟨taken, isTaken⟩ := Nat.exists_eq_add_of_lt further
          rw [isTaken, show len + taken + 1 - len = taken + 1 by omega, List.take_succ_cons]
          rw [isTaken, show len + taken + 1 - (len + 1) = taken by omega] at next
          exact List.not_mem_cons_of_ne_of_not_mem notQuote next
        · rw [Nat.sub_eq_zero_of_le stopped, List.take_zero]
          exact List.not_mem_nil

theorem words_take {first second value : List UInt8} {len : Nat}
    (begins : (first.isPrefixOf value || second.isPrefixOf value) = true)
    (lenFirst : first.length = len) (lenSecond : second.length = len) (clean : quote ∉ first)
    (cleanSecond : quote ∉ second) : quote ∉ value.take len := by
  rcases Bool.or_eq_true_iff.mp begins with isFirst | isSecond
  · rwa [← lenFirst, ← List.prefix_iff_eq_take.mp (List.isPrefixOf_iff_prefix.mp isFirst)]
  · rwa [← lenSecond, ← List.prefix_iff_eq_take.mp (List.isPrefixOf_iff_prefix.mp isSecond)]

/-- No quote is in what the scan takes for a number or a literal. -/
theorem scalar_take {type : JsonType} (notString : type ≠ .string) (notObject : type ≠ .object)
    (notArray : type ≠ .array) {byte : UInt8} (other : byte ≠ quote) (rest : Cursor) :
    quote ∉ (startAt type byte rest).1.take
      (valueLen type (startAt type byte rest).1 (startAt type byte rest).2) := by
  cases type with
  | none => exact List.not_mem_nil
  | string => exact (notString rfl).elim
  | object => exact (notObject rfl).elim
  | array => exact (notArray rfl).elim
  | number =>
      change quote ∉ (byte :: rest).take (numberLen 1 rest)
      have taken := numberLen_take 1 rest
      cases len : numberLen 1 rest with
      | zero => exact List.not_mem_nil
      | succ len' =>
          rw [len, Nat.add_sub_cancel] at taken
          exact List.not_mem_cons_of_ne_of_not_mem other.symm taken
  | boolean =>
      change quote ∉ (byte :: rest).take (valueLen .boolean (byte :: rest) (byte :: rest))
      rw [valueLen]
      split
      · rename_i begins
        exact words_take begins (by decide) (by decide) (by decide) (by decide)
      · split
        · rename_i begins
          exact words_take begins (by decide) (by decide) (by decide) (by decide)
        · exact List.not_mem_nil
  | null =>
      change quote ∉ (byte :: rest).take (valueLen .null (byte :: rest) (byte :: rest))
      rw [valueLen]
      split
      · rename_i begins
        exact words_take begins (by decide) (by decide) (by decide) (by decide)
      · exact List.not_mem_nil

theorem startAt_scalar {type : JsonType} (notString : type ≠ .string) (byte : UInt8)
    (rest : Cursor) : (startAt type byte rest).1 = byte :: rest := by
  cases type with
  | string => exact (notString rfl).elim
  | _ => rfl

theorem startOf_string {byte : UInt8} : startOf byte = some .string ↔ byte = quote := by
  unfold startOf
  split_ifs <;> simp_all

theorem startOf_object {byte : UInt8} : startOf byte = some .object ↔ byte = openBrace := by
  have apart : quote ≠ openBrace := by decide
  unfold startOf
  split_ifs <;> simp_all

theorem startOf_array {byte : UInt8} : startOf byte = some .array ↔ byte = openBracket := by
  have apart : quote ≠ openBracket ∧ openBrace ≠ openBracket := by decide
  unfold startOf
  split_ifs <;> simp_all

theorem startOf_bracket {opening closing : UInt8} (bracket : Bracket opening closing) :
    ∃ type, startOf opening = some type ∧ type ≠ .string ∧ ∀ rest,
      valueLen type (startAt type opening rest).1 (startAt type opening rest).2 =
        ((markedLen opening closing 0 1 rest).map (· + 1)).getD 0 := by
  rcases bracket with ⟨rfl, rfl⟩ | ⟨rfl, rfl⟩
  · exact ⟨.object, rfl, nofun, fun _ => rfl⟩
  · exact ⟨.array, rfl, nofun, fun _ => rfl⟩

/-- The bracket scan ends at a bracket behind a balanced text. -/
theorem markedLen_split {opening closing : UInt8} {depth len found : Nat} {text : Cursor}
    (result : markedLen opening closing depth len text = some found) :
    ∃ inner behind, text = inner ++ closing :: behind ∧ found = len + inner.length := by
  induction text generalizing depth len with
  | nil => simp [markedLen] at result
  | cons byte text ih =>
      rw [markedLen] at result
      by_cases ends : byte = closing ∧ depth = 0
      · rw [if_pos ends.1, if_pos ends.2] at result
        exact ⟨[], text, by rw [ends.1]; rfl, (Option.some.inj result).symm⟩
      · have further : ∃ depth', markedLen opening closing depth' (len + 1) text = some found := by
          split at result
          · rename_i isClosing
            rw [if_neg fun level => ends ⟨isClosing, level⟩] at result
            exact ⟨_, result⟩
          · split at result <;> exact ⟨_, result⟩
        obtain ⟨depth', further⟩ := further
        obtain ⟨inner, behind, rfl, rfl⟩ := ih further
        refine ⟨byte :: inner, behind, rfl, ?_⟩
        rw [List.length_cons]
        omega

variable {byte : UInt8} {rest behind key next : Cursor} {type : JsonType} {keyLen : Nat}
  {entry : Entry}

/-- What is left of a text behind a value is as good as the text, when the scan
goes over no quote. -/
theorem dangling_scalar_iff (start : startOf byte = some type) (notString : type ≠ .string)
    (notObject : type ≠ .object) (notArray : type ≠ .array)
    (cut : valueFrom key keyLen (byte :: rest) = some (entry, next)) :
    Dangling next ↔ Dangling rest := by
  have other : byte ≠ quote := by
    rintro rfl
    exact notString (Option.some.inj start).symm
  have taken := scalar_take notString notObject notArray other rest
  rw [valueFrom_start start, if_neg notString, startAt_scalar notString] at cut
  rw [startAt_scalar notString] at taken
  obtain ⟨_, rfl⟩ := Prod.mk.inj (Option.some.inj cut)
  rw [← dangling_append_iff taken, List.take_append_drop, dangling_cons_iff other]

theorem dangling_bracket_iff {opening closing : UInt8} (bracket : Bracket opening closing)
    (cut : valueFrom key keyLen (opening :: rest) = some (entry, next)) :
    (∀ found, markedLen opening closing 0 1 rest = some found → next = rest.drop found) ∧
      (markedLen opening closing 0 1 rest = none → (Dangling next ↔ Dangling rest)) := by
  obtain ⟨type, start, notString, length⟩ := startOf_bracket bracket
  rw [valueFrom_start start, if_neg notString, length, startAt_scalar notString] at cut
  obtain ⟨_, rfl⟩ := Prod.mk.inj (Option.some.inj cut)
  constructor
  · intro found isFound
    rw [isFound]
    rfl
  · intro none
    rw [none]
    refine dangling_cons_iff ?_ rest
    rintro rfl
    rcases bracket with ⟨same, _⟩ | ⟨same, _⟩ <;> exact absurd same (by decide)

theorem Bracket.different {opening closing : UInt8} (bracket : Bracket opening closing) :
    opening ≠ closing := by
  rcases bracket with ⟨rfl, rfl⟩ | ⟨rfl, rfl⟩ <;> decide

/-- Behind a value that the loop skips it goes on with the rest. -/
theorem Skipped.dangling_next {value : List UInt8} (skipped : Skipped value rest)
    (cut : valueFrom key keyLen (value ++ rest) = some (entry, next)) (dangling : Dangling rest) :
    Dangling next := by
  cases skipped with
  | @string bytes _ absent =>
      have found := markedLen_string absent rest
      have whole : quote :: (bytes ++ [quote]) ++ rest = quote :: (bytes ++ quote :: rest) := by simp
      rw [whole, valueFrom_start (startOf_string.mpr rfl), if_pos rfl] at cut
      obtain ⟨_, rfl⟩ := Prod.mk.inj (Option.some.inj cut)
      change Dangling ((bytes ++ quote :: rest).drop
        ((markedLen quote quote 0 0 (bytes ++ quote :: rest)).getD 0 + 1))
      rw [found, Option.getD_some, List.drop_append, Nat.add_sub_cancel_left,
        List.drop_eq_nil_of_le (Nat.le_succ _)]
      exact dangling
  | @closed opening closing inner _ bracket balanced =>
      have whole : opening :: (inner ++ [closing]) ++ rest =
          opening :: (inner ++ closing :: rest) := by simp
      rw [whole] at cut
      have found := (markedLen_eq_iff bracket.different rest inner 0 1).mpr balanced
      rw [(dangling_bracket_iff bracket cut).1 _ found, List.drop_append,
        Nat.add_sub_cancel, List.drop_eq_nil_of_le (Nat.le_add_left _ _)]
      exact dangling
  | @unclosed opening closing _ bracket notClosed =>
      refine ((dangling_bracket_iff bracket cut).2 ?_).mpr dangling
      cases found : markedLen opening closing 0 1 rest with
      | none => exact found
      | some len =>
          obtain ⟨inner, behind, rfl, rfl⟩ := markedLen_split found
          exact (notClosed inner behind rfl
            ((markedLen_eq_iff bracket.different behind inner 0 1).mp found)).elim
  | other start notString notObject notArray =>
      exact (dangling_scalar_iff start notString notObject notArray cut).mpr dangling

/-- Where a turn goes on at such a text, it has skipped a value. -/
theorem skipped_of_next (start : startOf byte = some type)
    (cut : valueFrom key keyLen (byte :: rest) = some (entry, next)) (dangling : Dangling next) :
    ∃ value behind, byte :: rest = value ++ behind ∧ Skipped value behind ∧ Dangling behind := by
  have bracketed : ∀ closing, Bracket byte closing →
      ∃ value behind, byte :: rest = value ++ behind ∧ Skipped value behind ∧ Dangling behind := by
    intro closing bracket
    obtain ⟨closes, opens⟩ := dangling_bracket_iff bracket cut
    cases found : markedLen byte closing 0 1 rest with
    | none =>
        refine ⟨[byte], rest, rfl, .unclosed bracket ?_, (opens found).mp dangling⟩
        rintro inner behind rfl balanced
        rw [(markedLen_eq_iff bracket.different behind inner 0 1).mpr balanced] at found
        cases found
    | some len =>
        obtain ⟨inner, behind, rfl, rfl⟩ := markedLen_split found
        have balanced := (markedLen_eq_iff bracket.different behind inner 0 1).mp found
        rw [closes _ found, List.drop_append, Nat.add_sub_cancel,
          List.drop_eq_nil_of_le (Nat.le_add_left _ _)] at dangling
        exact ⟨byte :: (inner ++ [closing]), behind, by simp, .closed bracket balanced, dangling⟩
  by_cases isString : type = .string
  · subst isString
    obtain rfl := startOf_string.mp start
    rw [valueFrom_start start, if_pos rfl] at cut
    obtain ⟨_, rfl⟩ := Prod.mk.inj (Option.some.inj cut)
    by_cases member : quote ∈ rest
    · obtain ⟨bytes, behind, rfl, absent⟩ := List.eq_append_cons_of_mem member
      change Dangling ((bytes ++ quote :: behind).drop
        ((markedLen quote quote 0 0 (bytes ++ quote :: behind)).getD 0 + 1)) at dangling
      rw [markedLen_string absent, Option.getD_some, List.drop_append, Nat.add_sub_cancel_left,
        List.drop_eq_nil_of_le (Nat.le_succ _)] at dangling
      exact ⟨quote :: (bytes ++ [quote]), behind, by simp, .string absent, dangling⟩
    · exact (member (List.mem_of_mem_drop dangling.quote_mem)).elim
  · by_cases isObject : type = .object
    · subst isObject
      exact bracketed closeBrace (.inl ⟨startOf_object.mp start, rfl⟩)
    · by_cases isArray : type = .array
      · subst isArray
        exact bracketed closeBracket (.inr ⟨startOf_array.mp start, rfl⟩)
      · exact ⟨[byte], rest, rfl, .other start isString isObject isArray,
          (dangling_scalar_iff start isString isObject isArray cut).mp dangling⟩

theorem leftOpen_iff (start : startOf byte = some type)
    (cut : valueFrom key keyLen (byte :: rest) = some (entry, next)) :
    entry.LeftOpen ↔ byte :: rest = [quote] := by
  rw [valueFrom_start start] at cut
  obtain ⟨rfl, _⟩ := Prod.mk.inj (Option.some.inj cut)
  constructor
  · rintro ⟨isString, empty⟩
    obtain rfl : type = .string := isString
    rw [startOf_string.mp start]
    exact congrArg (quote :: ·) empty
  · intro single
    obtain ⟨rfl, rfl⟩ := List.cons.inj single
    obtain rfl := Option.some.inj start
    exact ⟨rfl, rfl⟩

theorem Skipped.cons {value : List UInt8} (skipped : Skipped value rest) :
    ∃ byte more type, value = byte :: more ∧ startOf byte = some type := by
  cases skipped with
  | string _ => exact ⟨_, _, _, rfl, startOf_string.mpr rfl⟩
  | closed bracket _ =>
      obtain ⟨type, start, _⟩ := startOf_bracket bracket
      exact ⟨_, _, type, rfl, start⟩
  | unclosed bracket _ =>
      obtain ⟨type, start, _⟩ := startOf_bracket bracket
      exact ⟨_, _, type, rfl, start⟩
  | other start _ _ _ => exact ⟨_, _, _, rfl, start⟩

/-- A turn on a text meets the string that the end leaves open, or leaves the rest
to the next turn. -/
theorem dangling_next_iff {pos : Cursor}
    (turn : jsonGetNextObject .object pos = some (entry, next)) :
    Dangling pos ↔ entry.LeftOpen ∨ Dangling next := by
  constructor
  · intro dangling
    cases dangling with
    | here isLead =>
        obtain ⟨key, keyLen, cut⟩ := lead_next isLead quote []
        rw [cut] at turn
        exact .inl ((leftOpen_iff rfl turn).mpr rfl)
    | later isLead skipped dangling =>
        obtain ⟨byte, more, type, rfl, _⟩ := skipped.cons
        obtain ⟨key, keyLen, cut⟩ := lead_next isLead byte (more ++ _)
        rw [List.cons_append, cut] at turn
        exact .inr (skipped.dangling_next turn dangling)
  · intro either
    obtain ⟨lead, byte, rest, type, rfl, isLead, start, _, _, cut⟩ := next_split turn
    rcases either with leftOpen | dangling
    · rw [(leftOpen_iff start cut).mp leftOpen]
      exact .here isLead
    · obtain ⟨value, behind, split, skipped, dangling⟩ := skipped_of_next start cut dangling
      rw [split]
      exact .later isLead skipped dangling

theorem not_dangling_of_none {pos : Cursor} (ends : jsonGetNextObject .object pos = none) :
    ¬Dangling pos := by
  have begins : ∀ {byte : UInt8} {type : JsonType} (key : Cursor) (keyLen : Nat) (rest : Cursor),
      startOf byte = some type → valueFrom key keyLen (byte :: rest) ≠ none := by
    intro byte type key keyLen rest start
    rw [valueFrom_start start]
    exact nofun
  intro dangling
  cases dangling with
  | here isLead =>
      obtain ⟨key, keyLen, cut⟩ := lead_next isLead quote []
      rw [cut] at ends
      exact begins key keyLen [] rfl ends
  | later isLead skipped _ =>
      obtain ⟨byte, more, type, rfl, start⟩ := skipped.cons
      obtain ⟨key, keyLen, cut⟩ := lead_next isLead byte (more ++ _)
      rw [List.cons_append, cut] at ends
      exact begins key keyLen _ start ends

/-! ## The loop in memory -/

/-- A member of a text: where its name and its value begin, and that both end in
the text. -/
structure Entry.In (entry : Entry) (text : Cursor) : Prop where
  key : entry.key <:+ text
  keyLen : entry.keyLen ≤ entry.key.length
  value : entry.value <:+ text
  valueLen : entry.valueLen ≤ entry.value.length

theorem Entry.In.mono {text more : Cursor} (member : entry.In text) (behind : text <:+ more) :
    entry.In more :=
  ⟨member.key.trans behind, member.keyLen, member.value.trans behind, member.valueLen⟩

/-- A turn reports a member of the text and goes on behind where its value begins. -/
theorem turn_in {pos : Cursor} (turn : jsonGetNextObject .object pos = some (entry, next)) :
    entry.In pos ∧ next <:+ entry.value := by
  obtain ⟨lead, byte, rest, type, rfl, _, start, key, keyLen, cut⟩ := next_split turn
  rw [valueFrom_start start] at cut
  obtain ⟨same, rfl⟩ := Prod.mk.inj (Option.some.inj cut)
  have value : entry.value = (startAt type byte rest).1 := (congrArg Entry.value same).symm
  have len : entry.valueLen = valueLen type (startAt type byte rest).1 (startAt type byte rest).2 :=
    (congrArg Entry.valueLen same).symm
  refine ⟨⟨key, keyLen, ?_, ?_⟩, ?_⟩
  · rw [value]
    exact (startAt_suffix type byte rest).1.trans (List.suffix_append lead (byte :: rest))
  · rw [value, len]
    exact valueLen_le type byte rest
  · rw [value]
    exact List.drop_suffix _ _

theorem allEntries_in (pos : Cursor) : ∀ entry ∈ allEntries pos, entry.In pos := by
  induction size : pos.length using Nat.strong_induction_on generalizing pos with
  | _ size ih =>
      intro entry member
      cases found : jsonGetNextObject .object pos with
      | none =>
          rw [allEntries_end found] at member
          exact (List.not_mem_nil member).elim
      | some result =>
          obtain ⟨first, next⟩ := result
          obtain ⟨isMember, behind⟩ := turn_in found
          have shorter := jsonGetNextObject_shorter found
          rw [allEntries_step found] at member
          rcases List.mem_cons.mp member with rfl | later
          · exact isMember
          · exact (ih next.length (size ▸ shorter) next rfl entry later).mono
              (behind.trans isMember.value)

/-- The loop in memory reports the members that the text has, and reads behind
the terminator exactly on a dangling text. -/
theorem loopFrom_terminated (turns : Nat) {pos : Cursor} (clean : 0 ∉ pos)
    (enough : pos.length ≤ turns) :
    (loopFrom turns (some (terminated pos))).entries = (allEntries pos).map Entry.terminated ∧
      (Dangling pos → (loopFrom turns (some (terminated pos))).outcome = .overread) ∧
      (¬Dangling pos → (loopFrom turns (some (terminated pos))).outcome = .finished) := by
  induction turns generalizing pos with
  | zero =>
      obtain rfl := List.length_eq_zero_iff.mp (Nat.le_zero.mp enough)
      exact ⟨rfl, fun dangling => absurd dangling.quote_mem List.not_mem_nil, fun _ => rfl⟩
  | succ turns ih =>
      cases pos with
      | nil => exact ⟨rfl, fun dangling => absurd dangling.quote_mem List.not_mem_nil, fun _ => rfl⟩
      | cons byte rest =>
          have notEnd : ¬byte = 0 := fun same => clean (same ▸ List.mem_cons_self)
          have read : readByte (terminated (byte :: rest)) = .ok byte := rfl
          have turn := nextObjectPointer_terminated clean
          rw [loopFrom, read]
          simp only [if_neg notEnd, turn]
          cases found : jsonGetNextObject .object (byte :: rest) with
          | none =>
              rw [allEntries_end found]
              have none := not_dangling_of_none found
              refine ⟨?_, fun dangling => (none dangling).elim, fun _ => ?_⟩
              · cases turns <;> rfl
              · cases turns <;> rfl
          | some result =>
              obtain ⟨entry, next⟩ := result
              have shorter := jsonGetNextObject_shorter found
              rw [allEntries_step found, dangling_next_iff found]
              obtain ⟨isMember, behind⟩ := turn_in found
              by_cases leftOpen : entry.LeftOpen
              · have stops : loopFrom turns (some []) = ⟨[], .overread⟩ := by cases turns <;> rfl
                have none : next = [] := List.suffix_nil.mp (leftOpen.2 ▸ behind)
                subst none
                simp only [Option.map_some, resume, if_pos leftOpen, stops]
                exact ⟨rfl, fun _ => rfl, fun not => (not (.inl leftOpen)).elim⟩
              · have cleanNext : 0 ∉ next := fun member =>
                  clean ((behind.trans isMember.value).subset member)
                obtain ⟨entries, overread, finished⟩ := ih cleanNext
                  (Nat.le_of_lt_succ (Nat.lt_of_lt_of_le shorter enough))
                simp only [Option.map_some, resume, if_neg leftOpen]
                refine ⟨?_, fun either => ?_, fun neither => ?_⟩
                · exact congrArg (entry.terminated :: ·) entries
                · exact overread (either.resolve_left leftOpen)
                · exact finished fun dangling => neither (.inr dangling)

/-! ## Over a whole string -/

/-- A text that begins with an object, behind spaces. -/
def BeginsObject (text : Cursor) : Prop :=
  ∃ spaces rest, text = spaces ++ openBrace :: rest ∧ ∀ byte ∈ spaces, byte = space

theorem jsonGetObject_some {text pos : Cursor} (result : jsonGetObject .object text = some pos) :
    ∃ spaces rest, text = spaces ++ pos ∧ pos = openBrace :: rest ∧ ∀ byte ∈ spaces, byte = space := by
  induction text with
  | nil => simp [jsonGetObject] at result
  | cons byte text ih =>
      rw [jsonGetObject, if_pos (rfl : JsonType.object = .object)] at result
      split at result
      · rename_i isSpace
        obtain ⟨spaces, rest, rfl, isPos, all⟩ := ih result
        refine ⟨byte :: spaces, rest, rfl, isPos, fun other member => ?_⟩
        rcases List.mem_cons.mp member with rfl | inSpaces
        · exact isSpace
        · exact all other inSpaces
      · split at result
        · rename_i isBrace
          cases result
          exact ⟨[], text, rfl, by rw [isBrace], by simp⟩
        · cases result

/-- A member reported for a string in memory: its name and its value end in front
of the terminator. -/
structure Entry.Within (entry : Entry) (str : Pointer) : Prop where
  key : entry.key <:+ str
  keyLen : entry.keyLen < entry.key.length
  value : entry.value <:+ str
  valueLen : entry.valueLen < entry.value.length

theorem terminated_suffix {part text : Cursor} (behind : part <:+ text) :
    terminated part <:+ terminated text := by
  obtain ⟨front, rfl⟩ := behind
  exact ⟨front, by simp [terminated]⟩

theorem terminated_length (text : Cursor) : (terminated text).length = text.length + 1 := by
  simp [terminated]

theorem within_of_in {entry : Entry} {text : Cursor} (member : entry.In text) :
    entry.terminated.Within (terminated text) where
  key := terminated_suffix member.key
  keyLen := (terminated_length entry.key).symm ▸ Nat.lt_succ_of_le member.keyLen
  value := terminated_suffix member.value
  valueLen := (terminated_length entry.value).symm ▸ Nat.lt_succ_of_le member.valueLen

/-- A run over a string in memory that has ended without a read behind the
terminator, and has reported nothing that does not lie in the string. -/
structure Safe (text : Cursor) (run : Run) : Prop where
  finished : run.outcome = .finished
  within : ∀ entry ∈ run.entries, entry.Within (terminated text)

theorem loopFrom_none (turns : Nat) : loopFrom turns none = ⟨[], .finished⟩ := by
  cases turns <;> rfl

/-- Over every string the loop ends within as many turns as the string has bytes,
and reports members that lie in it. It stays in the string except on a text that
begins with an object and whose last byte is a quote where the value of a member
begins. -/
theorem forEachKv_safe_iff (text : Cursor) (clean : 0 ∉ text) (turns : Nat)
    (enough : text.length ≤ turns) :
    (forEachKv turns text).outcome ≠ .running ∧
      (∀ entry ∈ (forEachKv turns text).entries, entry.Within (terminated text)) ∧
      (Safe text (forEachKv turns text) ↔ ¬(BeginsObject text ∧ Dangling text)) := by
  have run : forEachKv turns text =
      loopFrom turns ((jsonGetObject .object text).map terminated) := by
    rw [forEachKv, objectPointer_terminated _ clean]
  rw [run]
  cases object : jsonGetObject .object text with
  | none =>
      have notObject : ¬BeginsObject text := by
        rintro ⟨spaces, rest, rfl, all⟩
        have found : jsonGetObject .object (openBrace :: rest) = some (openBrace :: rest) := rfl
        rw [jsonGetObject_spaces _ all, found] at object
        cases object
      rw [Option.map_none, loopFrom_none]
      exact ⟨nofun, nofun, iff_of_true ⟨rfl, nofun⟩ fun both => notObject both.1⟩
  | some pos =>
      obtain ⟨spaces, rest, rfl, isPos, all⟩ := jsonGetObject_some object
      have isObject : BeginsObject (spaces ++ pos) := ⟨spaces, rest, by rw [isPos], all⟩
      have absent : quote ∉ spaces := by
        intro member
        exact absurd (all quote member) (by decide)
      have within : ∀ entry ∈ (allEntries pos).map Entry.terminated,
          entry.Within (terminated (spaces ++ pos)) := by
        intro entry member
        obtain ⟨found, isMember, rfl⟩ := List.mem_map.mp member
        exact within_of_in ((allEntries_in pos found isMember).mono (List.suffix_append spaces pos))
      rw [List.length_append] at enough
      obtain ⟨entries, overread, finished⟩ := loopFrom_terminated turns
        (fun member => clean (List.mem_append_right _ member)) (Nat.le_of_add_left_le enough)
      rw [Option.map_some, dangling_append_iff absent, entries]
      by_cases dangling : Dangling pos
      · refine ⟨by rw [overread dangling]; exact nofun, within, iff_of_false ?_ ?_⟩
        · intro safe
          have ended := safe.finished
          rw [overread dangling] at ended
          cases ended
        · exact fun not => not ⟨isObject, dangling⟩
      · refine ⟨by rw [finished dangling]; exact nofun, within, iff_of_true ?_ ?_⟩
        · exact ⟨finished dangling, by rw [entries]; exact within⟩
        · exact fun both => dangling both.2

/-- A member whose string value has its closing quote. -/
theorem forEachKv_safe_closed :
    (forEachKv 8 (literal "\x7b\"a\":\"\"")).outcome ≠ .running ∧
      (∀ entry ∈ (forEachKv 8 (literal "\x7b\"a\":\"\"")).entries,
        entry.Within (terminated (literal "\x7b\"a\":\"\""))) ∧
      (Safe (literal "\x7b\"a\":\"\"") (forEachKv 8 (literal "\x7b\"a\":\"\"")) ↔
        ¬(BeginsObject (literal "\x7b\"a\":\"\"") ∧ Dangling (literal "\x7b\"a\":\"\""))) :=
  forEachKv_safe_iff (literal "\x7b\"a\":\"\"") (by decide) 8 (by decide)

/-- A text that is cut behind the opening quote of a string value. -/
theorem cut_text_overread :
    (forEachKv 6 (literal "\x7b\"a\":\"")).outcome = .overread ∧
      ¬Safe (literal "\x7b\"a\":\"") (forEachKv 6 (literal "\x7b\"a\":\"")) := by
  have overread : (forEachKv 6 (literal "\x7b\"a\":\"")).outcome = .overread := by decide
  refine ⟨overread, fun safe => ?_⟩
  have finished := safe.finished
  rw [overread] at finished
  cases finished

end UIoT.Utils
