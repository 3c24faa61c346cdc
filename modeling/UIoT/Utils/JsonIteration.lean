import UIoT.Lib.JsonSyntax
import UIoT.Utils.JsonScan

/-!
# The members of an object text

`json_object_for_each_kv` over a JSON text in which strings may hold escape
sequences and brackets. `memberEntries` is what the grammar says the members of
the outermost object are. The scan takes the first quote behind a name or a
string for its end, the first byte that is no digit and no point for the end of
a number, and counts the brackets of an object or of an array without looking
for strings; it finds the members exactly when this makes no difference in the
text of any of them (`allEntries_eq_iff`).
-/

set_option autoImplicit false

namespace UIoT.Utils

open Json (Blanks Number Exponent quote colon comma point openBrace closeBrace openBracket
  closeBracket trueText falseText nullText exponentText)
open JsonSyntax

/-! ## The members by the grammar -/

def typeOf : Value → JsonType
  | .string _ => .string
  | .number _ => .number
  | .true => .boolean
  | .false => .boolean
  | .null => .null
  | .array .. => .array
  | .object .. => .object

/-- The text of a value, without the quotes of a string. -/
def extentOf : Value → List UInt8
  | .string str => str.bytes
  | value => value.text

/-- The text from the value's extent on. -/
def cursorOf : Value → List UInt8 → Cursor
  | .string str, tail => str.bytes ++ quote :: tail
  | value, tail => value.text ++ tail

/-- The text behind the value of a member. -/
def behindValue (after : Blanks) (rest : Members) (tail : List UInt8) : List UInt8 :=
  after.text ++ (rest.separator ++ (rest.text ++ tail))

/-- The text of a member from its name on, and what stands behind it. -/
def fromName (name : Str) (beforeColon afterColon : Blanks) (value : Value) (tail : List UInt8) :
    Cursor :=
  name.bytes ++ quote :: (beforeColon.text ++ colon :: (afterColon.text ++ (value.text ++ tail)))

/-- The members, each with the extents of its name and of its value, where
`tail` stands behind the last of them. -/
def memberEntries (tail : List UInt8) : Members → List Entry
  | .nil => []
  | .cons _ name beforeColon afterColon value after rest =>
      { key := fromName name beforeColon afterColon value (behindValue after rest tail)
        keyLen := name.bytes.length
        value := cursorOf value (behindValue after rest tail)
        valueLen := (extentOf value).length
        type := typeOf value } :: memberEntries tail rest

/-- A value whose end is where the scan looks for it: a string without an escaped
quote, a number without an exponent, an array or an object that is balanced in
its own brackets, those in its strings included. -/
def Transparent : Value → Prop
  | .string str => .escaped .quote ∉ str
  | .number number => number.exponent = none
  | .array blanks elements => Balanced openBracket closeBracket (blanks.text ++ elements.text)
  | .object blanks members => Balanced openBrace closeBrace (blanks.text ++ members.text)
  | _ => True

/-- The names of the members hold no escaped quote, and their values are transparent. -/
def TransparentMembers : Members → Prop
  | .nil => True
  | .cons _ name _ _ value _ rest =>
      .escaped .quote ∉ name ∧ Transparent value ∧ TransparentMembers rest

/-! ## The end of a value -/

variable {opening closing : UInt8}

/-- The bracket scan counts the bytes that it goes over. -/
theorem markedLen_ge {depth len found : Nat} {text : Cursor}
    (result : markedLen opening closing depth len text = some found) : len ≤ found := by
  induction text generalizing depth len with
  | nil => simp [markedLen] at result
  | cons byte text ih =>
      rw [markedLen] at result
      split at result
      · split at result
        · exact Nat.le_of_eq (Option.some.inj result)
        · have bound := ih result
          omega
      · split at result
        · have bound := ih result
          omega
        · have bound := ih result
          omega

/-- It ends at the bracket behind a text exactly when the text is balanced. -/
theorem markedLen_eq_iff (different : opening ≠ closing) (tail : Cursor) (inner : List UInt8)
    (depth len : Nat) :
    markedLen opening closing depth len (inner ++ closing :: tail) = some (len + inner.length) ↔
      BalancedFrom opening closing depth inner := by
  induction inner generalizing depth len with
  | nil =>
      rw [balancedFrom_nil, List.nil_append, markedLen, if_pos rfl, List.length_nil, Nat.add_zero]
      constructor
      · intro result
        by_contra deep
        rw [if_neg deep] at result
        have bound := markedLen_ge result
        omega
      · intro level
        rw [if_pos level, Nat.add_zero]
  | cons byte inner ih =>
      have length : len + (byte :: inner).length = len + 1 + inner.length := by
        rw [List.length_cons]
        omega
      rw [List.cons_append, markedLen, length]
      by_cases isClosing : byte = closing
      · subst isClosing
        rw [if_pos rfl]
        cases depth with
        | zero =>
            rw [if_pos rfl]
            constructor
            · intro result
              have same := Option.some.inj result
              omega
            · intro balanced
              exact (not_balanced_closing different balanced).elim
        | succ depth =>
            rw [if_neg (Nat.succ_ne_zero depth), Nat.add_sub_cancel, ih,
              balancedFrom_closing different]
      · rw [if_neg isClosing]
        by_cases isOpening : byte = opening
        · subst isOpening
          rw [if_pos rfl, ih, balancedFrom_opening different]
        · rw [if_neg isOpening, ih, balancedFrom_other isOpening isClosing]

/-- A bracketed value is cut where it ends exactly when it is balanced inside. -/
theorem bracketLen_eq_iff (different : opening ≠ closing) (tail : Cursor) (inner : List UInt8) :
    ((markedLen opening closing 0 1 (inner ++ closing :: tail)).map (· + 1)).getD 0 =
      inner.length + 2 ↔ Balanced opening closing inner := by
  have found := markedLen_eq_iff different tail inner 0 1
  rw [JsonSyntax.Balanced, ← found]
  cases markedLen opening closing 0 1 (inner ++ closing :: tail) with
  | none => simp
  | some len =>
      simp only [Option.map_some, Option.getD_some, Option.some.injEq]
      omega

/-- The string scan ends at the closing quote exactly when no quote is in
front of it. -/
theorem stringLen_eq_iff (tail : Cursor) (bytes : List UInt8) :
    (markedLen quote quote 0 0 (bytes ++ quote :: tail)).getD 0 = bytes.length ↔
      quote ∉ bytes := by
  constructor
  · intro result member
    obtain ⟨front, back, split, absent⟩ := List.eq_append_cons_of_mem member
    have first : markedLen quote quote 0 0 (bytes ++ quote :: tail) = some front.length := by
      rw [split, List.append_assoc, List.cons_append]
      exact markedLen_string absent _
    rw [first, Option.getD_some, split, List.length_append, List.length_cons] at result
    omega
  · intro absent
    rw [markedLen_string absent, Option.getD_some]

/-! ## A member -/

/-- The number scan ends in front of the exponent. -/
theorem numberLen_text (number : Number) {tail : Cursor} (follows : Follows tail) :
    ∃ first more, number.text ++ tail = first :: more ∧
      (first = Json.minus ∨ isDigit first = true) ∧ numberLen 1 more = number.mantissa.length := by
  obtain ⟨first, more, mantissa, begins, bytes⟩ := mantissa_scan number
  refine ⟨first, more ++ (exponentText number.exponent ++ tail), ?_, begins, ?_⟩
  · rw [Number.text, mantissa, List.append_assoc, List.cons_append]
  · rw [numberLen_skip 1 _ bytes, numberLen_stop _ (follows_exponent _ follows), mantissa,
      List.length_cons, Nat.add_comm]

theorem mantissa_length_iff (number : Number) :
    number.mantissa.length = number.text.length ↔ number.exponent = none := by
  rw [Number.text, List.length_append]
  cases number.exponent with
  | none => simp [exponentText]
  | some exponent => simp [exponentText, Exponent.text]

/-- The scan of a value finds its type and its first byte; it finds its end
exactly when the value is transparent. -/
theorem valueFrom_value (key : Cursor) (keyLen : Nat) (value : Value) {tail : Cursor}
    (follows : Follows tail) :
    ∃ len, valueFrom key keyLen (value.text ++ tail) =
        some (⟨key, keyLen, cursorOf value tail, len, typeOf value⟩,
          (cursorOf value tail).drop (if typeOf value = .string then len + 1 else len)) ∧
      (len = (extentOf value).length ↔ Transparent value) := by
  cases value with
  | string str =>
      have begins : beginOfValue ((Value.string str).text ++ tail) =
          some (.string, str.bytes ++ quote :: tail, str.bytes ++ quote :: tail) := by
        simp [Value.text, Str.text, beginOfValue]
      refine ⟨_, ?_, (stringLen_eq_iff tail str.bytes).trans str.quote_not_mem_iff⟩
      rw [valueFrom, begins]
      rfl
  | number number =>
      obtain ⟨first, more, text, begins, len⟩ := numberLen_text number follows
      refine ⟨_, ?_, mantissa_length_iff number⟩
      rw [Value.text, text, valueFrom, beginOfValue_number more begins, ← len, cursorOf, Value.text, text]
      · rfl
      · simp
  | true => exact ⟨4, rfl, iff_of_true rfl trivial⟩
  | false => exact ⟨5, rfl, iff_of_true rfl trivial⟩
  | null => exact ⟨4, rfl, iff_of_true rfl trivial⟩
  | array blanks elements =>
      have text : (Value.array blanks elements).text ++ tail =
          openBracket :: ((blanks.text ++ elements.text) ++ closeBracket :: tail) := by
        simp [Value.text]
      have length : (extentOf (.array blanks elements)).length =
          (blanks.text ++ elements.text).length + 2 := by
        simp [extentOf, Value.text]
        omega
      have cut := @bracketLen_eq_iff openBracket closeBracket (by decide) tail
        (blanks.text ++ elements.text)
      refine ⟨_, ?_, by rw [length]; exact cut⟩
      rw [cursorOf, text]
      · rfl
      · simp
  | object blanks members =>
      have text : (Value.object blanks members).text ++ tail =
          openBrace :: ((blanks.text ++ members.text) ++ closeBrace :: tail) := by
        simp [Value.text]
      have length : (extentOf (.object blanks members)).length =
          (blanks.text ++ members.text).length + 2 := by
        simp [extentOf, Value.text]
        omega
      have cut := @bracketLen_eq_iff openBrace closeBrace (by decide) tail
        (blanks.text ++ members.text)
      refine ⟨_, ?_, by rw [length]; exact cut⟩
      rw [cursorOf, text]
      · rfl
      · simp

/-- A value that is cut where it ends is left behind. -/
theorem drop_cursorOf (value : Value) (tail : Cursor) :
    (cursorOf value tail).drop (if typeOf value = .string then (extentOf value).length + 1
      else (extentOf value).length) = tail := by
  cases value <;> simp [cursorOf, extentOf, typeOf, List.drop_append]

theorem follows_behindValue (after : Blanks) (rest : Members) (trailing : List UInt8) :
    Follows (behindValue after rest (closeBrace :: trailing)) := by
  refine follows_blanks after ?_
  cases rest with
  | nil => exact ⟨closeBrace, trailing, rfl, by decide, by decide⟩
  | cons => exact ⟨comma, _, rfl, by decide, by decide⟩

/-- Behind the name of a member the scan looks for the colon and then for the
value. -/
theorem valueFrom_colon (key : Cursor) (keyLen : Nat) (blanks : Blanks) (rest : Cursor) :
    valueFrom key keyLen (colon :: (blanks.text ++ rest)) = valueFrom key keyLen rest := by
  have skip : beginOfValue (colon :: (blanks.text ++ rest)) = beginOfValue rest :=
    beginOfValue_blanks blanks rest
  rw [valueFrom, skip, valueFrom]

theorem strchr_colon (blanks : Blanks) (rest : Cursor) :
    strchr colon (quote :: (blanks.text ++ colon :: rest)) = some (colon :: rest) := by
  have absent : colon ∉ quote :: blanks.text := by
    intro member
    rcases List.mem_cons.mp member with isQuote | inBlanks
    · exact absurd isQuote (by decide)
    · obtain ⟨blank, _, isColon⟩ := List.mem_map.mp inBlanks
      revert isColon
      cases blank <;> decide
  rw [← List.cons_append, strchr_skip _ absent, strchr_here]

/-- The scan finds the end of a name exactly when no quote is in it. -/
theorem strchr_name_iff (name : Str) (rest : Cursor) :
    ∃ closing, strchr quote (name.bytes ++ quote :: rest) = some closing ∧
      ((name.bytes ++ quote :: rest).length - closing.length = name.bytes.length ↔
        quote ∉ name.bytes) ∧
      (quote ∉ name.bytes → closing = quote :: rest) := by
  by_cases member : quote ∈ name.bytes
  · obtain ⟨front, back, split, absent⟩ := List.eq_append_cons_of_mem member
    refine ⟨quote :: (back ++ quote :: rest), ?_, ?_, fun absent => (absent member).elim⟩
    · rw [split, List.append_assoc, List.cons_append, strchr_skip _ absent, strchr_here]
    · refine iff_of_false ?_ (not_not_intro member)
      rw [split]
      simp only [List.length_append, List.length_cons]
      omega
  · refine ⟨quote :: rest, ?_, iff_of_true ?_ member, fun _ => rfl⟩
    · rw [strchr_skip _ member, strchr_here]
    · rw [List.length_append, Nat.add_sub_cancel]

section

variable (name : Str) (beforeColon afterColon : Blanks) (value : Value) {tail : Cursor}

/-- A name with a quote in it is cut too early. -/
theorem jsonGetNextObject_quoted {entry : Entry} {next : Cursor} (quoted : quote ∈ name.bytes)
    (result : jsonGetNextObject .object (quote :: fromName name beforeColon afterColon value tail) =
      some (entry, next)) : entry.keyLen ≠ name.bytes.length := by
  obtain ⟨closing, found, length, _⟩ := strchr_name_iff name
    (beforeColon.text ++ colon :: (afterColon.text ++ (value.text ++ tail)))
  simp only [jsonGetNextObject, if_true, strchr_here, List.drop_one, List.tail_cons, fromName,
    found] at result
  split at result
  · cases result
  · rw [valueFrom] at result
    split at result
    · cases result
    · cases result
      intro same
      exact length.mp same quoted

/-- A member with another name is cut into its name and a value, which ends where
it should exactly when it is transparent. -/
theorem jsonGetNextObject_named (unquoted : quote ∉ name.bytes) (follows : Follows tail) :
    ∃ len, jsonGetNextObject .object (quote :: fromName name beforeColon afterColon value tail) =
        some (⟨fromName name beforeColon afterColon value tail, name.bytes.length,
            cursorOf value tail, len, typeOf value⟩,
          (cursorOf value tail).drop (if typeOf value = .string then len + 1 else len)) ∧
      (len = (extentOf value).length ↔ Transparent value) := by
  obtain ⟨closing, found, length, behindName⟩ := strchr_name_iff name
    (beforeColon.text ++ colon :: (afterColon.text ++ (value.text ++ tail)))
  obtain ⟨len, result, exact⟩ := valueFrom_value (fromName name beforeColon afterColon value tail)
    name.bytes.length value follows
  refine ⟨len, ?_, exact⟩
  have keyLen := length.mpr unquoted
  rw [behindName unquoted] at found keyLen
  simp only [jsonGetNextObject, if_true, strchr_here, List.drop_one, List.tail_cons]
  rw [fromName] at result ⊢
  simp only [found, strchr_colon, keyLen, valueFrom_colon, result]

end

/-! ## The members of an object -/

theorem noQuote_blanks (blanks : Blanks) : quote ∉ blanks.text :=
  (noMark_blanks blanks).not_mem (.inl rfl)

theorem noQuote_separator (members : Members) : quote ∉ members.separator := by
  cases members with
  | nil => exact List.not_mem_nil
  | cons => exact fun member => absurd (List.mem_singleton.mp member) (by decide)

/-- The loop visits the members as the grammar has them exactly when all of them
are transparent. -/
theorem allEntries_members_iff {trailing : List UInt8} (noMore : quote ∉ trailing) :
    (members : Members) → ∀ {text : List UInt8}, quote ∉ text →
      (allEntries (text ++ (members.text ++ closeBrace :: trailing)) =
        memberEntries (closeBrace :: trailing) members ↔ TransparentMembers members)
  | .nil, text, clean => by
      have absent : quote ∉ text ++ closeBrace :: trailing :=
        List.not_mem_append clean (List.not_mem_cons_of_ne_of_not_mem (by decide) noMore)
      exact iff_of_true (allEntries_end (jsonGetNextObject_noQuote absent)) trivial
  | .cons before name beforeColon afterColon value after rest, text, clean => by
      have whole : text ++ ((Members.cons before name beforeColon afterColon value after rest).text ++
          closeBrace :: trailing) = (text ++ before.text) ++ quote :: fromName name beforeColon
            afterColon value (behindValue after rest (closeBrace :: trailing)) := by
        simp [Members.text, fromName, behindValue]
      have skipped : quote ∉ text ++ before.text := List.not_mem_append clean (noQuote_blanks before)
      rw [whole, allEntries_skip _ skipped, memberEntries, TransparentMembers]
      by_cases quoted : quote ∈ name.bytes
      · refine iff_of_false ?_ fun transparent =>
          name.quote_not_mem_iff.mpr transparent.1 quoted
        intro same
        cases found : jsonGetNextObject .object (quote :: fromName name beforeColon afterColon value
            (behindValue after rest (closeBrace :: trailing))) with
        | none =>
            rw [allEntries_end found] at same
            cases same
        | some result =>
            rw [allEntries_step found, List.cons.injEq] at same
            refine jsonGetNextObject_quoted name beforeColon afterColon value quoted found ?_
            rw [same.1]
      · obtain ⟨len, found, exact⟩ := jsonGetNextObject_named name beforeColon afterColon value
          quoted (follows_behindValue after rest trailing)
        have onward : allEntries (behindValue after rest (closeBrace :: trailing)) =
            memberEntries (closeBrace :: trailing) rest ↔ TransparentMembers rest := by
          rw [behindValue, ← List.append_assoc]
          exact allEntries_members_iff noMore rest
            (List.not_mem_append (noQuote_blanks after) (noQuote_separator rest))
        rw [allEntries_step found, List.cons.injEq]
        constructor
        · rintro ⟨head, behind⟩
          have extent : len = (extentOf value).length := congrArg Entry.valueLen head
          rw [extent, drop_cursorOf] at behind
          exact ⟨name.quote_not_mem_iff.mp quoted, exact.mp extent, onward.mp behind⟩
        · rintro ⟨_, transparent, others⟩
          have extent := exact.mpr transparent
          rw [extent, drop_cursorOf]
          exact ⟨rfl, onward.mpr others⟩

/-- From the opening brace of an object on, `json_get_next_object` visits the
members of the object in order, each with its extents and its type, and stops
behind the last, exactly when all of them are transparent. -/
theorem allEntries_eq_iff (blanks : Blanks) (members : Members) (trailing : Blanks) :
    allEntries ((Value.object blanks members).text ++ trailing.text) =
      memberEntries (closeBrace :: trailing.text) members ↔ TransparentMembers members := by
  have whole : (Value.object blanks members).text ++ trailing.text =
      (openBrace :: blanks.text) ++ (members.text ++ closeBrace :: trailing.text) := by
    simp [Value.text]
  have clean : quote ∉ openBrace :: blanks.text :=
    List.not_mem_cons_of_ne_of_not_mem (by decide) (noQuote_blanks blanks)
  rw [whole]
  exact allEntries_members_iff (noQuote_blanks trailing) members clean

/-- The object `{"a":{"b":"}"},"c":1}`. -/
def bracketInString : Members :=
  .cons [] (.ofBytes [0x61] (by decide +kernel)) [] []
    (.object [] (.cons [] (.ofBytes [0x62] (by decide +kernel)) [] []
      (.string (.ofBytes [closeBrace] (by decide +kernel))) [] .nil)) []
    (.cons [] (.ofBytes [0x63] (by decide +kernel)) [] [] (.number (.ofInt 1)) [] .nil)

/-- The value of `a` is cut at the brace in the string. -/
theorem bracket_in_string_missed :
    (Value.object [] bracketInString).text = literal "\x7b\"a\":\x7b\"b\":\"\x7d\"\x7d,\"c\":1\x7d" ∧
      allEntries (Value.object [] bracketInString).text ≠
        memberEntries [closeBrace] bracketInString := by
  decide +kernel

end UIoT.Utils
