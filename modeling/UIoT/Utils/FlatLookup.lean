import UIoT.Utils.JsonLookup

/-!
# A name in a flat object

`json_get_value_by_name` on the text of an object without nested objects and
arrays. Its callback compares the name with as many bytes of the text, so a key
that goes on behind the name is taken as well, and `json_parse_name_value` hides
every member whose key or value is empty. The member taken is the first one with
that name exactly when `Members.Reaches` holds (`jsonGetValueByNameOf_eq_iff`).
-/

set_option autoImplicit false

namespace UIoT.Utils

open Json

/-- `json_get_value_by_name`, told how much of the text to read, which is cut
there. A caller that takes the type as well gets no null value. -/
def jsonGetValueByNameOf (str : Cursor) (iStrLen : Nat) (name : List UInt8) (takesType : Bool) :
    Option (Cursor × Nat) :=
  if iStrLen = 0 then none
  else
    ((jsonParseNameValue (str.take iStrLen)).find? fun entry => name.isPrefixOf entry.key).bind
      fun entry =>
        if takesType ∧ entry.type = .null then none else some (entry.value, entry.valueLen)

/-- The callers in the repository give the length of the text and take no type. -/
theorem jsonGetValueByNameOf_whole (str : Cursor) (name : List UInt8) :
    jsonGetValueByNameOf str str.length name false = jsonGetValueByName str name := by
  cases str with
  | nil => rfl
  | cons byte str =>
      have nonempty : (byte :: str).length ≠ 0 := Nat.succ_ne_zero str.length
      rw [jsonGetValueByNameOf, if_neg nonempty, List.take_length, jsonGetValueByName,
        Option.map_eq_bind]
      simp only [Bool.false_eq_true, false_and, if_false]
      rfl

/-! ## Flat objects -/

/-- An object whose values are strings, numbers, booleans and nulls, with the
blanks around it. -/
structure FlatObject where
  leading : Blanks
  opening : Blanks
  members : Members
  flat : members.EachValue Value.Scalar
  trailing : Blanks

/-- What follows the last member. -/
abbrev FlatObject.rest (object : FlatObject) : List UInt8 :=
  closeBrace :: behind object.trailing []

def FlatObject.text (object : FlatObject) : List UInt8 :=
  object.leading.text ++ (openBrace :: object.opening.text ++ (object.members.text ++ object.rest))

/-- Where the value of the first member with a name stands, and its length. A
string is told without its quotes. -/
def extentIn (trailing : Blanks) (name : List UInt8) (members : Members) : Option (Cursor × Nat) :=
  (members.find name).map fun (value, after, rest) =>
    (valueCursor value (behind trailing [{ after := after, rest := rest }]), value.bare.length)

def FlatObject.extentOf (object : FlatObject) (name : List UInt8) : Option (Cursor × Nat) :=
  extentIn object.trailing name object.members

/-- The scan reaches the first member with the name: each member in front of it
has an empty key, an empty value or a text, from the key on, that does not begin
with the name, and the member itself has a key and a value, no number with an
exponent and, for a caller that takes the type, no null. Where no member has the
name, such a caller may also be shown a null value for it, and is told nothing. -/
def Members.Reaches (trailing : Blanks) (name : List UInt8) (takesType : Bool) : Members → Prop
  | .nil => True
  | .cons _ key beforeColon afterColon value after rest =>
      if key.bytes = name then
        name ≠ [] ∧ value.bare ≠ [] ∧ NoExponent value ∧ ¬(takesType ∧ value = .null)
      else if key.bytes ≠ [] ∧ value.bare ≠ [] ∧ name <+: nameCursor key beforeColon afterColon value
          (behind trailing [{ after := after, rest := rest }]) then
        takesType ∧ value = .null ∧ rest.find name = none
      else Members.Reaches trailing name takesType rest

/-! ## The members that the callback is called on -/

theorem valueType_eq_null_iff {value : Value} : valueType value = .null ↔ value = .null := by
  cases value <;> simp [valueType]

theorem scanned_eq_nil_iff {value : Value} (scalar : value.Scalar) :
    scanned value = [] ↔ value.bare = [] := by
  cases value with
  | number number =>
      obtain ⟨first, more, mantissa, _⟩ := mantissa_scan number
      simp [scanned, Value.bare, Value.text, Number.text, mantissa]
  | _ => rfl

theorem scanned_length_iff (value : Value) :
    (scanned value).length = value.bare.length ↔ NoExponent value := by
  refine ⟨fun same => ?_, fun noExponent => congrArg _ ((scanned_eq_bare_iff value).mpr noExponent)⟩
  cases value with
  | number number =>
      have missing : (exponentText number.exponent).length = 0 := by
        simpa [scanned, Value.bare, Value.text, Number.text] using same
      cases isExponent : number.exponent with
      | none => exact isExponent
      | some exponent => simp [isExponent, exponentText, Exponent.text] at missing
  | _ => trivial

/-- What the callback does with the members of an object. -/
def answerIn (trailing : Blanks) (name : List UInt8) (takesType : Bool) (members : Members) :
    Option (Cursor × Nat) :=
  ((((Members.sightings trailing [] members).map (Sighting.entry trailing)).filter fun entry =>
    entry.keyLen ≠ 0 && entry.valueLen ≠ 0).find? fun entry => name.isPrefixOf entry.key).bind
      fun entry =>
        if takesType ∧ entry.type = .null then none else some (entry.value, entry.valueLen)

variable {trailing : Blanks} {name : List UInt8} {takesType : Bool}

/-- The callback stops at the first member with a key and a value whose text
begins with the name. -/
theorem answerIn_cons (before beforeColon afterColon after : Blanks) (key : Str) {value : Value}
    (scalar : value.Scalar) (rest : Members) :
    answerIn trailing name takesType
        (.cons before key beforeColon afterColon value after rest) =
      if key.bytes ≠ [] ∧ value.bare ≠ [] ∧ name <+: nameCursor key beforeColon afterColon value
          (behind trailing [{ after := after, rest := rest }]) then
        if takesType ∧ valueType value = .null then none
        else some (valueCursor value (behind trailing [{ after := after, rest := rest }]),
          (scanned value).length)
      else answerIn trailing name takesType rest := by
  obtain ⟨text, isText⟩ : ∃ text, text = nameCursor key beforeColon afterColon value
    (behind trailing [{ after := after, rest := rest }]) := ⟨_, rfl⟩
  obtain ⟨entry, isEntry⟩ : ∃ entry, entry = entryFor text key.bytes.length value
    (behind trailing [{ after := after, rest := rest }]) := ⟨_, rfl⟩
  have entries : (Members.sightings trailing []
      (.cons before key beforeColon afterColon value after rest)).map (Sighting.entry trailing) =
      entry :: (Members.sightings trailing [] rest).map (Sighting.entry trailing) := by
    rw [isEntry, isText]
    rfl
  have shown : (entry.keyLen ≠ 0 && entry.valueLen ≠ 0) = true ↔
      key.bytes ≠ [] ∧ value.bare ≠ [] := by
    have hasValue := not_congr (scanned_eq_nil_iff scalar)
    rw [isEntry]
    simp [entryFor, List.length_eq_zero_iff, hasValue]
  have begins : name.isPrefixOf entry.key = true ↔ name <+: text := by
    rw [isEntry]
    exact List.isPrefixOf_iff_prefix
  rw [answerIn, entries, ← isText, List.filter_cons]
  by_cases visible : key.bytes ≠ [] ∧ value.bare ≠ []
  · rw [if_pos (shown.mpr visible), List.find?_cons]
    by_cases isPrefix : name <+: text
    · rw [begins.mpr isPrefix, if_pos ⟨visible.1, visible.2, isPrefix⟩, isEntry]
      rfl
    · rw [Bool.eq_false_iff.mpr fun isTrue => isPrefix (begins.mp isTrue),
        if_neg fun taken => isPrefix taken.2.2]
      rfl
  · rw [if_neg fun isShown => visible (shown.mp isShown),
      if_neg fun taken => visible ⟨taken.1, taken.2.1⟩]
    rfl

/-! ## Where values stand -/

theorem valueCursor_length (value : Value) (tail : List UInt8) :
    tail.length ≤ (valueCursor value tail).length ∧
      (valueCursor value tail).length ≤ (value.text ++ tail).length := by
  cases value with
  | string str =>
      simp only [valueCursor, Value.text, Str.text, List.length_append, List.length_cons]
      omega
  | _ => simp [valueCursor]

/-- What is left of the text shrinks from a member to the values behind it. -/
theorem behind_length (after : Blanks) (rest : Members) :
    (rest.text ++ closeBrace :: behind trailing []).length ≤
      (behind trailing [{ after := after, rest := rest }]).length := by
  simp only [behind, List.length_append]
  omega

theorem text_cons_length (before beforeColon afterColon after : Blanks) (key : Str) (value : Value)
    (rest : Members) :
    (valueCursor value (behind trailing [{ after := after, rest := rest }])).length <
      ((Members.cons before key beforeColon afterColon value after rest).text ++
        closeBrace :: behind trailing []).length := by
  have bound := (valueCursor_length value (behind trailing [{ after := after, rest := rest }])).2
  simp only [Members.text, Str.text, behind, List.length_append, List.length_cons] at bound ⊢
  omega

theorem extentIn_shorter {found : Cursor × Nat} : {members : Members} →
    extentIn trailing name members = some found →
      found.1.length < (members.text ++ closeBrace :: behind trailing []).length
  | .nil, result => by simp [extentIn, Members.find] at result
  | .cons before key beforeColon afterColon value after rest, result => by
      have here := @text_cons_length trailing before beforeColon afterColon after key value rest
      rw [extentIn, Members.find] at result
      split at result
      · cases result
        exact here
      · have further := @extentIn_shorter found rest result
        have step := @behind_length trailing after rest
        have cursor := (valueCursor_length value
          (behind trailing [{ after := after, rest := rest }])).1
        omega

theorem answerIn_shorter {found : Cursor × Nat} : {members : Members} →
    members.EachValue Value.Scalar → answerIn trailing name takesType members = some found →
      found.1.length < (members.text ++ closeBrace :: behind trailing []).length
  | .nil, _, result => by simp [answerIn, Members.sightings] at result
  | .cons before key beforeColon afterColon value after rest, flat, result => by
      have here := @text_cons_length trailing before beforeColon afterColon after key value rest
      rw [answerIn_cons _ _ _ _ _ flat.1] at result
      split at result
      · split at result
        · cases result
        · cases result
          exact here
      · have further := answerIn_shorter flat.2 result
        have step := @behind_length trailing after rest
        have cursor := (valueCursor_length value
          (behind trailing [{ after := after, rest := rest }])).1
        omega

/-- No member further on has its value where the first one has it. -/
theorem ne_further {members : Members} {after : Blanks} {found : Cursor × Nat} (value : Value)
    (further : found.1.length < (members.text ++ closeBrace :: behind trailing []).length) (n : Nat) :
    found ≠ (valueCursor value (behind trailing [{ after := after, rest := members }]), n) := by
  rintro rfl
  have step := @behind_length trailing after members
  have cursor := (valueCursor_length value
    (behind trailing [{ after := after, rest := members }])).1
  simp only at further
  omega

/-! ## The member with the name -/

/-- The callback takes the member with the name exactly when it is reached. -/
theorem answerIn_eq_extentIn_iff : (members : Members) → members.EachValue Value.Scalar →
    (answerIn trailing name takesType members = extentIn trailing name members ↔
      Members.Reaches trailing name takesType members)
  | .nil, _ => iff_of_true rfl trivial
  | .cons before key beforeColon afterColon value after rest, flat => by
      have ih := answerIn_eq_extentIn_iff rest flat.2
      rw [answerIn_cons _ _ _ _ _ flat.1, Members.Reaches]
      by_cases same : key.bytes = name
      · have extent : extentIn trailing name (.cons before key beforeColon afterColon value after rest) =
            some (valueCursor value (behind trailing [{ after := after, rest := rest }]),
              value.bare.length) := by
          rw [extentIn, Members.find, if_pos same]
          rfl
        have begins : name <+: nameCursor key beforeColon afterColon value
            (behind trailing [{ after := after, rest := rest }]) := by
          rw [nameCursor, same]
          exact List.prefix_append _ _
        rw [extent, if_pos same, same]
        by_cases visible : name ≠ [] ∧ value.bare ≠ []
        · rw [if_pos ⟨visible.1, visible.2, begins⟩]
          by_cases hidden : takesType ∧ valueType value = .null
          · rw [if_pos hidden]
            rw [valueType_eq_null_iff] at hidden
            simp [hidden]
          · rw [if_neg hidden, Option.some_inj, Prod.mk_right_inj, scanned_length_iff]
            rw [valueType_eq_null_iff] at hidden
            simp [visible, hidden]
        · rw [if_neg fun taken => visible ⟨taken.1, taken.2.1⟩]
          refine iff_of_false (fun result => ?_) fun reached => visible ⟨reached.1, reached.2.1⟩
          exact ne_further value (answerIn_shorter flat.2 result) _ rfl
      · have extent : extentIn trailing name (.cons before key beforeColon afterColon value after rest) =
            extentIn trailing name rest := by
          rw [extentIn, Members.find, if_neg same]
          rfl
        rw [extent, if_neg same]
        split
        · split
          · rename_i hidden
            rw [valueType_eq_null_iff] at hidden
            rw [eq_comm, extentIn, Option.map_eq_none_iff]
            simp [hidden]
          · rename_i shown
            rw [valueType_eq_null_iff] at shown
            refine iff_of_false (fun result => ?_) fun reached => shown ⟨reached.1, reached.2.1⟩
            exact ne_further value (extentIn_shorter result.symm) _ rfl
        · exact ih

/-- A flat object is scanned member by member. -/
theorem jsonGetValueByNameOf_members (object : FlatObject) (more : Cursor)
    (spaced : ∀ blank ∈ object.leading, blank = .space) :
    jsonGetValueByNameOf (object.text ++ more) object.text.length name takesType =
      answerIn object.trailing name takesType object.members := by
  have leading : ∀ byte ∈ object.leading.text, byte = space := by
    intro byte member
    obtain ⟨blank, inside, rfl⟩ := List.mem_map.mp member
    rw [spaced blank inside]
    rfl
  have opened : jsonGetObject .object object.text =
      some (openBrace :: object.opening.text ++ (object.members.text ++ object.rest)) := by
    rw [FlatObject.text, jsonGetObject_spaces _ leading]
    rfl
  have absent : quote ∉ openBrace :: object.opening.text := by
    intro member
    rcases List.mem_cons.mp member with isBrace | inBlanks
    · exact absurd isBrace (by decide)
    · exact noMark_blanks object.opening quote inBlanks (.inl rfl)
  have nothing : allEntries object.rest = [] := @allEntries_behind object.trailing [] (by simp)
  have inside := @allEntries_members object.trailing [] object.members
    (object.flat.imp fun _ => readable_scalar) [] .nil
  rw [List.nil_append, nothing, List.append_nil] at inside
  have entries : allEntries (openBrace :: object.opening.text ++ (object.members.text ++ object.rest)) =
      (Members.sightings object.trailing [] object.members).map (Sighting.entry object.trailing) := by
    rw [allEntries_skip _ absent, inside]
  rw [allEntries] at entries
  have nonempty : object.text.length ≠ 0 := by
    simp [FlatObject.text]
  rw [jsonGetValueByNameOf, if_neg nonempty, List.take_left, jsonParseNameValue, opened]
  simp only [entries]
  rfl

/-- No object is seen behind another blank than a space. -/
theorem jsonGetValueByNameOf_unspaced (object : FlatObject) (more : Cursor)
    (unspaced : ¬∀ blank ∈ object.leading, blank = .space) :
    jsonGetValueByNameOf (object.text ++ more) object.text.length name takesType = none := by
  have noObject : jsonGetObject .object object.text = none := jsonGetObject_unspaced _ unspaced
  rw [jsonGetValueByNameOf, List.take_left, jsonParseNameValue, noObject]
  split <;> rfl

/-- The bytes told are those of the value of the first member with the name. -/
theorem FlatObject.extentOf_text {object : FlatObject} {found : Cursor × Nat}
    (result : object.extentOf name = some found) :
    ∃ value after rest, object.members.find name = some (value, after, rest) ∧
      found.1.take found.2 = value.bare := by
  obtain ⟨⟨value, after, rest⟩, isFound, rfl⟩ := Option.map_eq_some_iff.mp result
  refine ⟨value, after, rest, isFound, ?_⟩
  cases value <;> simp [valueCursor, Value.bare]

/-- The value of the first member with a name is told exactly when the scan
reaches that member, and, where the text begins with another blank than a
space, when there is none. -/
theorem jsonGetValueByNameOf_eq_iff (object : FlatObject) (more : Cursor) (name : List UInt8)
    (takesType : Bool) :
    jsonGetValueByNameOf (object.text ++ more) object.text.length name takesType =
        object.extentOf name ↔
      ((∀ blank ∈ object.leading, blank = .space) →
        Members.Reaches object.trailing name takesType object.members) ∧
      ((¬∀ blank ∈ object.leading, blank = .space) → object.members.find name = none) := by
  by_cases spaced : ∀ blank ∈ object.leading, blank = .space
  · rw [jsonGetValueByNameOf_members object more spaced, FlatObject.extentOf,
      answerIn_eq_extentIn_iff object.members object.flat]
    exact ⟨fun reaches => ⟨fun _ => reaches, fun unspaced => absurd spaced unspaced⟩,
      fun both => both.1 spaced⟩
  · rw [jsonGetValueByNameOf_unspaced object more spaced, eq_comm, FlatObject.extentOf, extentIn,
      Option.map_eq_none_iff]
    exact ⟨fun missing => ⟨fun other => absurd other spaced, fun _ => missing⟩,
      fun both => both.2 spaced⟩

theorem unescaped_a : ((literal "a").all fun byte => decide (Unescaped byte)) = true := rfl

theorem unescaped_ab : ((literal "ab").all fun byte => decide (Unescaped byte)) = true := rfl

/-- The text `{"ab":1,"a":""}`. -/
def relatedNames : FlatObject where
  leading := []
  opening := []
  members :=
    let one : Value := .number
      { negative := false, first := 1, more := [], fraction := none, exponent := none }
    .cons [] (.ofBytes (literal "ab") unescaped_ab) [] [] one []
      (.cons [] (.ofBytes (literal "a") unescaped_a) [] [] (.string (.ofBytes [] rfl)) [] .nil)
  flat := ⟨trivial, trivial, trivial⟩
  trailing := []

/-- The value of `ab` is returned for `a`, whose own value, the empty string, is
never told. -/
theorem related_name_taken :
    relatedNames.text = literal "\x7b\"ab\":1,\"a\":\"\"\x7d" ∧
      relatedNames.extentOf (literal "a") = some (literal "\"\x7d", 0) ∧
      jsonGetValueByNameOf relatedNames.text relatedNames.text.length (literal "a") false =
        some (literal "1,\"a\":\"\"\x7d", 1) := by
  refine ⟨by decide, by decide, by decide⟩

end UIoT.Utils
