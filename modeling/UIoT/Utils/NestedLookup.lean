import UIoT.Utils.JsonLookup

/-!
# A name in the last member

A document of two members, of which the second one is an object: `LITE_json_value_of` on a path into
that object. Strings in it may hold braces, which are counted with those of the objects. The object is
seen as long as one more brace is closed somewhere than has been opened, and then its members are
searched in their order (`Envelope.valueOfPath_closed`, `Envelope.valueOfPath_open`).
-/

set_option autoImplicit false

namespace UIoT.Utils

open Json

/-! ## Braces -/

section Braces

/-- Reading from the front, one more brace is closed somewhere than is opened. -/
def Closes (text : List UInt8) : Prop :=
  ∃ front, front <+: text ∧ front.count openBrace < front.count closeBrace

/-- Behind some braces that are open. -/
def ClosesFrom (depth : Nat) (text : List UInt8) : Prop :=
  ∃ front, front <+: text ∧ front.count openBrace + depth < front.count closeBrace

variable {depth : Nat} {byte : UInt8} {text rest : List UInt8}

theorem not_closesFrom_nil : ¬ClosesFrom depth [] := by
  rintro ⟨front, isFront, more⟩
  rw [List.prefix_nil.mp isFront] at more
  exact absurd more (Nat.not_lt_zero _)

/-- The brace that is looked for is there. -/
theorem closesFrom_zero : ClosesFrom 0 (closeBrace :: text) :=
  ⟨[closeBrace], List.cons_prefix_cons.mpr ⟨rfl, List.nil_prefix⟩, by decide⟩

theorem closesFrom_cons (depth : Nat) (byte : UInt8) (text : List UInt8) {depth' : Nat}
    (steps : ∀ front : List UInt8,
      (byte :: front).count openBrace + depth < (byte :: front).count closeBrace ↔
        front.count openBrace + depth' < front.count closeBrace) :
    ClosesFrom depth (byte :: text) ↔ ClosesFrom depth' text := by
  constructor
  · rintro ⟨front, isFront, more⟩
    cases front with
    | nil => exact absurd more (Nat.not_lt_zero _)
    | cons first front =>
        obtain ⟨rfl, isRest⟩ := List.cons_prefix_cons.mp isFront
        exact ⟨front, isRest, (steps front).mp more⟩
  · rintro ⟨front, isFront, more⟩
    exact ⟨byte :: front, List.cons_prefix_cons.mpr ⟨rfl, isFront⟩, (steps front).mpr more⟩

theorem closesFrom_close (depth : Nat) (text : List UInt8) :
    ClosesFrom (depth + 1) (closeBrace :: text) ↔ ClosesFrom depth text := by
  apply closesFrom_cons
  intro front
  rw [List.count_cons_self, List.count_cons_of_ne (by decide)]
  omega

theorem closesFrom_open (depth : Nat) (text : List UInt8) :
    ClosesFrom depth (openBrace :: text) ↔ ClosesFrom (depth + 1) text := by
  apply closesFrom_cons
  intro front
  rw [List.count_cons_self, List.count_cons_of_ne (by decide)]
  omega

theorem closesFrom_other (depth : Nat) {byte : UInt8} (text : List UInt8) (notOpen : byte ≠ openBrace)
    (notClose : byte ≠ closeBrace) : ClosesFrom depth (byte :: text) ↔ ClosesFrom depth text := by
  apply closesFrom_cons
  intro front
  rw [List.count_cons_of_ne notOpen, List.count_cons_of_ne notClose]

/-- The scan for a closing brace finds it. -/
theorem markedLen_isSome_iff (depth len : Nat) (text : List UInt8) :
    (markedLen openBrace closeBrace depth len text).isSome = true ↔ ClosesFrom depth text := by
  induction text generalizing depth len with
  | nil => exact iff_of_false Bool.false_ne_true not_closesFrom_nil
  | cons byte text inductionHypothesis =>
      rw [markedLen]
      by_cases isClose : byte = closeBrace
      · subst isClose
        rw [if_pos rfl]
        cases depth with
        | zero => exact iff_of_true rfl closesFrom_zero
        | succ depth =>
            rw [if_neg (Nat.succ_ne_zero depth), closesFrom_close]
            exact inductionHypothesis depth (len + 1)
      · rw [if_neg isClose]
        by_cases isOpen : byte = openBrace
        · subst isOpen
          rw [if_pos rfl, closesFrom_open]
          exact inductionHypothesis (depth + 1) (len + 1)
        · rw [if_neg isOpen, closesFrom_other depth text isOpen isClose]
          exact inductionHypothesis depth (len + 1)

/-- Bytes without braces do not matter. -/
theorem closesFrom_middle {front middle : List UInt8} (noOpen : openBrace ∉ middle)
    (noClose : closeBrace ∉ middle) :
    ClosesFrom depth (front ++ (middle ++ rest)) ↔ ClosesFrom depth (front ++ rest) := by
  induction front generalizing depth with
  | nil =>
      induction middle with
      | nil => exact Iff.rfl
      | cons byte middle inductionHypothesis =>
          rw [List.mem_cons, not_or] at noOpen noClose
          rw [List.nil_append, List.cons_append,
            closesFrom_other depth _ (Ne.symm noOpen.1) (Ne.symm noClose.1)]
          exact inductionHypothesis noOpen.2 noClose.2
  | cons byte front inductionHypothesis =>
      rw [List.cons_append, List.cons_append]
      by_cases isClose : byte = closeBrace
      · subst isClose
        cases depth with
        | zero => exact iff_of_true closesFrom_zero closesFrom_zero
        | succ depth =>
            rw [closesFrom_close, closesFrom_close]
            exact inductionHypothesis
      · by_cases isOpen : byte = openBrace
        · subst isOpen
          rw [closesFrom_open, closesFrom_open]
          exact inductionHypothesis
        · rw [closesFrom_other depth _ isOpen isClose, closesFrom_other depth _ isOpen isClose]
          exact inductionHypothesis

theorem closesFrom_zero_iff : ClosesFrom 0 text ↔ Closes text := Iff.rfl

/-- What passes both braces in pairs does not matter in front. -/
theorem closesFrom_passes {front : List UInt8} (passes : Passes openBrace closeBrace front) :
    ClosesFrom depth (front ++ rest) ↔ ClosesFrom depth rest := by
  rw [← markedLen_isSome_iff depth 0, passes, markedLen_isSome_iff]

/-- A member whose strings are plain does not matter. -/
theorem closesFrom_member {name : Str} {value : Value} {before beforeColon afterColon after : Blanks}
    {members : Members} (plainName : Plain name) (plainValue : value.AllStr Plain) :
    ClosesFrom depth ((Members.cons before name beforeColon afterColon value after members).text ++ rest) ↔
      ClosesFrom depth (members.text ++ rest) := by
  have bracket : Bracket openBrace closeBrace := .inl ⟨rfl, rfl⟩
  have passes := (passes_members bracket (.cons before name beforeColon afterColon value after .nil)
    ⟨plainName, plainValue, trivial⟩).append (bracket.passes_noMark (noMark_separator members))
  have whole : (Members.cons before name beforeColon afterColon value after members).text ++ rest =
      ((Members.cons before name beforeColon afterColon value after .nil).text ++ members.separator) ++
        (members.text ++ rest) := by
    simp [Members.text, Members.separator]
  rw [whole, closesFrom_passes passes]

end Braces

/-! ## The members of one object -/

section Cut

/-- What the scan takes for the first member that it does not hide and whose key begins with the
name. -/
def Members.cut (name : List UInt8) : Members → Option (List UInt8)
  | .nil => none
  | .cons _ key _ _ value _ rest =>
      if key.bytes ≠ [] ∧ scanned value ≠ [] ∧ name <+: key.bytes then some (scanned value)
      else Members.cut name rest

/-- `json_parse_name_value` hides members without a key or a value. -/
abbrev shown (entry : Entry) : Bool := entry.keyLen ≠ 0 && entry.valueLen ≠ 0

/-- The bytes of a value that has been found. -/
abbrev cutOut (found : Cursor × Nat) : List UInt8 := found.1.take found.2

variable {trailing : Blanks} {frames : List Frame} {name : List UInt8}

section Member

variable {before beforeColon afterColon after : Blanks} {key : Str} {value : Value} {rest : Members}

theorem cut_here (named : key.bytes ≠ []) (nonempty : scanned value ≠ []) (begins : name <+: key.bytes) :
    Members.cut name (.cons before key beforeColon afterColon value after rest) = some (scanned value) :=
  if_pos ⟨named, nonempty, begins⟩

theorem cut_other (other : ¬name <+: key.bytes) :
    Members.cut name (.cons before key beforeColon afterColon value after rest) = Members.cut name rest :=
  if_neg fun all => other all.2.2

theorem cut_hidden (empty : scanned value = []) :
    Members.cut name (.cons before key beforeColon afterColon value after rest) = Members.cut name rest :=
  if_neg fun all => all.2.1 empty

end Member

theorem isPrefixOf_quoted (noQuote : quote ∉ name) (bytes more : List UInt8) :
    name.isPrefixOf (bytes ++ quote :: more) = true ↔ name <+: bytes := by
  rw [List.isPrefixOf_iff_prefix]
  exact ⟨prefix_of_quoted noQuote, fun isPrefix => isPrefix.trans (List.prefix_append _ _)⟩

theorem shown_entryFor (key : Cursor) (bytes : List UInt8) (value : Value) (tail : Cursor) :
    shown (entryFor key bytes.length value tail) = true ↔ bytes ≠ [] ∧ scanned value ≠ [] := by
  rw [shown, entryFor, Bool.and_eq_true, decide_eq_true_eq, decide_eq_true_eq, ne_eq, ne_eq,
    List.length_eq_zero_iff, List.length_eq_zero_iff]

theorem find_cut (noQuote : quote ∉ name) : (members : Members) →
    ((((Members.sightings trailing frames members).map (Sighting.entry trailing)).filter shown).find?
      fun entry => name.isPrefixOf entry.key).map (fun entry => entry.value.take entry.valueLen) =
        Members.cut name members
  | .nil => rfl
  | .cons before key beforeColon afterColon value after rest => by
      have later := find_cut noQuote rest
      have isShown := shown_entryFor (nameCursor key beforeColon afterColon value
        (behind trailing ({ after := after, rest := rest } :: frames))) key.bytes value
        (behind trailing ({ after := after, rest := rest } :: frames))
      rw [Members.sightings, List.map_cons, List.filter_cons, Members.cut, Sighting.entry]
      by_cases visible : key.bytes ≠ [] ∧ scanned value ≠ []
      · rw [if_pos (isShown.mpr visible), List.find?_cons, entryFor, nameCursor]
        by_cases begins : name <+: key.bytes
        · rw [if_pos ⟨visible.1, visible.2, begins⟩]
          simp only [(isPrefixOf_quoted noQuote key.bytes _).mpr begins]
          exact congrArg some (take_valueCursor value _)
        · rw [if_neg (fun all => begins all.2.2), ← later]
          simp only [Bool.eq_false_of_not_eq_true (mt (isPrefixOf_quoted noQuote key.bytes _).mp begins)]
      · rw [if_neg (fun both => visible (isShown.mp both)),
          if_neg (fun all => visible ⟨all.1, all.2.1⟩), later]

theorem followers_ends (ends : ∀ frame ∈ frames, frame.rest = .nil) : followers trailing frames = [] := by
  induction frames with
  | nil => rfl
  | cons frame frames inductionHypothesis =>
      rw [followers, ends frame List.mem_cons_self]
      exact inductionHypothesis fun other isOther => ends other (List.mem_cons_of_mem _ isOther)

theorem allEntries_ends (ends : ∀ frame ∈ frames, frame.rest = .nil) :
    allEntries (closeBrace :: behind trailing frames) = [] := by
  have plain : ∀ frame ∈ frames, frame.AllStr Plain := by
    intro frame isFrame
    rw [Frame.AllStr, ends frame isFrame]
    trivial
  rw [allEntries_behind frames plain, followers_ends ends, List.map_nil]

/-- A name is looked for among the members of an object, when no member follows in an enclosing
one. -/
theorem jsonGetValueByName_cut (noQuote : quote ∉ name) (ends : ∀ frame ∈ frames, frame.rest = .nil)
    (blanks : Blanks) {members : Members} (readable : members.EachValue Readable) :
    (jsonGetValueByName
      (openBrace :: (blanks.text ++ (members.text ++ closeBrace :: behind trailing frames)))
      name).map cutOut = Members.cut name members := by
  have clean : quote ∉ openBrace :: blanks.text := by
    intro member
    rcases List.mem_cons.mp member with isBrace | inBlanks
    · exact absurd isBrace (by decide)
    · exact noMark_blanks blanks quote inBlanks (.inl rfl)
  have entries := allEntries_skip (members.text ++ closeBrace :: behind trailing frames) clean
  have inside := @allEntries_members trailing frames members readable [] .nil
  rw [List.nil_append, allEntries_ends ends, List.append_nil] at inside
  rw [inside, List.cons_append] at entries
  have found : jsonGetObject .object
      (openBrace :: (blanks.text ++ (members.text ++ closeBrace :: behind trailing frames))) =
      some (openBrace :: (blanks.text ++ (members.text ++ closeBrace :: behind trailing frames))) := rfl
  rw [allEntries] at entries
  rw [jsonGetValueByName, jsonParseNameValue, found, Option.map_map]
  simp only [entries]
  exact find_cut noQuote members

end Cut

/-! ## A string and an object -/

/-- An object of two members: a string, and an object with the members that are looked up. -/
structure Envelope where
  first : Str
  string : Str
  second : Str
  afterFirst : Blanks
  between : Blanks
  afterSecond : Blanks
  members : Members

namespace Envelope

variable (envelope : Envelope)

/-- What encloses the members. -/
def frames : List Frame := [{ after := [], rest := .nil }]

theorem ends_frames : ∀ frame ∈ frames, frame.rest = .nil := by
  intro frame isFrame
  rw [List.mem_singleton.mp isFrame]

/-- The text from the inner object on. -/
def object : Cursor := openBrace :: (envelope.members.text ++ closeBrace :: behind [] frames)

/-- The text behind the string. -/
def behindString : List UInt8 :=
  comma :: (envelope.between.text ++
    quote :: nameCursor envelope.second [] envelope.afterSecond (.object [] envelope.members)
      (behind [] frames))

def text : List UInt8 :=
  openBrace :: quote :: nameCursor envelope.first [] envelope.afterFirst (.string envelope.string)
    envelope.behindString

theorem object_eq : (Value.object [] envelope.members).text ++ behind [] frames = envelope.object := by
  simp [Value.text, object, Blanks.text]

theorem follows_behindString : Follows envelope.behindString :=
  ⟨comma, _, rfl, by decide, by decide⟩

/-- The entry of the inner object, which is as long as the scan for its closing brace finds it. -/
def entry : Entry :=
  { key := nameCursor envelope.second [] envelope.afterSecond (.object [] envelope.members)
      (behind [] frames)
    keyLen := envelope.second.bytes.length
    value := envelope.object
    valueLen := valueLen .object envelope.object (envelope.members.text ++ closeBrace :: behind [] frames)
    type := .object }

/-- The string is read, then the inner object. -/
theorem allEntries_text : allEntries envelope.text =
    entryFor (nameCursor envelope.first [] envelope.afterFirst (.string envelope.string)
      envelope.behindString) envelope.first.bytes.length (.string envelope.string)
      envelope.behindString ::
        envelope.entry :: allEntries (envelope.object.drop envelope.entry.valueLen) := by
  have noQuote : quote ∉ [openBrace] := by decide
  have readable : Readable (.string envelope.string) := readable_scalar trivial
  have first := jsonGetNextObject_member envelope.first [] envelope.afterFirst
    readable envelope.follows_behindString
  have noMark : NoMark (comma :: envelope.between.text) :=
    .cons (by decide) (noMark_blanks _)
  have second : jsonGetNextObject .object
      (quote :: nameCursor envelope.second [] envelope.afterSecond (.object [] envelope.members)
        (behind [] frames)) =
      some (envelope.entry, envelope.object.drop envelope.entry.valueLen) := by
    rw [jsonGetNextObject_afterName, object_eq]
    rfl
  have skipFirst := allEntries_skip (quote :: nameCursor envelope.first [] envelope.afterFirst
    (.string envelope.string) envelope.behindString) noQuote
  have skipSecond := allEntries_skip (quote :: nameCursor envelope.second [] envelope.afterSecond
    (.object [] envelope.members) (behind [] frames)) (noMark.not_mem (.inl rfl))
  rw [allEntries_step second] at skipSecond
  rw [text, ← List.singleton_append, skipFirst, allEntries_step first]
  exact congrArg _ skipSecond

/-- The inner object is seen if it is closed. -/
theorem entry_valueLen : envelope.entry.valueLen ≠ 0 ↔
    Closes (envelope.members.text ++ closeBrace :: behind [] frames) := by
  rw [← closesFrom_zero_iff, ← markedLen_isSome_iff 0 1, entry, valueLen]
  cases markedLen openBrace closeBrace 0 1 (envelope.members.text ++ closeBrace :: behind [] frames) with
  | none => simp
  | some len => simp

/-- The inner object is shown if it is closed. -/
theorem shown_entry (named : envelope.second.bytes ≠ []) : shown envelope.entry = true ↔
    Closes (envelope.members.text ++ closeBrace :: behind [] frames) := by
  rw [← entry_valueLen, shown, Bool.and_eq_true, decide_eq_true_eq, decide_eq_true_eq]
  exact and_iff_right fun isZero => named (List.length_eq_zero_iff.mp isZero)

/-- The members that the loop is called on. -/
theorem jsonParseNameValue_text : jsonParseNameValue envelope.text =
    (allEntries envelope.text).filter shown := rfl

theorem jsonGetValueByName_first (named : envelope.first.bytes ≠ [])
    (nonempty : envelope.string.bytes ≠ []) :
    (jsonGetValueByName envelope.text envelope.first.bytes).map cutOut = some envelope.string.bytes := by
  have isShown := (shown_entryFor (nameCursor envelope.first [] envelope.afterFirst
    (.string envelope.string) envelope.behindString) envelope.first.bytes (.string envelope.string)
    envelope.behindString).mpr ⟨named, nonempty⟩
  rw [jsonGetValueByName, jsonParseNameValue_text, allEntries_text, List.filter_cons, if_pos isShown,
    List.find?_cons, entryFor, nameCursor]
  simp only [(isPrefixOf_quoted (noQuote_str envelope.first) envelope.first.bytes _).mpr
    List.prefix_rfl]
  exact congrArg some (take_valueCursor (.string envelope.string) envelope.behindString)

/-- The string is no answer to a name that its own does not begin with. -/
theorem find_second {name : List UInt8} (noQuote : quote ∉ name)
    (notFirst : ¬name <+: envelope.first.bytes) :
    ((jsonParseNameValue envelope.text).find? fun entry => name.isPrefixOf entry.key) =
      ((envelope.entry :: allEntries (envelope.object.drop envelope.entry.valueLen)).filter shown).find?
        fun entry => name.isPrefixOf entry.key := by
  rw [jsonParseNameValue_text, allEntries_text, List.filter_cons]
  split
  · rw [List.find?_cons, entryFor, nameCursor]
    simp only [Bool.eq_false_of_not_eq_true
      (mt (isPrefixOf_quoted noQuote envelope.first.bytes _).mp notFirst)]
  · rfl

section Path

variable {name : List UInt8} (named : envelope.second.bytes ≠ [])
  (notFirst : ¬envelope.second.bytes <+: envelope.first.bytes)
  (readable : envelope.members.EachValue Readable)

include named notFirst readable

/-- A closed object is searched for the name. -/
theorem valueOfPath_closed (noQuote : quote ∉ name)
    (closes : Closes (envelope.members.text ++ closeBrace :: behind [] frames)) :
    (valueOfPath [envelope.second.bytes, name] envelope.text).map cutOut =
      Members.cut name envelope.members := by
  have found : jsonGetValueByName envelope.text envelope.second.bytes =
      some (envelope.object, envelope.entry.valueLen) := by
    rw [jsonGetValueByName, find_second _ (noQuote_str _) notFirst, List.filter_cons,
      if_pos ((envelope.shown_entry named).mpr closes), List.find?_cons]
    simp only [entry, nameCursor, (isPrefixOf_quoted (noQuote_str envelope.second)
      envelope.second.bytes _).mpr List.prefix_rfl]
    rfl
  rw [valueOfPath, found]
  · exact jsonGetValueByName_cut noQuote ends_frames [] readable
  · simp

/-- An object that is not closed is not seen: its members are taken for those of the outer one. -/
theorem valueOfPath_open (hidden : Members.cut envelope.second.bytes envelope.members = none)
    (isOpen : ¬Closes (envelope.members.text ++ closeBrace :: behind [] frames)) :
    valueOfPath [envelope.second.bytes, name] envelope.text = none := by
  have noLen : envelope.entry.valueLen = 0 := not_not.mp (mt envelope.entry_valueLen.mp isOpen)
  have inner := @jsonGetValueByName_cut [] frames _ (noQuote_str envelope.second) ends_frames [] _ readable
  have missed : jsonGetValueByName envelope.text envelope.second.bytes = none := by
    rw [jsonGetValueByName, find_second _ (noQuote_str _) notFirst, List.filter_cons,
      if_neg (mt (envelope.shown_entry named).mp isOpen), noLen, List.drop_zero]
    rw [hidden, Option.map_eq_none_iff] at inner
    exact inner
  rw [valueOfPath, missed]
  simp

end Path

end Envelope

end UIoT.Utils
