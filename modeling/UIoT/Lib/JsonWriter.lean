import UIoT.Lib.JsonReader

/-!
# Writing a JSON document

Members and elements as most programs write them: a blank behind each colon and
behind each comma. Their texts are those of the parts with `, ` between two
(`Members.spaced_text`, `Elements.spaced_text`), and what they say is what the parts
say, in their order (`Members.spaced_data`, `Elements.spaced_data`).
-/

set_option autoImplicit false

namespace UIoT.Json

/-- A comma and a blank. -/
abbrev commaBlank : List UInt8 := [comma, 0x20]

/-- Texts with `, ` between two of them. -/
theorem separated_cons (first : List UInt8) (texts : List (List UInt8)) :
    commaBlank.intercalate (first :: texts) = first ++ texts.flatMap (commaBlank ++ ·) := by
  induction texts generalizing first with
  | nil => rw [List.intercalate_singleton, List.flatMap_nil, List.append_nil]
  | cons second texts ih =>
      rw [List.intercalate_cons_cons, ih, List.flatMap_cons, List.append_assoc, List.append_assoc]

/-! ## Members -/

/-- A member with a blank behind its colon. -/
def memberText (member : Str × Value) : List UInt8 :=
  member.1.text ++ colon :: 0x20 :: member.2.text

/-- Members, with blanks in front of the first one. -/
def Members.behind (before : Blanks) : List (Str × Value) → Members
  | [] => .nil
  | (name, value) :: members =>
      .cons before name [] [.space] value [] (Members.behind [.space] members)

/-- Members with a blank behind each colon and each comma. -/
def Members.spaced (members : List (Str × Value)) : Members := Members.behind [] members

theorem Members.behind_text (before : Blanks) (name : Str) (value : Value)
    (members : List (Str × Value)) :
    (Members.behind before ((name, value) :: members)).text =
      before.text ++ (memberText (name, value) ++
        members.flatMap fun member => commaBlank ++ memberText member) := by
  induction members generalizing before name value with
  | nil => simp [Members.behind, Members.text, Members.separator, memberText, Blanks.text, Blank.byte]
  | cons second members ih =>
      obtain ⟨next, other⟩ := second
      have later := ih [.space] next other
      rw [Members.behind, Members.text, later, List.flatMap_cons]
      simp [Members.behind, Members.separator, memberText, Blanks.text, Blank.byte]

theorem Members.spaced_text (members : List (Str × Value)) :
    (Members.spaced members).text = commaBlank.intercalate (members.map memberText) := by
  cases members with
  | nil => rfl
  | cons first members =>
      rw [Members.spaced, Members.behind_text, List.map_cons, separated_cons, List.flatMap_map]
      rfl

theorem Members.spaced_data (members : List (Str × Value)) :
    (Members.spaced members).data = members.map fun member => (member.1, member.2.data) := by
  have behind : ∀ before, (Members.behind before members).data =
      members.map fun member => (member.1, member.2.data) := by
    induction members with
    | nil => exact fun before => rfl
    | cons first members ih =>
        intro before
        rw [Members.behind, Members.data, ih, List.map_cons]
  exact behind []

/-! ## Elements -/

/-- Elements, with blanks in front of the first one. -/
def Elements.behind (before : Blanks) : List Value → Elements
  | [] => .nil
  | value :: elements => .cons before value [] (Elements.behind [.space] elements)

/-- Elements with a blank behind each comma. -/
def Elements.spaced (elements : List Value) : Elements := Elements.behind [] elements

theorem Elements.behind_text (before : Blanks) (value : Value) (elements : List Value) :
    (Elements.behind before (value :: elements)).text =
      before.text ++ (value.text ++ elements.flatMap fun element => commaBlank ++ element.text) := by
  induction elements generalizing before value with
  | nil => simp [Elements.behind, Elements.text, Elements.separator, Blanks.text]
  | cons second elements ih =>
      rw [Elements.behind, Elements.text, ih [.space] second, List.flatMap_cons]
      simp [Elements.behind, Elements.separator, Blanks.text, Blank.byte]

theorem Elements.spaced_text (elements : List Value) :
    (Elements.spaced elements).text = commaBlank.intercalate (elements.map Value.text) := by
  cases elements with
  | nil => rfl
  | cons first elements =>
      rw [Elements.spaced, Elements.behind_text, List.map_cons, separated_cons, List.flatMap_map]
      rfl

theorem Elements.spaced_data (elements : List Value) :
    (Elements.spaced elements).data = elements.map Value.data := by
  have behind : ∀ before, (Elements.behind before elements).data = elements.map Value.data := by
    induction elements with
    | nil => exact fun before => rfl
    | cons first elements ih =>
        intro before
        rw [Elements.behind, Elements.data, ih, List.map_cons]
  exact behind []

/-! ## What an object and an array say -/

/-- An object in the text of a document alone. -/
theorem read_object (members : List (Str × Value)) :
    read (openBrace :: commaBlank.intercalate (members.map memberText) ++ [closeBrace]) =
      some (.object (members.map fun member => (member.1, member.2.data))) := by
  have isText : (Document.mk [] (.object [] (Members.spaced members)) []).text =
      openBrace :: commaBlank.intercalate (members.map memberText) ++ [closeBrace] := by
    simp [Document.text, Value.text, Blanks.text, Members.spaced_text]
  rw [← isText, read_text, Value.data, Members.spaced_data]

end UIoT.Json
