import UIoT.Utils.JsonLookup

/-!
# A member in front of anything

The scan for a member does not stop at the end of the object: a member that the
object lacks may be found in what stands behind it. A member that it has is
found there, whatever stands behind the object (`liteJsonValueOf_member`), and the
text of the object does not end the string (`zero_not_mem_document`).
-/

set_option autoImplicit false

namespace UIoT.Utils

open Json

/-! ## No NUL -/

section Nul

variable {text : List UInt8}

theorem zero_not_mem_cons {byte : UInt8} (nonzero : byte ≠ 0) (rest : 0 ∉ text) : 0 ∉ byte :: text :=
  List.not_mem_cons_of_ne_of_not_mem nonzero.symm rest

theorem zero_not_mem_blanks (blanks : Blanks) : 0 ∉ blanks.text := by
  intro member
  obtain ⟨blank, _, isZero⟩ := List.mem_map.mp member
  cases blank <;> cases isZero

theorem zero_not_mem_str (str : Str) : 0 ∉ str.text := by
  have inside : 0 ∉ str.bytes := fun member => absurd (str.unescaped 0 member).1 (by decide)
  exact zero_not_mem_cons (by decide) (List.not_mem_append inside (by decide))

theorem digitByte_ne_nul : ∀ digit : Digit, digitByte digit ≠ 0 := by decide

theorem zero_not_mem_digits (digits : List Digit) : 0 ∉ digits.map digitByte := by
  intro member
  obtain ⟨digit, _, isZero⟩ := List.mem_map.mp member
  exact digitByte_ne_nul digit isZero

theorem zero_not_mem_number (number : Number) : 0 ∉ number.text := by
  refine List.not_mem_append (List.not_mem_append (List.not_mem_append ?_
    (zero_not_mem_cons (digitByte_ne_nul _) (zero_not_mem_digits _))) ?_) ?_
  · split <;> decide
  · cases number.fraction with
    | none => exact List.not_mem_nil
    | some fraction =>
        exact zero_not_mem_cons (by decide)
          (zero_not_mem_cons (digitByte_ne_nul _) (zero_not_mem_digits _))
  · cases number.exponent with
    | none => exact List.not_mem_nil
    | some exponent =>
        refine List.not_mem_append (zero_not_mem_cons ?_ ?_)
          (zero_not_mem_cons (digitByte_ne_nul _) (zero_not_mem_digits _))
        · split <;> decide
        · cases exponent.sign <;> decide

mutual

theorem zero_not_mem_value : (value : Value) → 0 ∉ value.text
  | .string str => zero_not_mem_str str
  | .number number => zero_not_mem_number number
  | .true => by decide
  | .false => by decide
  | .null => by decide
  | .array blanks elements =>
      List.not_mem_append (zero_not_mem_cons (by decide)
        (List.not_mem_append (zero_not_mem_blanks blanks) (zero_not_mem_elements elements))) (by decide)
  | .object blanks members =>
      List.not_mem_append (zero_not_mem_cons (by decide)
        (List.not_mem_append (zero_not_mem_blanks blanks) (zero_not_mem_members members))) (by decide)

theorem zero_not_mem_elements : (elements : Elements) → 0 ∉ elements.text
  | .nil => List.not_mem_nil
  | .cons before value after rest => by
      refine List.not_mem_append (List.not_mem_append (List.not_mem_append (List.not_mem_append
        (zero_not_mem_blanks before) (zero_not_mem_value value)) (zero_not_mem_blanks after)) ?_)
        (zero_not_mem_elements rest)
      cases rest with
      | nil => exact List.not_mem_nil
      | cons => exact zero_not_mem_cons (by decide) List.not_mem_nil

theorem zero_not_mem_members (members : Members) : 0 ∉ members.text := by
  cases members with
  | nil => exact List.not_mem_nil
  | cons before name beforeColon afterColon value after rest =>
      have behind : 0 ∉ rest.separator := by
        cases rest with
        | nil => exact List.not_mem_nil
        | cons => exact zero_not_mem_cons (by decide) List.not_mem_nil
      have tail : 0 ∉ afterColon.text ++ value.text ++ after.text ++ rest.separator ++ rest.text :=
        List.not_mem_append (List.not_mem_append (List.not_mem_append (List.not_mem_append
          (zero_not_mem_blanks afterColon) (zero_not_mem_value value)) (zero_not_mem_blanks after))
          behind) (zero_not_mem_members rest)
      have front : 0 ∉ before.text ++ name.text ++ beforeColon.text :=
        List.not_mem_append (List.not_mem_append (zero_not_mem_blanks before) (zero_not_mem_str name))
          (zero_not_mem_blanks beforeColon)
      have whole := List.not_mem_append front (@zero_not_mem_cons _ colon (by decide) tail)
      simpa [Members.text] using whole

end

theorem zero_not_mem_document (document : Document) : 0 ∉ document.text :=
  List.not_mem_append (zero_not_mem_blanks _)
    (List.not_mem_append (zero_not_mem_value _) (zero_not_mem_blanks _))

end Nul

/-! ## The first member with a name -/

variable {name : List UInt8} {found : Value × Blanks × Members}

/-- A member that the lookup does not pass over. -/
def shownEntry (entry : Entry) : Bool := entry.keyLen ≠ 0 && entry.valueLen ≠ 0

theorem follows_member (after : Blanks) (rest : Members) (more : List UInt8) :
    Follows (after.text ++ (rest.separator ++ (rest.text ++ closeBrace :: more))) := by
  refine follows_blanks _ ?_
  cases rest with
  | nil => exact ⟨closeBrace, _, rfl, by decide, by decide⟩
  | cons => exact ⟨comma, _, rfl, by decide, by decide⟩

/-- The first member with the name is what is found. -/
theorem find_member (noQuote : quote ∉ name) (more : List UInt8) :
    (members : Members) → members.AllStr Plain → members.AllNames (NoProperPrefix name) →
      members.find name = some found → ∀ {text : List UInt8}, quote ∉ text →
        ∃ entry, ((allEntries (text ++ (members.text ++ closeBrace :: more))).filter shownEntry).find?
            (fun entry => name.isPrefixOf entry.key) = some entry ∧
          entry.value.take entry.valueLen = scanned found.1
  | .nil, _, _, result, _, _ => by cases result
  | .cons before first beforeColon afterColon value after rest, plain, names, result, text, clean => by
      have whole : text ++ ((Members.cons before first beforeColon afterColon value after rest).text ++
          closeBrace :: more) = (text ++ before.text) ++
            quote :: nameCursor first beforeColon afterColon value
              (after.text ++ (rest.separator ++ (rest.text ++ closeBrace :: more))) := by
        simp [Members.text, nameCursor, Str.text]
      have cut := jsonGetNextObject_member first beforeColon afterColon (readable_plain plain.2.1)
        (follows_member after rest more)
      have next : unscanned value ++ (after.text ++ (rest.separator ++ (rest.text ++ closeBrace :: more)))
          = (unscanned value ++ after.text ++ rest.separator) ++ (rest.text ++ closeBrace :: more) := by
        simp
      have between : NoMark (unscanned value ++ after.text ++ rest.separator) :=
        ((noMark_unscanned value).append (noMark_blanks after)).append (noMark_separator rest)
      have shown : shownEntry (entryFor (nameCursor first beforeColon afterColon value
          (after.text ++ (rest.separator ++ (rest.text ++ closeBrace :: more)))) first.bytes.length value
          (after.text ++ (rest.separator ++ (rest.text ++ closeBrace :: more)))) = true := by
        simp [shownEntry, entryFor, plain.1.1, scanned_ne_nil plain.2.1]
      have cleanStart : quote ∉ text ++ before.text :=
        List.not_mem_append clean ((noMark_blanks before).not_mem (.inl rfl))
      rw [whole, allEntries_skip _ cleanStart, allEntries_step cut, List.filter_cons_of_pos shown]
      by_cases same : first.bytes = name
      · rw [Members.find, if_pos same] at result
        cases result
        refine ⟨_, List.find?_cons_of_pos ?_, take_valueCursor value _⟩
        rw [List.isPrefixOf_iff_prefix]
        exact same ▸ List.prefix_append _ _
      · rw [Members.find, if_neg same] at result
        have other : ¬name.isPrefixOf (entryFor (nameCursor first beforeColon afterColon value
            (after.text ++ (rest.separator ++ (rest.text ++ closeBrace :: more)))) first.bytes.length
            value (after.text ++ (rest.separator ++ (rest.text ++ closeBrace :: more)))).key = true := by
          rw [List.isPrefixOf_iff_prefix]
          exact fun begins => same (names.1 (prefix_of_quoted noQuote begins)).symm
        rw [@List.find?_cons_of_neg _ (fun entry : Entry => name.isPrefixOf entry.key) _ _ other, next]
        exact find_member noQuote more rest plain.2.2 names.2.2 result (between.not_mem (.inl rfl))

/-- A member of the object is found, whatever stands behind the object. -/
theorem liteJsonValueOf_member {blanks leading : Blanks} {members : Members}
    (spaced : ∀ blank ∈ leading, blank = Blank.space) (plain : members.AllStr Plain)
    (names : members.AllNames (NoProperPrefix name)) (noQuote : quote ∉ name) (noPoint : point ∉ name)
    (isFound : members.find name = some found) (more : List UInt8) :
    liteJsonValueOf name (leading.text ++ ((Value.object blanks members).text ++ more)) =
      some (scanned found.1) := by
  have spaces : ∀ byte ∈ leading.text, byte = space := by
    intro byte member
    obtain ⟨blank, inside, rfl⟩ := List.mem_map.mp member
    rw [spaced blank inside]
    rfl
  have whole : (Value.object blanks members).text ++ more =
      openBrace :: blanks.text ++ (members.text ++ closeBrace :: more) := by
    simp [Value.text]
  have begins : jsonGetObject .object (openBrace :: blanks.text ++ (members.text ++ closeBrace :: more)) =
      some (openBrace :: blanks.text ++ (members.text ++ closeBrace :: more)) := rfl
  have clean : quote ∉ openBrace :: blanks.text :=
    List.not_mem_cons_of_ne_of_not_mem (by decide) ((noMark_blanks blanks).not_mem (.inl rfl))
  obtain ⟨entry, first, value⟩ := find_member noQuote more members plain names isFound clean
  rw [liteJsonValueOf, List.splitOn_eq_singleton noPoint, valueOfPath, jsonGetValueByName,
    jsonParseNameValue, jsonGetObject_spaces _ spaces, whole, begins]
  change ((((allEntries (openBrace :: blanks.text ++ (members.text ++ closeBrace :: more))).filter
    shownEntry).find? fun entry => name.isPrefixOf entry.key).map _).map _ = _
  rw [first]
  exact congrArg some value

end UIoT.Utils
