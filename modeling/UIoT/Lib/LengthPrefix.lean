import Mathlib.Data.List.Basic

/-!
# Readers of bytes and length-prefixed strings

A reader takes an item off the front of a byte list. It inverts a writer at an
item when it takes that item back from what is written, whatever follows
(`Inverts`). A reader that inverts a writer at the items of a list reads the
list back from their concatenation (`items_flatMap`).

A 16-bit number is two bytes, high byte first. A string is its length as such a
number and its bytes, so it has fewer than 65536 of them, and what is read as a
string is written as one (`readString_eq`).
-/

set_option autoImplicit false

namespace UIoT.LengthPrefix

variable {α : Type}

/-! ## Readers -/

/-- The item at the front of a byte list, and the bytes after it. -/
abbrev Reader (α : Type) := List UInt8 → Option (α × List UInt8)

/-- The reader takes an item back from what is written, whatever follows. -/
def Inverts (read : Reader α) (write : α → List UInt8) (item : α) : Prop :=
  ∀ after, read (write item ++ after) = some (item, after)

/-- The items up to the end, read in at most so many passes. -/
def many (read : Reader α) : Nat → List UInt8 → Option (List α)
  | _, [] => some []
  | 0, _ :: _ => none
  | passes + 1, byte :: input =>
      (read (byte :: input)).bind fun (item, rest) => (many read passes rest).map (item :: ·)

/-- The items that a byte list consists of. -/
def items (read : Reader α) (input : List UInt8) : Option (List α) := many read input.length input

variable {read : Reader α} {write : α → List UInt8}

theorem many_flatMap {list : List α} (inverts : ∀ item ∈ list, Inverts read write item)
    (nonempty : ∀ item ∈ list, write item ≠ []) :
    ∀ {passes : Nat}, (list.flatMap write).length ≤ passes →
      many read passes (list.flatMap write) = some list := by
  induction list with
  | nil => exact fun _ => by simp [many]
  | cons item list inductionHypothesis =>
      intro passes enough
      obtain ⟨byte, bytes, written⟩ :=
        List.exists_cons_of_ne_nil (nonempty item (List.mem_cons_self ..))
      have back := inverts item (List.mem_cons_self ..) (list.flatMap write)
      rw [List.flatMap_cons, List.length_append, written, List.length_cons] at enough
      obtain ⟨passes, rfl⟩ : ∃ fewer, passes = fewer + 1 := ⟨passes - 1, by omega⟩
      rw [written, List.cons_append] at back
      rw [List.flatMap_cons, written, List.cons_append, many, back, Option.bind_some]
      dsimp only
      rw [inductionHypothesis (fun item member => inverts item (List.mem_cons_of_mem _ member))
        (fun item member => nonempty item (List.mem_cons_of_mem _ member)) (by omega)]
      rfl

/-- **Round trip** for lists. -/
theorem items_flatMap {list : List α} (inverts : ∀ item ∈ list, Inverts read write item)
    (nonempty : ∀ item ∈ list, write item ≠ []) :
    items read (list.flatMap write) = some list :=
  many_flatMap inverts nonempty (Nat.le_refl _)

/-- Where the reader takes nothing but what is written, and good items only, the list
is what is written. -/
theorem many_eq {Good : α → Prop}
    (exact : ∀ {input rest item}, read input = some (item, rest) →
      input = write item ++ rest ∧ Good item) :
    ∀ {passes : Nat} {input : List UInt8} {list : List α}, many read passes input = some list →
      input = list.flatMap write ∧ ∀ item ∈ list, Good item
  | _, [], list, isRead => by
      simp only [many, Option.some.injEq] at isRead
      subst isRead
      exact ⟨rfl, fun _ member => (List.not_mem_nil member).elim⟩
  | 0, _ :: _, _, isRead => by simp [many] at isRead
  | passes + 1, byte :: input, list, isRead => by
      rw [many] at isRead
      obtain ⟨⟨item, rest⟩, taken, isRead⟩ := Option.bind_eq_some_iff.mp isRead
      obtain ⟨later, isLater, rfl⟩ := Option.map_eq_some_iff.mp isRead
      obtain ⟨front, good⟩ := exact taken
      obtain ⟨back, goodLater⟩ := many_eq exact isLater
      refine ⟨?_, ?_⟩
      · rw [front, back, List.flatMap_cons]
      · intro each member
        rcases List.mem_cons.mp member with rfl | member
        · exact good
        · exact goodLater each member

/-! ## Numbers -/

/-- A 16-bit number, high byte first. -/
def writeNat16 (value : Nat) : List UInt8 := [UInt8.ofNat (value / 256), UInt8.ofNat (value % 256)]

def readNat16 : Reader Nat
  | high :: low :: rest => some (high.toNat * 256 + low.toNat, rest)
  | _ => none

theorem inverts_nat16 {value : Nat} (small : value < 65536) : Inverts readNat16 writeNat16 value := by
  intro after
  have high : (UInt8.ofNat (value / 256)).toNat = value / 256 := by
    rw [UInt8.toNat_ofNat', Nat.mod_eq_of_lt (by omega)]
  have low : (UInt8.ofNat (value % 256)).toNat = value % 256 := by
    rw [UInt8.toNat_ofNat', Nat.mod_eq_of_lt (by omega)]
  simp only [writeNat16, List.cons_append, List.nil_append, readNat16, high, low]
  congr 2
  omega

theorem readNat16_eq {input rest : List UInt8} {value : Nat}
    (isRead : readNat16 input = some (value, rest)) :
    input = writeNat16 value ++ rest ∧ value < 65536 := by
  match input, isRead with
  | high :: low :: rest, isRead =>
      cases isRead
      have highSmall := high.toNat_lt
      have lowSmall := low.toNat_lt
      have front : (high.toNat * 256 + low.toNat) / 256 = high.toNat := by omega
      have back : (high.toNat * 256 + low.toNat) % 256 = low.toNat := by omega
      refine ⟨?_, by omega⟩
      rw [writeNat16, front, back, UInt8.ofNat_toNat, UInt8.ofNat_toNat]
      rfl

/-! ## Strings -/

def writeString (string : List UInt8) : List UInt8 := writeNat16 string.length ++ string

def readString : Reader (List UInt8) := fun input =>
  (readNat16 input).bind fun (length, rest) =>
    if length ≤ rest.length then some (rest.take length, rest.drop length) else none

theorem writeString_ne_nil (string : List UInt8) : writeString string ≠ [] := List.cons_ne_nil _ _

theorem inverts_string {string : List UInt8} (short : string.length < 65536) :
    Inverts readString writeString string := by
  intro after
  have back := inverts_nat16 short (string ++ after)
  have fits : string.length ≤ (string ++ after).length := by
    rw [List.length_append]
    omega
  rw [writeString, List.append_assoc, readString, back, Option.bind_some]
  dsimp only
  rw [if_pos fits, List.take_left, List.drop_left]

theorem readString_eq {input rest string : List UInt8}
    (isRead : readString input = some (string, rest)) :
    input = writeString string ++ rest ∧ string.length < 65536 := by
  obtain ⟨⟨length, tail⟩, isLength, taken⟩ := Option.bind_eq_some_iff.mp isRead
  obtain ⟨rfl, small⟩ := readNat16_eq isLength
  dsimp only at taken
  split at taken
  · rename_i fits
    cases taken
    have isString : (tail.take length).length = length := List.length_take_of_le fits
    refine ⟨?_, by rw [isString]; exact small⟩
    rw [writeString, isString, List.append_assoc, List.take_append_drop]
  · cases taken

end UIoT.LengthPrefix
