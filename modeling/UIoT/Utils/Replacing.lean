import UIoT.Lib.FirstMatch
import UIoT.Utils.Httpc

/-!
# Replacing a part of a string

`LITE_replace_substr` puts each new text together in an array of 512 bytes and copies it back. It
replaces every match of a key from the left, as long as no text on the way is too long for the array or
for the caller's buffer, which is so just if the first and the last one are not
(`liteReplaceSubstr_replaces`). With an empty key it never returns (`replaceLoop_empty`).
-/

set_option autoImplicit false

namespace UIoT.Utils

open FirstMatch

/-- The size of `tmp`. -/
abbrev tmpSize : Nat := 512

/-- What a match does: the text is put together in `tmp`, and copied over the original one, whose
buffer has `room` bytes. -/
def swapMatch (room : Nat) (key swap : List UInt8) (i : Nat) (tmp original : List UInt8) :
    Outcome (List UInt8 × List UInt8) := do
  let tmp ← store tmp 0 (original ++ [0])
  let tmp ← store tmp i (swap ++ [0])
  let tmp ← store tmp (i + swap.length) (original.drop (i + key.length) ++ [0])
  let text ← cStringAt tmp 0
  if room < text.length + 1 then .error .outside else return (tmp, text)

/-- The loop of `LITE_replace_substr` from the index `i` on, in so many turns. -/
def replaceLoop (room : Nat) (key swap : List UInt8) :
    Nat → Nat → List UInt8 → List UInt8 → Outcome (List UInt8)
  | 0, _, _, _ => .error .unfinished
  | turns + 1, i, tmp, original =>
      if original.length < i + key.length then return original
      else if key.isPrefixOf (original.drop i) then do
        let (tmp, original) ← swapMatch room key swap i tmp original
        -- `i += lengthOfSwap - 1`, and the step of the loop
        replaceLoop room key swap turns (i + swap.length) tmp original
      else replaceLoop room key swap turns (i + 1) tmp original

/-- `LITE_replace_substr`: the text in the caller's buffer afterwards. -/
def liteReplaceSubstr (turns room : Nat) (tmp originalString key swap : List UInt8) : Outcome (List UInt8) :=
  replaceLoop room key swap turns 0 tmp originalString

/-! ## One match -/

variable {room : Nat} {key swap tmp front text : List UInt8}

theorem store_fits {buf bytes : List UInt8} {offset : Nat} (fits : offset + bytes.length ≤ buf.length) :
    store buf offset bytes = .ok (overwrite buf offset bytes) := if_pos fits

theorem store_outside {buf bytes : List UInt8} {offset : Nat} (long : buf.length < offset + bytes.length) :
    store buf offset bytes = .error .outside := if_neg (Nat.not_le.mpr long)

/-- A string that is stored behind a front is found with it. -/
theorem cStringAt_overwrite {buf : List UInt8} (plainFront : 0 ∉ front) (plainText : 0 ∉ text)
    (starts : buf.take front.length = front) :
    cStringAt (overwrite buf front.length (text ++ [0])) 0 = .ok (front ++ text) := by
  have plain : ∀ byte ∈ front ++ text, decide (byte ≠ 0) = true := by
    intro byte among
    rw [decide_eq_true_eq]
    rintro rfl
    exact (List.mem_append.mp among).elim plainFront plainText
  have isText : overwrite buf front.length (text ++ [0]) =
      front ++ text ++ 0 :: buf.drop (front.length + (text ++ [0]).length) := by
    rw [overwrite, starts, List.append_assoc, List.append_assoc, List.append_assoc]
    rfl
  rw [cStringAt, List.drop_zero, isText, if_pos (List.mem_append_right _ List.mem_cons_self),
    List.takeWhile_append_of_pos plain, List.takeWhile_cons, if_neg (by decide), List.append_nil]

/-- The array behind a match. -/
def swapped (front key text swap tmp : List UInt8) : List UInt8 :=
  overwrite (overwrite (overwrite tmp 0 (front ++ key ++ text ++ [0])) front.length (swap ++ [0]))
    (front.length + swap.length) (text ++ [0])

theorem withTerminator_length (bytes : List UInt8) : (bytes ++ [0]).length = bytes.length + 1 :=
  List.length_append

/-- What is copied in front of the rest of the text. -/
theorem swapped_front (front key text swap tmp : List UInt8) :
    (overwrite (overwrite tmp 0 (front ++ key ++ text ++ [0])) front.length (swap ++ [0])).take
        (front.length + swap.length) = front ++ swap := by
  have first : (overwrite tmp 0 (front ++ key ++ text ++ [0])).take front.length = front := by
    rw [overwrite_zero, List.append_assoc, List.append_assoc, List.append_assoc, List.take_left]
  rw [overwrite, first, List.append_assoc, List.append_assoc, ← List.append_assoc front,
    ← List.length_append, List.take_left]

/-- A match is replaced, if neither the text before nor the one after is too long. -/
theorem swapMatch_eq (size : tmp.length = tmpSize) (plainFront : 0 ∉ front) (plainSwap : 0 ∉ swap)
    (plainText : 0 ∉ text) :
    swapMatch room key swap front.length tmp (front ++ key ++ text) =
      if (front ++ key ++ text).length < tmpSize ∧ (front ++ swap ++ text).length < min tmpSize room then
        .ok (swapped front key text swap tmp, front ++ swap ++ text)
      else .error .outside := by
  have behind : (front ++ key ++ text).drop (front.length + key.length) = text := by
    rw [← List.length_append, List.drop_left]
  have lengths : (front ++ swap ++ text).length = front.length + swap.length + text.length := by
    rw [List.length_append, List.length_append]
  have plain : 0 ∉ front ++ swap := fun among =>
    (List.mem_append.mp among).elim plainFront plainSwap
  rw [swapMatch, behind]
  by_cases before : (front ++ key ++ text).length < tmpSize
  · have stored : (overwrite tmp 0 (front ++ key ++ text ++ [0])).length = tmpSize := by
      rw [overwrite_length, size]
      rw [withTerminator_length]
      omega
    rw [store_fits (by rw [withTerminator_length]; omega)]
    by_cases middle : front.length + swap.length < tmpSize
    · have storedMiddle : (overwrite (overwrite tmp 0 (front ++ key ++ text ++ [0])) front.length
          (swap ++ [0])).length = tmpSize := by
        rw [overwrite_length, stored]
        rw [withTerminator_length]
        omega
      simp only [bind, Except.bind]
      rw [store_fits (by rw [withTerminator_length]; omega)]
      by_cases after : (front ++ swap ++ text).length < tmpSize
      · have fits : front.length + swap.length + (text ++ [0]).length ≤ tmpSize := by
          rw [withTerminator_length]
          omega
        have starts := swapped_front front key text swap tmp
        rw [← List.length_append] at starts
        have read := cStringAt_overwrite plain plainText starts
        rw [List.length_append] at read
        simp only [store_fits (storedMiddle ▸ fits), read]
        by_cases copied : (front ++ swap ++ text).length < room
        · rw [if_neg (by omega), if_pos ⟨before, by omega⟩]
          rfl
        · rw [if_pos (by omega), if_neg (by omega)]
      · have long : tmpSize < front.length + swap.length + (text ++ [0]).length := by
          rw [withTerminator_length]
          omega
        simp only [store_outside (storedMiddle ▸ long)]
        rw [if_neg (by omega)]
    · have long : tmpSize < front.length + (swap ++ [0]).length := by
        rw [withTerminator_length]
        omega
      simp only [bind, Except.bind, store_outside (stored ▸ long)]
      rw [if_neg (by omega)]
  · have long : tmp.length < 0 + (front ++ key ++ text ++ [0]).length := by
      rw [withTerminator_length]
      omega
    rw [store_outside long, if_neg (fun fits => before fits.1)]
    rfl

theorem swapped_length (size : tmp.length = tmpSize) (before : (front ++ key ++ text).length < tmpSize)
    (after : (front ++ swap ++ text).length < tmpSize) : (swapped front key text swap tmp).length = tmpSize := by
  rw [List.length_append, List.length_append] at before after
  have first : (overwrite tmp 0 (front ++ key ++ text ++ [0])).length = tmpSize := by
    rw [overwrite_length, size]
    rw [withTerminator_length, List.length_append, List.length_append]
    omega
  rw [swapped, overwrite_length, overwrite_length, first]
  · rw [withTerminator_length]
    omega
  · rw [overwrite_length, first, withTerminator_length]
    · omega
    · rw [withTerminator_length]
      omega

/-! ## The loop -/

/-- The loop from the end of a front on, when the matches in the rest of the text are replaced in this
way. -/
theorem replaceLoop_replaced {replaced : List UInt8} {n : Nat} (some : key ≠ []) (plainSwap : 0 ∉ swap)
    (replaces : Replaced key swap text replaced n) :
    ∀ {front tmp : List UInt8} {turns : Nat}, text.length < turns → tmp.length = tmpSize →
      0 ∉ front → 0 ∉ text → (front ++ text).length < room →
      replaceLoop room key swap turns front.length tmp (front ++ text) =
        if n = 0 ∨ (front ++ text).length < tmpSize ∧ (front ++ replaced).length < min tmpSize room then
          .ok (front ++ replaced)
        else .error .outside := by
  have positive := List.length_pos_iff.mpr some
  induction replaces with
  | nil =>
      intro front tmp turns enough size plainFront plainText inside
      obtain ⟨turns, rfl⟩ := Nat.exists_eq_succ_of_ne_zero (Nat.ne_zero_of_lt enough)
      have ends : (front ++ []).length < front.length + key.length := by
        rw [List.append_nil]
        omega
      rw [replaceLoop, if_pos ends, if_pos (.inl rfl)]
      rfl
  | @keep a text replaced n absent others inductionHypothesis =>
      intro front tmp turns enough size plainFront plainText inside
      obtain ⟨turns, rfl⟩ := Nat.exists_eq_succ_of_ne_zero (Nat.ne_zero_of_lt enough)
      rw [replaceLoop]
      by_cases short : (front ++ a :: text).length < front.length + key.length
      · have none : n = 0 := by
          apply others.short
          rw [List.length_append, List.length_cons] at short
          omega
        rw [if_pos short, if_pos (.inl none), others.none none]
        rfl
      · have notPrefix : ¬key.isPrefixOf ((front ++ a :: text).drop front.length) = true := by
          rw [List.drop_left, List.isPrefixOf_iff_prefix]
          exact absent
        have moved : ∀ rest : List UInt8, front ++ a :: rest = front ++ [a] ++ rest := fun rest => by
          rw [List.append_assoc, List.singleton_append]
        have next : front.length + 1 = (front ++ [a]).length := by
          rw [List.length_append, List.length_singleton]
        rw [if_neg short, if_neg notPrefix, moved text, moved replaced, next]
        rw [moved] at inside
        apply inductionHypothesis
        · exact Nat.lt_of_succ_lt_succ enough
        · exact size
        · intro among
          rcases List.mem_append.mp among with inFront | isHead
          · exact plainFront inFront
          · exact plainText (List.mem_singleton.mp isHead ▸ List.mem_cons_self)
        · exact fun among => plainText (List.mem_cons_of_mem _ among)
        · exact inside
  | @swap text replaced n others inductionHypothesis =>
      intro front tmp turns enough size plainFront plainText inside
      obtain ⟨turns, rfl⟩ := Nat.exists_eq_succ_of_ne_zero (Nat.ne_zero_of_lt enough)
      have plainRest : 0 ∉ text := fun among => plainText (List.mem_append_right _ among)
      have long : ¬(front ++ (key ++ text)).length < front.length + key.length := by
        rw [List.length_append, List.length_append]
        omega
      have isPrefix : key.isPrefixOf ((front ++ (key ++ text)).drop front.length) = true := by
        rw [List.drop_left, List.isPrefixOf_iff_prefix]
        exact List.prefix_append _ _
      have moved : ∀ part rest : List UInt8, front ++ (part ++ rest) = front ++ part ++ rest :=
        fun part rest => (List.append_assoc front part rest).symm
      have lengths : ∀ part rest : List UInt8,
          (front ++ part ++ rest).length = front.length + part.length + rest.length := by
        intro part rest
        rw [List.length_append, List.length_append]
      have ends := others.length
      -- A text that grows at one match grows at all of them.
      have grows : key.length ≤ swap.length → text.length ≤ replaced.length := by
        intro longer
        have more := Nat.mul_le_mul_left n longer
        omega
      rw [moved] at inside
      rw [replaceLoop, if_neg long, if_pos isPrefix, moved, moved,
        swapMatch_eq size plainFront plainSwap plainRest]
      simp only [lengths] at inside ⊢
      rw [List.length_append] at enough
      by_cases fits : front.length + key.length + text.length < tmpSize ∧
          front.length + swap.length + text.length < min tmpSize room
      · have sizes := lengths swap text
        have sizesKey := lengths key text
        have loops := @inductionHypothesis (front ++ swap) (swapped front key text swap tmp) turns
          (by omega) (swapped_length size (by omega) (by omega))
          (fun among => (List.mem_append.mp among).elim plainFront plainSwap) plainRest (by omega)
        have joined : (front ++ swap).length = front.length + swap.length := List.length_append
        rw [joined] at loops
        simp only [lengths] at loops
        rw [if_pos fits]
        dsimp only [bind, Except.bind]
        rw [loops]
        by_cases final : front.length + swap.length + replaced.length < min tmpSize room
        · rw [if_pos (.inr ⟨by omega, final⟩), if_pos (.inr ⟨fits.1, final⟩)]
        · have some : n ≠ 0 := by
            rintro rfl
            omega
          rw [if_neg (by omega), if_neg (by omega)]
      · have tooLong : ¬(n + 1 = 0 ∨ front.length + key.length + text.length < tmpSize ∧
            front.length + swap.length + replaced.length < min tmpSize room) := by
          omega
        rw [if_neg fits, if_neg tooLong]
        rfl

/-- Every match of a key is replaced, if neither the text before the first match nor the one after the
last is too long for the array or the buffer; otherwise a byte outside of one of them is written. -/
theorem liteReplaceSubstr_replaces {originalString : List UInt8} {turns : Nat} (some : key ≠ [])
    (plain : 0 ∉ originalString) (plainSwap : 0 ∉ swap) (size : tmp.length = tmpSize)
    (inside : originalString.length < room) (enough : originalString.length < turns) :
    ∃ replaced n, Replaced key swap originalString replaced n ∧
      liteReplaceSubstr turns room tmp originalString key swap =
        if n = 0 ∨ originalString.length < tmpSize ∧ replaced.length < min tmpSize room then .ok replaced
        else .error .outside := by
  obtain ⟨replaced, n, replaces⟩ := exists_replaced some swap originalString
  have loops := @replaceLoop_replaced room key swap originalString replaced n some plainSwap replaces []
    tmp turns enough size List.not_mem_nil plain inside
  exact ⟨replaced, n, replaces, loops⟩

/-- Two matches, the second one behind what has been put in for the first. -/
theorem liteReplaceSubstr_aab : ∃ replaced n, Replaced (literal "ab") (literal "aab") (literal "abab") replaced n ∧
    liteReplaceSubstr 5 16 (List.replicate 512 0) (literal "abab") (literal "ab") (literal "aab") =
      if n = 0 ∨ (literal "abab").length < tmpSize ∧ replaced.length < min tmpSize 16 then .ok replaced
      else .error .outside :=
  liteReplaceSubstr_replaces (by decide) (by decide) (by decide) List.length_replicate (by decide)
    (by decide)

/-- With an empty key every turn puts something in, and the end moves away. -/
theorem replaceLoop_empty (turns : Nat) {tmp front text : List UInt8} (size : tmp.length = tmpSize)
    (plainFront : 0 ∉ front) (plainSwap : 0 ∉ swap) (plainText : 0 ∉ text) (result : List UInt8) :
    replaceLoop room [] swap turns front.length tmp (front ++ text) ≠ .ok result := by
  induction turns generalizing tmp front with
  | zero =>
      intro same
      cases same
  | succ turns inductionHypothesis =>
      have goesOn : ¬(front ++ text).length < front.length + ([] : List UInt8).length := by
        rw [List.length_append, List.length_nil]
        omega
      have found : ([] : List UInt8).isPrefixOf ((front ++ text).drop front.length) = true :=
        List.isPrefixOf_iff_prefix.mpr List.nil_prefix
      have matched := @swapMatch_eq room [] swap tmp front text size plainFront plainSwap plainText
      rw [List.append_nil] at matched
      rw [replaceLoop, if_neg goesOn, if_pos found, matched]
      split
      · rename_i fits
        have next : front.length + swap.length = (front ++ swap).length := List.length_append.symm
        have before : (front ++ [] ++ text).length < tmpSize := by
          rw [List.append_nil]
          exact fits.1
        dsimp only [bind, Except.bind]
        rw [next]
        exact inductionHypothesis (swapped_length size before (by omega))
          (fun among => (List.mem_append.mp among).elim plainFront plainSwap)
      · intro same
        cases same

end UIoT.Utils
