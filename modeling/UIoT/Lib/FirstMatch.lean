import Mathlib.Data.List.Infix

/-!
# The first match

Where a needle is first in a text. What is appended to a text does not move the first match
(`IsFirst.append`), so that a text which comes in pieces is searched alike in each of them.

`Replaced` is the text in which matches are replaced from the left, each behind the one before it.
-/

set_option autoImplicit false

namespace UIoT.FirstMatch

variable {α : Type} {needle text front : List α} {i j : Nat}

/-- The needle is there, and not before. -/
structure IsFirst (needle text : List α) (i : Nat) : Prop where
  found : needle <+: text.drop i
  first : ∀ j < i, ¬needle <+: text.drop j

/-- A match ends in the text. -/
theorem IsFirst.fits (isFirst : IsFirst needle text i) : i + needle.length ≤ text.length := by
  have short := isFirst.found.length_le
  rw [List.length_drop] at short
  by_cases inside : i ≤ text.length
  · omega
  · -- Then the needle is empty, and it is first at the start.
    have empty : needle = [] := List.length_eq_zero_iff.mp (by omega)
    subst empty
    exact absurd (List.nil_prefix) (isFirst.first 0 (by omega))

theorem IsFirst.unique (isFirst : IsFirst needle text i) (other : IsFirst needle text j) : i = j := by
  rcases Nat.lt_trichotomy i j with before | same | behind
  · exact absurd isFirst.found (other.first i before)
  · exact same
  · exact absurd other.found (isFirst.first j behind)

/-- What comes behind a text does not move its first match. -/
theorem IsFirst.append (isFirst : IsFirst needle text i) (more : List α) :
    IsFirst needle (text ++ more) i where
  found := by
    have fits := isFirst.fits
    rw [List.drop_append_of_le_length (by omega)]
    exact isFirst.found.trans (List.prefix_append _ _)
  first := by
    intro j before found
    have fits := isFirst.fits
    rw [List.drop_append_of_le_length (by omega)] at found
    apply isFirst.first j before
    exact List.prefix_of_prefix_length_le found (List.prefix_append _ _)
      (by rw [List.length_drop]; omega)

/-- The first match in a piece is that in the whole text. -/
theorem IsFirst.of_prefix (isFirst : IsFirst needle text i) {whole : List α} (piece : text <+: whole)
    (other : IsFirst needle whole j) : i = j := by
  obtain ⟨more, rfl⟩ := piece
  exact (isFirst.append more).unique other

/-- A text that comes in pieces is split at the first match as soon as a piece has it. -/
theorem IsFirst.splits {head tail piece rest : List α}
    (isFirst : IsFirst needle (head ++ needle) head.length)
    (isWhole : text ++ rest = head ++ needle ++ tail) (isPiece : piece <+: text)
    (found : IsFirst needle piece i) :
    i = head.length ∧ ∃ front, text = head ++ needle ++ front ∧ front ++ rest = tail := by
  have isFront : text <+: head ++ needle ++ tail := isWhole ▸ List.prefix_append text rest
  obtain rfl := found.of_prefix (isPiece.trans isFront) (isFirst.append tail)
  refine ⟨rfl, ?_⟩
  have longer : (head ++ needle).length ≤ text.length := by
    rw [List.length_append]
    exact found.fits.trans isPiece.length_le
  obtain ⟨front, isText⟩ := List.prefix_of_prefix_length_le (List.prefix_append _ tail) isFront longer
  refine ⟨front, isText.symm, ?_⟩
  rw [← isText, List.append_assoc] at isWhole
  exact List.append_cancel_left isWhole

theorem IsFirst.cons {a : α} (isFirst : IsFirst needle text i) (notHere : ¬needle <+: a :: text) :
    IsFirst needle (a :: text) (i + 1) where
  found := isFirst.found
  first := by
    intro j before
    cases j with
    | zero => exact notHere
    | succ j => exact isFirst.first j (by omega)

/-- A text without the first element of the needle is passed over. -/
theorem IsFirst.behind {a : α} {rest : List α} (isFirst : IsFirst (a :: rest) text i)
    (without : a ∉ front) : IsFirst (a :: rest) (front ++ text) (front.length + i) := by
  induction front with
  | nil =>
      rw [List.nil_append, List.length_nil, Nat.zero_add]
      exact isFirst
  | cons b front inductionHypothesis =>
      have notHere : a ≠ b := List.ne_of_not_mem_cons without
      have later : IsFirst (a :: rest) (b :: (front ++ text)) (front.length + i + 1) := by
        apply (inductionHypothesis (List.not_mem_of_not_mem_cons without)).cons
        exact fun found => notHere (List.cons_prefix_cons.mp found).1
      rw [List.length_cons, Nat.add_right_comm]
      exact later

/-- A line without a match is passed over, where the needle has no line break. -/
theorem IsFirst.past {a : α} {line : List α} (isFirst : IsFirst needle text i) (without : a ∉ needle)
    (absent : ¬needle <:+: line) : IsFirst needle (line ++ a :: text) (line.length + (i + 1)) := by
  have notAcross : ∀ {front : List α}, ¬needle <:+: front → ¬needle <+: front ++ a :: text := by
    intro front notIn found
    have split : front ++ a :: text = front ++ [a] ++ text := by simp
    rw [split] at found
    rcases List.prefix_or_prefix_of_prefix found (List.prefix_append _ _) with inside | whole
    · rcases List.prefix_concat_iff.mp inside with isNeedle | isPrefix
      · exact without (isNeedle ▸ List.mem_append_right _ List.mem_cons_self)
      · exact notIn isPrefix.isInfix
    · exact without (whole.subset (List.mem_append_right _ List.mem_cons_self))
  induction line with
  | nil =>
      rw [List.length_nil, Nat.zero_add]
      exact isFirst.cons (notAcross absent)
  | cons b line inductionHypothesis =>
      have later := inductionHypothesis fun found => absent (List.infix_cons found)
      rw [List.length_cons, Nat.add_right_comm]
      exact later.cons (notAcross absent)

/-- A match that ends in the front of a text is that of the front. -/
theorem isFirst_take_iff {n : Nat} :
    IsFirst needle (text.take n) i ↔ IsFirst needle text i ∧ i + needle.length ≤ n := by
  constructor
  · intro isFirst
    have fits := isFirst.fits
    rw [List.length_take] at fits
    have whole := isFirst.append (text.drop n)
    rw [List.take_append_drop] at whole
    exact ⟨whole, by omega⟩
  · rintro ⟨isFirst, fits⟩
    refine ⟨?_, fun j before found => ?_⟩
    · rw [List.drop_take, List.prefix_take_iff]
      exact ⟨isFirst.found, by omega⟩
    · rw [List.drop_take] at found
      exact isFirst.first j before (found.trans (List.take_prefix _ _))

theorem isFirst_zero (found : needle <+: text) : IsFirst needle text 0 where
  found := found
  first := fun _ before => absurd before (Nat.not_lt_zero _)

/-! ## Replacing every match -/

/-- The text that is got by replacing every match of the needle, from the left, and the number of
matches. What is put in is not searched. -/
inductive Replaced (needle swap : List α) : List α → List α → Nat → Prop where
  | nil : Replaced needle swap [] [] 0
  | keep {a : α} {text replaced : List α} {n : Nat} (absent : ¬needle <+: a :: text)
      (others : Replaced needle swap text replaced n) : Replaced needle swap (a :: text) (a :: replaced) n
  | swap {text replaced : List α} {n : Nat} (others : Replaced needle swap text replaced n) :
      Replaced needle swap (needle ++ text) (swap ++ replaced) (n + 1)

variable {swap replaced : List α} {n : Nat}

theorem Replaced.length (replaces : Replaced needle swap text replaced n) :
    replaced.length + n * needle.length = text.length + n * swap.length := by
  induction replaces with
  | nil => rw [Nat.zero_mul, Nat.zero_mul]
  | keep absent others inductionHypothesis =>
      rw [List.length_cons, List.length_cons]
      omega
  | swap others inductionHypothesis =>
      rw [List.length_append, List.length_append, Nat.succ_mul, Nat.succ_mul]
      omega

/-- A text without a match is kept. -/
theorem Replaced.none (replaces : Replaced needle swap text replaced n) (without : n = 0) :
    replaced = text := by
  induction replaces with
  | nil => rfl
  | keep absent others inductionHypothesis => rw [inductionHypothesis without]
  | swap others inductionHypothesis => exact absurd without (Nat.succ_ne_zero _)

/-- A text that is shorter than the needle has no match. -/
theorem Replaced.short (replaces : Replaced needle swap text replaced n)
    (short : text.length < needle.length) : n = 0 := by
  induction replaces with
  | nil => rfl
  | keep absent others inductionHypothesis =>
      rw [List.length_cons] at short
      exact inductionHypothesis (Nat.lt_of_succ_lt short)
  | swap others inductionHypothesis =>
      rw [List.length_append] at short
      exact absurd short (Nat.not_lt.mpr (Nat.le_add_right _ _))

/-- Every text has the matches of a needle replaced in one way, if the needle is not empty. -/
theorem exists_replaced (some : needle ≠ []) (swap text : List α) :
    ∃ replaced n, Replaced needle swap text replaced n := by
  induction length : text.length using Nat.strongRecOn generalizing text with
  | ind size inductionHypothesis =>
      cases text with
      | nil => exact ⟨[], 0, .nil⟩
      | cons a text =>
          by_cases found : needle <+: a :: text
          · obtain ⟨rest, same⟩ := found
            have positive := List.length_pos_iff.mpr some
            have split := congrArg List.length same
            rw [List.length_append, length] at split
            obtain ⟨replaced, n, others⟩ := inductionHypothesis rest.length (by omega) rest rfl
            exact ⟨swap ++ replaced, n + 1, same ▸ .swap others⟩
          · rw [List.length_cons] at length
            obtain ⟨replaced, n, others⟩ := inductionHypothesis text.length (by omega) text rfl
            exact ⟨a :: replaced, n, .keep found others⟩

end UIoT.FirstMatch
