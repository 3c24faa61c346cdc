import Mathlib.Data.List.Basic

/-!
# Topic filters

Topics are split into levels by a separator. A filter is a list of level
patterns: a pattern matches an equal level, a single-level wildcard matches any
level, and a multi-level wildcard in last place matches all the levels left,
none included. `Matches` is this reference relation, `WellFormed` says where
the wildcards may stand, and `splitOn` and `intercalate` pass between texts and
levels (`not_mem_of_mem_splitOn`).
-/

set_option autoImplicit false

namespace UIoT.TopicFilter

variable {α : Type} {separator : α} (single multi : α)

/-! ## Matching -/

/-- One level is matched by the single-level wildcard or by itself. -/
def LevelMatches (pattern level : List α) : Prop := pattern = [single] ∨ pattern = level

/-- A filter matches a topic level by level, and a last multi-level wildcard
matches the rest. -/
def Matches : List (List α) → List (List α) → Prop
  | [], levels => levels = []
  | pattern :: patterns, [] => pattern = [multi] ∧ patterns = []
  | pattern :: patterns, level :: levels =>
      (pattern = [multi] ∧ patterns = []) ∨
        (LevelMatches single pattern level ∧ Matches patterns levels)

instance [DecidableEq α] (pattern level : List α) : Decidable (LevelMatches single pattern level) :=
  inferInstanceAs (Decidable (_ ∨ _))

instance decidableMatches [DecidableEq α] : (patterns levels : List (List α)) →
    Decidable (Matches single multi patterns levels)
  | [], _ => inferInstanceAs (Decidable (_ = _))
  | _ :: _, [] => inferInstanceAs (Decidable (_ ∧ _))
  | _ :: patterns, _ :: levels =>
      have := decidableMatches patterns levels
      inferInstanceAs (Decidable (_ ∨ _ ∧ _))

/-! ## Well-formed filters -/

/-- A level that is the single-level wildcard or holds no wildcard. -/
def PlainLevel (pattern : List α) : Prop := pattern = [single] ∨ (single ∉ pattern ∧ multi ∉ pattern)

/-- The single-level wildcard stands only as a whole level and the multi-level
wildcard only as the whole last level. -/
def WellFormed : List (List α) → Prop
  | [] => False
  | [pattern] => PlainLevel single multi pattern ∨ pattern = [multi]
  | pattern :: next :: rest => PlainLevel single multi pattern ∧ WellFormed (next :: rest)

variable {single multi}

theorem WellFormed.tail {pattern : List α} {patterns : List (List α)}
    (wellFormed : WellFormed single multi (pattern :: patterns)) (more : patterns ≠ []) :
    PlainLevel single multi pattern ∧ WellFormed single multi patterns := by
  obtain ⟨next, rest, rfl⟩ := List.exists_cons_of_ne_nil more
  exact wellFormed

/-- A pattern that matches a level without wildcards is plain. -/
theorem LevelMatches.eq_of_ne {pattern level : List α}
    (matched : LevelMatches single pattern level) (notWildcard : pattern ≠ [single]) :
    pattern = level :=
  matched.resolve_left notWildcard

/-! ## Texts and levels -/

variable [DecidableEq α]

/-- No level of a text contains the separator. -/
theorem not_mem_of_mem_splitOn {text level : List α} (isLevel : level ∈ text.splitOn separator) :
    separator ∉ level := by
  induction text generalizing level with
  | nil =>
      obtain rfl := by simpa using isLevel
      simp
  | cons symbol rest inductionHypothesis =>
      obtain ⟨first, others, split⟩ :=
        List.exists_cons_of_ne_nil (List.splitOn_ne_nil separator rest)
      rw [split] at inductionHypothesis
      rw [List.splitOn_cons_eq_if_modifyHead, split] at isLevel
      by_cases isSeparator : symbol = separator
      · simp only [isSeparator, beq_self_eq_true, if_true, List.mem_cons] at isLevel
        rcases isLevel with rfl | among
        · simp
        · exact inductionHypothesis (List.mem_cons.mpr among)
      · simp only [beq_eq_false_iff_ne.mpr isSeparator, Bool.false_eq_true, if_false,
          List.modifyHead_cons, List.mem_cons] at isLevel
        rcases isLevel with rfl | among
        · simp only [List.mem_cons, not_or]
          exact ⟨fun same => isSeparator same.symm, inductionHypothesis (List.mem_cons_self ..)⟩
        · exact inductionHypothesis (List.mem_cons_of_mem _ among)

end UIoT.TopicFilter
