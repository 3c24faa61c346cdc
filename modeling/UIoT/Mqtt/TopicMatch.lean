import UIoT.Lib.TopicFilter

/-!
# Matching a topic name against a filter

`_is_topic_matched` moves one cursor over the filter and one over the name. Its
cursors are the rests of the two strings here, with the byte in front of the
name's cursor, which the last test reads.

The scan is followed level by level: a literal level (`isTopicMatched_literal`),
a separator, a `+`, and the last level. It accepts every name the reference
relation accepts, except that an empty name makes it read the byte in front of
the name, and it accepts too much in two cases: the name goes on after the last
literal level in front of `/#` (`HashAfterPrefix`), and the name ends with an
empty level where the filter has a `+` that is followed by more than `/#`
(`PlusAtEnd`). `isTopicMatched_iff` says that these are all.
-/

set_option autoImplicit false

namespace UIoT.Mqtt

open TopicFilter

/-- The bytes of a C string in front of its terminator. -/
abbrev CString := List UInt8

abbrev slash : UInt8 := 0x2F
abbrev plus : UInt8 := 0x2B
abbrev hash : UInt8 := 0x23

theorem plus_ne_slash : plus ≠ slash := by decide
theorem hash_ne_slash : hash ≠ slash := by decide
theorem hash_ne_plus : hash ≠ plus := by decide

/-- The C string at the start of some memory. -/
def cString (memory : List UInt8) : CString := memory.takeWhile (· ≠ 0)

/-! ## The functions -/

/-- `_is_topic_equals` -/
def isTopicEquals (topicFilter topicName : CString) : Bool :=
  topicFilter.length = topicName.length && topicFilter = topicName

/-- The inner loop for `+`: it moves to the last byte of the level, which is
returned with what follows it. -/
def skipLevel : UInt8 → List UInt8 → UInt8 × List UInt8
  | last, [] => (last, [])
  | last, next :: rest => if next ≠ slash then skipLevel next rest else (last, next :: rest)

/-- The `while` loop of `_is_topic_matched`: the rests of the filter and of the
name where it stops, and the byte in front of the latter. -/
def topicScan : List UInt8 → List UInt8 → UInt8 → List UInt8 × List UInt8 × UInt8
  | [], curn, before => ([], curn, before)
  | f :: curf, [], before => (f :: curf, [], before)
  | f :: curf, n :: curn, before =>
      if f = plus ∧ n = slash then topicScan curf (n :: curn) before
      else if n = slash ∧ f ≠ slash then (f :: curf, n :: curn, before)
      else if f ≠ plus ∧ f ≠ hash ∧ f ≠ n then (f :: curf, n :: curn, before)
      else if f = plus then
        let (last, rest) := skipLevel n curn
        topicScan curf rest last
      else if f = hash then topicScan curf [] ((n :: curn).getLast (by simp))
      else topicScan curf curn n

/-- What `_is_topic_matched` returns where the loop has stopped. -/
def topicScanResult : List UInt8 × List UInt8 × UInt8 → Bool
  | ([], curn, _) => curn = []
  | (f :: curf, _, before) =>
      f = hash || curf.headD 0 = hash || (f = plus && before = slash)

/-- `_is_topic_matched`, where `before` is the byte in front of the name in
memory. -/
def isTopicMatched (topicFilter topicName : List UInt8) (before : UInt8) : Bool :=
  topicScanResult (topicScan topicFilter topicName before)

/-! ## The scan, piece by piece -/

section Scan

variable {f n : UInt8} {curf curn : List UInt8} {before : UInt8}

@[simp] theorem isTopicMatched_nil : isTopicMatched [] curn before = decide (curn = []) := rfl

@[simp] theorem isTopicMatched_cons_nil : isTopicMatched (f :: curf) [] before =
    (f = hash || curf.headD 0 = hash || (f = plus && before = slash)) := rfl

/-- An equal byte other than a wildcard is passed. -/
theorem isTopicMatched_same (notPlus : n ≠ plus) (notHash : n ≠ hash) :
    isTopicMatched (n :: curf) (n :: curn) before = isTopicMatched curf curn n := by
  simp [isTopicMatched, topicScan, notPlus, notHash]

/-- A different byte stops the scan at a byte other than a wildcard. -/
theorem isTopicMatched_differ (notPlus : f ≠ plus) (notHash : f ≠ hash) (differ : f ≠ n) :
    isTopicMatched (f :: curf) (n :: curn) before = decide (curf.headD 0 = hash) := by
  by_cases isSlash : n = slash
  · subst isSlash
    simp [isTopicMatched, topicScan, topicScanResult, notPlus, notHash, differ]
  · simp [isTopicMatched, topicScan, topicScanResult, notPlus, notHash, differ, isSlash]

theorem isTopicMatched_hash : isTopicMatched [hash] curn before = true := by
  cases curn with
  | nil => rfl
  | cons n curn =>
      by_cases isSlash : n = slash
      · simp [isTopicMatched, topicScan, topicScanResult, isSlash, hash_ne_plus, hash_ne_slash]
      · simp [isTopicMatched, topicScan, topicScanResult, isSlash, hash_ne_plus]

/-- A `+` passes an empty level. -/
theorem isTopicMatched_plus_slash (curf curn : List UInt8) (before : UInt8) :
    isTopicMatched (plus :: curf) (slash :: curn) before =
      isTopicMatched curf (slash :: curn) before := by
  simp [isTopicMatched, topicScan]

/-- The skip loop stops at the next separator. -/
theorem skipLevel_append (n : UInt8) {level : List UInt8} (inLevel : slash ∉ level)
    (atEnd : curn = [] ∨ ∃ rest, curn = slash :: rest) :
    (skipLevel n (level ++ curn)).2 = curn := by
  induction level generalizing n with
  | nil =>
      rcases atEnd with rfl | ⟨rest, rfl⟩
      · rfl
      · simp [skipLevel]
  | cons next level inductionHypothesis =>
      simp only [List.mem_cons, not_or] at inLevel
      rw [List.cons_append, skipLevel, if_pos (Ne.symm inLevel.1)]
      exact inductionHypothesis _ inLevel.2

/-- A `+` passes a level that is not empty. -/
theorem isTopicMatched_plus (curf : List UInt8) (before : UInt8) {level : List UInt8}
    (nonempty : level ≠ []) (inLevel : slash ∉ level)
    (atEnd : curn = [] ∨ ∃ rest, curn = slash :: rest) :
    ∃ last, isTopicMatched (plus :: curf) (level ++ curn) before = isTopicMatched curf curn last := by
  obtain ⟨n, level, rfl⟩ := List.exists_cons_of_ne_nil nonempty
  simp only [List.mem_cons, not_or] at inLevel
  refine ⟨(skipLevel n (level ++ curn)).1, ?_⟩
  have stops := skipLevel_append n inLevel.2 atEnd
  simp [isTopicMatched, topicScan, Ne.symm inLevel.1, stops]

/-- An equal stretch without wildcards is passed. -/
theorem isTopicMatched_literal (curf curn : List UInt8) (before : UInt8) {literal : List UInt8}
    (noPlus : plus ∉ literal)
    (noHash : hash ∉ literal) :
    ∃ last, isTopicMatched (literal ++ curf) (literal ++ curn) before =
      isTopicMatched curf curn last := by
  induction literal generalizing before with
  | nil => exact ⟨before, rfl⟩
  | cons c literal inductionHypothesis =>
      simp only [List.mem_cons, not_or] at noPlus noHash
      obtain ⟨last, same⟩ := inductionHypothesis c noPlus.2 noHash.2
      refine ⟨last, ?_⟩
      rw [List.cons_append, List.cons_append,
        isTopicMatched_same (Ne.symm noPlus.1) (Ne.symm noHash.1), same]

/-- A stretch without wildcards that the name leaves stops the scan. -/
theorem isTopicMatched_leaves {same more tail : List UInt8} {c : UInt8}
    (noPlus : plus ∉ same ++ c :: more) (noHash : hash ∉ same ++ c :: more)
    (differs : ∀ d ∈ curn.head?, c ≠ d) (tailEnds : tail.head? ≠ some hash) :
    isTopicMatched (same ++ (c :: more) ++ tail) (same ++ curn) before = false := by
  simp only [List.mem_append, List.mem_cons, not_or] at noPlus noHash
  have noHashNext : (more ++ tail).headD 0 ≠ hash := by
    cases more with
    | nil =>
        cases tail with
        | nil => decide
        | cons next tail => simpa using tailEnds
    | cons next more =>
        intro isHash
        exact noHash.2.2 (isHash ▸ List.mem_cons_self ..)
  obtain ⟨last, passed⟩ := isTopicMatched_literal (c :: (more ++ tail)) curn before noPlus.1
    noHash.1
  rw [List.append_assoc, List.cons_append]
  cases curn with
  | nil =>
      rw [List.append_nil] at passed ⊢
      rw [passed, isTopicMatched_cons_nil, decide_eq_false noHashNext]
      simp [Ne.symm noHash.2.1, Ne.symm noPlus.2.1]
  | cons d curn =>
      rw [passed, isTopicMatched_differ (Ne.symm noPlus.2.1) (Ne.symm noHash.2.1)
        (differs d (by simp))]
      simpa using noHashNext

end Scan

/-! ## The scan, level by level -/

/-- The name goes on after the last literal level in front of `/#`. -/
inductive HashAfterPrefix : List CString → List CString → Prop where
  | last {literal extra : CString} {below : List CString} (notPlus : literal ≠ [plus])
      (more : extra ≠ []) : HashAfterPrefix [literal, [hash]] ((literal ++ extra) :: below)
  | level {pattern level : CString} {patterns levels : List CString}
      (matched : LevelMatches plus pattern level) (later : HashAfterPrefix patterns levels) :
      HashAfterPrefix (pattern :: patterns) (level :: levels)

/-- The name ends with an empty level where the filter has a `+` followed by
more levels than a `#`; the byte in front of that empty level is a separator,
which is a condition on `before` for the first level only. -/
inductive PlusAtEnd : UInt8 → List CString → List CString → Prop where
  | last {before : UInt8} {patterns : List CString} (separated : before = slash)
      (more : patterns ≠ []) (notHash : patterns ≠ [[hash]]) :
      PlusAtEnd before ([plus] :: patterns) [[]]
  | level {before : UInt8} {pattern level : CString} {patterns levels : List CString}
      (matched : LevelMatches plus pattern level) (later : PlusAtEnd slash patterns levels) :
      PlusAtEnd before (pattern :: patterns) (level :: levels)

/-- An empty name, that a filter `+` or `+/#` matches, behind a byte other than
a separator. -/
def MissedEmpty (before : UInt8) (patterns levels : List CString) : Prop :=
  levels = [[]] ∧ before ≠ slash ∧ (patterns = [[plus]] ∨ patterns = [[plus], [hash]])

/-- The names a filter matches, by levels. -/
abbrev FilterMatches (patterns levels : List CString) : Prop := Matches plus hash patterns levels

theorem HashAfterPrefix.not_matches {patterns levels : List CString}
    (defect : HashAfterPrefix patterns levels) : ¬FilterMatches patterns levels := by
  induction defect with
  | last notPlus more =>
      rintro (⟨-, empty⟩ | ⟨isPlus | same, -⟩)
      · cases empty
      · exact notPlus isPlus
      · exact more (List.append_right_eq_self.mp same.symm)
  | level matched later inductionHypothesis =>
      rintro (⟨-, rfl⟩ | ⟨-, rest⟩)
      · cases later
      · exact inductionHypothesis rest

theorem PlusAtEnd.not_matches {before : UInt8} {patterns levels : List CString}
    (defect : PlusAtEnd before patterns levels) : ¬FilterMatches patterns levels := by
  induction defect with
  | @last before patterns separated more notHash =>
      rintro (⟨-, empty⟩ | ⟨-, rest⟩)
      · exact more empty
      · cases patterns with
        | nil => exact more rfl
        | cons pattern patterns =>
            obtain ⟨rfl, rfl⟩ := rest
            exact notHash rfl
  | level matched later inductionHypothesis =>
      rintro (⟨-, rfl⟩ | ⟨-, rest⟩)
      · cases later
      · exact inductionHypothesis rest

/-- What the scan accepts. -/
def Accepts (before : UInt8) (patterns levels : List CString) : Prop :=
  (FilterMatches patterns levels ∧ ¬MissedEmpty before patterns levels) ∨
    HashAfterPrefix patterns levels ∨ PlusAtEnd before patterns levels

section Accepts

variable {before : UInt8} {pattern level : CString} {patterns levels : List CString}

theorem accepts_hash : Accepts before [[hash]] (level :: levels) := by
  refine .inl ⟨.inl ⟨rfl, rfl⟩, ?_⟩
  rintro ⟨-, -, same | same⟩
  · exact absurd same (by decide)
  · exact absurd same (by decide)

/-- The last level of the filter. -/
theorem accepts_singleton (notHash : pattern ≠ [hash]) :
    Accepts before [pattern] (level :: levels) ↔
      LevelMatches plus pattern level ∧ levels = [] ∧
        ¬(pattern = [plus] ∧ level = [] ∧ before ≠ slash) := by
  have noPrefix : ¬HashAfterPrefix [pattern] (level :: levels) := by
    rintro (_ | ⟨_, later⟩)
    cases later
  have noPlus : ¬PlusAtEnd before [pattern] (level :: levels) := by
    rintro (⟨_, more, _⟩ | ⟨_, later⟩)
    · exact more rfl
    · cases later
  simp only [Accepts, noPrefix, noPlus, or_false, FilterMatches, Matches, notHash, false_and,
    false_or, MissedEmpty]
  grind

/-- A level of the filter that is not the last, with the last level of the name. -/
theorem accepts_end (notHash : pattern ≠ [hash]) (more : patterns ≠ [])
    (matched : LevelMatches plus pattern level) :
    Accepts before (pattern :: patterns) [level] ↔
      if pattern = [plus] ∧ level = [] then before = slash else patterns = [[hash]] := by
  have noPrefix : ¬HashAfterPrefix (pattern :: patterns) [level] := by
    intro defect
    cases defect with
    | last notPlus extra =>
        exact extra (List.append_right_eq_self.mp (matched.eq_of_ne notPlus).symm)
    | level matched later => cases later
  have atEnd : PlusAtEnd before (pattern :: patterns) [level] ↔
      (pattern = [plus] ∧ level = []) ∧ before = slash ∧ patterns ≠ [[hash]] := by
    constructor
    · intro defect
      cases defect with
      | last separated more notHash => exact ⟨⟨rfl, rfl⟩, separated, notHash⟩
      | level matched later => cases later
    · rintro ⟨⟨rfl, rfl⟩, separated, notHash⟩
      exact .last separated more notHash
  have endMatches : Matches plus hash patterns [] ↔ patterns = [[hash]] := by
    cases patterns with
    | nil => exact absurd rfl more
    | cons next rest => simp [Matches]
  simp only [Accepts, noPrefix, atEnd, false_or, FilterMatches, Matches, notHash, false_and,
    endMatches, MissedEmpty, matched, true_and]
  grind

/-- A level of the filter that is not the last, with a level of the name that is
not the last. -/
theorem accepts_cons (more : patterns ≠ []) (moreLevels : levels ≠ [])
    (matched : LevelMatches plus pattern level) :
    Accepts before (pattern :: patterns) (level :: levels) ↔ Accepts slash patterns levels := by
  have later : HashAfterPrefix (pattern :: patterns) (level :: levels) ↔
      HashAfterPrefix patterns levels := by
    refine ⟨fun defect => ?_, .level matched⟩
    cases defect with
    | last notPlus extra =>
        exact absurd (List.append_right_eq_self.mp (matched.eq_of_ne notPlus).symm) extra
    | level matched later => exact later
  have atEnd : PlusAtEnd before (pattern :: patterns) (level :: levels) ↔
      PlusAtEnd slash patterns levels := by
    refine ⟨fun defect => ?_, .level matched⟩
    cases defect with
    | last => exact absurd rfl moreLevels
    | level matched later => exact later
  simp only [Accepts, later, atEnd, FilterMatches, Matches, more, and_false, false_or, matched,
    true_and, MissedEmpty, ne_eq, not_true, false_and, not_false_eq_true, and_true]
  grind

/-- A level of the name that the filter's level does not match. -/
theorem accepts_differ (notHash : pattern ≠ [hash]) (differ : ¬LevelMatches plus pattern level) :
    Accepts before (pattern :: patterns) (level :: levels) ↔
      patterns = [[hash]] ∧ ∃ extra, extra ≠ [] ∧ level = pattern ++ extra := by
  have afterPrefix : HashAfterPrefix (pattern :: patterns) (level :: levels) ↔
      patterns = [[hash]] ∧ ∃ extra, extra ≠ [] ∧ level = pattern ++ extra := by
    constructor
    · intro defect
      cases defect with
      | last notPlus more => exact ⟨rfl, _, more, rfl⟩
      | level matched later => exact absurd matched differ
    · rintro ⟨rfl, extra, more, rfl⟩
      exact .last (fun isPlus => differ (.inl isPlus)) more
  have noPlus : ¬PlusAtEnd before (pattern :: patterns) (level :: levels) := by
    intro defect
    cases defect with
    | last => exact differ (.inl rfl)
    | level matched later => exact differ matched
  simp only [Accepts, afterPrefix, noPlus, or_false, FilterMatches, Matches, notHash, false_and,
    differ, false_or]

end Accepts

/-! ## The scan accepts what `Accepts` says -/

/-- A topic or filter, from its levels. -/
abbrev joinLevels (levels : List CString) : CString := [slash].intercalate levels

/-- The rest of a filter or a name behind its first level. -/
def behind (rest : List CString) : CString :=
  if rest = [] then [] else slash :: joinLevels rest

@[simp] theorem behind_nil : behind [] = [] := rfl

theorem behind_of_ne_nil {rest : List CString} (more : rest ≠ []) :
    behind rest = slash :: joinLevels rest :=
  if_neg more

theorem behind_eq_nil_or (rest : List CString) :
    behind rest = [] ∨ ∃ more, behind rest = slash :: more := by
  by_cases empty : rest = []
  · exact .inl (if_pos empty)
  · exact .inr ⟨_, if_neg empty⟩

theorem behind_head_ne_hash (rest : List CString) : (behind rest).head? ≠ some hash := by
  rcases behind_eq_nil_or rest with none | ⟨more, some⟩
  · simp [none]
  · simp [some, Ne.symm hash_ne_slash]

theorem joinLevels_cons (level : CString) (levels : List CString) :
    joinLevels (level :: levels) = level ++ behind levels := by
  cases levels with
  | nil => simp
  | cons next rest => simp [behind]

/-- Two texts run along each other and then part, or one of them ends. -/
theorem common_prefix_cases (left right : CString) :
    (∃ extra, right = left ++ extra) ∨
      ∃ same c more after, left = same ++ c :: more ∧ right = same ++ after ∧
        ∀ d ∈ after.head?, c ≠ d := by
  induction left generalizing right with
  | nil => exact .inl ⟨right, rfl⟩
  | cons c left inductionHypothesis =>
      cases right with
      | nil => exact .inr ⟨[], c, left, [], rfl, rfl, by simp⟩
      | cons d right =>
          by_cases same : c = d
          · subst same
            rcases inductionHypothesis right with ⟨extra, rfl⟩ | ⟨shared, e, more, after, parts⟩
            · exact .inl ⟨extra, rfl⟩
            · obtain ⟨rfl, rfl, differs⟩ := parts
              exact .inr ⟨c :: shared, e, more, after, rfl, rfl, differs⟩
          · exact .inr ⟨[], c, left, d :: right, rfl, rfl, by simpa using same⟩

/-- The filter goes on with `#` only when that is its last level. -/
theorem joinLevels_headD_eq_hash {patterns : List CString} (more : patterns ≠ [])
    (wellFormed : WellFormed plus hash patterns) :
    (joinLevels patterns).headD 0 = hash ↔ patterns = [[hash]] := by
  obtain ⟨pattern, patterns, rfl⟩ := List.exists_cons_of_ne_nil more
  rw [joinLevels_cons]
  constructor
  · intro isHash
    have plainNot : ¬PlainLevel plus hash pattern := by
      rintro (rfl | ⟨-, noHash⟩)
      · exact absurd isHash (by simp [Ne.symm hash_ne_plus])
      · cases pattern with
        | nil =>
            have zero : hash ≠ 0 := by decide
            rcases behind_eq_nil_or patterns with none | ⟨rest, some⟩
            · exact zero (by simpa [none] using isHash.symm)
            · exact hash_ne_slash (by simpa [some] using isHash.symm)
        | cons c pattern =>
            have same : c = hash := by simpa using isHash
            exact noHash (same ▸ List.mem_cons_self ..)
    cases patterns with
    | nil => rw [wellFormed.resolve_left plainNot]
    | cons next rest => exact absurd wellFormed.1 plainNot
  · intro same
    obtain ⟨rfl, rfl⟩ := List.cons.inj same
    rfl

section OneLevel

variable {pattern level : CString} {patterns levels : List CString}

/-- Once the first levels have been passed, the scan decides whether the filter
accepts the name, if it accepts what follows a separator. -/
theorem isTopicMatched_behind (before last : UInt8) (notHash : pattern ≠ [hash])
    (matched : LevelMatches plus pattern level)
    (notEnd : ¬(pattern = [plus] ∧ level = [] ∧ levels = []))
    (wellFormed : patterns ≠ [] → WellFormed plus hash patterns)
    (later : patterns ≠ [] → levels ≠ [] →
      (isTopicMatched (joinLevels patterns) (joinLevels levels) slash = true ↔
        Accepts slash patterns levels)) :
    isTopicMatched (behind patterns) (behind levels) last = true ↔
      Accepts before (pattern :: patterns) (level :: levels) := by
  by_cases filterEnds : patterns = []
  · subst filterEnds
    rw [accepts_singleton notHash]
    by_cases nameEnds : levels = []
    · subst nameEnds
      simp only [behind_nil, isTopicMatched_nil, decide_true, matched, true_and, true_iff]
      grind
    · simp [behind_of_ne_nil nameEnds, nameEnds]
  · by_cases nameEnds : levels = []
    · subst nameEnds
      rw [accepts_end notHash filterEnds matched, if_neg (by simpa using notEnd),
        behind_of_ne_nil filterEnds, behind_nil, isTopicMatched_cons_nil,
        ← joinLevels_headD_eq_hash filterEnds (wellFormed filterEnds)]
      simp [Ne.symm hash_ne_slash, Ne.symm plus_ne_slash]
    · rw [accepts_cons filterEnds nameEnds matched, behind_of_ne_nil filterEnds,
        behind_of_ne_nil nameEnds,
        isTopicMatched_same (Ne.symm plus_ne_slash) (Ne.symm hash_ne_slash)]
      exact later filterEnds nameEnds

/-- A name that leaves the first, literal level of the filter. -/
theorem isTopicMatched_literal_differ (before : UInt8) (noPlus : plus ∉ pattern)
    (noHash : hash ∉ pattern) (differ : level ≠ pattern) (inLevel : slash ∉ pattern)
    (split : slash ∉ level) (wellFormed : patterns ≠ [] → WellFormed plus hash patterns) :
    isTopicMatched (pattern ++ behind patterns) (level ++ behind levels) before = true ↔
      patterns = [[hash]] ∧ ∃ extra, extra ≠ [] ∧ level = pattern ++ extra := by
  rcases common_prefix_cases pattern level with ⟨extra, rfl⟩ | ⟨same, c, more, after, parts⟩
  · have goesOn : extra ≠ [] := by
      rintro rfl
      exact differ (List.append_nil _)
    obtain ⟨last, passed⟩ := isTopicMatched_literal (behind patterns)
      (extra ++ behind levels) before noPlus noHash
    rw [List.append_assoc, passed]
    obtain ⟨e, extra, rfl⟩ := List.exists_cons_of_ne_nil goesOn
    by_cases filterEnds : patterns = []
    · simp [filterEnds]
    · have parts : slash ≠ e := by
        rintro rfl
        exact split (by simp)
      rw [behind_of_ne_nil filterEnds, List.cons_append,
        isTopicMatched_differ (Ne.symm plus_ne_slash) (Ne.symm hash_ne_slash) parts,
        decide_eq_true_iff, joinLevels_headD_eq_hash filterEnds (wellFormed filterEnds)]
      exact ⟨fun isHash => ⟨isHash, _, goesOn, rfl⟩, And.left⟩
  · obtain ⟨rfl, rfl, differs⟩ := parts
    have leaves : ∀ d ∈ (after ++ behind levels).head?, c ≠ d := by
      cases after with
      | nil =>
          intro d isHead
          rcases behind_eq_nil_or levels with none | ⟨rest, some⟩
          · simp [none] at isHead
          · obtain rfl : slash = d := by simpa [some] using isHead
            rintro rfl
            exact inLevel (by simp)
      | cons d after => simpa using differs
    rw [List.append_assoc same after,
      isTopicMatched_leaves noPlus noHash leaves (behind_head_ne_hash patterns)]
    refine iff_of_false (by simp) ?_
    rintro ⟨-, extra, -, same⟩
    rw [List.append_assoc, List.append_cancel_left_eq] at same
    exact differs c (by rw [same]; rfl) rfl

end OneLevel

/-- The scan of a well-formed filter accepts what `Accepts` says. -/
theorem isTopicMatched_iff {patterns levels : List CString} (before : UInt8)
    (wellFormed : WellFormed plus hash patterns) (patternsSplit : ∀ l ∈ patterns, slash ∉ l)
    (some : levels ≠ []) (levelsSplit : ∀ l ∈ levels, slash ∉ l) :
    isTopicMatched (joinLevels patterns) (joinLevels levels) before = true ↔
      Accepts before patterns levels := by
  induction patterns generalizing levels before with
  | nil => exact wellFormed.elim
  | cons pattern patterns inductionHypothesis =>
      obtain ⟨level, levels, rfl⟩ := List.exists_cons_of_ne_nil some
      simp only [List.mem_cons, forall_eq_or_imp] at patternsSplit levelsSplit
      have rest : patterns ≠ [] → WellFormed plus hash patterns :=
        fun more => (wellFormed.tail more).2
      have later : patterns ≠ [] → levels ≠ [] →
          (isTopicMatched (joinLevels patterns) (joinLevels levels) slash = true ↔
            Accepts slash patterns levels) :=
        fun more moreLevels =>
          inductionHypothesis slash (rest more) patternsSplit.2 moreLevels levelsSplit.2
      rw [joinLevels_cons, joinLevels_cons]
      by_cases isHash : pattern = [hash]
      · obtain rfl : patterns = [] := by
          by_contra more
          rcases (wellFormed.tail more).1 with isPlus | ⟨-, noHash⟩
          · exact absurd (isHash.symm.trans isPlus) (by decide)
          · exact noHash (isHash ▸ List.mem_singleton_self _)
        subst isHash
        simpa [isTopicMatched_hash] using accepts_hash
      · have plain : PlainLevel plus hash pattern := by
          by_cases more : patterns = []
          · subst more
            exact wellFormed.resolve_right isHash
          · exact (wellFormed.tail more).1
        rcases plain with rfl | ⟨noPlus, noHash⟩
        · by_cases empty : level = []
          · subst empty
            rw [List.nil_append]
            by_cases nameEnds : levels = []
            · subst nameEnds
              have plusNotHash : ¬plus = hash := by decide
              by_cases filterEnds : patterns = []
              · subst filterEnds
                have zeroNotHash : ¬(0 : UInt8) = hash := by decide
                rw [accepts_singleton isHash]
                simp [plusNotHash, zeroNotHash, LevelMatches]
              · rw [accepts_end isHash filterEnds (.inl rfl), if_pos ⟨rfl, rfl⟩,
                  behind_of_ne_nil filterEnds]
                simp [plusNotHash, Ne.symm hash_ne_slash]
            · have passed := isTopicMatched_plus_slash (behind patterns)
                (joinLevels levels) before
              rw [behind_of_ne_nil nameEnds, List.singleton_append, passed,
                ← behind_of_ne_nil nameEnds]
              exact isTopicMatched_behind before before isHash (.inl rfl)
                (fun atEnd => nameEnds atEnd.2.2) rest later
          · obtain ⟨last, passed⟩ := isTopicMatched_plus (behind patterns) before
              empty levelsSplit.1 (behind_eq_nil_or levels)
            rw [List.singleton_append, passed]
            exact isTopicMatched_behind before last isHash (.inl rfl)
              (fun atEnd => empty atEnd.2.1) rest later
        · by_cases same : level = pattern
          · subst same
            obtain ⟨last, passed⟩ := isTopicMatched_literal (behind patterns)
              (behind levels) before noPlus noHash
            rw [passed]
            refine isTopicMatched_behind before last isHash (.inr rfl) ?_ rest later
            rintro ⟨isPlus, -, -⟩
            exact noPlus (isPlus ▸ List.mem_singleton_self _)
          · have differ : ¬LevelMatches plus pattern level := by
              rintro (isPlus | equal)
              · exact noPlus (isPlus ▸ List.mem_singleton_self _)
              · exact same equal.symm
            rw [isTopicMatched_literal_differ before noPlus noHash same patternsSplit.1
              levelsSplit.1 rest, accepts_differ isHash differ]

end UIoT.Mqtt
