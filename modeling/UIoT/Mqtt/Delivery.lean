import UIoT.Mqtt.Handlers

/-!
# Which handler a message reaches

The test of a slot agrees with the reference matching of filters and names
except on the pairs of `Misjudged` (`topicPasses_iff`). A message is given to
the first slot whose test passes and whose handler is set, so the handler of a
slot runs as its filter says when no earlier slot takes the message and the
pair is not misjudged (`deliverMessage_runs_handler_iff`).
-/

set_option autoImplicit false

namespace UIoT.Mqtt

open TopicFilter

/-! ## Filters and names as texts -/

/-- A filter text: not empty, and well formed level by level. -/
structure WellFormedFilter (filter : CString) : Prop where
  nonempty : filter ≠ []
  noNul : 0 ∉ filter
  levels : WellFormed plus hash (filter.splitOn slash)

/-- The reference: the filter matches the name level by level. -/
def TopicMatches (filter name : CString) : Prop :=
  FilterMatches (filter.splitOn slash) (name.splitOn slash)

instance (filter name : CString) : Decidable (TopicMatches filter name) :=
  decidableMatches plus hash _ _

/-- The pairs on which the test differs from the reference. The last kind has
an empty name, and `before` is the byte in front of it in memory. -/
def Misjudged (before : UInt8) (filter name : CString) : Prop :=
  HashAfterPrefix (filter.splitOn slash) (name.splitOn slash) ∨
    PlusAtEnd before (filter.splitOn slash) (name.splitOn slash) ∨
    MissedEmpty before (filter.splitOn slash) (name.splitOn slash)

theorem isTopicMatched_text {filter : CString} (wellFormed : WellFormedFilter filter)
    (name : CString) (before : UInt8) :
    isTopicMatched filter name before = true ↔
      Accepts before (filter.splitOn slash) (name.splitOn slash) := by
  have scanned := isTopicMatched_iff before wellFormed.levels
    (fun _ => not_mem_of_mem_splitOn) (List.splitOn_ne_nil slash name) (fun _ => not_mem_of_mem_splitOn)
  rwa [joinLevels, joinLevels, List.intercalate_splitOn, List.intercalate_splitOn] at scanned

/-- A name matches a filter that is equal to it. -/
theorem matches_self {levels : List CString} : FilterMatches levels levels := by
  induction levels with
  | nil => rfl
  | cons level levels inductionHypothesis => exact .inr ⟨.inr rfl, inductionHypothesis⟩

theorem accepts_iff_matches_iff (before : UInt8) (patterns levels : List CString) :
    (Accepts before patterns levels ↔ FilterMatches patterns levels) ↔
      ¬(HashAfterPrefix patterns levels ∨ PlusAtEnd before patterns levels ∨
        MissedEmpty before patterns levels) := by
  have missedMatches : MissedEmpty before patterns levels → FilterMatches patterns levels := by
    rintro ⟨rfl, -, rfl | rfl⟩ <;> decide
  have afterPrefix : HashAfterPrefix patterns levels → ¬FilterMatches patterns levels :=
    HashAfterPrefix.not_matches
  have atEnd : PlusAtEnd before patterns levels → ¬FilterMatches patterns levels :=
    PlusAtEnd.not_matches
  unfold Accepts
  tauto

theorem cString_append_nul {name after : List UInt8} (noNul : 0 ∉ name) :
    cString (name ++ 0 :: after) = name := by
  induction name with
  | nil => rfl
  | cons c name inductionHypothesis =>
      simp only [List.mem_cons, not_or] at noNul
      have nonzero : decide (c ≠ 0) = true := by simpa using Ne.symm noNul.1
      rw [cString, List.cons_append, List.takeWhile_cons, if_pos nonzero]
      exact congrArg _ (inductionHypothesis noNul.2)

/-- The test of a slot is right exactly on the pairs that are not misjudged. -/
theorem topicPasses_iff {filter name : CString} (wellFormed : WellFormedFilter filter)
    (noNul : 0 ∉ name) (after : List UInt8) (before : UInt8) :
    (topicPasses filter (name ++ 0 :: after) name.length before = true ↔
      TopicMatches filter name) ↔ ¬Misjudged before filter name := by
  have equalAccepted : isTopicEquals name filter = true →
      isTopicMatched filter name before = true := by
    intro equal
    obtain rfl : name = filter := by
      simp only [isTopicEquals, Bool.and_eq_true, decide_eq_true_eq] at equal
      exact equal.2
    rw [isTopicMatched_text wellFormed]
    refine .inl ⟨matches_self, ?_⟩
    rintro ⟨empty, -, isPlus | isPlus⟩
    · rw [empty] at isPlus
      exact absurd isPlus (by decide)
    · rw [empty] at isPlus
      exact absurd isPlus (by decide)
  have passes : topicPasses filter (name ++ 0 :: after) name.length before = true ↔
      Accepts before (filter.splitOn slash) (name.splitOn slash) := by
    rw [topicPasses, cString_append_nul noNul, List.take_left, Bool.or_eq_true,
      ← isTopicMatched_text wellFormed]
    exact ⟨fun either => either.elim equalAccepted id, .inr⟩
  rw [passes]
  exact accepts_iff_matches_iff before _ _

/-! ## The slots in order -/

section Deliver

variable {client : Client} {memory : List UInt8} {len : Nat} {before : UInt8}

/-- Slot `i` takes the message and no slot before it does. -/
def FirstToTake (client : Client) (memory : List UInt8) (len : Nat) (before : UInt8)
    (i : Fin maxSubTopics) : Prop :=
  takes memory len before (client.subHandles.get i) = true ∧
    ¬∃ j : Fin maxSubTopics, j < i ∧ takes memory len before (client.subHandles.get j) = true

theorem firstToTake_iff_findIdx? (i : Fin maxSubTopics) :
    FirstToTake client memory len before i ↔
      client.subHandles.toList.findIdx? (takes memory len before) = some (i : Nat) := by
  rw [List.findIdx?_eq_some_iff_getElem]
  constructor
  · rintro ⟨taken, first⟩
    refine ⟨by simp, by simpa using taken, fun j isLess => ?_⟩
    have notTaken : ¬takes memory len before client.subHandles[j] = true := fun earlier =>
      first ⟨⟨j, isLess.trans i.isLt⟩, isLess, earlier⟩
    simpa using notTaken
  · rintro ⟨inRange, taken, first⟩
    refine ⟨by simpa using taken, ?_⟩
    rintro ⟨j, isLess, earlier⟩
    have notTaken := first j isLess
    simp only [Vector.getElem_toList] at notTaken
    exact notTaken earlier

/-- The handler that is called is that of the first slot to take the message. -/
theorem delivered_mem_deliverMessage_iff (client : Client) (memory : List UInt8) (len : Nat)
    (message : Message) (before : UInt8) (i : Fin maxSubTopics) {handler : Nat}
    (isSet : (client.subHandles.get i).messageHandler = some handler) :
    Output.delivered i handler (client.subHandles.get i).messageHandlerData
        { message with topic := memory.take len } ∈
          (deliverMessage client memory len message before).outputs ↔
      FirstToTake client memory len before i := by
  rw [firstToTake_iff_findIdx?]
  simp only [deliverMessage]
  cases result : client.subHandles.toList.findIdx? (takes memory len before) with
  | none =>
      refine iff_of_false ?_ (by simp)
      by_cases hears : client.eventHandler <;> simp [hears]
  | some j =>
      simp only [List.mem_singleton, Output.delivered.injEq, Option.some.injEq]
      constructor
      · exact fun same => same.1.symm
      · rintro rfl
        have slot : client.subHandles.toList.getD i SubTopicHandle.zero = client.subHandles.get i := by
          simp [List.getD_eq_getElem?_getD]
        rw [slot, isSet]
        exact ⟨rfl, rfl, rfl, trivial⟩

end Deliver

/-! ## The handler of a slot -/

/-- The handler of a slot runs as the filter says exactly when the pair is not
misjudged, or when an earlier slot takes a message the filter does not match. -/
theorem deliverMessage_runs_handler_iff (client : Client) (i : Fin maxSubTopics)
    (filter : CString) (handler : Nat) (name after : List UInt8) (message : Message)
    (before : UInt8) (holds : (client.subHandles.get i).topicFilter = some filter)
    (isSet : (client.subHandles.get i).messageHandler = some handler)
    (wellFormed : WellFormedFilter filter) (noNul : 0 ∉ name) :
    let memory := name ++ 0 :: after
    let delivered := deliverMessage client memory name.length message before
    let taken := ∃ j : Fin maxSubTopics,
      j < i ∧ takes memory name.length before (client.subHandles.get j) = true
    ((topicPasses filter memory name.length before = true ↔ TopicMatches filter name) ↔
        ¬Misjudged before filter name) ∧
      ((Output.delivered i handler (client.subHandles.get i).messageHandlerData
            { message with topic := name } ∈ delivered.outputs ↔ TopicMatches filter name) ↔
        (¬taken ∧ ¬Misjudged before filter name) ∨ (taken ∧ ¬TopicMatches filter name)) := by
  intro memory delivered taken
  have judged := topicPasses_iff wellFormed noNul after before
  refine ⟨judged, ?_⟩
  have isName : memory.take name.length = name := List.take_left
  have runs := delivered_mem_deliverMessage_iff client memory name.length message before i isSet
  rw [isName] at runs
  have takesIff : takes memory name.length before (client.subHandles.get i) = true ↔
      topicPasses filter memory name.length before = true := by
    rw [takes, holds]
    simp only [isSet, Option.isSome_some, Bool.and_true]
  have ran := runs.trans (and_congr takesIff Iff.rfl)
  rw [ran]
  by_cases earlier : taken
  · have notFirst : ¬(topicPasses filter memory name.length before = true ∧ ¬taken) :=
      fun first => first.2 earlier
    simp only [earlier, not_true_eq_false, false_and, true_and, false_or]
    exact ⟨fun agree isMatch => notFirst ⟨(agree.mpr isMatch).1, (agree.mpr isMatch).2⟩,
      fun noMatch => iff_of_false (fun first => first.2 earlier) noMatch⟩
  · have first : topicPasses filter memory name.length before = true ∧ ¬taken ↔
        topicPasses filter memory name.length before = true := and_iff_left earlier
    rw [first]
    simp only [earlier, not_false_eq_true, true_and, false_and, or_false]
    exact judged

/-- A client whose first slot holds a filter and a handler. -/
def clientWithFilter (filter : CString) : Client :=
  let slot : SubTopicHandle := ⟨some filter, some 1, 0, .qos1⟩
  { uiotMqttInit ⟨2000, true⟩ with
    subHandles := (Vector.replicate maxSubTopics SubTopicHandle.zero).set 0 slot }

/-- The filter `a/+` and the name `a/b`. -/
theorem deliverMessage_runs_handler_plus :
    let message : Message := ⟨0, 0, 0, none, [], []⟩
    let filter : CString := [0x61, slash, plus]
    let name : CString := [0x61, slash, 0x62]
    let client := clientWithFilter filter
    let delivered := deliverMessage client (name ++ [0]) 3 message 0
    let taken := ∃ j : Fin maxSubTopics,
      j < 0 ∧ takes (name ++ [0]) 3 0 (client.subHandles.get j) = true
    ((topicPasses filter (name ++ [0]) 3 0 = true ↔ TopicMatches filter name) ↔
        ¬Misjudged 0 filter name) ∧
      ((Output.delivered 0 1 0 { message with topic := name } ∈ delivered.outputs ↔
          TopicMatches filter name) ↔
        (¬taken ∧ ¬Misjudged 0 filter name) ∨ (taken ∧ ¬TopicMatches filter name)) :=
  deliverMessage_runs_handler_iff (clientWithFilter [0x61, slash, plus]) 0 _ 1
    [0x61, slash, 0x62] [] _ 0 rfl rfl
    ⟨by decide, by decide, .inr ⟨by decide, by decide⟩, .inl (.inl rfl)⟩ (by decide)

/-- The filter `a/#` takes a message on `ab`, which it does not match. -/
theorem deliverMessage_sibling_topic :
    let message : Message := ⟨0, 0, 0, none, [], []⟩
    let filter : CString := [0x61, slash, hash]
    let name : CString := [0x61, 0x62]
    let delivered := deliverMessage (clientWithFilter filter) (name ++ [0]) 2 message 0
    WellFormedFilter filter ∧
      Output.delivered 0 1 0 { message with topic := name } ∈ delivered.outputs ∧
      ¬TopicMatches filter name :=
  ⟨⟨by decide, by decide, .inr ⟨by decide, by decide⟩, .inr rfl⟩, by decide, by decide⟩

end UIoT.Mqtt
