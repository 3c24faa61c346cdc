import UIoT.DevModel.Rendering

/-!
# Payloads that do not fit

The generators of lists count what is left of a buffer by the lengths that the texts
would have, and look at the count behind the loop. `CompleteRun` asks of a run of
`dm_gen_properties_payload` that each text is written with no more room than its
buffer has, and that a generator which succeeds has written the whole rendering. This
holds, whatever memory holds, when in each list that is reached nothing but the last
element goes beyond the buffer, the whole does not fill it to the byte, and there is an
element (`completeRun_of_fits`).
-/

set_option autoImplicit false

namespace UIoT.DevModel

open Utils
open Mqtt (CString)

/-! ## The property -/

/-- `HAL_Snprintf` is told no more room than is left behind an offset. -/
def SizeWithin (offset : Nat) (len : Int) : Prop :=
  0 ≤ len ∧ len ≤ dmMsgReportBufLen - (offset : Int)

/-- The call of a turn of the loop. -/
def ListState.SizeWithin (state : ListState) (loop : Nat) : Prop :=
  if loop = 0 then DevModel.SizeWithin 0 dmMsgReportBufLen
  else DevModel.SizeWithin state.output.text.length state.remainSize

/-- A generator that succeeds has written the whole of a text. -/
def Renders (run : Int × Buffer × Nat) (text : List UInt8) : Prop :=
  run.1 = successRet → run.2.1.text = text ∧ text.length < dmMsgReportBufLen

/-- What is asked of a call of a generator. -/
abbrev Check (α : Type) := α → Buffer → Nat → Prop

section Lists

variable {α : Type} (generate : Generator α) (check : Check α) (opening closing : List UInt8)

/-- Each turn of the loop that is reached meets what is asked. -/
def loopWithin (num : Nat) : List α → Nat → ListState → Prop
  | [], _, _ => True
  | element :: elements, loop, state =>
      check element state.payload state.allocs ∧
        ∀ payload allocs,
          generate element state.payload state.allocs = (successRet, payload, allocs) →
          ListState.SizeWithin { state with payload, allocs } loop ∧
            loopWithin num elements (loop + 1)
              (ListState.write opening closing num loop { state with payload, allocs })

/-- The calls of the generator of a list. -/
def listWithin (malloc : Malloc) (value : List α) (output : Buffer) (allocs : Nat) : Prop :=
  ∀ payload, malloc allocs = some payload →
    match value with
    | [element] =>
        check element payload (allocs + 1) ∧ DevModel.SizeWithin 0 dmMsgReportBufLen
    | value =>
        loopWithin generate check opening closing value.length value 0
          ⟨payload, output, 0, 0, allocs + 1⟩

end Lists

def checkNode (valueKey : Bool) : Check DMNode := fun dmNode nodePayload allocs =>
  SizeWithin 0 dmMsgReportBufLen ∧
    Renders ((dmGenNodePayload dmNode valueKey nodePayload).1,
      (dmGenNodePayload dmNode valueKey nodePayload).2, allocs) (renderNode valueKey dmNode)

def checkStruct (malloc : Malloc) (valueKey : Bool) : Check DMTypeStruct :=
  fun dmStruct structPayload allocs =>
    listWithin genElement (checkNode false) (keyOpening dmStruct.key valueKey ++ literal "\x7b")
        (literal "\x7d" ++ keyClosing dmStruct.key valueKey) malloc dmStruct.value structPayload
        allocs ∧
      Renders (dmGenStructPayload malloc dmStruct valueKey structPayload allocs)
        (renderStruct valueKey dmStruct)

def checkArrayBase (malloc : Malloc) (valueKey : Bool) : Check DMArrayBase :=
  fun dmArrayBase arrayBasePayload allocs =>
    listWithin genElement (checkNode false) (keyOpening (some dmArrayBase.key) valueKey ++ literal "[")
        (literal "]" ++ keyClosing (some dmArrayBase.key) valueKey) malloc dmArrayBase.value
        arrayBasePayload allocs ∧
      Renders (dmGenArrayBasePayload malloc dmArrayBase valueKey arrayBasePayload allocs)
        ((PropertyValue.arrayBase dmArrayBase).render valueKey)

def checkArrayStruct (malloc : Malloc) (valueKey : Bool) : Check DMArrayStruct :=
  fun dmArrayStruct arrayStructPayload allocs =>
    listWithin (fun dmStruct => dmGenStructPayload malloc dmStruct false) (checkStruct malloc false)
        (keyOpening (some dmArrayStruct.key) valueKey ++ literal "[")
        (literal "]" ++ keyClosing (some dmArrayStruct.key) valueKey) malloc dmArrayStruct.value
        arrayStructPayload allocs ∧
      Renders (dmGenArrayStructPayload malloc dmArrayStruct valueKey arrayStructPayload allocs)
        ((PropertyValue.arrayStruct dmArrayStruct).render valueKey)

/-- What a property is rendered to: there is nothing for a type that
`dm_gen_properties_payload` does not know. -/
def DMType.render (valueKey : Bool) (property : DMProperty) : DMType → Option (List UInt8)
  | .propertyPost => some (property.value.render valueKey)
  | .propertyDesiredGet => some (literal "\"" ++ property.value.keyText ++ literal "\"")
  | .propertyDesiredDelete =>
      some (literal "\"" ++ property.value.keyText ++ literal "\": \x7b\"version\": " ++
        formatInt property.desiredVer.toInt ++ literal "\x7d")
  | _ => none

def checkProperty (malloc : Malloc) (type : DMType) (valueKey : Bool) : Check DMProperty :=
  fun property payload allocs =>
    match type, property.value with
    | .propertyPost, .node dmNode => checkNode valueKey dmNode payload allocs
    | .propertyPost, .struct dmStruct => checkStruct malloc valueKey dmStruct payload allocs
    | .propertyPost, .arrayBase dmArrayBase =>
        checkArrayBase malloc valueKey dmArrayBase payload allocs
    | .propertyPost, .arrayStruct dmArrayStruct =>
        checkArrayStruct malloc valueKey dmArrayStruct payload allocs
    | type, _ =>
        SizeWithin 0 dmMsgReportBufLen ∧ ∃ text, type.render valueKey property = some text ∧
          Renders (genProperty malloc type valueKey property payload allocs) text

/-- The rendering of properties for a type. -/
def renderAs (type : DMType) (valueKey : Bool) (property : List DMProperty) : List UInt8 :=
  commaSeparated (property.map fun each => (type.render valueKey each).getD [])

/-- Each text of a run of `dm_gen_properties_payload` is written with no more room than
there is, and its generators render what they succeed on. -/
structure CompleteRun (malloc : Malloc) (property : List DMProperty) (type : DMType)
    (valueKey : Bool) (propertiesPayload : Buffer) : Prop where
  within : ∀ payload, malloc 0 = some payload →
    loopWithin (genProperty malloc type valueKey) (checkProperty malloc type valueKey) [] []
      property.length property 0 ⟨payload, propertiesPayload, 0, 0, 1⟩
  renders : (dmGenPropertiesPayload malloc property type valueKey propertiesPayload).1 = successRet →
    (dmGenPropertiesPayload malloc property type valueKey propertiesPayload).2.text =
        renderAs type valueKey property ∧
      (renderAs type valueKey property).length < dmMsgReportBufLen

/-! ## The condition -/

/-- What the elements of a list are rendered to, which of them can be written as asked
and which are refused. -/
structure Texts (α : Type) where
  textOf : α → List UInt8
  Fits : α → Prop
  Refused : α → Prop

section Condition

variable {α : Type} (texts : Texts α) (opening closing : List UInt8)

/-- The elements behind some text: unless one is refused, what is in front of each fits
into the buffer and the whole does not have its length. -/
def Texts.LoopFits : List UInt8 → List α → Prop
  | text, [] => text.length ≠ dmMsgReportBufLen
  | text, element :: elements =>
      texts.Fits element ∧ (¬texts.Refused element → text.length ≤ dmMsgReportBufLen ∧
        Texts.LoopFits (text ++ (literal ", " ++ texts.textOf element ++
          if elements = [] then closing else [])) elements)

/-- A list with an element, of which a single one must leave room. -/
def Texts.ListFits : List α → Prop
  | [] => False
  | [element] =>
      texts.Fits element ∧ (¬texts.Refused element →
        (opening ++ texts.textOf element ++ closing).length < dmMsgReportBufLen)
  | first :: elements =>
      texts.Fits first ∧ (¬texts.Refused first →
        texts.LoopFits closing (opening ++ texts.textOf first) elements)

/-- An element is refused, or the whole of several is too long. -/
def Texts.ListRefused : List α → Prop
  | [] => False
  | [element] => texts.Refused element
  | elements =>
      (∃ element ∈ elements, texts.Refused element) ∨
        dmMsgReportBufLen < (opening ++ commaSeparated (elements.map texts.textOf) ++ closing).length

end Condition

def nodes (wrapped : Bool) : Texts DMNode where
  textOf := renderNode wrapped
  Fits := fun _ => True
  Refused := fun dmNode => dmMsgReportBufLen ≤ (renderNode wrapped dmNode).length

def structs (wrapped : Bool) : Texts DMTypeStruct where
  textOf := renderStruct wrapped
  Fits := fun dmStruct =>
    (nodes false).ListFits (keyOpening dmStruct.key wrapped ++ literal "\x7b")
      (literal "\x7d" ++ keyClosing dmStruct.key wrapped) dmStruct.value
  Refused := fun dmStruct =>
    (nodes false).ListRefused (keyOpening dmStruct.key wrapped ++ literal "\x7b")
      (literal "\x7d" ++ keyClosing dmStruct.key wrapped) dmStruct.value

def PropertyValue.Fits (wrapped : Bool) : PropertyValue → Prop
  | .node dmNode => (nodes wrapped).Fits dmNode
  | .struct dmStruct => (structs wrapped).Fits dmStruct
  | .arrayBase dmArrayBase =>
      (nodes false).ListFits (keyOpening (some dmArrayBase.key) wrapped ++ literal "[")
        (literal "]" ++ keyClosing (some dmArrayBase.key) wrapped) dmArrayBase.value
  | .arrayStruct dmArrayStruct =>
      (structs false).ListFits (keyOpening (some dmArrayStruct.key) wrapped ++ literal "[")
        (literal "]" ++ keyClosing (some dmArrayStruct.key) wrapped) dmArrayStruct.value

def PropertyValue.Refused (wrapped : Bool) : PropertyValue → Prop
  | .node dmNode => (nodes wrapped).Refused dmNode
  | .struct dmStruct => (structs wrapped).Refused dmStruct
  | .arrayBase dmArrayBase =>
      (nodes false).ListRefused (keyOpening (some dmArrayBase.key) wrapped ++ literal "[")
        (literal "]" ++ keyClosing (some dmArrayBase.key) wrapped) dmArrayBase.value
  | .arrayStruct dmArrayStruct =>
      (structs false).ListRefused (keyOpening (some dmArrayStruct.key) wrapped ++ literal "[")
        (literal "]" ++ keyClosing (some dmArrayStruct.key) wrapped) dmArrayStruct.value

/-- The names of desired properties are never refused. -/
def properties (type : DMType) (wrapped : Bool) : Texts DMProperty where
  textOf := fun property => (type.render wrapped property).getD []
  Fits := fun property =>
    if type = .propertyPost then property.value.Fits wrapped
    else ∃ text, type.render wrapped property = some text ∧ text.length < dmMsgReportBufLen
  Refused := fun property => type = .propertyPost ∧ property.value.Refused wrapped

/-- The condition on the properties that `dm_gen_properties_payload` is given. -/
def PayloadFits (type : DMType) (valueKey : Bool) : List DMProperty → Prop
  | [] => False
  | first :: elements =>
      (properties type valueKey).Fits first ∧ (¬(properties type valueKey).Refused first →
        (properties type valueKey).LoopFits [] ((properties type valueKey).textOf first) elements)

/-! ## One write -/

theorem sizeWithin_start : SizeWithin 0 dmMsgReportBufLen :=
  ⟨Int.natCast_nonneg _, Int.le_of_eq (sub_zero _).symm⟩

/-- What `HAL_Snprintf` keeps of a text behind an offset, when the room that it is told
is what is left. -/
theorem halSnprintf_behind (buffer : Buffer) {offset : Nat} {len : Int} (text : List UInt8)
    (isOffset : buffer.text.length = offset) (isLen : len = dmMsgReportBufLen - (offset : Int))
    (room : 0 < len) :
    (halSnprintf buffer offset len text).1 = text.length ∧
      (halSnprintf buffer offset len text).2.text = buffer.text ++ text.take (len.toNat - 1) := by
  have size : (len % (sizeModulus : Int)).toNat = len.toNat := by
    rw [Int.emod_eq_of_lt (by omega) (by simp only [sizeModulus, dmMsgReportBufLen] at *; omega)]
  have nonzero : len.toNat ≠ 0 := by omega
  rw [halSnprintf, size, snprintf, if_neg nonzero]
  refine ⟨rfl, ?_⟩
  dsimp only
  rw [← isOffset, List.take_length]

/-- What has been written would make up a text, of which the buffer holds the whole if
it is shorter. -/
structure ListState.Reached (state : ListState) (text : List UInt8) : Prop where
  remainSize : state.remainSize = dmMsgReportBufLen - (text.length : Int)
  writeSize : 0 ≤ state.writeSize
  short : state.output.text.length < dmMsgReportBufLen
  kept : text.length < dmMsgReportBufLen → state.output.text = text

section Writes

variable {opening closing text : List UInt8} {num loop : Nat} {state : ListState}

variable (opening closing num state) in
theorem ListState.reached_first :
    (state.write opening closing num 0).Reached (opening ++ state.payload.text) := by
  obtain ⟨isRet, isText⟩ := halSnprintf_fresh state.output (by decide : 0 < dmMsgReportBufLen)
    (by decide) (opening ++ state.payload.text)
  rw [ListState.write, if_pos rfl]
  refine ⟨?_, ?_, ?_, ?_⟩
  · exact congrArg (fun n : Int => (dmMsgReportBufLen : Int) - n) isRet
  · dsimp only
    rw [isRet]
    exact Int.natCast_nonneg _
  · dsimp only
    rw [isText, List.length_take]
    exact Nat.lt_of_le_of_lt (Nat.min_le_left _ _) (by decide)
  · intro shorter
    dsimp only
    rw [isText, take_shorter shorter]

/-- A later turn that is told what is left adds its text. -/
theorem ListState.Reached.write (reached : state.Reached text) (later : loop ≠ 0)
    (fits : text.length ≤ dmMsgReportBufLen) :
    state.SizeWithin loop ∧ (state.write opening closing num loop).Reached
      (text ++ (literal ", " ++ state.payload.text ++ if loop = num - 1 then closing else [])) := by
  obtain ⟨isRemain, _, short, kept⟩ := reached
  obtain ⟨piece, isPiece⟩ : ∃ piece, piece =
    literal ", " ++ state.payload.text ++ if loop = num - 1 then closing else [] := ⟨_, rfl⟩
  have longer : 2 ≤ piece.length := by
    rw [isPiece, List.append_assoc, List.length_append]
    exact Nat.le_add_right 2 _
  have bound : dmMsgReportBufLen = 2048 := rfl
  rw [ListState.SizeWithin, if_neg later, DevModel.SizeWithin, ListState.write, if_neg later, ← isPiece]
  rcases Nat.lt_or_eq_of_le fits with room | full
  · have isText := kept room
    obtain ⟨isRet, written⟩ := halSnprintf_behind state.output piece (congrArg List.length isText)
      isRemain (by omega)
    refine ⟨by rw [isText]; omega, ?_, ?_, ?_, ?_⟩
    · dsimp only
      rw [isText, isRet, List.length_append]
      omega
    · dsimp only
      rw [isText, isRet]
      exact Int.natCast_nonneg _
    · dsimp only
      rw [isText, written, isText, List.length_append, List.length_take]
      omega
    · intro shorter
      dsimp only
      rw [List.length_append] at shorter
      rw [isText, written, isText, List.take_of_length_le (by omega)]
  · have isZero : state.remainSize = 0 := by omega
    have nothing : halSnprintf state.output state.output.text.length state.remainSize piece =
        ((piece.length : Int), state.output) := by
      rw [isZero, halSnprintf]
      rfl
    rw [nothing]
    refine ⟨by omega, ?_, Int.natCast_nonneg _, short, ?_⟩
    · dsimp only
      rw [List.length_append]
      omega
    · intro shorter
      rw [List.length_append] at shorter
      omega

/-- A turn that is told what is left finds no more than a full buffer. -/
theorem ListState.Reached.of_sizeWithin (reached : state.Reached text) (later : loop ≠ 0)
    (within : state.SizeWithin loop) : text.length ≤ dmMsgReportBufLen := by
  rw [ListState.SizeWithin, if_neg later] at within
  have nonneg := within.1
  have isRemain := reached.remainSize
  omega

end Writes

/-! ## Lists -/

/-- Elements that fit are written as asked, and those that the generator succeeds on
are not refused. -/
structure Texts.Sound {α : Type} (texts : Texts α) (generate : Generator α) (check : Check α) :
    Prop where
  checks : ∀ element, texts.Fits element → ∀ buffer allocs, check element buffer allocs
  yields : ∀ element, texts.Fits element → ∀ buffer allocs payload more,
    generate element buffer allocs = (successRet, payload, more) →
      ¬texts.Refused element ∧ payload.text = texts.textOf element

section Sound

variable {α : Type} {texts : Texts α} {generate : Generator α} {check : Check α}
  {opening closing : List UInt8} {num : Nat}

/-- What a turn of the loop does. -/
theorem genLoop_cons (element : α) (elements : List α) (loop : Nat) (state : ListState) :
    genLoop generate opening closing num (element :: elements) loop state =
      if (generate element state.payload state.allocs).1 ≠ successRet then
        ((generate element state.payload state.allocs).1,
          { state with
            payload := (generate element state.payload state.allocs).2.1
            allocs := (generate element state.payload state.allocs).2.2 })
      else
        genLoop generate opening closing num elements (loop + 1)
          (ListState.write opening closing num loop
            { state with
              payload := (generate element state.payload state.allocs).2.1
              allocs := (generate element state.payload state.allocs).2.2 }) := rfl

/-- The loop that succeeds has taken the first turn. -/
theorem genLoop_succeeds {element : α} {elements : List α} {loop : Nat} {state final : ListState}
    (succeeded : genLoop generate opening closing num (element :: elements) loop state =
      (successRet, final)) :
    ∃ payload allocs,
      generate element state.payload state.allocs = (successRet, payload, allocs) ∧
      genLoop generate opening closing num elements (loop + 1)
        (ListState.write opening closing num loop { state with payload, allocs }) =
          (successRet, final) := by
  rw [genLoop_cons] at succeeded
  by_cases isSuccess : (generate element state.payload state.allocs).1 = successRet
  · rw [if_neg (not_not.mpr isSuccess)] at succeeded
    exact ⟨_, _, Prod.ext isSuccess rfl, succeeded⟩
  · rw [if_pos isSuccess] at succeeded
    exact (isSuccess (Prod.mk.inj succeeded).1).elim

/-- Behind the first turn, by induction over the elements: what is in front is what the
invariant of the state says. -/
theorem loop_sound (sound : texts.Sound generate check) (elements : List α) :
    ∀ {loop : Nat} {state : ListState} {text : List UInt8}, loop ≠ 0 →
      loop + elements.length = num → state.Reached text → texts.LoopFits closing text elements →
      loopWithin generate check opening closing num elements loop state ∧
        ∀ final, genLoop generate opening closing num elements loop state = (successRet, final) →
          final.Reached (text ++ laterText closing (elements.map texts.textOf)) ∧
            (text ++ laterText closing (elements.map texts.textOf)).length ≠ dmMsgReportBufLen ∧
            ∀ element ∈ elements, ¬texts.Refused element := by
  induction elements with
  | nil =>
      intro loop state text _ _ reached fits
      refine ⟨trivial, ?_⟩
      intro final isFinal
      obtain rfl := (Prod.mk.inj isFinal).2
      rw [List.map_nil, laterText, List.append_nil]
      exact ⟨reached, fits, fun _ among => absurd among List.not_mem_nil⟩
  | cons element elements ih =>
      intro loop state text later count reached fits
      rw [List.length_cons] at count
      have isLast : (loop = num - 1) ↔ elements = [] := by
        rw [← List.length_eq_zero_iff]
        omega
      have turn : ∀ payload allocs,
          generate element state.payload state.allocs = (successRet, payload, allocs) →
          ListState.SizeWithin { state with payload, allocs } loop ∧
            (ListState.write opening closing num loop { state with payload, allocs }).Reached
              (text ++ (literal ", " ++ texts.textOf element ++
                if elements = [] then closing else [])) ∧
            texts.LoopFits closing (text ++ (literal ", " ++ texts.textOf element ++
              if elements = [] then closing else [])) elements ∧ ¬texts.Refused element := by
        intro payload allocs generated
        obtain ⟨notRefused, isText⟩ := sound.yields element fits.1 _ _ _ _ generated
        obtain ⟨room, further⟩ := fits.2 notRefused
        have same : ListState.Reached { state with payload, allocs } text :=
          ⟨reached.remainSize, reached.writeSize, reached.short, reached.kept⟩
        obtain ⟨within, wrote⟩ := @ListState.Reached.write opening closing _ num _ _ same later room
        simp only [isLast, isText] at wrote
        exact ⟨within, wrote, further, notRefused⟩
      constructor
      · refine ⟨sound.checks element fits.1 _ _, ?_⟩
        intro payload allocs generated
        obtain ⟨within, wrote, further, _⟩ := turn payload allocs generated
        exact ⟨within, (ih (Nat.succ_ne_zero _) (by omega) wrote further).1⟩
      · intro final succeeded
        obtain ⟨payload, allocs, generated, succeeded⟩ := genLoop_succeeds succeeded
        obtain ⟨_, wrote, further, notRefused⟩ := turn payload allocs generated
        obtain ⟨finished, notFull, others⟩ :=
          (ih (Nat.succ_ne_zero _) (by omega) wrote further).2 final succeeded
        have whole : text ++ laterText closing ((element :: elements).map texts.textOf) =
            text ++ (literal ", " ++ texts.textOf element ++ if elements = [] then closing else []) ++
              laterText closing (elements.map texts.textOf) := by
          rw [List.map_cons, laterText]
          simp only [List.map_eq_nil_iff, List.append_assoc]
        rw [whole]
        refine ⟨finished, notFull, ?_⟩
        intro other among
        rcases List.mem_cons.mp among with rfl | rest
        · exact notRefused
        · exact others other rest

/-- The whole loop, from the first turn. -/
theorem wholeLoop_sound (sound : texts.Sound generate check) {first : α} {elements : List α}
    (fits : texts.Fits first ∧ (¬texts.Refused first →
      texts.LoopFits closing (opening ++ texts.textOf first) elements)) (state : ListState) :
    loopWithin generate check opening closing (elements.length + 1) (first :: elements) 0 state ∧
      ∀ final, genLoop generate opening closing (elements.length + 1) (first :: elements) 0 state =
          (successRet, final) →
        final.Reached (opening ++ texts.textOf first ++
            laterText closing (elements.map texts.textOf)) ∧
          (opening ++ texts.textOf first ++
            laterText closing (elements.map texts.textOf)).length ≠ dmMsgReportBufLen ∧
          ∀ element ∈ first :: elements, ¬texts.Refused element := by
  have turn : ∀ payload allocs,
      generate first state.payload state.allocs = (successRet, payload, allocs) →
      (ListState.write opening closing (elements.length + 1) 0
        { state with payload, allocs }).Reached (opening ++ texts.textOf first) ∧
        ¬texts.Refused first := by
    intro payload allocs generated
    obtain ⟨notRefused, isText⟩ := sound.yields first fits.1 _ _ _ _ generated
    have wrote := ListState.reached_first opening closing (elements.length + 1)
      { state with payload, allocs }
    rw [isText] at wrote
    exact ⟨wrote, notRefused⟩
  constructor
  · refine ⟨sound.checks first fits.1 _ _, ?_⟩
    intro payload allocs generated
    obtain ⟨wrote, notRefused⟩ := turn payload allocs generated
    exact ⟨sizeWithin_start,
      (loop_sound sound elements Nat.one_ne_zero (Nat.add_comm 1 _) wrote (fits.2 notRefused)).1⟩
  · intro final succeeded
    obtain ⟨payload, allocs, generated, succeeded⟩ := genLoop_succeeds succeeded
    obtain ⟨wrote, notRefused⟩ := turn payload allocs generated
    obtain ⟨finished, notFull, others⟩ :=
      (loop_sound sound elements Nat.one_ne_zero (Nat.add_comm 1 _) wrote (fits.2 notRefused)).2 final
        succeeded
    refine ⟨finished, notFull, ?_⟩
    intro other among
    rcases List.mem_cons.mp among with rfl | rest
    · exact notRefused
    · exact others other rest

/-- A finished loop that returns success has written the whole. -/
theorem ListState.Reached.whole {final : ListState} {text : List UInt8} (reached : final.Reached text)
    (notFull : text.length ≠ dmMsgReportBufLen) (remains : ¬final.remainSize < 0) :
    final.output.text = text ∧ text.length < dmMsgReportBufLen := by
  have isRemain := reached.remainSize
  have shorter : text.length < dmMsgReportBufLen := by omega
  exact ⟨reached.kept shorter, shorter⟩

/-- The test behind the loop. -/
def finish (run : Int × ListState) : Int × Buffer × Nat :=
  if run.1 ≠ successRet then (run.1, run.2.output, run.2.allocs)
  else if run.2.writeSize < 0 ∨ run.2.remainSize < 0 then (failureRet, run.2.output, run.2.allocs)
  else (successRet, run.2.output, run.2.allocs)

theorem finish_success {run : Int × ListState} (succeeded : (finish run).1 = successRet) :
    run.1 = successRet ∧ ¬run.2.remainSize < 0 ∧ (finish run).2.1 = run.2.output := by
  have failure : failureRet ≠ successRet := by decide
  rw [finish] at succeeded ⊢
  split at succeeded
  · rename_i failed
    exact (failed succeeded).elim
  · rename_i isSuccess
    split at succeeded
    · exact (failure succeeded).elim
    · rename_i notNegative
      rw [if_neg isSuccess, if_neg notNegative]
      exact ⟨not_not.mp isSuccess, fun negative => notNegative (.inr negative), rfl⟩

variable {malloc : Malloc} {payload output : Buffer} {allocs : Nat}

/-- A single element is written at once. -/
theorem genListPayload_single (isPayload : malloc allocs = some payload) (element : α) :
    genListPayload malloc generate opening closing [element] output allocs =
      if (generate element payload (allocs + 1)).1 ≠ successRet then
        ((generate element payload (allocs + 1)).1, output,
          (generate element payload (allocs + 1)).2.2)
      else
        (successRet, (halSnprintf output 0 dmMsgReportBufLen
            (opening ++ (generate element payload (allocs + 1)).2.1.text ++ closing)).2,
          (generate element payload (allocs + 1)).2.2) := by
  obtain ⟨isRet, _⟩ := halSnprintf_fresh output (by decide : 0 < dmMsgReportBufLen) (by decide)
    (opening ++ (generate element payload (allocs + 1)).2.1.text ++ closing)
  have notNegative : ¬((halSnprintf output 0 dmMsgReportBufLen
      (opening ++ (generate element payload (allocs + 1)).2.1.text ++ closing)).1 < 0 ∨
        (0 : Int) < 0) := by
    rw [isRet]
    omega
  rw [genListPayload, isPayload]
  dsimp only
  by_cases isSuccess : (generate element payload (allocs + 1)).1 = successRet
  · simp only [isSuccess, ne_eq, not_true_eq_false, if_false, if_neg notNegative]
  · simp only [isSuccess, ne_eq, not_false_eq_true, if_true]

theorem genListPayload_several (isPayload : malloc allocs = some payload) (first second : α)
    (elements : List α) :
    genListPayload malloc generate opening closing (first :: second :: elements) output allocs =
      finish (genLoop generate opening closing (first :: second :: elements).length
        (first :: second :: elements) 0 ⟨payload, output, 0, 0, allocs + 1⟩) := by
  rw [genListPayload, isPayload]
  rfl

/-- The generator of a list that fits. -/
theorem genListPayload_sound (sound : texts.Sound generate check) (malloc : Malloc) {value : List α}
    (fits : texts.ListFits opening closing value) (output : Buffer) (allocs : Nat) :
    listWithin generate check opening closing malloc value output allocs ∧
      Renders (genListPayload malloc generate opening closing value output allocs)
        (opening ++ commaSeparated (value.map texts.textOf) ++ closing) ∧
      ((genListPayload malloc generate opening closing value output allocs).1 = successRet →
        ¬texts.ListRefused opening closing value) := by
  have failure : failureRet ≠ successRet := by decide
  cases isPayload : malloc allocs with
  | none =>
      have failed : (genListPayload malloc generate opening closing value output allocs).1 =
          failureRet := by
        rw [genListPayload, isPayload]
      rw [Renders, failed]
      refine ⟨?_, fun succeeded => (failure succeeded).elim, fun succeeded => (failure succeeded).elim⟩
      intro payload isSome
      rw [isPayload] at isSome
      cases isSome
  | some payload =>
      rcases value with _ | ⟨first, _ | ⟨second, elements⟩⟩
      · exact fits.elim
      · refine ⟨fun _ _ => ⟨sound.checks first fits.1 _ _, sizeWithin_start⟩, ?_⟩
        rw [Renders, genListPayload_single isPayload]
        split
        · rename_i failed
          exact ⟨fun succeeded => (failed succeeded).elim, fun succeeded => (failed succeeded).elim⟩
        · rename_i isSuccess
          obtain ⟨notRefused, isText⟩ := sound.yields first fits.1 payload (allocs + 1) _ _
            (Prod.ext (not_not.mp isSuccess) rfl)
          have short := fits.2 notRefused
          rw [isText, List.map_singleton, commaSeparated, List.intercalate_singleton]
          obtain ⟨_, written⟩ := halSnprintf_fresh output (by decide : 0 < dmMsgReportBufLen)
            (by decide) (opening ++ texts.textOf first ++ closing)
          refine ⟨fun _ => ⟨?_, short⟩, fun _ => notRefused⟩
          rw [written, take_shorter short]
      · obtain ⟨within, finishes⟩ := wholeLoop_sound sound fits ⟨payload, output, 0, 0, allocs + 1⟩
        refine ⟨?_, ?_⟩
        · intro other isOther
          obtain rfl := Option.some.inj (isOther.symm.trans isPayload)
          exact within
        · rw [Renders, genListPayload_several isPayload, List.map_cons, List.map_cons,
            commaSeparated_laterText]
          have whole : ∀ run, run = genLoop generate opening closing
              (first :: second :: elements).length (first :: second :: elements) 0
                ⟨payload, output, 0, 0, allocs + 1⟩ → (finish run).1 = successRet →
              ((finish run).2.1.text = opening ++ texts.textOf first ++
                  laterText closing ((second :: elements).map texts.textOf) ∧
                (opening ++ texts.textOf first ++
                  laterText closing ((second :: elements).map texts.textOf)).length <
                    dmMsgReportBufLen) ∧
                ∀ element ∈ first :: second :: elements, ¬texts.Refused element := by
            intro run isRun succeeded
            obtain ⟨isSuccess, remains, sameOutput⟩ := finish_success succeeded
            obtain ⟨reached, notFull, others⟩ :=
              finishes run.2 (isRun.symm.trans (Prod.ext isSuccess rfl))
            rw [sameOutput]
            exact ⟨reached.whole notFull remains, others⟩
          refine ⟨fun succeeded => (whole _ rfl succeeded).1, fun succeeded refused => ?_⟩
          obtain ⟨⟨_, short⟩, others⟩ := whole _ rfl succeeded
          rcases refused with ⟨element, among, isRefused⟩ | isLong
          · exact others element among isRefused
          · rw [List.map_cons, List.map_cons, commaSeparated_laterText] at isLong
            exact Nat.lt_irrefl _ (Nat.lt_trans short isLong)

end Sound

/-! ## Each generator -/

/-- `dm_gen_node_payload` refuses a text that does not fit. -/
theorem dmGenNodePayload_success_iff (dmNode : DMNode) (wrapped : Bool) (nodePayload : Buffer) :
    (dmGenNodePayload dmNode wrapped nodePayload).1 = successRet ↔
      (renderNode wrapped dmNode).length < dmMsgReportBufLen := by
  have failure : failureRet ≠ successRet := by decide
  obtain ⟨isRet, _⟩ := halSnprintf_fresh nodePayload (by decide : 0 < dmMsgReportBufLen) (by decide)
    (renderNode wrapped dmNode)
  rw [dmGenNodePayload, ← renderNode_eq]
  dsimp only
  rw [isRet]
  split
  · rename_i long
    exact ⟨fun succeeded => (failure succeeded).elim, fun short => by omega⟩
  · rename_i short
    exact ⟨fun _ => by omega, fun _ => rfl⟩

theorem nodes_sound (wrapped : Bool) : (nodes wrapped).Sound
    (fun dmNode nodePayload allocs => ((dmGenNodePayload dmNode wrapped nodePayload).1,
      (dmGenNodePayload dmNode wrapped nodePayload).2, allocs)) (checkNode wrapped) := by
  have isText : ∀ dmNode nodePayload,
      (renderNode wrapped dmNode).length < dmMsgReportBufLen →
      (dmGenNodePayload dmNode wrapped nodePayload).2.text = renderNode wrapped dmNode := by
    intro dmNode nodePayload short
    obtain ⟨filled, wrote, isText⟩ := dmGenNodePayload_renders dmNode wrapped nodePayload short
    rw [wrote]
    exact isText
  refine ⟨?_, ?_⟩
  · intro dmNode _ nodePayload allocs
    refine ⟨sizeWithin_start, fun succeeded => ?_⟩
    have short := (dmGenNodePayload_success_iff dmNode wrapped nodePayload).mp succeeded
    exact ⟨isText dmNode nodePayload short, short⟩
  · intro dmNode _ nodePayload allocs payload more generated
    obtain ⟨isSuccess, rest⟩ := Prod.mk.inj generated
    obtain ⟨rfl, rfl⟩ := Prod.mk.inj rest
    have short := (dmGenNodePayload_success_iff dmNode wrapped nodePayload).mp isSuccess
    exact ⟨Nat.not_le.mpr short, isText dmNode nodePayload short⟩

/-- A list behind a key is rendered between its opening and its closing. -/
theorem keyed_list_eq (key : Option CString) (wrapped : Bool) (opening closing : List UInt8)
    (elements : List (List UInt8)) :
    keyOpening key wrapped ++ opening ++ commaSeparated elements ++ (closing ++ keyClosing key wrapped) =
      renderKeyed key wrapped (opening ++ commaSeparated elements ++ closing) :=
  (renderKeyed_eq key wrapped opening (commaSeparated elements) closing).symm

/-- The generator of a list behind a key, when its elements are written as asked. -/
theorem Texts.Sound.keyedList {α : Type} {texts : Texts α} {generate : Generator α} {check : Check α}
    (sound : texts.Sound generate check) (malloc : Malloc) {key : Option CString} {wrapped : Bool}
    {opening closing : List UInt8} {value : List α}
    (fits : texts.ListFits (keyOpening key wrapped ++ opening) (closing ++ keyClosing key wrapped)
      value) (output : Buffer) (allocs : Nat) :
    let run := genListPayload malloc generate (keyOpening key wrapped ++ opening)
      (closing ++ keyClosing key wrapped) value output allocs
    let text := renderKeyed key wrapped
      (opening ++ commaSeparated (value.map texts.textOf) ++ closing)
    (listWithin generate check (keyOpening key wrapped ++ opening)
        (closing ++ keyClosing key wrapped) malloc value output allocs ∧ Renders run text) ∧
      ∀ payload more, run = (successRet, payload, more) →
        ¬texts.ListRefused (keyOpening key wrapped ++ opening) (closing ++ keyClosing key wrapped)
          value ∧ payload.text = text := by
  intro run text
  obtain ⟨within, renders, notRefused⟩ := genListPayload_sound sound malloc fits output allocs
  rw [keyed_list_eq] at renders
  refine ⟨⟨within, renders⟩, ?_⟩
  intro payload more isRun
  have isSuccess : run.1 = successRet := by rw [isRun]
  have isText : payload.text = run.2.1.text := by rw [isRun]
  exact ⟨notRefused isSuccess, isText.trans (renders isSuccess).1⟩

theorem structs_sound (malloc : Malloc) (wrapped : Bool) :
    (structs wrapped).Sound (fun dmStruct => dmGenStructPayload malloc dmStruct wrapped)
      (checkStruct malloc wrapped) := by
  refine ⟨?_, ?_⟩
  · intro dmStruct fits buffer allocs
    exact ((nodes_sound false).keyedList malloc fits buffer allocs).1
  · intro dmStruct fits buffer allocs payload more generated
    exact ((nodes_sound false).keyedList malloc fits buffer allocs).2 payload more generated

/-- The name of a property is written without a test of its length. -/
theorem genProperty_plain {type : DMType} {wrapped : Bool} {property : DMProperty}
    {text : List UInt8} (notPost : type ≠ .propertyPost)
    (isText : type.render wrapped property = some text) (malloc : Malloc) (payload : Buffer)
    (allocs : Nat) :
    (genProperty malloc type wrapped property payload allocs).1 = successRet ∧
      (genProperty malloc type wrapped property payload allocs).2.1.text =
        text.take (dmMsgReportBufLen - 1) := by
  have test : ∀ {text : List UInt8} {ret : Int}, ret = text.length →
      (if ret < 0 then failureRet else successRet) = successRet := by
    intro text ret isRet
    exact if_neg (by omega)
  cases type with
  | propertyPost => exact (notPost rfl).elim
  | propertyDesiredGet =>
      obtain rfl := Option.some.inj isText
      obtain ⟨isRet, written⟩ := halSnprintf_fresh payload (by decide : 0 < dmMsgReportBufLen)
        (by decide) (literal "\"" ++ property.value.keyText ++ literal "\"")
      exact ⟨test isRet, written⟩
  | propertyDesiredDelete =>
      obtain rfl := Option.some.inj isText
      obtain ⟨isRet, written⟩ := halSnprintf_fresh payload (by decide : 0 < dmMsgReportBufLen)
        (by decide) (literal "\"" ++ property.value.keyText ++ literal "\": \x7b\"version\": " ++
          formatInt property.desiredVer.toInt ++ literal "\x7d")
      exact ⟨test isRet, written⟩
  | propertyRestore => cases isText
  | propertySet => cases isText
  | eventPost => cases isText
  | command => cases isText

/-- The check of a type that is no report. -/
theorem checkProperty_plain {type : DMType} (notPost : type ≠ .propertyPost) (malloc : Malloc)
    (wrapped : Bool) (property : DMProperty) (payload : Buffer) (allocs : Nat) :
    checkProperty malloc type wrapped property payload allocs ↔
      SizeWithin 0 dmMsgReportBufLen ∧ ∃ text, type.render wrapped property = some text ∧
        Renders (genProperty malloc type wrapped property payload allocs) text := by
  cases type with
  | propertyPost => exact (notPost rfl).elim
  | _ => rfl

theorem properties_sound (malloc : Malloc) (type : DMType) (wrapped : Bool) :
    (properties type wrapped).Sound (genProperty malloc type wrapped)
      (checkProperty malloc type wrapped) := by
  by_cases isPost : type = .propertyPost
  · subst isPost
    refine ⟨?_, ?_⟩
    · rintro ⟨value, desiredVer⟩ fits payload allocs
      cases value with
      | node dmNode => exact (nodes_sound wrapped).checks dmNode fits payload allocs
      | struct dmStruct => exact (structs_sound malloc wrapped).checks dmStruct fits payload allocs
      | arrayBase dmArrayBase => exact ((nodes_sound false).keyedList malloc fits payload allocs).1
      | arrayStruct dmArrayStruct =>
          exact ((structs_sound malloc false).keyedList malloc fits payload allocs).1
    · rintro ⟨value, desiredVer⟩ fits buffer allocs payload more generated
      have result : ¬value.Refused wrapped ∧ payload.text = value.render wrapped := by
        cases value with
        | node dmNode =>
            exact (nodes_sound wrapped).yields dmNode fits buffer allocs payload more generated
        | struct dmStruct =>
            exact (structs_sound malloc wrapped).yields dmStruct fits buffer allocs payload more generated
        | arrayBase dmArrayBase =>
            exact ((nodes_sound false).keyedList malloc fits buffer allocs).2 payload more generated
        | arrayStruct dmArrayStruct =>
            exact ((structs_sound malloc false).keyedList malloc fits buffer allocs).2 payload more
              generated
      exact ⟨fun refused => result.1 refused.2, result.2⟩
  · have named : ∀ {property}, (properties type wrapped).Fits property →
        ∃ text, type.render wrapped property = some text ∧ text.length < dmMsgReportBufLen := by
      intro property fits
      simpa only [properties, if_neg isPost] using fits
    refine ⟨?_, ?_⟩
    · intro property fits payload allocs
      obtain ⟨text, isText, short⟩ := named fits
      rw [checkProperty_plain isPost]
      refine ⟨sizeWithin_start, text, isText, fun _ => ⟨?_, short⟩⟩
      rw [(genProperty_plain isPost isText malloc payload allocs).2, take_shorter short]
    · intro property fits buffer allocs payload more generated
      obtain ⟨text, isText, short⟩ := named fits
      have written := (genProperty_plain isPost isText malloc buffer allocs).2
      rw [generated, take_shorter short] at written
      refine ⟨fun refused => isPost refused.1, written.trans ?_⟩
      simp only [properties, isText, Option.getD_some]

/-! ## The payload -/

/-- Behind a single property nothing is left to close. -/
theorem renderAs_cons (type : DMType) (valueKey : Bool) (first : DMProperty)
    (elements : List DMProperty) :
    renderAs type valueKey (first :: elements) = (properties type valueKey).textOf first ++
      laterText [] (elements.map (properties type valueKey).textOf) := by
  rw [renderAs, List.map_cons, commaSeparated_cons, laterText_nil]
  rfl

theorem dmGenPropertiesPayload_eq {malloc : Malloc} {payload : Buffer} (isPayload : malloc 0 = some payload)
    (property : List DMProperty) (type : DMType) (valueKey : Bool) (propertiesPayload : Buffer) :
    dmGenPropertiesPayload malloc property type valueKey propertiesPayload =
      let result := finish (genLoop (genProperty malloc type valueKey) [] [] property.length property 0
        ⟨payload, propertiesPayload, 0, 0, 1⟩)
      (result.1, result.2.1) := by
  rw [dmGenPropertiesPayload, isPayload]
  dsimp only
  rw [finish]
  split
  · rfl
  · split <;> rfl

/-- A list of properties that fits is written as asked, whatever memory holds. -/
theorem completeRun_of_fits {property : List DMProperty} {type : DMType} {valueKey : Bool}
    (fits : PayloadFits type valueKey property) (malloc : Malloc) (propertiesPayload : Buffer) :
    CompleteRun malloc property type valueKey propertiesPayload := by
  have failure : failureRet ≠ successRet := by decide
  match property, fits with
  | first :: elements, fits =>
      have run := fun payload => @wholeLoop_sound _ _ _ _ [] [] (properties_sound malloc type valueKey)
        first elements fits ⟨payload, propertiesPayload, 0, 0, 1⟩
      refine ⟨fun payload _ => (run payload).1, ?_⟩
      intro succeeded
      cases isPayload : malloc 0 with
      | none =>
          rw [dmGenPropertiesPayload, isPayload] at succeeded
          exact (failure succeeded).elim
      | some payload =>
          rw [dmGenPropertiesPayload_eq isPayload] at succeeded ⊢
          obtain ⟨isSuccess, remains, sameOutput⟩ := finish_success succeeded
          obtain ⟨reached, notFull, _⟩ := (run payload).2 _ (Prod.ext isSuccess rfl)
          rw [renderAs_cons]
          dsimp only
          rw [sameOutput]
          exact reached.whole notFull remains

end UIoT.DevModel
