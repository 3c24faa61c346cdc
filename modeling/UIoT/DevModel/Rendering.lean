import UIoT.DevModel.Payload

/-!
# The rendering of properties

The rendering of a property tree is a JSON text: what is in a struct stands in braces, what
is in an array in brackets, with `, ` between two elements, and only the outermost values
are wrapped. When nothing is longer than a buffer and the buffers are allocated,
`dm_gen_properties_payload` writes this text, whatever its buffers held before
(`dmGenPropertiesPayload_renders`).
-/

set_option autoImplicit false

namespace UIoT.DevModel

open Utils Json
open Mqtt (CString)

/-! ## The reference -/

/-- A value behind its key, in the wrapper when there is one. -/
def renderKeyed : Option CString → Bool → List UInt8 → List UInt8
  | none, _, body => body
  | some key, wrapped, body =>
      literal "\"" ++ key ++ literal "\": " ++
        if wrapped then literal "\x7b\"Value\": " ++ body ++ literal "\x7d" else body

def commaSeparated (texts : List (List UInt8)) : List UInt8 := (literal ", ").intercalate texts

def renderNode (wrapped : Bool) (dmNode : DMNode) : List UInt8 :=
  renderKeyed dmNode.key wrapped dmNode.value.conversion

def renderStruct (wrapped : Bool) (dmStruct : DMTypeStruct) : List UInt8 :=
  renderKeyed dmStruct.key wrapped
    (literal "\x7b" ++ commaSeparated (dmStruct.value.map (renderNode false)) ++ literal "\x7d")

def renderArray (wrapped : Bool) (key : CString) (elements : List (List UInt8)) : List UInt8 :=
  renderKeyed (some key) wrapped (literal "[" ++ commaSeparated elements ++ literal "]")

def PropertyValue.render (wrapped : Bool) : PropertyValue → List UInt8
  | .node dmNode => renderNode wrapped dmNode
  | .struct dmStruct => renderStruct wrapped dmStruct
  | .arrayBase dmArrayBase =>
      renderArray wrapped dmArrayBase.key (dmArrayBase.value.map (renderNode false))
  | .arrayStruct dmArrayStruct =>
      renderArray wrapped dmArrayStruct.key (dmArrayStruct.value.map (renderStruct false))

def renderProperties (wrapped : Bool) (properties : List DMProperty) : List UInt8 :=
  commaSeparated (properties.map fun property => property.value.render wrapped)

/-- No list in a property is empty. -/
def PropertyValue.Filled : PropertyValue → Prop
  | .node _ => True
  | .struct dmStruct => dmStruct.value ≠ []
  | .arrayBase dmArrayBase => dmArrayBase.value ≠ []
  | .arrayStruct dmArrayStruct =>
      dmArrayStruct.value ≠ [] ∧ ∀ dmStruct ∈ dmArrayStruct.value, dmStruct.value ≠ []

instance (value : PropertyValue) : Decidable value.Filled :=
  match value with
  | .node _ => inferInstanceAs (Decidable True)
  | .struct dmStruct => inferInstanceAs (Decidable (dmStruct.value ≠ []))
  | .arrayBase dmArrayBase => inferInstanceAs (Decidable (dmArrayBase.value ≠ []))
  | .arrayStruct _ => inferInstanceAs (Decidable (_ ∧ _))

/-- How many buffers the generator of a property allocates. -/
def PropertyValue.buffers : PropertyValue → Nat
  | .node _ => 0
  | .struct _ => 1
  | .arrayBase _ => 1
  | .arrayStruct dmArrayStruct => 1 + dmArrayStruct.value.length

/-- How many buffers are allocated for some properties. -/
def buffersOf (properties : List DMProperty) : Nat :=
  1 + (properties.map fun property => property.value.buffers).sum

/-! ## Separated texts -/

theorem commaSeparated_cons (first : List UInt8) (texts : List (List UInt8)) :
    commaSeparated (first :: texts) = first ++ texts.flatMap (literal ", " ++ ·) := by
  induction texts generalizing first with
  | nil => rw [commaSeparated, List.intercalate_singleton, List.flatMap_nil, List.append_nil]
  | cons second texts inductionHypothesis =>
      have later := inductionHypothesis second
      rw [commaSeparated] at later ⊢
      rw [List.intercalate_cons_cons, later, List.flatMap_cons]
      simp only [List.append_assoc]

theorem renderKeyed_eq (key : Option CString) (wrapped : Bool) (opening body closing : List UInt8) :
    renderKeyed key wrapped (opening ++ body ++ closing) =
      keyOpening key wrapped ++ opening ++ body ++ (closing ++ keyClosing key wrapped) := by
  cases key with
  | none => simp only [renderKeyed, keyOpening, keyClosing, List.nil_append, List.append_nil]
  | some key =>
      have wrapper : literal "\": \x7b\"Value\": " = literal "\": " ++ literal "\x7b\"Value\": " := rfl
      cases wrapped with
      | false =>
          simp only [renderKeyed, keyOpening, keyClosing, Bool.false_eq_true, if_false,
            List.append_nil, List.append_assoc]
      | true =>
          simp only [renderKeyed, keyOpening, keyClosing, if_true, wrapper, List.append_assoc]

/-! ## One write -/

/-- What `HAL_Snprintf` does when there is room for the text. -/
theorem halSnprintf_whole (buffer : Buffer) (offset : Nat) {len : Int} {text : List UInt8}
    (room : (text.length : Int) < len) (small : len ≤ dmMsgReportBufLen) :
    ∃ filled : Buffer, halSnprintf buffer offset len text = ((text.length : Int), filled) ∧
      filled.text = buffer.text.take offset ++ text := by
  have size : (len % (sizeModulus : Int)).toNat = len.toNat := by
    rw [Int.emod_eq_of_lt (by omega) (by simp only [sizeModulus, dmMsgReportBufLen] at *; omega)]
  rw [halSnprintf, size, snprintf, if_neg (by omega)]
  refine ⟨_, rfl, ?_⟩
  dsimp only
  rw [List.take_of_length_le (l := text) (by omega)]

/-- What a buffer of some length keeps of a text. -/
theorem halSnprintf_fresh (buffer : Buffer) {len : Nat} (positive : 0 < len) (small : len < sizeModulus)
    (text : List UInt8) :
    (halSnprintf buffer 0 len text).1 = text.length ∧
      (halSnprintf buffer 0 len text).2.text = text.take (len - 1) := by
  have isLen : ((len : Int) % sizeModulus).toNat = len := by
    rw [← Int.natCast_mod, Int.toNat_natCast, Nat.mod_eq_of_lt small]
  have nonzero : len ≠ 0 := Nat.pos_iff_ne_zero.mp positive
  rw [halSnprintf, isLen, snprintf, if_neg nonzero]
  exact ⟨rfl, List.nil_append _⟩

/-- A text that is shorter than its buffer is kept. -/
theorem take_shorter {text : List UInt8} {len : Nat} (shorter : text.length < len) :
    text.take (len - 1) = text :=
  List.take_of_length_le (Nat.le_sub_one_of_lt shorter)

/-! ## Generators -/

/-- So many calls of `HAL_Malloc` from one on return a buffer. -/
def Allocated (malloc : Malloc) (allocs count : Nat) : Prop :=
  ∀ i < count, (malloc (allocs + i)).isSome

/-- A generator writes a text, whatever its buffer holds, when its own buffers are
allocated. -/
def Yields (malloc : Malloc) (run : Buffer → Nat → Int × Buffer × Nat) (count : Nat)
    (text : List UInt8) : Prop :=
  ∀ buffer allocs, Allocated malloc allocs count →
    ∃ filled : Buffer, run buffer allocs = (successRet, filled, allocs + count) ∧ filled.text = text

theorem Allocated.first {malloc : Malloc} {allocs count more : Nat}
    (allocated : Allocated malloc allocs (count + more)) : Allocated malloc allocs count :=
  fun i below => allocated i (by omega)

theorem Allocated.second {malloc : Malloc} {allocs count more : Nat}
    (allocated : Allocated malloc allocs (count + more)) :
    Allocated malloc (allocs + count) more := by
  intro i below
  rw [Nat.add_assoc]
  exact allocated (count + i) (by omega)

/-- What has been written so far, and what the loop has computed from it. -/
structure ListState.Written (state : ListState) (text : List UInt8) : Prop where
  isText : state.output.text = text
  remainSize : state.remainSize = dmMsgReportBufLen - text.length
  writeSize : 0 ≤ state.writeSize

section Lists

variable {α : Type} {malloc : Malloc} {generate : Generator α} {opening closing text : List UInt8}
  {num loop : Nat} {textOf : α → List UInt8} {countOf : α → Nat}

variable (closing num) in
/-- The first turn writes from the start of the buffer. -/
theorem ListState.write_first (state : ListState)
    (short : (opening ++ state.payload.text).length < dmMsgReportBufLen) :
    (state.write opening closing num 0).Written (opening ++ state.payload.text) ∧
      (state.write opening closing num 0).allocs = state.allocs := by
  have room : ((opening ++ state.payload.text).length : Int) < dmMsgReportBufLen := by omega
  obtain ⟨filled, wrote, isText⟩ := halSnprintf_whole state.output 0 room (Int.le_refl _)
  rw [ListState.write, if_pos rfl, wrote]
  exact ⟨⟨isText, rfl, Int.natCast_nonneg _⟩, rfl⟩

variable (opening) in
/-- A later turn writes behind what is there. -/
theorem ListState.write_later {state : ListState} (written : state.Written text)
    (later : loop ≠ 0)
    (short : (text ++ (literal ", " ++ state.payload.text ++
      if loop = num - 1 then closing else [])).length < dmMsgReportBufLen) :
    (state.write opening closing num loop).Written (text ++ (literal ", " ++ state.payload.text ++
        if loop = num - 1 then closing else [])) ∧
      (state.write opening closing num loop).allocs = state.allocs := by
  rw [List.length_append] at short
  have left := written.remainSize
  have room : ((literal ", " ++ state.payload.text ++
      if loop = num - 1 then closing else []).length : Int) < state.remainSize := by omega
  obtain ⟨filled, wrote, isText⟩ :=
    halSnprintf_whole state.output state.output.text.length room (by omega)
  rw [ListState.write, if_neg later, wrote]
  refine ⟨⟨?_, ?_, Int.natCast_nonneg _⟩, rfl⟩
  · rw [isText, List.take_length, written.isText]
  · dsimp only
    rw [left]
    simp only [List.length_append]
    omega

/-- What the loop writes for the elements behind the first. -/
def laterText (closing : List UInt8) : List (List UInt8) → List UInt8
  | [] => []
  | text :: texts =>
      literal ", " ++ text ++ (if texts = [] then closing else []) ++ laterText closing texts

theorem laterText_cons (first : List UInt8) (texts : List (List UInt8)) :
    laterText closing (first :: texts) =
      (first :: texts).flatMap (literal ", " ++ ·) ++ closing := by
  induction texts generalizing first with
  | nil => simp only [laterText, if_true, List.flatMap_cons, List.flatMap_nil, List.append_nil]
  | cons second texts inductionHypothesis =>
      rw [laterText, if_neg (List.cons_ne_nil second texts), inductionHypothesis,
        List.flatMap_cons (x := first), List.append_nil]
      simp only [List.append_assoc]

/-- Behind the first element there is one that the closing follows. -/
theorem commaSeparated_laterText (opening closing first second : List UInt8)
    (texts : List (List UInt8)) :
    opening ++ commaSeparated (first :: second :: texts) ++ closing =
      opening ++ first ++ laterText closing (second :: texts) := by
  rw [commaSeparated_cons, laterText_cons]
  simp only [List.append_assoc]

theorem laterText_nil (texts : List (List UInt8)) :
    laterText [] texts = texts.flatMap (literal ", " ++ ·) := by
  cases texts with
  | nil => rfl
  | cons first texts => rw [laterText_cons, List.append_nil]

variable (opening) in
/-- The loop behind the first element: nothing that is left to write is too long. -/
theorem genLoop_later :
    ∀ {elements : List α} {loop : Nat} {state : ListState} {text : List UInt8},
      loop ≠ 0 → loop + elements.length = num → state.Written text →
      (text ++ laterText closing (elements.map textOf)).length < dmMsgReportBufLen →
      (∀ element ∈ elements,
        Yields malloc (generate element) (countOf element) (textOf element)) →
      Allocated malloc state.allocs (elements.map countOf).sum →
        ∃ finished : ListState,
          genLoop generate opening closing num elements loop state = (successRet, finished) ∧
            finished.Written (text ++ laterText closing (elements.map textOf)) ∧
              finished.allocs = state.allocs + (elements.map countOf).sum
  | [], loop, state, text, _, _, written, _, _, _ => by
      refine ⟨state, rfl, ?_, rfl⟩
      rw [List.map_nil, laterText, List.append_nil]
      exact written
  | element :: elements, loop, state, text, later, isNum, written, short, yields, allocated => by
      simp only [List.map_cons, List.sum_cons, laterText] at allocated short ⊢
      rw [← List.append_assoc] at short
      rw [List.length_cons] at isNum
      have last : (if loop = num - 1 then closing else []) =
          if elements.map textOf = [] then closing else [] := by
        cases elements with
        | nil => rw [if_pos (show loop = num - 1 by exact Nat.eq_sub_of_add_eq isNum), List.map_nil,
            if_pos rfl]
        | cons second elements =>
            rw [if_neg (by rw [List.length_cons] at isNum; omega), List.map_cons,
              if_neg (List.cons_ne_nil _ _)]
      obtain ⟨filled, generated, isText⟩ :=
        yields element List.mem_cons_self state.payload state.allocs allocated.first
      rw [genLoop, generated]
      dsimp only
      rw [if_neg (not_not.mpr rfl)]
      have unwritten : ListState.Written { state with
          payload := filled, allocs := state.allocs + countOf element } text :=
        ⟨written.isText, written.remainSize, written.writeSize⟩
      rw [← isText, ← last] at short ⊢
      have shorter := Nat.lt_of_le_of_lt
        (List.length_append.symm ▸ Nat.le_add_right _ _) short
      obtain ⟨wrote, sameAllocs⟩ := ListState.write_later opening unwritten later shorter
      obtain ⟨finished, generatedRest, writtenRest, allocsRest⟩ := genLoop_later
        (Nat.succ_ne_zero loop) (by omega) wrote short
        (fun element among => yields element (List.mem_cons_of_mem _ among))
        (sameAllocs ▸ allocated.second)
      refine ⟨finished, generatedRest, ?_, ?_⟩
      · rw [← List.append_assoc]
        exact writtenRest
      · rw [allocsRest, sameAllocs, Nat.add_assoc]

/-- The whole loop over some elements. -/
theorem genLoop_all {first : α} {elements : List α} (state : ListState)
    (short : (opening ++ textOf first ++ laterText closing (elements.map textOf)).length <
      dmMsgReportBufLen)
    (yields : ∀ element ∈ first :: elements,
      Yields malloc (generate element) (countOf element) (textOf element))
    (allocated : Allocated malloc state.allocs ((first :: elements).map countOf).sum) :
    ∃ finished : ListState,
      genLoop generate opening closing (first :: elements).length (first :: elements) 0 state =
          (successRet, finished) ∧
        finished.Written (opening ++ textOf first ++ laterText closing (elements.map textOf)) ∧
          finished.allocs = state.allocs + ((first :: elements).map countOf).sum := by
  simp only [List.map_cons, List.sum_cons] at allocated ⊢
  obtain ⟨filled, generated, isText⟩ :=
    yields first List.mem_cons_self state.payload state.allocs allocated.first
  rw [genLoop, generated]
  dsimp only
  rw [if_neg (not_not.mpr rfl)]
  rw [← isText] at short ⊢
  have shorter := Nat.lt_of_le_of_lt (List.length_append.symm ▸ Nat.le_add_right _ _) short
  obtain ⟨wrote, sameAllocs⟩ := ListState.write_first closing
    (first :: elements).length
    { state with payload := filled, allocs := state.allocs + countOf first } shorter
  obtain ⟨finished, generatedRest, writtenRest, allocsRest⟩ := genLoop_later opening Nat.one_ne_zero
    (Nat.add_comm 1 elements.length) wrote short
    (fun element among => yields element (List.mem_cons_of_mem _ among))
    (sameAllocs ▸ allocated.second)
  refine ⟨finished, generatedRest, writtenRest, ?_⟩
  rw [allocsRest, sameAllocs, Nat.add_assoc]

/-- The generator of a list writes its elements between the opening and the closing. -/
theorem genListPayload_yields {value : List α} (notEmpty : value ≠ [])
    (short : (opening ++ commaSeparated (value.map textOf) ++ closing).length < dmMsgReportBufLen)
    (yields : ∀ element ∈ value,
      Yields malloc (generate element) (countOf element) (textOf element)) :
    Yields malloc (genListPayload malloc generate opening closing value)
      (1 + (value.map countOf).sum) (opening ++ commaSeparated (value.map textOf) ++ closing) := by
  intro output allocs allocated
  obtain ⟨payload, isPayload⟩ := Option.isSome_iff_exists.mp (allocated 0 (by omega))
  rw [Nat.add_zero] at isPayload
  rw [genListPayload, isPayload]
  match value, notEmpty with
  | [element], _ =>
      simp only [List.map_cons, List.map_nil, List.sum_cons, List.sum_nil, Nat.add_zero] at *
      rw [commaSeparated, List.intercalate_singleton] at short ⊢
      obtain ⟨filled, generated, isText⟩ :=
        yields element List.mem_cons_self payload (allocs + 1) allocated.second
      have whole : ((opening ++ filled.text ++ closing).length : Int) < dmMsgReportBufLen := by
        rw [isText]
        omega
      obtain ⟨written, wrote, isWritten⟩ := halSnprintf_whole output 0 whole (Int.le_refl _)
      refine ⟨written, ?_, ?_⟩
      · rw [generated]
        dsimp only
        have notNegative :
            ¬(((opening ++ filled.text ++ closing).length : Int) < 0 ∨ (0 : Int) < 0) := by
          omega
        rw [if_neg (not_not.mpr rfl), wrote, Nat.add_assoc]
        dsimp only
        rw [if_neg (not_not.mpr rfl), if_neg notNegative]
      · rw [isWritten, isText]
        rfl
  | first :: second :: elements, _ =>
      have isText : opening ++ commaSeparated ((first :: second :: elements).map textOf) ++ closing =
          opening ++ textOf first ++ laterText closing ((second :: elements).map textOf) :=
        commaSeparated_laterText opening closing (textOf first) (textOf second) (elements.map textOf)
      rw [isText] at short ⊢
      obtain ⟨finished, generated, written, sameAllocs⟩ :=
        genLoop_all ⟨payload, output, 0, 0, allocs + 1⟩ short yields allocated.second
      refine ⟨finished.output, ?_, written.isText⟩
      dsimp only
      rw [generated]
      dsimp only
      have left := written.remainSize
      have notNegative := written.writeSize
      rw [if_neg (not_not.mpr rfl), if_neg (by omega), sameAllocs, Nat.add_assoc]

end Lists

/-! ## The generators -/

theorem renderNode_eq (wrapped : Bool) (dmNode : DMNode) :
    renderNode wrapped dmNode = keyOpening dmNode.key wrapped ++ dmNode.value.conversion ++
      keyClosing dmNode.key wrapped := by
  have bare := renderKeyed_eq dmNode.key wrapped [] dmNode.value.conversion []
  rw [List.nil_append, List.append_nil, List.append_nil, List.nil_append] at bare
  exact bare

/-- `dm_gen_node_payload` writes the rendering of a node. -/
theorem dmGenNodePayload_renders (dmNode : DMNode) (valueKey : Bool) (nodePayload : Buffer)
    (short : (renderNode valueKey dmNode).length < dmMsgReportBufLen) :
    ∃ filled, dmGenNodePayload dmNode valueKey nodePayload = (successRet, filled) ∧
      filled.text = renderNode valueKey dmNode := by
  rw [renderNode_eq] at short ⊢
  have room : ((keyOpening dmNode.key valueKey ++ dmNode.value.conversion ++
      keyClosing dmNode.key valueKey).length : Int) < dmMsgReportBufLen := by omega
  obtain ⟨filled, wrote, isWritten⟩ := halSnprintf_whole nodePayload 0 room (Int.le_refl _)
  refine ⟨filled, ?_, isWritten⟩
  rw [dmGenNodePayload, wrote]
  dsimp only
  rw [if_neg (by omega)]

/-- Between braces or brackets, the length of an element is no greater than that of the
whole. -/
theorem length_le_commaSeparated {texts : List (List UInt8)} {text : List UInt8}
    (among : text ∈ texts) : text.length ≤ (commaSeparated texts).length := by
  cases texts with
  | nil => cases among
  | cons first texts =>
      rw [commaSeparated_cons, List.length_append]
      rcases List.mem_cons.mp among with rfl | later
      · omega
      · obtain ⟨before, after, rfl⟩ := List.append_of_mem later
        simp only [List.flatMap_append, List.flatMap_cons, List.length_append]
        omega

theorem renderKeyed_length (key : Option CString) (wrapped : Bool) (body : List UInt8) :
    body.length ≤ (renderKeyed key wrapped body).length := by
  cases key with
  | none => exact Nat.le_refl _
  | some key =>
      cases wrapped <;> simp only [renderKeyed, Bool.false_eq_true, if_false, if_true,
        List.length_append] <;> omega

/-- An element is shorter than the list around it. -/
theorem element_short {key : Option CString} {wrapped : Bool} {opening closing : List UInt8}
    {texts : List (List UInt8)} {text : List UInt8}
    (short : (renderKeyed key wrapped (opening ++ commaSeparated texts ++ closing)).length <
      dmMsgReportBufLen) (among : text ∈ texts) : text.length < dmMsgReportBufLen := by
  have inside := length_le_commaSeparated among
  have outside := renderKeyed_length key wrapped (opening ++ commaSeparated texts ++ closing)
  simp only [List.length_append] at outside
  omega

section Generators

variable {malloc : Malloc} {valueKey : Bool}

theorem genElement_yields {dmNode : DMNode}
    (short : (renderNode false dmNode).length < dmMsgReportBufLen) :
    Yields malloc (genElement dmNode) 0 (renderNode false dmNode) := by
  intro nodePayload allocs _
  obtain ⟨filled, wrote, isText⟩ := dmGenNodePayload_renders dmNode false nodePayload short
  refine ⟨filled, ?_, isText⟩
  rw [genElement, wrote]
  rfl

variable (malloc) in
/-- The generator of a list behind a key writes the rendering of the list. -/
theorem genListPayload_renders {α : Type} {generate : Generator α} {textOf : α → List UInt8}
    (countOf : α → Nat) {value : List α} {key : Option CString} {opening closing : List UInt8}
    (notEmpty : value ≠ [])
    (short : (renderKeyed key valueKey
      (opening ++ commaSeparated (value.map textOf) ++ closing)).length < dmMsgReportBufLen)
    (yields : ∀ element ∈ value, (textOf element).length < dmMsgReportBufLen →
      Yields malloc (generate element) (countOf element) (textOf element)) :
    Yields malloc (genListPayload malloc generate (keyOpening key valueKey ++ opening)
        (closing ++ keyClosing key valueKey) value) (1 + (value.map countOf).sum)
      (renderKeyed key valueKey (opening ++ commaSeparated (value.map textOf) ++ closing)) := by
  have elements : ∀ element ∈ value,
      Yields malloc (generate element) (countOf element) (textOf element) := by
    intro element among
    exact yields element among (element_short short (List.mem_map_of_mem among))
  rw [renderKeyed_eq] at short ⊢
  exact genListPayload_yields notEmpty short elements

theorem dmGenStructPayload_yields {dmStruct : DMTypeStruct} (notEmpty : dmStruct.value ≠ [])
    (short : (renderStruct valueKey dmStruct).length < dmMsgReportBufLen) :
    Yields malloc (dmGenStructPayload malloc dmStruct valueKey) 1
      (renderStruct valueKey dmStruct) := by
  have yields := genListPayload_renders malloc (fun _ => 0) notEmpty short
    fun dmNode _ short => genElement_yields short
  rw [List.map_const', List.sum_replicate_nat, Nat.mul_zero] at yields
  exact yields

theorem dmGenArrayBasePayload_yields {dmArrayBase : DMArrayBase} (notEmpty : dmArrayBase.value ≠ [])
    (short : ((PropertyValue.arrayBase dmArrayBase).render valueKey).length < dmMsgReportBufLen) :
    Yields malloc (dmGenArrayBasePayload malloc dmArrayBase valueKey) 1
      ((PropertyValue.arrayBase dmArrayBase).render valueKey) := by
  rw [PropertyValue.render, renderArray] at short ⊢
  have yields := genListPayload_renders malloc (fun _ => 0) notEmpty short
    fun dmNode _ short => genElement_yields short
  rw [List.map_const', List.sum_replicate_nat, Nat.mul_zero] at yields
  exact yields

theorem dmGenArrayStructPayload_yields {dmArrayStruct : DMArrayStruct}
    (notEmpty : dmArrayStruct.value ≠ [])
    (filled : ∀ dmStruct ∈ dmArrayStruct.value, dmStruct.value ≠ [])
    (short : ((PropertyValue.arrayStruct dmArrayStruct).render valueKey).length <
      dmMsgReportBufLen) :
    Yields malloc (dmGenArrayStructPayload malloc dmArrayStruct valueKey)
      (1 + dmArrayStruct.value.length)
      ((PropertyValue.arrayStruct dmArrayStruct).render valueKey) := by
  rw [PropertyValue.render, renderArray] at short ⊢
  have yields := genListPayload_renders malloc (fun _ => 1) notEmpty short
    fun dmStruct among short => dmGenStructPayload_yields (filled dmStruct among) short
  rw [List.map_const', List.sum_replicate_nat, Nat.mul_one] at yields
  exact yields

/-- The generator of a property writes its rendering. -/
theorem genProperty_yields {property : DMProperty} (filled : property.value.Filled)
    (short : (property.value.render valueKey).length < dmMsgReportBufLen) :
    Yields malloc (genProperty malloc .propertyPost valueKey property) property.value.buffers
      (property.value.render valueKey) := by
  obtain ⟨value, desiredVer⟩ := property
  cases value with
  | node dmNode =>
      intro payload allocs _
      obtain ⟨filled, wrote, isText⟩ := dmGenNodePayload_renders dmNode valueKey payload short
      refine ⟨filled, ?_, isText⟩
      simp only [genProperty, dmGenPropertyPostPayload, wrote]
      rfl
  | struct dmStruct => exact dmGenStructPayload_yields filled short
  | arrayBase dmArrayBase => exact dmGenArrayBasePayload_yields filled short
  | arrayStruct dmArrayStruct => exact dmGenArrayStructPayload_yields filled.1 filled.2 short

end Generators

/-- **The payload of a report.** When the properties render to less than a buffer holds and
the buffers for what is nested are allocated, the rendering is what the output buffer holds
in the end, whatever it held before. -/
theorem dmGenPropertiesPayload_renders (malloc : Malloc) (property : List DMProperty)
    (valueKey : Bool) (propertiesPayload : Buffer) (notEmpty : property ≠ [])
    (filled : ∀ each ∈ property, each.value.Filled)
    (short : (renderProperties valueKey property).length < dmMsgReportBufLen)
    (allocated : ∀ i < buffersOf property, (malloc i).isSome) :
    ∃ output, dmGenPropertiesPayload malloc property .propertyPost valueKey propertiesPayload =
        (successRet, output) ∧ output.text = renderProperties valueKey property := by
  obtain ⟨payload, isPayload⟩ := Option.isSome_iff_exists.mp
    (allocated 0 (Nat.lt_of_lt_of_le Nat.one_pos (Nat.le_add_right 1 _)))
  have yields : ∀ each ∈ property, Yields malloc (genProperty malloc .propertyPost valueKey each)
      each.value.buffers (each.value.render valueKey) := by
    intro each among
    have inside := length_le_commaSeparated
      (List.mem_map_of_mem (f := fun each : DMProperty => each.value.render valueKey) among)
    exact genProperty_yields (filled each among) (Nat.lt_of_le_of_lt inside short)
  match property, notEmpty with
  | first :: elements, _ =>
      have isText : renderProperties valueKey (first :: elements) =
          [] ++ first.value.render valueKey ++
            laterText [] (elements.map fun each => each.value.render valueKey) := by
        rw [renderProperties, List.map_cons, commaSeparated_cons, laterText_nil, List.nil_append]
      rw [isText] at short ⊢
      have buffers : Allocated malloc 1
          ((first :: elements).map fun each => each.value.buffers).sum :=
        fun i below => allocated (1 + i) (Nat.add_lt_add_left below 1)
      obtain ⟨finished, generated, written, _⟩ :=
        genLoop_all ⟨payload, propertiesPayload, 0, 0, 1⟩ short yields buffers
      refine ⟨finished.output, ?_, written.isText⟩
      have left := written.remainSize
      have notNegative := written.writeSize
      rw [dmGenPropertiesPayload, isPayload]
      dsimp only
      rw [generated]
      dsimp only
      rw [if_neg (not_not.mpr rfl), if_neg (by omega)]

/-- A switch, and an array of two structs. -/
def lampProperties : List DMProperty :=
  [⟨.node ⟨some (literal "on"), .bool true⟩, 0⟩,
    ⟨.arrayStruct ⟨literal "dim",
      [⟨none, [⟨some (literal "lo"), .int 1⟩, ⟨some (literal "hi"), .int 9⟩]⟩,
        ⟨none, [⟨some (literal "lo"), .int (-2)⟩]⟩]⟩, 0⟩]

def lampText : List UInt8 :=
  literal "\"on\": \x7b\"Value\": 1\x7d, \"dim\": \x7b\"Value\": " ++
    literal "[\x7b\"lo\": 1, \"hi\": 9\x7d, \x7b\"lo\": -2\x7d]\x7d"

theorem renderProperties_lamp : renderProperties true lampProperties = lampText := by
  decide +kernel

theorem dmGenPropertiesPayload_renders_lamp : ∃ output,
    dmGenPropertiesPayload (fun _ => some ⟨literal "old", 0, false⟩) lampProperties .propertyPost
        true ⟨literal "rest", 0, false⟩ = (successRet, output) ∧ output.text = lampText := by
  rw [← renderProperties_lamp]
  exact dmGenPropertiesPayload_renders _ lampProperties true _ (List.cons_ne_nil _ _)
    (by decide) (by rw [renderProperties_lamp]; decide) (fun _ _ => rfl)

/-- Without memory there is no payload. -/
theorem unallocated_payload_fails :
    (lampProperties ≠ [] ∧ (∀ property ∈ lampProperties, property.value.Filled) ∧
        (renderProperties true lampProperties).length < dmMsgReportBufLen) ∧
      ∀ propertiesPayload, dmGenPropertiesPayload (fun _ => none) lampProperties .propertyPost true
        propertiesPayload = (failureRet, propertiesPayload) := by
  refine ⟨⟨by decide, by decide, ?_⟩, fun propertiesPayload => rfl⟩
  rw [renderProperties_lamp]
  decide

end UIoT.DevModel
