import UIoT.DevModel.Fitting

/-!
# Payloads that overflow

When every allocation succeeds, a run of `dm_gen_properties_payload` in which each text
is written with no more room than there is, and in which no generator succeeds on a
text that is cut or left out, shows that its properties fit; so the condition is exact
(`completeRun_iff`). An empty list leaves its buffer as it is, and what was in it is the
text of the element before it, which ends otherwise than that of an empty list
(`Solid`).
-/

set_option autoImplicit false

namespace UIoT.DevModel

open Utils
open Mqtt (CString)

/-! ## Texts that are not hollow -/

def Closer (byte : UInt8) : Prop := byte = Json.closeBrace ∨ byte = Json.closeBracket

instance (byte : UInt8) : Decidable (Closer byte) := inferInstanceAs (Decidable (_ ∨ _))

def Opener (byte : UInt8) : Prop := byte = Json.openBrace ∨ byte = Json.openBracket

instance (byte : UInt8) : Decidable (Opener byte) := inferInstanceAs (Decidable (_ ∨ _))

/-- In front of its closing brackets a text has a byte that is no bracket. -/
def Solid (text : List UInt8) : Prop :=
  ∃ front byte closers, text = front ++ byte :: closers ∧ ¬Opener byte ∧ ¬Closer byte ∧
    ∀ closer ∈ closers, Closer closer

/-- The byte in front of the closing brackets. -/
def lastInside (text : List UInt8) : Option UInt8 :=
  (text.reverse.dropWhile fun byte => decide (Closer byte)).head?

theorem lastInside_eq (front : List UInt8) {byte : UInt8} {closers : List UInt8}
    (notCloser : ¬Closer byte) (closing : ∀ closer ∈ closers, Closer closer) :
    lastInside (front ++ byte :: closers) = some byte := by
  have reversed : (front ++ byte :: closers).reverse = closers.reverse ++ byte :: front.reverse := by
    simp
  have dropped : (closers.reverse ++ byte :: front.reverse).dropWhile
      (fun byte => decide (Closer byte)) = byte :: front.reverse := by
    rw [List.dropWhile_append_of_pos, List.dropWhile_cons_of_neg (by simpa using notCloser)]
    intro closer among
    exact decide_eq_true (closing closer (List.mem_reverse.mp among))
  rw [lastInside, reversed, dropped]
  rfl

/-- A text that closes what it has just opened is hollow. -/
theorem not_solid (front : List UInt8) {opener : UInt8} {closers : List UInt8} (isOpener : Opener opener)
    (closing : ∀ closer ∈ closers, Closer closer) : ¬Solid (front ++ opener :: closers) := by
  have notCloser : ¬Closer opener := by
    rcases isOpener with rfl | rfl <;> decide
  rintro ⟨other, byte, rest, same, notOpener, isInside, others⟩
  have first := lastInside_eq front notCloser closing
  rw [same, lastInside_eq other isInside others] at first
  exact notOpener (Option.some.inj first ▸ isOpener)

theorem Solid.behind {text : List UInt8} (solid : Solid text) (front : List UInt8) :
    Solid (front ++ text) := by
  obtain ⟨other, byte, closers, rfl, inside⟩ := solid
  exact ⟨front ++ other, byte, closers, (List.append_assoc ..).symm, inside⟩

theorem Solid.closed {text closers : List UInt8} (solid : Solid text)
    (closing : ∀ closer ∈ closers, Closer closer) : Solid (text ++ closers) := by
  obtain ⟨front, byte, others, rfl, notOpener, notCloser, closes⟩ := solid
  refine ⟨front, byte, others ++ closers, by simp, notOpener, notCloser, ?_⟩
  intro closer among
  rcases List.mem_append.mp among with here | there
  · exact closes closer here
  · exact closing closer there

theorem solid_single {byte : UInt8} (notOpener : ¬Opener byte) (notCloser : ¬Closer byte) :
    Solid [byte] :=
  ⟨[], byte, [], rfl, notOpener, notCloser, fun _ among => nomatch among⟩

theorem solid_digitByte : ∀ digit : Json.Digit, ¬Opener (Json.digitByte digit) ∧
    ¬Closer (Json.digitByte digit) := by decide

theorem solid_digits (first : Json.Digit) (more : List Json.Digit) :
    Solid (Json.digitByte first :: more.map Json.digitByte) := by
  induction more generalizing first with
  | nil => exact solid_single (solid_digitByte first).1 (solid_digitByte first).2
  | cons second more ih => exact (ih second).behind [Json.digitByte first]

theorem solid_formatInt (i : Int) : Solid (formatInt i) := (solid_digits _ _).behind _

theorem solid_formatFloating (floating : Floating) : Solid (formatFloating floating) := by
  cases floating with
  | finite negative significand exponent =>
      rw [formatFloating]
      exact ((solid_digits _ _).behind [Json.point]).behind _
  | infinite negative =>
      exact ((solid_single (by decide : ¬Opener 0x66) (by decide)).behind [0x69, 0x6E]).behind _
  | nan negative =>
      exact ((solid_single (by decide : ¬Opener 0x6E) (by decide)).behind [0x6E, 0x61]).behind _

theorem solid_conversion (value : BaseValue) : Solid value.conversion := by
  cases value with
  | string value => exact (solid_single (by decide) (by decide)).behind _
  | int value => exact solid_formatInt _
  | enum value => exact solid_formatInt _
  | date value => exact solid_formatInt _
  | bool value => exact solid_formatInt _
  | float value => exact solid_formatFloating value
  | double value => exact solid_formatFloating value

theorem keyClosing_closes (key : Option CString) (wrapped : Bool) :
    ∀ closer ∈ keyClosing key wrapped, Closer closer := by
  have brace : ∀ closer ∈ literal "\x7d", Closer closer := by decide +kernel
  intro closer among
  cases key with
  | none => cases among
  | some key =>
      cases wrapped with
      | true => exact brace closer among
      | false => cases among

theorem solid_renderNode (wrapped : Bool) (dmNode : DMNode) : Solid (renderNode wrapped dmNode) := by
  rw [renderNode_eq]
  exact ((solid_conversion _).behind _).closed (keyClosing_closes _ _)

theorem solid_commaSeparated {texts : List (List UInt8)} (notEmpty : texts ≠ [])
    (solid : ∀ text ∈ texts, Solid text) : Solid (commaSeparated texts) := by
  induction texts with
  | nil => exact (notEmpty rfl).elim
  | cons first texts ih =>
      cases texts with
      | nil =>
          rw [commaSeparated, List.intercalate_singleton]
          exact solid first List.mem_cons_self
      | cons second texts =>
          have further := ih (List.cons_ne_nil _ _) fun text among =>
            solid text (List.mem_cons_of_mem _ among)
          have whole : commaSeparated (first :: second :: texts) =
              first ++ (literal ", " ++ commaSeparated (second :: texts)) := by
            rw [commaSeparated, commaSeparated, List.intercalate_cons_cons, List.append_assoc]
          rw [whole]
          exact (further.behind _).behind _

/-! ## What a run shows -/

/-- Every allocation returns an empty buffer. -/
def emptyBuffers : Malloc := fun _ => some { text := [], reach := 0, wrapped := false }

/-- A buffer that holds no rendering of an empty list. -/
def NotHollow (buffer : Buffer) : Prop := buffer.text = [] ∨ Solid buffer.text

/-- Elements that are written as asked fit, and the generator succeeds on them unless
they are refused. -/
structure Texts.Exact {α : Type} (texts : Texts α) (generate : Generator α) (check : Check α) :
    Prop where
  reveals : ∀ element buffer allocs, NotHollow buffer → check element buffer allocs →
    texts.Fits element
  succeeds : ∀ element, texts.Fits element → ¬texts.Refused element → ∀ buffer allocs,
    ∃ payload more, generate element buffer allocs = (successRet, payload, more)
  solid : ∀ element, texts.Fits element → ¬texts.Refused element → Solid (texts.textOf element)

section Exact

variable {α : Type} {texts : Texts α} {generate : Generator α} {check : Check α}
  {opening closing : List UInt8} {num : Nat}

theorem genLoop_turn {element : α} {elements : List α} {loop : Nat} {state : ListState}
    {payload : Buffer} {allocs : Nat}
    (generated : generate element state.payload state.allocs = (successRet, payload, allocs)) :
    genLoop generate opening closing num (element :: elements) loop state =
      genLoop generate opening closing num elements (loop + 1)
        (ListState.write opening closing num loop { state with payload, allocs }) := by
  rw [genLoop_cons, generated]
  exact if_neg (not_not.mpr rfl)

/-- The state behind a later turn, with what is written then. -/
theorem reached_turn (sound : texts.Sound generate check) {element : α} {elements : List α}
    {loop : Nat} {state : ListState} {text : List UInt8} {payload : Buffer} {allocs : Nat}
    (later : loop ≠ 0) (count : loop + (elements.length + 1) = num) (reached : state.Reached text)
    (fits : texts.Fits element) (room : text.length ≤ dmMsgReportBufLen)
    (generated : generate element state.payload state.allocs = (successRet, payload, allocs)) :
    (ListState.write opening closing num loop { state with payload, allocs }).Reached
      (text ++ (literal ", " ++ texts.textOf element ++ if elements = [] then closing else [])) := by
  have isLast : (loop = num - 1) ↔ elements = [] := by
    rw [← List.length_eq_zero_iff]
    omega
  have isText := (sound.yields element fits _ _ _ _ generated).2
  have same : ListState.Reached { state with payload, allocs } text :=
    ⟨reached.remainSize, reached.writeSize, reached.short, reached.kept⟩
  have wrote := (@ListState.Reached.write opening closing _ num _ _ same later room).2
  simp only [isLast, isText] at wrote
  exact wrote

/-- Behind the first turn, by induction over the elements. -/
theorem loop_exact (sound : texts.Sound generate check) (exact : texts.Exact generate check)
    (elements : List α) :
    ∀ {loop : Nat} {state : ListState} {text : List UInt8}, loop ≠ 0 →
      loop + elements.length = num → state.Reached text → NotHollow state.payload →
      loopWithin generate check opening closing num elements loop state →
      (∀ final, genLoop generate opening closing num elements loop state = (successRet, final) →
        ¬(final.writeSize < 0 ∨ final.remainSize < 0) →
        (text ++ laterText closing (elements.map texts.textOf)).length < dmMsgReportBufLen) →
      texts.LoopFits closing text elements := by
  induction elements with
  | nil =>
      intro loop state text _ _ reached _ _ finishes
      rw [Texts.LoopFits]
      intro full
      have isRemain := reached.remainSize
      have isWrite := reached.writeSize
      have short := finishes state rfl (by omega)
      rw [List.map_nil, laterText, List.append_nil] at short
      omega
  | cons element elements ih =>
      intro loop state text later count reached notHollow within finishes
      rw [List.length_cons] at count
      have fits := exact.reveals element _ _ notHollow within.1
      refine ⟨fits, ?_⟩
      intro notRefused
      obtain ⟨payload, allocs, generated⟩ := exact.succeeds element fits notRefused state.payload
        state.allocs
      obtain ⟨sizeWithin, further⟩ := within.2 payload allocs generated
      have same : ListState.Reached { state with payload, allocs } text :=
        ⟨reached.remainSize, reached.writeSize, reached.short, reached.kept⟩
      have room := same.of_sizeWithin later sizeWithin
      refine ⟨room, ?_⟩
      have wrote := @reached_turn _ _ _ _ opening closing _ sound _ _ _ _ _ _ _ later count reached
        fits room generated
      have isText := (sound.yields element fits _ _ _ _ generated).2
      have samePayload : (ListState.write opening closing num loop
          { state with payload, allocs }).payload = payload := by
        rw [ListState.write, if_neg later]
      refine ih (Nat.succ_ne_zero _) (by omega) wrote ?_ further ?_
      · rw [samePayload, NotHollow, isText]
        exact .inr (exact.solid element fits notRefused)
      · intro final succeeded remains
        have short := finishes final ((genLoop_turn generated).trans succeeded) remains
        rw [List.map_cons, laterText] at short
        simpa only [List.map_eq_nil_iff, List.append_assoc] using short

/-- The whole loop, from the first turn. -/
theorem wholeLoop_exact (sound : texts.Sound generate check) (exact : texts.Exact generate check)
    {first : α} {elements : List α} {state : ListState} (notHollow : NotHollow state.payload)
    (within : loopWithin generate check opening closing (elements.length + 1) (first :: elements) 0
      state)
    (finishes : ∀ final, genLoop generate opening closing (elements.length + 1) (first :: elements) 0
        state = (successRet, final) → ¬(final.writeSize < 0 ∨ final.remainSize < 0) →
      (opening ++ texts.textOf first ++ laterText closing (elements.map texts.textOf)).length <
        dmMsgReportBufLen) :
    texts.Fits first ∧ (¬texts.Refused first →
      texts.LoopFits closing (opening ++ texts.textOf first) elements) := by
  have fits := exact.reveals first _ _ notHollow within.1
  refine ⟨fits, ?_⟩
  intro notRefused
  obtain ⟨payload, allocs, generated⟩ := exact.succeeds first fits notRefused state.payload
    state.allocs
  have isText := (sound.yields first fits _ _ _ _ generated).2
  have wrote := ListState.reached_first opening closing (elements.length + 1)
    { state with payload, allocs }
  rw [isText] at wrote
  refine loop_exact sound exact elements Nat.one_ne_zero (Nat.add_comm 1 _) wrote ?_
    (within.2 payload allocs generated).2 ?_
  · have samePayload : (ListState.write opening closing (elements.length + 1) 0
        { state with payload, allocs }).payload = payload := by
      rw [ListState.write, if_pos rfl]
    rw [samePayload, NotHollow, isText]
    exact .inr (exact.solid first fits notRefused)
  · intro final succeeded remains
    exact finishes final ((genLoop_turn generated).trans succeeded) remains

/-- Elements that fit and are not refused take the loop to its end. -/
theorem loop_succeeds (exact : texts.Exact generate check) (elements : List α) :
    ∀ {loop : Nat} {state : ListState}, (∀ element ∈ elements, texts.Fits element) →
      (∀ element ∈ elements, ¬texts.Refused element) →
      ∃ final, genLoop generate opening closing num elements loop state = (successRet, final) := by
  induction elements with
  | nil => exact fun _ _ => ⟨_, rfl⟩
  | cons element elements ih =>
      intro loop state fits notRefused
      obtain ⟨payload, allocs, generated⟩ := exact.succeeds element (fits element List.mem_cons_self)
        (notRefused element List.mem_cons_self) state.payload state.allocs
      rw [genLoop_turn generated]
      exact ih (fun other among => fits other (List.mem_cons_of_mem _ among))
        fun other among => notRefused other (List.mem_cons_of_mem _ among)

/-- What fits goes on fitting behind it. -/
theorem Texts.LoopFits.all {elements : List α} : ∀ {text : List UInt8},
    texts.LoopFits closing text elements → (∀ element ∈ elements, ¬texts.Refused element) →
    ∀ element ∈ elements, texts.Fits element := by
  induction elements with
  | nil => exact fun _ _ _ among => nomatch among
  | cons first elements ih =>
      intro text fits notRefused element among
      rcases List.mem_cons.mp among with rfl | rest
      · exact fits.1
      · exact ih (fits.2 (notRefused first List.mem_cons_self)).2
          (fun other among => notRefused other (List.mem_cons_of_mem _ among)) element rest

variable {value : List α} {output : Buffer} {allocs : Nat}

/-- Of a list that fits and is not refused, neither is an element. -/
theorem Texts.ListFits.accepted (notRefused : ¬texts.ListRefused opening closing value) :
    ∀ element ∈ value, ¬texts.Refused element := by
  match value with
  | [] => exact fun _ among => nomatch among
  | [single] =>
      intro element among
      rwa [List.mem_singleton.mp among]
  | first :: second :: elements =>
      exact fun element among refused => notRefused (.inl ⟨element, among, refused⟩)

theorem Texts.ListFits.all (fits : texts.ListFits opening closing value)
    (notRefused : ¬texts.ListRefused opening closing value) :
    value ≠ [] ∧ ∀ element ∈ value, texts.Fits element := by
  have accepted := Texts.ListFits.accepted notRefused
  match value, fits with
  | [single], fits =>
      refine ⟨List.cons_ne_nil _ _, ?_⟩
      intro element among
      rw [List.mem_singleton.mp among]
      exact fits.1
  | first :: second :: elements, fits =>
      refine ⟨List.cons_ne_nil _ _, ?_⟩
      intro element among
      rcases List.mem_cons.mp among with rfl | rest
      · exact fits.1
      · exact (fits.2 (accepted first List.mem_cons_self)).all
          (fun other among => accepted other (List.mem_cons_of_mem _ among)) element rest

/-- The generator of a list, when every allocation succeeds. -/
theorem genListPayload_exact (sound : texts.Sound generate check) (exact : texts.Exact generate check)
    (hollow : ¬Solid (opening ++ closing) ∧ opening ++ closing ≠ []) (notHollow : NotHollow output)
    (within : listWithin generate check opening closing emptyBuffers value output allocs)
    (renders : Renders (genListPayload emptyBuffers generate opening closing value output allocs)
      (opening ++ commaSeparated (value.map texts.textOf) ++ closing)) :
    texts.ListFits opening closing value := by
  have fresh : NotHollow { text := [], reach := 0, wrapped := false } := .inl rfl
  have isPayload : emptyBuffers allocs = some { text := [], reach := 0, wrapped := false } := rfl
  match value with
  | [] =>
      have stale := (renders rfl).1
      have empty : commaSeparated [] = [] := rfl
      rw [List.map_nil, empty, List.append_nil] at stale
      have same : output.text = opening ++ closing := stale
      rcases notHollow with isEmpty | solid
      · exact (hollow.2 (same.symm.trans isEmpty)).elim
      · exact (hollow.1 (same ▸ solid)).elim
  | [element] =>
      have fits := exact.reveals element _ _ fresh (within _ isPayload).1
      refine ⟨fits, ?_⟩
      intro notRefused
      obtain ⟨payload, more, generated⟩ := exact.succeeds element fits notRefused
        { text := [], reach := 0, wrapped := false } (allocs + 1)
      rw [Renders, genListPayload_single isPayload, generated] at renders
      have short := (renders rfl).2
      rwa [List.map_singleton, commaSeparated, List.intercalate_singleton] at short
  | first :: second :: elements =>
      refine wholeLoop_exact sound exact fresh (within _ isPayload) ?_
      intro final succeeded notNegative
      rw [Renders, genListPayload_several isPayload, List.map_cons, List.map_cons,
        commaSeparated_laterText] at renders
      have isRun : (finish (genLoop generate opening closing (first :: second :: elements).length
          (first :: second :: elements) 0
            ⟨{ text := [], reach := 0, wrapped := false }, output, 0, 0, allocs + 1⟩)).1 =
          successRet := by
        have run := succeeded
        rw [List.length_cons, run, finish]
        simp only [ne_eq, not_true_eq_false, if_false, if_neg notNegative]
      exact (renders isRun).2

theorem genListPayload_succeeds (sound : texts.Sound generate check)
    (exact : texts.Exact generate check) (fits : texts.ListFits opening closing value)
    (notRefused : ¬texts.ListRefused opening closing value) :
    ∃ payload more, genListPayload emptyBuffers generate opening closing value output allocs =
      (successRet, payload, more) := by
  have isPayload : emptyBuffers allocs = some { text := [], reach := 0, wrapped := false } := rfl
  match value, fits with
  | [element], fits =>
      obtain ⟨payload, more, generated⟩ := exact.succeeds element fits.1 notRefused
        { text := [], reach := 0, wrapped := false } (allocs + 1)
      rw [genListPayload_single isPayload, generated]
      exact ⟨_, _, if_neg (not_not.mpr rfl)⟩
  | first :: second :: elements, fits =>
      have accepted := Texts.ListFits.accepted notRefused
      have all := (Texts.ListFits.all fits notRefused).2
      obtain ⟨final, succeeded⟩ := @loop_succeeds _ _ _ _ opening closing
        (first :: second :: elements).length exact (first :: second :: elements) 0
        ⟨{ text := [], reach := 0, wrapped := false }, output, 0, 0, allocs + 1⟩ all accepted
      obtain ⟨reached, _, _⟩ := (wholeLoop_sound sound fits
        ⟨{ text := [], reach := 0, wrapped := false }, output, 0, 0, allocs + 1⟩).2 final succeeded
      have short : (opening ++ commaSeparated ((first :: second :: elements).map texts.textOf) ++
          closing).length ≤ dmMsgReportBufLen := Nat.not_lt.mp fun long => notRefused (.inr long)
      rw [List.map_cons, List.map_cons, commaSeparated_laterText] at short
      have isRemain := reached.remainSize
      have isWrite := reached.writeSize
      rw [List.map_cons] at isRemain
      rw [genListPayload_several isPayload, succeeded, finish]
      refine ⟨final.output, final.allocs, ?_⟩
      dsimp only
      rw [if_neg (not_not.mpr rfl), if_neg (by omega)]

end Exact

/-! ## Each generator -/

theorem nodes_exact (wrapped : Bool) : (nodes wrapped).Exact
    (fun dmNode nodePayload allocs => ((dmGenNodePayload dmNode wrapped nodePayload).1,
      (dmGenNodePayload dmNode wrapped nodePayload).2, allocs)) (checkNode wrapped) := by
  refine ⟨fun _ _ _ _ _ => trivial, ?_, fun dmNode _ _ => solid_renderNode wrapped dmNode⟩
  intro dmNode _ notRefused nodePayload allocs
  have success := (dmGenNodePayload_success_iff dmNode wrapped nodePayload).mpr
    (Nat.not_le.mp notRefused)
  exact ⟨_, _, Prod.ext success rfl⟩

/-- The generator of a list behind a key. -/
theorem Texts.Exact.keyedList {α : Type} {texts : Texts α} {generate : Generator α} {check : Check α}
    (exact : texts.Exact generate check) (sound : texts.Sound generate check) (key : Option CString)
    (wrapped : Bool) {opener closer : UInt8} (isOpener : Opener opener) (isCloser : Closer closer)
    (value : List α) :
    let start := keyOpening key wrapped ++ [opener]
    let stop := [closer] ++ keyClosing key wrapped
    let text := renderKeyed key wrapped
      ([opener] ++ commaSeparated (value.map texts.textOf) ++ [closer])
    (∀ output allocs, NotHollow output →
      listWithin generate check start stop emptyBuffers value output allocs ∧
          Renders (genListPayload emptyBuffers generate start stop value output allocs) text →
        texts.ListFits start stop value) ∧
    (texts.ListFits start stop value → ¬texts.ListRefused start stop value → Solid text ∧
      ∀ output allocs, ∃ payload more,
        genListPayload emptyBuffers generate start stop value output allocs =
          (successRet, payload, more)) := by
  intro start stop text
  have closes : ∀ byte ∈ stop, Closer byte := by
    intro byte among
    rcases List.mem_cons.mp among with rfl | rest
    · exact isCloser
    · exact keyClosing_closes key wrapped byte rest
  have isText : start ++ commaSeparated (value.map texts.textOf) ++ stop = text :=
    keyed_list_eq key wrapped [opener] [closer] _
  have split : start ++ stop = keyOpening key wrapped ++ opener :: stop :=
    List.append_assoc _ [opener] _
  constructor
  · rintro output allocs notHollow ⟨within, renders⟩
    refine genListPayload_exact sound exact ⟨?_, ?_⟩ notHollow within (isText.symm ▸ renders)
    · rw [split]
      exact not_solid _ isOpener closes
    · rw [split]
      simp
  · intro fits notRefused
    refine ⟨?_, fun output allocs => genListPayload_succeeds sound exact fits notRefused⟩
    obtain ⟨notEmpty, all⟩ := Texts.ListFits.all fits notRefused
    have accepted := Texts.ListFits.accepted notRefused
    rw [← isText]
    refine Solid.closed (Solid.behind (solid_commaSeparated ?_ ?_) _) closes
    · exact fun isNil => notEmpty (List.map_eq_nil_iff.mp isNil)
    · intro other among
      obtain ⟨element, member, rfl⟩ := List.mem_map.mp among
      exact exact.solid element (all element member) (accepted element member)

theorem structs_exact (wrapped : Bool) :
    (structs wrapped).Exact (fun dmStruct => dmGenStructPayload emptyBuffers dmStruct wrapped)
      (checkStruct emptyBuffers wrapped) := by
  have keyed := fun dmStruct : DMTypeStruct => (nodes_exact false).keyedList (nodes_sound false)
    dmStruct.key wrapped (by decide : Opener Json.openBrace) (by decide : Closer Json.closeBrace)
    dmStruct.value
  refine ⟨?_, ?_, ?_⟩
  · intro dmStruct buffer allocs notHollow checked
    exact (keyed dmStruct).1 buffer allocs notHollow checked
  · intro dmStruct fits notRefused buffer allocs
    exact ((keyed dmStruct).2 fits notRefused).2 buffer allocs
  · intro dmStruct fits notRefused
    exact ((keyed dmStruct).2 fits notRefused).1

/-- The text of a property that is not reported ends with a quote or in a version. -/
theorem solid_plain {type : DMType} {wrapped : Bool} {property : DMProperty} {text : List UInt8}
    (notPost : type ≠ .propertyPost) (isText : type.render wrapped property = some text) :
    Solid text := by
  cases type with
  | propertyPost => exact (notPost rfl).elim
  | propertyDesiredGet =>
      obtain rfl := Option.some.inj isText
      exact (solid_single (by decide) (by decide)).behind _
  | propertyDesiredDelete =>
      obtain rfl := Option.some.inj isText
      exact ((solid_formatInt _).behind _).closed (by decide +kernel)
  | propertyRestore => cases isText
  | propertySet => cases isText
  | eventPost => cases isText
  | command => cases isText

theorem properties_exact (type : DMType) (wrapped : Bool) :
    (properties type wrapped).Exact (genProperty emptyBuffers type wrapped)
      (checkProperty emptyBuffers type wrapped) := by
  have nodeLists := fun key (value : List DMNode) => (nodes_exact false).keyedList (nodes_sound false)
    (some key) wrapped (by decide : Opener Json.openBracket) (by decide : Closer Json.closeBracket)
    value
  have structLists := fun key (value : List DMTypeStruct) => (structs_exact false).keyedList
    (structs_sound emptyBuffers false) (some key) wrapped (by decide : Opener Json.openBracket)
    (by decide : Closer Json.closeBracket) value
  by_cases isPost : type = .propertyPost
  · subst isPost
    refine ⟨?_, ?_, ?_⟩
    · rintro ⟨value, desiredVer⟩ buffer allocs notHollow checked
      cases value with
      | node dmNode => exact (nodes_exact wrapped).reveals dmNode buffer allocs notHollow checked
      | struct dmStruct =>
          exact (structs_exact wrapped).reveals dmStruct buffer allocs notHollow checked
      | arrayBase dmArrayBase =>
          exact (nodeLists dmArrayBase.key dmArrayBase.value).1 buffer allocs notHollow checked
      | arrayStruct dmArrayStruct =>
          exact (structLists dmArrayStruct.key dmArrayStruct.value).1 buffer allocs notHollow checked
    · rintro ⟨value, desiredVer⟩ fits notRefused buffer allocs
      have accepted : ¬value.Refused wrapped := fun refused => notRefused ⟨rfl, refused⟩
      cases value with
      | node dmNode => exact (nodes_exact wrapped).succeeds dmNode fits accepted buffer allocs
      | struct dmStruct => exact (structs_exact wrapped).succeeds dmStruct fits accepted buffer allocs
      | arrayBase dmArrayBase =>
          exact ((nodeLists dmArrayBase.key dmArrayBase.value).2 fits accepted).2 buffer allocs
      | arrayStruct dmArrayStruct =>
          exact ((structLists dmArrayStruct.key dmArrayStruct.value).2 fits accepted).2 buffer allocs
    · rintro ⟨value, desiredVer⟩ fits notRefused
      have accepted : ¬value.Refused wrapped := fun refused => notRefused ⟨rfl, refused⟩
      cases value with
      | node dmNode => exact (nodes_exact wrapped).solid dmNode fits accepted
      | struct dmStruct => exact (structs_exact wrapped).solid dmStruct fits accepted
      | arrayBase dmArrayBase =>
          exact ((nodeLists dmArrayBase.key dmArrayBase.value).2 fits accepted).1
      | arrayStruct dmArrayStruct =>
          exact ((structLists dmArrayStruct.key dmArrayStruct.value).2 fits accepted).1
  · have named : ∀ {property}, (properties type wrapped).Fits property →
        ∃ text, type.render wrapped property = some text ∧ text.length < dmMsgReportBufLen := by
      intro property fits
      simpa only [properties, if_neg isPost] using fits
    refine ⟨?_, ?_, ?_⟩
    · intro property buffer allocs _ checked
      rw [checkProperty_plain isPost] at checked
      obtain ⟨_, text, isText, renders⟩ := checked
      have short := (renders (genProperty_plain isPost isText emptyBuffers buffer allocs).1).2
      simp only [properties, if_neg isPost]
      exact ⟨text, isText, short⟩
    · intro property fits _ buffer allocs
      obtain ⟨text, isText, _⟩ := named fits
      exact ⟨_, _, Prod.ext (genProperty_plain isPost isText emptyBuffers buffer allocs).1 rfl⟩
    · intro property fits _
      obtain ⟨text, isText, _⟩ := named fits
      have same : (properties type wrapped).textOf property = text := by
        simp only [properties, isText, Option.getD_some]
      rw [same]
      exact solid_plain isPost isText

/-! ## The payload -/

/-- A run that is as asked shows that the properties fit. -/
theorem fits_of_completeRun {property : List DMProperty} {type : DMType} {valueKey : Bool}
    (complete : CompleteRun emptyBuffers property type valueKey
      { text := [0x78], reach := 0, wrapped := false }) : PayloadFits type valueKey property := by
  obtain ⟨within, renders⟩ := complete
  have isPayload : emptyBuffers 0 = some { text := [], reach := 0, wrapped := false } := rfl
  match property with
  | [] =>
      have stale := (renders rfl).1
      cases stale
  | first :: elements =>
      refine @wholeLoop_exact _ _ _ _ [] [] (properties_sound emptyBuffers type valueKey)
        (properties_exact type valueKey) first elements _ (.inl rfl) (within _ isPayload) ?_
      intro final succeeded notNegative
      have isRun : (finish (genLoop (genProperty emptyBuffers type valueKey) [] []
          (first :: elements).length (first :: elements) 0
            ⟨{ text := [], reach := 0, wrapped := false },
              { text := [0x78], reach := 0, wrapped := false }, 0, 0, 1⟩)).1 = successRet := by
        rw [List.length_cons, succeeded, finish]
        simp only [ne_eq, not_true_eq_false, if_false, if_neg notNegative]
      rw [dmGenPropertiesPayload_eq isPayload, renderAs_cons] at renders
      exact (renders isRun).2

/-- **Payloads.** Whatever memory holds, each text is written with no more room than
there is and what succeeds is rendered, exactly when the properties fit. -/
theorem completeRun_iff (property : List DMProperty) (type : DMType) (valueKey : Bool) :
    (∀ malloc propertiesPayload,
      CompleteRun malloc property type valueKey propertiesPayload) ↔
        PayloadFits type valueKey property :=
  ⟨fun complete => fits_of_completeRun (complete _ _), fun fits => completeRun_of_fits fits⟩

/-- A string property. -/
def textProperty (length : Nat) : DMProperty :=
  ⟨.node ⟨some (literal "k"), .string (List.replicate length 0x78)⟩, 0⟩

theorem textProperty_length (length : Nat) :
    ((properties .propertyPost false).textOf (textProperty length)).length = 7 + length := by
  have isText : (properties .propertyPost false).textOf (textProperty length) = literal "\"" ++
      literal "k" ++ literal "\": " ++ (literal "\"" ++ List.replicate length 0x78 ++ literal "\"") :=
    rfl
  have one : (literal "\"").length = 1 ∧ (literal "k").length = 1 ∧ (literal "\": ").length = 3 := by
    decide
  rw [isText]
  simp only [List.length_append, List.length_replicate, one]
  omega

/-- Of three properties, the first fills the buffer but for one byte. -/
def overflowing : List DMProperty := [textProperty 2040, textProperty 3, textProperty 3]

/-- The third is written behind the buffer. -/
theorem written_behind_buffer :
    (let run := dmGenPropertiesPayload emptyBuffers overflowing .propertyPost false
      { text := [], reach := 0, wrapped := false }
    run.1 = failureRet ∧ dmMsgReportBufLen < run.2.reach) ∧
      ¬∀ malloc propertiesPayload,
        CompleteRun malloc overflowing .propertyPost false propertiesPayload := by
  refine ⟨by decide +kernel, ?_⟩
  intro complete
  have fits := fits_of_completeRun (complete _ _)
  have accepted : ∀ length < 2041,
      ¬(properties .propertyPost false).Refused (textProperty length) := by
    rintro length small ⟨_, long⟩
    have isLength : (renderNode false
        ⟨some (literal "k"), .string (List.replicate length 0x78)⟩).length = 7 + length :=
      textProperty_length length
    have bound : 2048 ≤ (renderNode false
      ⟨some (literal "k"), .string (List.replicate length 0x78)⟩).length := long
    omega
  have room := ((fits.2 (accepted 2040 (by decide))).2 (accepted 3 (by decide))).2.2
    (accepted 3 (by decide))
  have short := room.1
  rw [List.length_append, List.length_append, List.length_append, textProperty_length,
    textProperty_length] at short
  have bound : dmMsgReportBufLen = 2048 := rfl
  omega

end UIoT.DevModel
