import UIoT.Shadow.Manager

/-!
# The document and the size of its buffer

The size left for a property is the size left in the buffer, less the length of
the text once more. So a property fits when twice the text so far and the
property's own text stay below the size of the buffer (`Fits`); when the text is
longer than half the buffer the difference wraps. A property that does not fit
is dropped, and the closing text, which is no longer than the opening one, is
written all the same. `documentSafe_iff` says for which sizes a request builds
its document inside the buffer and publishes no part of it.
-/

set_option autoImplicit false

namespace UIoT.Shadow

open Utils Json
open Mqtt (CString)

/-! ## The texts -/

/-- The method writes the properties of the list. -/
def Reports (method : Method) : Prop := method ≠ .get ∧ method ≠ .deleteAll

instance (method : Method) : Decidable (Reports method) := inferInstanceAs (Decidable (_ ∧ _))

/-- The text of one property, with the comma behind it. -/
def pieceText (method : Method) (property : DeviceProperty) : List UInt8 :=
  keyText property.key ++ valueText (reportedData method property)

/-- The properties' texts in the order in which they are written. -/
def pieces (params : RequestParams) : List (List UInt8) :=
  params.propertyDeltaList.reverse.map (pieceText params.method)

/-- The document of a request whose list holds a property: the last comma is
overwritten. -/
def wholeText (version : UInt32) (params : RequestParams) : List UInt8 :=
  (openingText params.method true ++ (pieces params).flatten).dropLast ++
    closingText version params.method true

/-- The document of a request that writes no properties. -/
def bareText (version : UInt32) : Method → List UInt8
  | .deleteAll => openingText .deleteAll true ++ literal "null" ++ closingText version .deleteAll true
  | method => openingText method true ++ closingText version method true

/-- Before each text, twice what is there and the text stay below the size. -/
def Fits (size : Nat) : Nat → List (List UInt8) → Prop
  | _, [] => True
  | len, text :: rest => 2 * len + text.length < size ∧ Fits size (len + text.length) rest

instance decidableFits (size : Nat) : (len : Nat) → (texts : List (List UInt8)) →
    Decidable (Fits size len texts)
  | _, [] => inferInstanceAs (Decidable True)
  | len, text :: rest =>
      have := decidableFits size (len + text.length) rest
      inferInstanceAs (Decidable (_ ∧ _))

/-! ## The property and its condition -/

/-- Every property of the list is in the document, in full. -/
def Carries (version : UInt32) (params : RequestParams) (document : CString) : Prop :=
  params.propertyDeltaList = [] ∨ (Reports params.method ∧ document = wholeText version params)

/-- No size left has wrapped, nothing is written behind the buffer, a document
that is published carries every property, and an error is returned when none is
published. -/
structure DocumentSafe (version : UInt32) (sizeOfBuffer : Nat) (params : RequestParams)
    (outcome : Outcome) : Prop where
  noWrap : outcome.jsonDoc.wrapped = false
  inside : outcome.jsonDoc.reach ≤ sizeOfBuffer
  carries : ∀ document ret, outcome.published = some (document, ret) →
    Carries version params document
  refused : outcome.published = none → outcome.ret ≠ successRet

/-- The sizes of the buffer that suit a request whose list holds a property. -/
def SizeSuits (version : UInt32) (sizeOfBuffer : Nat) (params : RequestParams) : Prop :=
  if Reports params.method then
    sizeOfBuffer ≤ 2 ∨
      Fits sizeOfBuffer (openingText params.method true).length (pieces params) ∨
      (sizeOfBuffer = 2 * (openingText params.method true).length ∧
        sizeOfBuffer ≤ (openingText params.method true).length +
          (closingText version params.method true).length)
  else sizeOfBuffer ≤ (bareText version params.method).length

/-! ## Lengths -/

theorem keyText_pos (key : CString) : 0 < (keyText key).length := by
  simp [keyText]

theorem valueText_pos (data : Option PropertyData) : 0 < (valueText data).length := by
  cases data with
  | none => decide
  | some data => cases data <;> simp [valueText]

theorem pieceText_pos (method : Method) (property : DeviceProperty) :
    0 < (pieceText method property).length := by
  have key := keyText_pos property.key
  rw [pieceText, List.length_append]
  omega

theorem openingText_length {method : Method} (reports : Reports method) :
    (openingText method true).length = 40 := by
  cases method with
  | get => exact absurd rfl reports.1
  | deleteAll => exact absurd rfl reports.2
  | _ => decide

theorem versionText_length (version : UInt32) : (versionText version).length ≤ 11 := by
  have bounds := version.toInt32.toInt_lt
  have below := version.toInt32.le_toInt
  have small : version.toInt32.toInt.natAbs < 10 ^ (9 + 1) := by
    have power : (10 : Nat) ^ (9 + 1) = 10000000000 := by decide
    omega
  have digits := decimal_length small
  rw [versionText, formatInt, formatNat, List.length_append, List.length_cons, List.length_map]
  split
  · simp only [List.length_singleton]
    omega
  · simp only [List.length_nil]
    omega

/-- The closing text is no longer than the opening one. -/
theorem closingText_length (version : UInt32) {method : Method} (reports : Reports method) :
    (closingText version method true).length ≤ 40 := by
  have bound := versionText_length version
  have first : (literal "\x7d\x7d,\"Version\":").length = 13 := by decide
  have reset : (literal "\x7d\x7d,\"Version\":-1\x7d").length = 16 := by decide
  have desired : (literal "\x7d,\"Desired\":null\x7d,\"Version\":").length = 28 := by decide
  have last : (literal "\x7d").length = 1 := by decide
  cases method with
  | get => exact absurd rfl reports.1
  | deleteAll => exact absurd rfl reports.2
  | _ => simp only [closingText, List.length_append, first, reset, desired, last]; omega

/-! ## A wrap stays -/

theorem sizeLeft_wrapped {buffer : Buffer} (size : Nat) (wrapped : buffer.wrapped = true) :
    (sizeLeft size buffer).2.wrapped = true := by
  rw [sizeLeft]
  split
  · exact wrapped
  · rfl

theorem snprintf_wrapped (buffer : Buffer) (offset remainSize : Nat) (text : List UInt8) :
    (snprintf buffer offset remainSize text).2.wrapped = buffer.wrapped := by
  rw [snprintf]
  split
  · rfl
  · rfl

/-- A wrap in the first difference stays. -/
theorem putJsonNode_wrapped {buffer : Buffer} {size : Nat} (key : CString)
    (data : Option PropertyData) (wrapped : (sizeLeft size buffer).2.wrapped = true) :
    (putJsonNode buffer size key data).2.wrapped = true := by
  unfold putJsonNode
  simp only
  split
  · exact wrapped
  · split
    · rw [snprintf_wrapped]
      exact wrapped
    · have second := sizeLeft_wrapped size ((snprintf_wrapped _ (sizeLeft size buffer).2.text.length
        (sizeLeft size buffer).1 (keyText key)).trans wrapped)
      split
      · exact second
      · rw [snprintf_wrapped]
        exact second

theorem setContentLoop_wrapped (size : Nat) (method : Method) (properties : List DeviceProperty) :
    ∀ {remainSize : Nat} {buffer : Buffer}, buffer.wrapped = true →
      (setContentLoop size method properties remainSize buffer).wrapped = true := by
  induction properties with
  | nil => exact fun wrapped => wrapped
  | cons property rest ih =>
      intro remainSize buffer wrapped
      exact ih (sizeLeft_wrapped size (putJsonNode_wrapped _ _ (sizeLeft_wrapped _ wrapped)))

theorem shadowJsonFinalize_wrapped (version : UInt32) {buffer : Buffer} (size : Nat)
    (params : RequestParams) (wrapped : buffer.wrapped = true) :
    (shadowJsonFinalize version buffer size params).2.wrapped = true := by
  have first := sizeLeft_wrapped size wrapped
  unfold shadowJsonFinalize
  simp only
  split
  · exact first
  · rw [snprintf_wrapped]
    exact first

/-! ## A sound buffer -/

/-- Nothing has wrapped, and text and writing stay inside. -/
structure Sound (size : Nat) (buffer : Buffer) : Prop where
  noWrap : buffer.wrapped = false
  inside : buffer.reach ≤ size
  text : buffer.text.length ≤ size

variable {size : Nat} {buffer : Buffer}

theorem Sound.sizeLeft (sound : Sound size buffer) :
    Utils.sizeLeft size buffer = (size - buffer.text.length, buffer) := by
  rw [Utils.sizeLeft, if_pos sound.text]

theorem snprintf_ret (buffer : Buffer) (offset remainSize : Nat) (text : List UInt8) :
    (snprintf buffer offset remainSize text).1 = text.length := by
  rw [snprintf]
  split
  · rfl
  · rfl

theorem checkSnprintfReturn_iff (length remainSize : Nat) :
    checkSnprintfReturn length remainSize = successRet ↔ length < remainSize := by
  have truncated : errJsonBufferTruncated ≠ successRet := by decide
  have notNegative : ¬(length : Int) < 0 := by omega
  simp only [checkSnprintfReturn, notNegative, if_false]
  split
  · simp only [truncated, false_iff]
    omega
  · simp only [true_iff]
    omega

theorem snprintf_text {offset remainSize : Nat} (text : List UInt8) (some : remainSize ≠ 0) :
    (snprintf buffer offset remainSize text).2.text =
      buffer.text.take offset ++ text.take (remainSize - 1) := by
  rw [snprintf, if_neg some]

/-- Writing inside the buffer. -/
theorem Sound.snprintf (sound : Sound size buffer) {offset remainSize : Nat} (text : List UInt8)
    (fits : offset + remainSize ≤ size) : Sound size (snprintf buffer offset remainSize text).2 := by
  rw [Utils.snprintf]
  split
  · exact sound
  · refine ⟨sound.noWrap, ?_, ?_⟩
    · simp only [List.length_take]
      have inside := sound.inside
      omega
    · simp only [List.length_append, List.length_take]
      omega

/-- Writing at the end of the text. -/
theorem Sound.append (sound : Sound size buffer) (remainSize : Nat) (text : List UInt8)
    (fits : buffer.text.length + remainSize ≤ size) :
    Sound size (Utils.snprintf buffer buffer.text.length remainSize text).2 ∧
      (Utils.snprintf buffer buffer.text.length remainSize text).2.text =
        buffer.text ++ text.take (remainSize - 1) := by
  refine ⟨sound.snprintf text fits, ?_⟩
  by_cases none : remainSize = 0
  · simp [Utils.snprintf, none]
  · rw [snprintf_text text none, List.take_length]

/-- What `put_json_node` leaves of a sound buffer when it is called with the size
left: a wrap, the whole text of the property, or less. -/
inductive Put (size : Nat) (buffer : Buffer) (text : List UInt8) (after : Buffer) : Prop where
  | wrap (half : size < 2 * buffer.text.length) (wrapped : after.wrapped = true)
  | full (fits : 2 * buffer.text.length + text.length < size) (sound : Sound size after)
      (written : after.text = buffer.text ++ text)
  | cut (half : 2 * buffer.text.length ≤ size) (tooLong : size ≤ 2 * buffer.text.length + text.length)
      (sound : Sound size after) (grows : buffer.text.length ≤ after.text.length)
      (lacks : after.text.length < buffer.text.length + text.length)
      (leaves : after.text.length + buffer.text.length ≤ size)
      (least : after.text.length + buffer.text.length = size →
        after.text.length = buffer.text.length)

theorem putJsonNode_put (sound : Sound size buffer) (key : CString) (data : Option PropertyData) :
    Put size buffer (keyText key ++ valueText data)
      (putJsonNode buffer (size - buffer.text.length) key data).2 := by
  have whole : (keyText key ++ valueText data).length =
      (keyText key).length + (valueText data).length := List.length_append
  have keyPos := keyText_pos key
  have valuePos := valueText_pos data
  have textFits := sound.text
  by_cases wraps : size - buffer.text.length < buffer.text.length
  · refine .wrap (by omega) (putJsonNode_wrapped key data ?_)
    rw [Utils.sizeLeft, if_neg (Nat.not_le.mpr wraps)]
  · have first : Utils.sizeLeft (size - buffer.text.length) buffer =
        (size - buffer.text.length - buffer.text.length, buffer) := by
      rw [Utils.sizeLeft, if_pos (Nat.not_lt.mp wraps)]
    obtain ⟨keySound, keyWritten⟩ := sound.append
      (size - buffer.text.length - buffer.text.length) (keyText key) (by omega)
    unfold putJsonNode
    rw [first]
    simp only [snprintf_ret]
    generalize (Utils.snprintf buffer buffer.text.length
      (size - buffer.text.length - buffer.text.length) (keyText key)).2 = withKey
      at keySound keyWritten
    have keyLength := congrArg List.length keyWritten
    rw [List.length_append, List.length_take] at keyLength
    by_cases tooSmall : size - buffer.text.length - buffer.text.length ≤ 1
    · rw [if_pos tooSmall]
      show Put size buffer _ buffer
      exact .cut (by omega) (by omega) sound (Nat.le_refl _) (by omega) (by omega) fun _ => rfl
    · rw [if_neg tooSmall]
      by_cases keyFits : (keyText key).length < size - buffer.text.length - buffer.text.length
      · have second : Utils.sizeLeft (size - buffer.text.length) withKey =
            (size - buffer.text.length - withKey.text.length, withKey) := by
          rw [Utils.sizeLeft, if_pos (by omega)]
        rw [(checkSnprintfReturn_iff _ _).mpr keyFits, if_neg (not_not.mpr rfl), second]
        simp only
        by_cases noRoom : size - buffer.text.length - withKey.text.length ≤ 1
        · rw [if_pos noRoom]
          show Put size buffer _ withKey
          exact .cut (by omega) (by omega) keySound (by omega) (by omega) (by omega) (by omega)
        · rw [if_neg noRoom]
          obtain ⟨valueSound, valueWritten⟩ := keySound.append
            (size - buffer.text.length - withKey.text.length) (valueText data) (by omega)
          generalize (Utils.snprintf withKey withKey.text.length
            (size - buffer.text.length - withKey.text.length) (valueText data)).2 = withValue
            at valueSound valueWritten
          have valueLength := congrArg List.length valueWritten
          rw [List.length_append, List.length_take] at valueLength
          by_cases valueFits : (valueText data).length <
              size - buffer.text.length - withKey.text.length
          · rw [List.take_of_length_le (by omega)] at keyWritten valueWritten
            refine .full (by omega) valueSound ?_
            rw [valueWritten, keyWritten, List.append_assoc]
          · exact .cut (by omega) (by omega) valueSound (by omega) (by omega) (by omega) (by omega)
      · rw [if_pos (mt (checkSnprintfReturn_iff _ _).mp keyFits)]
        show Put size buffer _ withKey
        exact .cut (by omega) (by omega) keySound (by omega) (by omega) (by omega) (by omega)

/-- Texts that fit leave more room than the text in front of them. -/
theorem Fits.room {texts : List (List UInt8)} : ∀ {len : Nat}, Fits size len texts → texts ≠ [] →
    len + texts.flatten.length + len < size := by
  induction texts with
  | nil => exact fun _ empty => absurd rfl empty
  | cons text rest ih =>
      intro len fits _
      rw [List.flatten_cons, List.length_append]
      cases rest with
      | nil =>
          have first := fits.1
          simp only [List.flatten_nil, List.length_nil]
          omega
      | cons next rest =>
          have later := ih fits.2 (List.cons_ne_nil _ _)
          omega

/-- What the loop over the properties leaves of a sound buffer. -/
inductive Filled (size : Nat) (buffer : Buffer) (texts : List (List UInt8)) (after : Buffer) :
    Prop where
  | wrap (tooLong : ¬Fits size buffer.text.length texts) (wrapped : after.wrapped = true)
  | full (fits : Fits size buffer.text.length texts) (sound : Sound size after)
      (written : after.text = buffer.text ++ texts.flatten)
  | cut (tooLong : ¬Fits size buffer.text.length texts) (sound : Sound size after)
      (grows : buffer.text.length ≤ after.text.length)
      (lacks : after.text.length < buffer.text.length + texts.flatten.length)
      (leaves : after.text.length + buffer.text.length ≤ size)
      (least : after.text.length + buffer.text.length = size →
        after.text.length = buffer.text.length)

theorem setContentLoop_filled (method : Method) (properties : List DeviceProperty) :
    ∀ {buffer : Buffer}, Sound size buffer →
      Filled size buffer (properties.map (pieceText method))
        (setContentLoop size method properties (size - buffer.text.length) buffer) := by
  induction properties with
  | nil =>
      intro buffer sound
      exact .full trivial sound (by simp [setContentLoop])
  | cons property rest ih =>
      intro buffer sound
      have put := putJsonNode_put sound property.key (reportedData method property)
      rw [setContentLoop]
      simp only
      generalize (putJsonNode buffer (size - buffer.text.length) property.key
        (reportedData method property)).2 = after at put
      rw [List.map_cons]
      have total : (pieceText method property :: rest.map (pieceText method)).flatten.length =
          (pieceText method property).length + (rest.map (pieceText method)).flatten.length := by
        rw [List.flatten_cons, List.length_append]
      cases put with
      | wrap half wrapped =>
          refine .wrap (fun fits => ?_) (setContentLoop_wrapped _ _ _ (sizeLeft_wrapped _ wrapped))
          have first := fits.1
          omega
      | full fits afterSound written =>
          have length : after.text.length = buffer.text.length +
              (pieceText method property).length := by
            rw [written, List.length_append, pieceText]
          have next := ih afterSound
          rw [afterSound.sizeLeft]
          dsimp only
          cases next with
          | wrap tooLong wrapped =>
              refine .wrap (fun all => tooLong ?_) wrapped
              rw [length]
              exact all.2
          | full restFits restSound restWritten =>
              rw [length] at restFits
              refine .full ⟨fits, restFits⟩ restSound ?_
              rw [restWritten, written, List.flatten_cons, List.append_assoc, pieceText]
          | cut tooLong restSound grows lacks leaves least =>
              have positive := pieceText_pos method property
              refine .cut (fun all => tooLong ?_) restSound (by omega) ?_ ?_ ?_
              · rw [length]
                exact all.2
              · rw [total]
                omega
              · omega
              · omega
      | cut half tooLong afterSound grows lacks leaves least =>
          have notAll : ¬Fits size buffer.text.length
              (pieceText method property :: rest.map (pieceText method)) := fun all => by
            have first := all.1
            rw [pieceText] at first
            omega
          have next := ih afterSound
          rw [afterSound.sizeLeft]
          dsimp only
          rw [← pieceText] at lacks
          cases next with
          | wrap _ wrapped => exact .wrap notAll wrapped
          | full restFits restSound restWritten =>
              have length := congrArg List.length restWritten
              rw [List.length_append] at length
              refine .cut notAll restSound (by omega) (by rw [total]; omega) ?_ ?_
              all_goals
                by_cases empty : rest.map (pieceText method) = []
                · rw [empty, List.flatten_nil, List.length_nil] at length
                  omega
                · have room := restFits.room empty
                  omega
          | cut _ restSound restGrows restLacks restLeaves restLeast =>
              exact .cut notAll restSound (by omega) (by rw [total]; omega) (by omega) (by omega)

/-- When the buffer is twice as long as its text, no property gets in. -/
theorem setContentLoop_stuck (method : Method) (properties : List DeviceProperty) :
    ∀ {buffer : Buffer}, Sound size buffer → 2 * buffer.text.length ≤ size →
      size ≤ 2 * buffer.text.length + 1 →
      Sound size (setContentLoop size method properties (size - buffer.text.length) buffer) ∧
        (setContentLoop size method properties (size - buffer.text.length) buffer).text.length =
          buffer.text.length := by
  induction properties with
  | nil => exact fun sound _ _ => ⟨sound, rfl⟩
  | cons property rest ih =>
      intro buffer sound half small
      have put := putJsonNode_put sound property.key (reportedData method property)
      rw [setContentLoop]
      dsimp only
      generalize (putJsonNode buffer (size - buffer.text.length) property.key
        (reportedData method property)).2 = after at put
      cases put with
      | wrap half => omega
      | full fits =>
          have positive := pieceText_pos method property
          rw [pieceText] at positive
          omega
      | cut _ _ afterSound grows _ leaves least =>
          have same : after.text.length = buffer.text.length := by omega
          have next := ih afterSound (by omega) (by omega)
          rw [afterSound.sizeLeft]
          exact ⟨next.1, next.2.trans same⟩

/-! ## The steps -/

theorem closingText_pos (version : UInt32) (method : Method) (listed : Bool) :
    0 < (closingText version method listed).length := by
  cases method <;> cases listed <;> simp [closingText, literal]

/-- The closing text is written when it fits behind the text. -/
theorem shadowJsonFinalize_sound (version : UInt32) (params : RequestParams)
    (sound : Sound size buffer) :
    let closing := closingText version params.method (listed params)
    let result := shadowJsonFinalize version buffer size params
    Sound size result.2 ∧
      (result.1 = successRet ↔ closing.length < size - buffer.text.length) ∧
      (result.1 = successRet → result.2.text =
        buffer.text.take (buffer.text.length - overwritten params.method (listed params)) ++
          closing) := by
  have positive := closingText_pos version params.method (listed params)
  have tooSmall : errJsonBufferTooSmall ≠ successRet := by decide
  have textFits := sound.text
  unfold shadowJsonFinalize
  rw [sound.sizeLeft]
  simp only [snprintf_ret]
  by_cases noRoom : size - buffer.text.length ≤ 1
  · rw [if_pos noRoom]
    refine ⟨sound, ?_, fun success => absurd success tooSmall⟩
    simp only [tooSmall, false_iff]
    omega
  · rw [if_neg noRoom]
    refine ⟨sound.snprintf _ (by omega), checkSnprintfReturn_iff _ _, fun success => ?_⟩
    have fits := (checkSnprintfReturn_iff _ _).mp success
    dsimp only
    rw [snprintf_text _ (by omega)]
    congr 1
    exact List.take_of_length_le (by omega)

/-- The opening text is written as far as it fits. -/
theorem shadowJsonInit_sound {before : CString} (params : RequestParams)
    (empty : size = 0 → before = []) :
    let result := shadowJsonInit ⟨before, 0, false⟩ size params
    Sound size result.2 ∧
      result.2.text = (openingText params.method (listed params)).take (size - 1) := by
  unfold shadowJsonInit snprintf
  by_cases none : size = 0
  · subst none
    simp only [if_true, empty rfl]
    exact ⟨⟨rfl, Nat.le_refl _, Nat.le_refl _⟩, by simp⟩
  · simp only [none, if_false, List.take_zero, List.nil_append]
    refine ⟨⟨rfl, ?_, ?_⟩, trivial⟩
    · simp only [List.length_take]
      omega
    · simp only [List.length_take]
      omega

/-- What a request does with the document it builds. -/
theorem publishRequest_document (shadow : ShadowClient) (jsonDoc : Buffer) (params : RequestParams)
    (env : Env) :
    let build := buildDocument shadow.version jsonDoc size params (env.malloc 0)
    let outcome := publishRequest shadow jsonDoc size params env
    outcome.jsonDoc = build.2 ∧
      (build.1 = successRet → ∃ ret, outcome.published = some (build.2.text, ret)) ∧
      (build.1 ≠ successRet → outcome.published = none ∧ outcome.ret = build.1) := by
  unfold publishRequest
  simp only
  by_cases built :
      (buildDocument shadow.version jsonDoc size params (env.malloc 0)).1 = successRet
  · simp only [built, ne_eq, not_true_eq_false, if_false, true_implies, false_implies, and_true]
    split
    · exact ⟨rfl, _, rfl⟩
    · exact ⟨rfl, _, rfl⟩
  · simp only [built, ne_eq, not_false_eq_true, if_true, false_implies, true_implies, and_self]

/-- A document is safe when it is built safely. -/
structure BuiltSafely (version : UInt32) (size : Nat) (params : RequestParams)
    (build : Int × Buffer) : Prop where
  noWrap : build.2.wrapped = false
  inside : build.2.reach ≤ size
  carries : build.1 = successRet → Carries version params build.2.text

theorem documentSafe_iff_built (shadow : ShadowClient) (jsonDoc : Buffer) (params : RequestParams)
    (env : Env) :
    DocumentSafe shadow.version size params
        (uiotShadowMakeRequest shadow jsonDoc size params env) ↔
      BuiltSafely shadow.version size params
        (buildDocument shadow.version jsonDoc size params (env.malloc 2)) := by
  have version : (shadowAddRequestToList shadow params env).2.version = shadow.version := by
    unfold shadowAddRequestToList
    repeat' split
    all_goals rfl
  obtain ⟨document, published, refused⟩ := @publishRequest_document size
    (shadowAddRequestToList shadow params env).2 jsonDoc params (env.after 2)
  rw [version] at document published refused
  have made : uiotShadowMakeRequest shadow jsonDoc size params env = publishRequest
    (shadowAddRequestToList shadow params env).2 jsonDoc size params (env.after 2) := rfl
  rw [made]
  have alloc : (env.after 2).malloc 0 = env.malloc 2 := rfl
  rw [alloc] at document published refused
  constructor
  · intro safe
    refine ⟨document ▸ safe.noWrap, document ▸ safe.inside, fun built => ?_⟩
    obtain ⟨ret, isPublished⟩ := published built
    exact safe.carries _ ret isPublished
  · intro safe
    refine ⟨document ▸ safe.noWrap, document ▸ safe.inside, fun text ret isPublished => ?_,
      fun notPublished success => ?_⟩
    · by_cases built :
          (buildDocument shadow.version jsonDoc size params (env.malloc 2)).1 = successRet
      · obtain ⟨code, same⟩ := published built
        rw [same] at isPublished
        cases isPublished
        exact safe.carries built
      · rw [(refused built).1] at isPublished
        cases isPublished
    · by_cases built :
          (buildDocument shadow.version jsonDoc size params (env.malloc 2)).1 = successRet
      · obtain ⟨code, same⟩ := published built
        rw [same] at notPublished
        cases notPublished
      · exact built ((refused built).2 ▸ success)

/-! ## Building -/

variable {version : UInt32} {params : RequestParams} {before : CString} {malloc : Bool}

theorem shadowJsonSetContent_wrapped
    (wrapped : (Utils.sizeLeft size buffer).2.wrapped = true) :
    (shadowJsonSetContent buffer size params malloc).2.wrapped = true := by
  unfold shadowJsonSetContent
  simp only
  split
  · exact wrapped
  split
  · rw [snprintf_wrapped]
    exact wrapped
  split
  · split
    · exact wrapped
    · exact setContentLoop_wrapped _ _ _ wrapped
  · exact wrapped

/-- The steps behind the first one. -/
theorem buildDocument_eq : buildDocument version buffer size params malloc =
    if (shadowJsonSetContent (shadowJsonInit buffer size params).2 size params malloc).1 ≠ successRet
    then shadowJsonSetContent (shadowJsonInit buffer size params).2 size params malloc
    else shadowJsonFinalize version
      (shadowJsonSetContent (shadowJsonInit buffer size params).2 size params malloc).2 size params :=
  rfl

theorem buildDocument_wrapped
    (wrapped : (shadowJsonSetContent (shadowJsonInit buffer size params).2 size params
      malloc).2.wrapped = true) :
    (buildDocument version buffer size params malloc).2.wrapped = true := by
  rw [buildDocument_eq]
  split
  · exact wrapped
  · exact shadowJsonFinalize_wrapped _ _ _ wrapped

/-- A buffer of no byte whose text is not empty makes the first difference
wrap. -/
theorem buildDocument_outside (none : size = 0) (garbage : before ≠ []) :
    (buildDocument version ⟨before, 0, false⟩ size params malloc).2.wrapped = true := by
  refine buildDocument_wrapped (shadowJsonSetContent_wrapped ?_)
  subst none
  have positive := List.length_pos_iff.mpr garbage
  simp only [shadowJsonInit, snprintf, if_true, Utils.sizeLeft]
  rw [if_neg (by omega)]

/-- When the second step leaves a sound buffer, only what is published can be
wrong. -/
theorem builtSafely_of_sound
    (sound : Sound size
      (shadowJsonSetContent (shadowJsonInit buffer size params).2 size params malloc).2) :
    let content := shadowJsonSetContent (shadowJsonInit buffer size params).2 size params malloc
    let closing := closingText version params.method (listed params)
    BuiltSafely version size params (buildDocument version buffer size params malloc) ↔
      (content.1 = successRet → closing.length < size - content.2.text.length →
        Carries version params (content.2.text.take
          (content.2.text.length - overwritten params.method (listed params)) ++ closing)) := by
  intro content closing
  obtain ⟨finalSound, success, text⟩ := shadowJsonFinalize_sound version params sound
  rw [buildDocument_eq]
  by_cases built : content.1 = successRet
  · rw [if_neg (not_not.mpr built)]
    constructor
    · intro safe _ room
      have isSuccess := success.mpr room
      rw [← text isSuccess]
      exact safe.carries isSuccess
    · intro carries
      refine ⟨finalSound.noWrap, finalSound.inside, fun isSuccess => ?_⟩
      rw [text isSuccess]
      exact carries built (success.mp isSuccess)
  · rw [if_pos built]
    constructor
    · exact fun _ isSuccess => absurd isSuccess built
    · exact fun _ => ⟨sound.noWrap, sound.inside, fun isSuccess => absurd isSuccess built⟩

theorem not_carries (isListed : listed params = true) {document : CString}
    (wrong : Reports params.method → document ≠ wholeText version params) :
    ¬Carries version params document := by
  rintro (empty | ⟨reports, same⟩)
  · simp [listed, empty] at isListed
  · exact wrong reports same

theorem shadowJsonSetContent_get (sound : Sound size buffer) (isGet : params.method = .get) :
    shadowJsonSetContent buffer size params malloc = (successRet, buffer) := by
  simp [shadowJsonSetContent, sound.sizeLeft, isGet]

theorem shadowJsonSetContent_deleteAll (sound : Sound size buffer)
    (isDeleteAll : params.method = .deleteAll) :
    let content := shadowJsonSetContent buffer size params malloc
    Sound size content.2 ∧ (content.1 = successRet ↔ 4 < size - buffer.text.length) ∧
      content.2.text = buffer.text ++ (literal "null").take (size - buffer.text.length - 1) := by
  have four : (literal "null").length = 4 := by decide
  have textFits := sound.text
  obtain ⟨appended, text⟩ := sound.append (size - buffer.text.length) (literal "null") (by omega)
  simp only [shadowJsonSetContent, sound.sizeLeft, isDeleteAll, reduceCtorEq, if_false, if_true,
    snprintf_ret, checkSnprintfReturn_iff, four]
  exact ⟨appended, trivial, text⟩

/-- A request without properties is built safely. -/
theorem builtSafely_unlisted (sound : Sound size (shadowJsonInit buffer size params).2)
    (notListed : listed params = false) :
    BuiltSafely version size params (buildDocument version buffer size params malloc) := by
  have carries : ∀ document, Carries version params document := fun document => by
    refine .inl ?_
    cases list : params.propertyDeltaList with
    | nil => rfl
    | cons property rest => simp [listed, list] at notListed
  have contentSound : Sound size
      (shadowJsonSetContent (shadowJsonInit buffer size params).2 size params malloc).2 := by
    by_cases isGet : params.method = .get
    · rw [shadowJsonSetContent_get sound isGet]
      exact sound
    · by_cases isDeleteAll : params.method = .deleteAll
      · exact (shadowJsonSetContent_deleteAll sound isDeleteAll).1
      · simp only [shadowJsonSetContent, sound.sizeLeft, isGet, isDeleteAll, notListed, if_false,
          Bool.false_eq_true]
        exact sound
  exact (builtSafely_of_sound contentSound).mpr fun _ _ => carries _

/-- A request whose method writes no properties is built safely for a list with
properties when its document does not fit. -/
theorem builtSafely_bare (sound : Sound size (shadowJsonInit buffer size params).2)
    (text : (shadowJsonInit buffer size params).2.text =
      (openingText params.method (listed params)).take (size - 1))
    (isListed : listed params = true) (bare : ¬Reports params.method) :
    BuiltSafely version size params (buildDocument version buffer size params malloc) ↔
      size ≤ (bareText version params.method).length := by
  have wrong : ∀ document, ¬Carries version params document := fun document =>
    not_carries isListed fun reports => absurd reports bare
  by_cases isGet : params.method = .get
  · have content := @shadowJsonSetContent_get size _ params malloc sound isGet
    have contentSound := sound
    rw [← show (shadowJsonSetContent (shadowJsonInit buffer size params).2 size params malloc).2 =
      (shadowJsonInit buffer size params).2 from congrArg Prod.snd content] at contentSound
    have opening : (openingText .get true).length = 15 := by decide
    have length := congrArg List.length text
    rw [isListed, isGet, List.length_take, opening] at length
    refine (builtSafely_of_sound contentSound).trans ?_
    rw [content]
    simp only [wrong, imp_false, true_implies, isGet, isListed, bareText, closingText,
      List.length_append, opening, length]
    have one : (literal "\x7d").length = 1 := by decide
    rw [one]
    omega
  · have isDeleteAll : params.method = .deleteAll := by
      by_contra other
      exact bare ⟨isGet, other⟩
    obtain ⟨contentSound, success, written⟩ :=
      @shadowJsonSetContent_deleteAll size _ params malloc sound isDeleteAll
    have opening : (openingText .deleteAll true).length = 39 := by decide
    have four : (literal "null").length = 4 := by decide
    have length := congrArg List.length text
    rw [isListed, isDeleteAll, List.length_take, opening] at length
    have contentLength := congrArg List.length written
    rw [List.length_append, List.length_take, four, length] at contentLength
    refine (builtSafely_of_sound contentSound).trans ?_
    rw [success, contentLength, length]
    simp only [wrong, imp_false, isDeleteAll, isListed, bareText, List.length_append, opening, four]
    have positive := closingText_pos version .deleteAll true
    omega

theorem shadowJsonSetContent_listed (sound : Sound size buffer) (isListed : listed params = true)
    (reports : Reports params.method) :
    shadowJsonSetContent buffer size params malloc =
      if malloc then (successRet, setContentLoop size params.method params.propertyDeltaList.reverse
        (size - buffer.text.length) buffer)
      else (errParamInvalid, buffer) := by
  cases malloc <;>
    simp [shadowJsonSetContent, sound.sizeLeft, reports.1, reports.2, isListed]

theorem overwritten_reports {method : Method} (reports : Reports method) :
    overwritten method true = 1 := by
  cases method with
  | get => exact absurd rfl reports.1
  | deleteAll => exact absurd rfl reports.2
  | _ => rfl

theorem pieces_ne_nil (isListed : listed params = true) : pieces params ≠ [] := by
  intro empty
  rw [pieces, List.map_eq_nil_iff, List.reverse_eq_nil_iff] at empty
  simp [listed, empty] at isListed

/-- A request that writes its properties is built safely exactly for the sizes
that suit it. -/
theorem builtSafely_reports (sound : Sound size (shadowJsonInit buffer size params).2)
    (text : (shadowJsonInit buffer size params).2.text =
      (openingText params.method (listed params)).take (size - 1))
    (isListed : listed params = true) (reports : Reports params.method) :
    BuiltSafely version size params (buildDocument version buffer size params true) ↔
      SizeSuits version size params := by
  have opening := openingText_length reports
  have shortClosing := closingText_length version reports
  have someClosing := closingText_pos version params.method true
  have content := @shadowJsonSetContent_listed size _ params true sound isListed reports
  rw [if_pos rfl] at content
  have length := congrArg List.length text
  rw [isListed, List.length_take, opening] at length
  have filled := setContentLoop_filled params.method params.propertyDeltaList.reverse sound
  have stuck := setContentLoop_stuck params.method params.propertyDeltaList.reverse sound
  rw [← pieces] at filled
  have ofWrapped : (shadowJsonSetContent (shadowJsonInit buffer size params).2 size params
      true).2.wrapped = true →
      ¬BuiltSafely version size params (buildDocument version buffer size params true) := by
    intro wrapped safe
    have noWrap := safe.noWrap
    rw [buildDocument_wrapped wrapped] at noWrap
    cases noWrap
  have ofSound := @builtSafely_of_sound size buffer version params true
  rw [content, isListed, overwritten_reports reports] at ofSound
  rw [content] at ofWrapped
  generalize setContentLoop size params.method params.propertyDeltaList.reverse
    (size - (shadowJsonInit buffer size params).2.text.length)
    (shadowJsonInit buffer size params).2 = after at filled stuck ofWrapped ofSound
  simp only [true_implies] at ofSound
  rw [SizeSuits, if_pos reports, opening]
  by_cases tiny : size ≤ 2
  · -- The text is half the buffer: nothing more gets in and the closing text does not fit.
    obtain ⟨afterSound, afterLength⟩ := stuck (by omega) (by omega)
    exact iff_of_true ((ofSound afterSound).mpr fun room => by omega) (.inl tiny)
  have fitsRoom : ∀ {len : Nat}, Fits size len (pieces params) →
      len + (pieces params).flatten.length + len < size := fun fits =>
    fits.room (pieces_ne_nil isListed)
  by_cases cutOpening : size ≤ 40
  · -- The opening text is cut, and the first difference for a property wraps.
    refine iff_of_false ?_ ?_
    · cases filled with
      | wrap _ wrapped => exact ofWrapped wrapped
      | full fits =>
          have room := fitsRoom fits
          omega
      | cut _ _ grows _ leaves => omega
    · rintro (small | fits | twice)
      · exact tiny small
      · have room := fitsRoom fits
        omega
      · omega
  · have start : (shadowJsonInit buffer size params).2.text.length = 40 := by omega
    have isOpening : (shadowJsonInit buffer size params).2.text = openingText params.method true := by
      rw [text, isListed]
      exact List.take_of_length_le (by omega)
    rw [start] at stuck
    cases filled with
    | wrap tooLong wrapped =>
        rw [start] at tooLong
        refine iff_of_false (ofWrapped wrapped) ?_
        rintro (small | fits | twice)
        · exact tiny small
        · exact tooLong fits
        · have noWrap := (stuck (by omega) (by omega)).1.noWrap
          rw [wrapped] at noWrap
          cases noWrap
    | full fits afterSound written =>
        rw [start] at fits
        refine iff_of_true ((ofSound afterSound).mpr fun _ => .inr ⟨reports, ?_⟩) (.inr (.inl fits))
        rw [wholeText, written, isOpening, List.dropLast_eq_take]
    | cut tooLong afterSound grows lacks leaves least =>
        rw [start] at tooLong
        refine (ofSound afterSound).trans ⟨fun carries => ?_, ?_⟩
        · by_cases room : (closingText version params.method true).length <
              size - after.text.length
          · -- A document is published, and it is shorter than the whole one.
            exfalso
            refine not_carries isListed (fun _ same => ?_) (carries room)
            have sameLength := congrArg List.length same
            rw [wholeText, List.length_append, List.length_append, List.length_take,
              List.length_dropLast, List.length_append, opening] at sameLength
            omega
          · exact .inr (.inr ⟨by omega, by omega⟩)
        · rintro (small | fits | twice)
          · exact absurd small tiny
          · exact absurd fits tooLong
          · have afterLength := (stuck (by omega) (by omega)).2
            intro room
            omega

/-! ## The sizes -/

/-- A request builds its document inside the buffer, and publishes no document
that lacks a property of the list, exactly when the buffer is not an empty one
with a text behind it, and its size suits the request, the list being empty or
its iterator not allocated otherwise. -/
theorem documentSafe_iff (shadow : ShadowClient) (before : CString) (sizeOfBuffer : Nat)
    (params : RequestParams) (env : Env) :
    DocumentSafe shadow.version sizeOfBuffer params
        (uiotShadowMakeRequest shadow ⟨before, 0, false⟩ sizeOfBuffer params env) ↔
      (sizeOfBuffer = 0 → before = []) ∧
      (listed params → (Reports params.method → env.malloc 2) →
        SizeSuits shadow.version sizeOfBuffer params) := by
  rw [documentSafe_iff_built]
  by_cases empty : sizeOfBuffer = 0 → before = []
  · obtain ⟨sound, text⟩ := shadowJsonInit_sound params empty
    rw [and_iff_right empty]
    cases isListed : listed params with
    | false =>
        simp only [Bool.false_eq_true, false_implies, iff_true]
        exact builtSafely_unlisted sound isListed
    | true =>
        simp only [true_implies]
        by_cases reports : Reports params.method
        · simp only [reports, true_implies]
          cases malloc : env.malloc 2 with
          | true =>
              simp only [true_implies]
              exact builtSafely_reports sound text isListed reports
          | false =>
              simp only [Bool.false_eq_true, false_implies, iff_true]
              have content := @shadowJsonSetContent_listed sizeOfBuffer _ params false sound isListed
                reports
              have refused : errParamInvalid ≠ successRet := by decide
              rw [buildDocument_eq, content]
              exact ⟨sound.noWrap, sound.inside, fun success => absurd success refused⟩
        · simp only [reports, false_implies, true_implies]
          rw [SizeSuits, if_neg reports]
          exact builtSafely_bare sound text isListed reports
  · rw [Classical.not_imp] at empty
    refine iff_of_false (fun safe => ?_) (fun both => empty.2 (both.1 empty.1))
    have noWrap := safe.noWrap
    rw [buildDocument_outside empty.1 empty.2] at noWrap
    cases noWrap

/-- An update with one string of thirty bytes: in a buffer of 70 bytes the size
left wraps and the text is written past the end; in one of 100 bytes the
document is published without the end of the string. -/
theorem document_overruns_and_drops :
    let shadow := uiotShadowInit (Mqtt.uiotMqttInit ⟨1000, false⟩) (literal "p") (literal "d")
    let property : DeviceProperty := ⟨literal "k", some (.string (List.replicate 30 0x78))⟩
    let params : RequestParams := ⟨.update, [property], 1, none, 0⟩
    let env : Env :=
      { tick := fun _ => 0
        rtTickFromMillisecond := id
        malloc := fun _ => true
        publish := ⟨fun _ => 0, id, fun _ => true, fun _ => [], [], 0, .qos0⟩
        answer := fun _ _ => [] }
    let made := fun size => uiotShadowMakeRequest shadow ⟨[], 0, false⟩ size params env
    let cut := literal
      "\x7b\"Method\":\"update\",\"State\":\x7b\"Reported\":\x7b\"k\":\"xxxxxxxxxxxxx\x7d\x7d,\"Version\":0\x7d"
    (70 < (made 70).jsonDoc.reach ∧ ¬DocumentSafe shadow.version 70 params (made 70)) ∧
      (made 100).published = some (cut, failureRet) ∧
      ¬DocumentSafe shadow.version 100 params (made 100) := by
  intro shadow property params env made cut
  have overruns : 70 < (made 70).jsonDoc.reach := by decide
  have published : (made 100).published = some (cut, failureRet) := by decide
  refine ⟨⟨overruns, fun safe => Nat.not_le.mpr overruns safe.inside⟩, published, fun safe => ?_⟩
  rcases safe.carries _ _ published with empty | ⟨_, same⟩
  · cases empty
  · exact absurd same (by decide)

end UIoT.Shadow
