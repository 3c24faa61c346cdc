import Mathlib.Data.List.Sigma
import UIoT.Lib.Runs
import UIoT.Shadow.Accounting
import UIoT.Shadow.Registration

/-!
# The registered properties as a store by keys

The list of the registered properties stands for a store: under a key it holds
a callback and the data that were told to the cloud last. A run of calls and
messages changes the store by events only, each behind a code of success: a
property is registered, one is removed, a document with properties is published.
A document is either a request of the application or the answer to a desired
state of the cloud.

Between any two calls the list is what the events make of the empty store, no
key is in it twice and each callback is there. A desired state is handed out
by the store, then: the callback of a key is called once when the key is in the
store and in the desired state, with the value that it has there, and nothing
else is called (`registry_run`).

What is asked of the run is that its allocations succeed. Without an iterator
`list_find` finds no property, and one is registered twice.
-/

set_option autoImplicit false

namespace UIoT.Shadow

open Utils
open Mqtt (CString)

/-! ## The store -/

/-- What is registered under a key. -/
structure Registered where
  callback : Option Nat
  data : Option PropertyData
  deriving DecidableEq, Repr

/-- A store of properties by their keys. -/
abbrev Registry := CString → Option Registered

/-- What changes the store. -/
inductive Event where
  | registered (property : DeviceProperty) (callback : Option Nat)
  | removed (key : CString)
  /-- A document with these properties is published. -/
  | told (method : Method) (properties : List DeviceProperty)

/-- The data that a property has after a document of a method, by what it gives
for the property and what the property was. -/
def Method.leaves : Method → Option PropertyData → Option PropertyData → Option PropertyData
  | .update, given, _ => given
  | .replyControlUpdate, given, _ => given
  | .updateAndResetVer, given, _ => given
  | .delete, _, _ => none
  | .replyControlDelete, _, _ => none
  | .get, _, old => old
  | .deleteAll, _, old => old

/-- A document changes the properties it names, by their first mention; one that
deletes all of them names none. -/
def Registered.told (method : Method) (properties : List DeviceProperty) (key : CString)
    (registered : Registered) : Registered :=
  if method = .deleteAll then { registered with data := none }
  else
    match properties.find? fun property => property.key = key with
    | none => registered
    | some property => { registered with data := method.leaves property.data registered.data }

/-- What an event makes of a store. -/
def Registry.apply (registry : Registry) : Event → Registry
  | .registered property callback =>
      Function.update registry property.key (some { callback, data := property.data })
  | .removed key => Function.update registry key none
  | .told method properties => fun key => (registry key).map (Registered.told method properties key)

/-- The store that a list of properties stands for. -/
def entries (list : List PropertyHandler) : List (Σ _ : CString, Registered) :=
  list.map fun handler => ⟨handler.property.key, ⟨handler.callback, handler.property.data⟩⟩

def registryOf (list : List PropertyHandler) : Registry := fun key => (entries list).dlookup key

/-- Each key is in the list once, with a callback. -/
structure Keyed (list : List PropertyHandler) : Prop where
  apart : (entries list).NodupKeys
  callable : ∀ handler ∈ list, handler.callback.isSome

variable {list : List PropertyHandler} {property : DeviceProperty} {key : CString}

theorem keyed_nil : Keyed [] := ⟨List.nodupKeys_nil, fun _ member => absurd member List.not_mem_nil⟩

theorem entries_cons (handler : PropertyHandler) (list : List PropertyHandler) :
    entries (handler :: list) =
      ⟨handler.property.key, ⟨handler.callback, handler.property.data⟩⟩ :: entries list := rfl

/-- The first property of the list with the key is found. -/
theorem find_eq_none : list.find? (shadowCommonCheckPropertyMatch property) = none ↔
    property.key ∉ (entries list).keys := by
  simp only [List.find?_eq_none, shadowCommonCheckPropertyMatch, decide_eq_true_eq, entries,
    List.keys, List.map_map, List.mem_map, Function.comp_apply, not_exists, not_and]

theorem findProperty_isSome :
    (findProperty list property true).isSome ↔ property.key ∈ (entries list).keys := by
  rw [findProperty, if_neg (by simp), ← not_iff_not, ← find_eq_none, Bool.not_eq_true,
    Option.isSome_eq_false_iff, Option.isNone_iff_eq_none]

/-! ## What is registered and removed -/

theorem registryOf_append {callback : Option Nat} (new : property.key ∉ (entries list).keys) :
    registryOf (list ++ [⟨property, callback⟩]) =
      (registryOf list).apply (.registered property callback) := by
  funext key
  have behind : entries (list ++ [⟨property, callback⟩]) =
      entries list ++ [⟨property.key, ⟨callback, property.data⟩⟩] := by
    simp [entries]
  simp only [registryOf, Registry.apply, behind, List.dlookup_append]
  by_cases same : key = property.key
  · subst same
    rw [Function.update_self, List.dlookup_eq_none.mpr new, Option.none_or, List.dlookup_cons_eq]
  · rw [Function.update_of_ne same, List.dlookup_cons_ne _ _ same, List.dlookup_nil,
      Option.or_none]
    rfl

theorem keyed_append {callback : Option Nat} (keyed : Keyed list)
    (new : property.key ∉ (entries list).keys) (callable : callback.isSome) :
    Keyed (list ++ [⟨property, callback⟩]) := by
  constructor
  · have moved : (entries (list ++ [⟨property, callback⟩])).Perm
        (⟨property.key, ⟨callback, property.data⟩⟩ :: entries list) := by
      simp [entries]
    rw [List.perm_nodupKeys moved, List.nodupKeys_cons]
    exact ⟨new, keyed.apart⟩
  · intro handler member
    rcases List.mem_append.mp member with old | added
    · exact keyed.callable handler old
    · rw [List.mem_singleton.mp added]
      exact callable

theorem entries_eraseP (list : List PropertyHandler) (property : DeviceProperty) :
    entries (list.eraseP (shadowCommonCheckPropertyMatch property)) =
      (entries list).kerase property.key := by
  rw [entries, entries, List.kerase, List.eraseP_map]
  congr 2
  funext handler
  simp [shadowCommonCheckPropertyMatch, eq_comm]

theorem registryOf_eraseP (keyed : Keyed list) :
    registryOf (list.eraseP (shadowCommonCheckPropertyMatch property)) =
      (registryOf list).apply (.removed property.key) := by
  funext key
  rw [registryOf, entries_eraseP, Registry.apply]
  by_cases same : key = property.key
  · subst same
    rw [Function.update_self, List.dlookup_kerase _ keyed.apart]
  · rw [Function.update_of_ne same, List.dlookup_kerase_ne same]
    rfl

theorem keyed_eraseP (keyed : Keyed list) :
    Keyed (list.eraseP (shadowCommonCheckPropertyMatch property)) :=
  ⟨entries_eraseP list property ▸ keyed.apart.kerase property.key,
    fun handler member => keyed.callable handler (List.mem_of_mem_eraseP member)⟩

/-! ## What is told -/

theorem leaves_leaves (method : Method) (second first old : Option PropertyData) :
    method.leaves second (method.leaves first old) = method.leaves second old := by
  cases method <;> rfl

/-- The entries of a list whose properties took other data. -/
theorem keyed_map {list' : List PropertyHandler} (keyed : Keyed list)
    (keys : (entries list').keys = (entries list).keys)
    (callbacks : list'.map PropertyHandler.callback = list.map PropertyHandler.callback) :
    Keyed list' := by
  refine ⟨?_, fun handler member => ?_⟩
  · rw [List.NodupKeys, keys]
    exact keyed.apart
  · have among : handler.callback ∈ list.map PropertyHandler.callback :=
      callbacks ▸ List.mem_map_of_mem member
    obtain ⟨old, oldMember, same⟩ := List.mem_map.mp among
    exact same ▸ keyed.callable old oldMember

theorem updateProperty_eq {handler : PropertyHandler} (method : Method)
    (found : handler.property.key = property.key) :
    shadowCommonUpdateProperty (handler :: list) property method =
      { handler with property := { handler.property with
          data := method.leaves property.data handler.property.data } } :: list := by
  have here : shadowCommonCheckPropertyMatch property handler = true := by
    simp [shadowCommonCheckPropertyMatch, found]
  cases method <;> simp [shadowCommonUpdateProperty, here, Method.leaves]

theorem updateProperty_skip {handler : PropertyHandler} (method : Method)
    (other : handler.property.key ≠ property.key) :
    shadowCommonUpdateProperty (handler :: list) property method =
      handler :: shadowCommonUpdateProperty list property method := by
  have differs : shadowCommonCheckPropertyMatch property handler = false := by
    simp [shadowCommonCheckPropertyMatch, other]
  cases method <;> simp [shadowCommonUpdateProperty, differs]

/-- Keys and callbacks stay; the data under the key of the property change. -/
theorem updateProperty_spec (list : List PropertyHandler) (property : DeviceProperty)
    (method : Method) :
    (entries (shadowCommonUpdateProperty list property method)).keys = (entries list).keys ∧
      (shadowCommonUpdateProperty list property method).map PropertyHandler.callback =
        list.map PropertyHandler.callback ∧
      ∀ key, registryOf (shadowCommonUpdateProperty list property method) key =
        if key = property.key then (registryOf list key).map fun registered =>
          { registered with data := method.leaves property.data registered.data }
        else registryOf list key := by
  induction list with
  | nil => exact ⟨rfl, rfl, fun key => by simp [shadowCommonUpdateProperty, registryOf, entries]⟩
  | cons handler list ih =>
      obtain ⟨keys, callbacks, looks⟩ := ih
      by_cases found : handler.property.key = property.key
      · rw [updateProperty_eq method found]
        refine ⟨rfl, rfl, fun key => ?_⟩
        simp only [registryOf, entries_cons]
        by_cases same : key = handler.property.key
        · subst same
          rw [if_pos found, List.dlookup_cons_eq, List.dlookup_cons_eq]
          rfl
        · rw [if_neg fun equal => same (equal.trans found.symm), List.dlookup_cons_ne _ _ same,
            List.dlookup_cons_ne _ _ same]
      · rw [updateProperty_skip method found]
        refine ⟨?_, ?_, fun key => ?_⟩
        · rw [entries_cons, entries_cons, List.keys_cons, List.keys_cons, keys]
        · rw [List.map_cons, List.map_cons, callbacks]
        · have here := looks key
          simp only [registryOf, entries_cons] at here ⊢
          by_cases same : key = handler.property.key
          · subst same
            rw [if_neg found, List.dlookup_cons_eq, List.dlookup_cons_eq]
          · rw [List.dlookup_cons_ne _ _ same, List.dlookup_cons_ne _ _ same, here]

/-- The list after a document: the first of its properties is written last. -/
def toldList (method : Method) (properties : List DeviceProperty) (list : List PropertyHandler) :
    List PropertyHandler :=
  if method = .deleteAll then
    list.map fun handler => { handler with property := { handler.property with data := none } }
  else properties.foldr (fun property list => shadowCommonUpdateProperty list property method) list

theorem toldList_spec (method : Method) (properties : List DeviceProperty)
    (list : List PropertyHandler) :
    (entries (toldList method properties list)).keys = (entries list).keys ∧
      (toldList method properties list).map PropertyHandler.callback =
        list.map PropertyHandler.callback ∧
      registryOf (toldList method properties list) =
        (registryOf list).apply (.told method properties) := by
  by_cases all : method = .deleteAll
  · rw [toldList, if_pos all]
    refine ⟨?_, ?_, ?_⟩
    · simp [entries, List.keys, Function.comp_def]
    · simp [Function.comp_def]
    · funext key
      simp only [registryOf, Registry.apply]
      induction list with
      | nil => rfl
      | cons handler list ih =>
          rw [List.map_cons, entries_cons, entries_cons]
          by_cases same : key = handler.property.key
          · subst same
            rw [List.dlookup_cons_eq, List.dlookup_cons_eq, Option.map_some, Registered.told,
              if_pos all]
          · rw [List.dlookup_cons_ne _ _ same, List.dlookup_cons_ne _ _ same, ih]
  · rw [toldList, if_neg all]
    induction properties with
    | nil =>
        refine ⟨rfl, rfl, ?_⟩
        funext key
        simp only [List.foldr_nil, Registry.apply]
        cases registryOf list key with
        | none => rfl
        | some registered => simp [Registered.told, all]
    | cons property properties ih =>
        obtain ⟨keys, callbacks, looks⟩ := ih
        obtain ⟨keys', callbacks', looks'⟩ := updateProperty_spec (properties.foldr
          (fun property list => shadowCommonUpdateProperty list property method) list) property method
        refine ⟨keys'.trans keys, callbacks'.trans callbacks, ?_⟩
        funext key
        rw [List.foldr_cons, looks' key, looks]
        simp only [Registry.apply]
        cases registryOf list key with
        | none => simp
        | some registered =>
            by_cases same : key = property.key
            · subst same
              simp only [Registered.told, if_neg all, Option.map_some, if_true, decide_true,
                List.find?_cons_of_pos]
              cases properties.find? fun other => decide (other.key = property.key) with
              | none => rfl
              | some other => simp [leaves_leaves]
            · have skipped : (property :: properties).find? (fun other => decide (other.key = key)) =
                  properties.find? fun other => decide (other.key = key) :=
                List.find?_cons_of_neg (by simpa using Ne.symm same)
              simp only [Registered.told, if_neg all, Option.map_some, if_neg same, skipped]

theorem keyed_toldList {method : Method} {properties : List DeviceProperty} (keyed : Keyed list) :
    Keyed (toldList method properties list) :=
  keyed_map keyed (toldList_spec method properties list).1 (toldList_spec method properties list).2.1

/-! ## Calls and messages -/

/-- What happens to a shadow client: the application calls, a message arrives,
requests expire, or the MQTT client does something of its own. -/
inductive Call where
  | register (property : DeviceProperty) (callback : Option Nat) (malloc : Nat → Bool)
  | unregister (property : DeviceProperty) (malloc : Nat → Bool)
  | request (method : Method) (requestCallback : Option Nat) (timeoutSec : UInt32)
      (userContext : Nat) (properties : List (Option DeviceProperty)) (jsonDoc : Buffer)
      (env : Env)
  | expire (now : Request → UInt32) (malloc : Bool)
  | result (message : Mqtt.Message) (env : Env)
  | sync (message : Mqtt.Message) (env : Env)
  | mqtt (client : Mqtt.Client)

/-- What a call shows and what it does to the store. -/
structure Effects where
  outputs : List Output
  events : List Event

/-- The document that answers a desired state, when its publication succeeds. -/
def answerEvents (shadow : ShadowClient) (deltaStr : CString) (env : Env) : List Event :=
  let properties := (deltaLoop deltaStr env shadow.propertyList.reverse).2
  let params : RequestParams :=
    { method := answerMethod shadow.cloudSendMethod
      propertyDeltaList := properties
      timeoutSec := maxWaitTimeSec
      requestCallback := none
      userContext := 0 }
  let made := uiotShadowMakeRequest shadow { text := [], reach := 0, wrapped := false }
    cloudIotJsonRxBufLen params (env.after 3)
  if made.ret = successRet then [.told params.method properties] else []

def desiredEvents (shadow : ShadowClient) (desiredStr : Option CString) (env : Env) : List Event :=
  match desiredStr with
  | none => []
  | some desiredStr =>
      if 2 < desiredStr.length then answerEvents shadow desiredStr env else []

/-- The answer to a message on the downstream topic: only one with the method
`control` carries a desired state. -/
def resultEvents (shadow : ShadowClient) (message : Mqtt.Message) (env : Env) : List Event :=
  let cloudRcvBuf := received message.payload
  if message.topic.isEmpty then []
  else if cloudIotJsonRxBufLen < message.payload.length then []
  else if liteJsonValueOf (literal "Method") cloudRcvBuf = some methodControl then
    match parseVersionNum cloudRcvBuf with
    | none => []
    | some versionNum =>
        desiredEvents { shadow with cloudRcvBuf := cloudRcvBuf, version := versionNum }
          (liteJsonValueOf (literal "Payload.State.Desired") cloudRcvBuf) (env.after 1)
  else []

def syncEvents (shadow : ShadowClient) (message : Mqtt.Message) (env : Env) : List Event :=
  let cloudRcvBuf := received message.payload
  if message.topic.isEmpty then []
  else if cloudIotJsonRxBufLen < message.payload.length then []
  else
    match parseVersionNum cloudRcvBuf with
    | none => []
    | some versionNum =>
        desiredEvents { shadow with cloudRcvBuf := cloudRcvBuf, version := versionNum }
          (liteJsonValueOf (literal "State.Desired") cloudRcvBuf) (env.after 1)

/-- An event behind a code of success -/
def onSuccess (ret : Int) (event : Event) : List Event :=
  if ret = successRet then [event] else []

def callStep (shadow : ShadowClient) : Call → ShadowClient × Effects
  | .register property callback malloc =>
      let (ret, after) := iotShadowRegisterProperty shadow property callback malloc
      (after, ⟨[], onSuccess ret (.registered property callback)⟩)
  | .unregister property malloc =>
      let (ret, after) := iotShadowUnRegisterProperty shadow property malloc
      (after, ⟨[], onSuccess ret (.removed property.key)⟩)
  | .request method requestCallback timeoutSec userContext properties jsonDoc env =>
      let requested := iotShadowRequest method shadow requestCallback timeoutSec userContext
        properties jsonDoc env
      (requested.shadow,
        ⟨requested.outputs, onSuccess requested.ret (.told method (properties.filterMap id))⟩)
  | .expire now malloc =>
      let (after, outputs) := handleExpiredRequest shadow now malloc
      (after, ⟨outputs, []⟩)
  | .result message env =>
      let (after, outputs) := topicRequestResultHandler shadow message env
      (after, ⟨outputs, resultEvents shadow message env⟩)
  | .sync message env =>
      let (after, outputs) := topicSyncHandler shadow message env
      (after, ⟨outputs, syncEvents shadow message env⟩)
  | .mqtt client => ({ shadow with mqtt := client }, ⟨[], []⟩)

/-- The allocations of a call succeed. -/
def Call.Allocates : Call → Prop
  | .register _ _ malloc => malloc = fun _ => true
  | .unregister _ malloc => malloc = fun _ => true
  | .request _ _ _ _ _ _ env => env.malloc = fun _ => true
  | .expire _ _ => True
  | .result _ env => env.malloc = fun _ => true
  | .sync _ env => env.malloc = fun _ => true
  | .mqtt _ => True

/-! ## What one call does -/

section Steps

variable {shadow : ShadowClient} {malloc : Nat → Bool} {env : Env}

/-- From one list to another the store moves by these events. -/
structure Moves (before after : List PropertyHandler) (events : List Event) : Prop where
  keyed : Keyed after
  store : registryOf after = events.foldl Registry.apply (registryOf before)

theorem Moves.refl (keyed : Keyed list) : Moves list list [] := ⟨keyed, rfl⟩

theorem register_moves (keyed : Keyed shadow.propertyList) (property : DeviceProperty)
    (callback : Option Nat) :
    let called := iotShadowRegisterProperty shadow property callback fun _ => true
    Moves shadow.propertyList called.2.propertyList
      (onSuccess called.1 (.registered property callback)) := by
  have noConnection : errMqttNoConn ≠ successRet := by decide
  have invalid : errParamInvalid ≠ successRet := by decide
  have exists' : errShadowPropertyExist ≠ successRet := by decide
  -- behind the checks a key that is new is appended
  have added : property.key ∉ (entries shadow.propertyList).keys →
      let called := shadowCommonRegisterPropertyOnDelta shadow property callback fun _ => true
      Moves shadow.propertyList called.2.propertyList
        (onSuccess called.1 (.registered property callback)) := by
    intro new
    unfold shadowCommonRegisterPropertyOnDelta
    split
    · simpa only [onSuccess, if_neg invalid] using Moves.refl keyed
    · rename_i callable
      split
      · simpa only [onSuccess, if_neg invalid] using Moves.refl keyed
      · rw [addPropertyHandleToList, if_neg (by simp), if_neg (by simp)]
        dsimp only
        rw [onSuccess, if_pos rfl]
        exact ⟨keyed_append keyed new (Option.ne_none_iff_isSome.mp (by simpa using callable)),
          registryOf_append new⟩
  unfold iotShadowRegisterProperty
  split
  · simpa only [onSuccess, if_neg noConnection] using Moves.refl keyed
  · split
    · rename_i empty
      exact added (by simp [List.isEmpty_iff.mp empty, entries])
    · split
      · simpa only [onSuccess, if_neg exists'] using Moves.refl keyed
      · rename_i absent
        exact added fun present => absent (findProperty_isSome.mpr present)

theorem unregister_moves (keyed : Keyed shadow.propertyList) (property : DeviceProperty) :
    let called := iotShadowUnRegisterProperty shadow property fun _ => true
    Moves shadow.propertyList called.2.propertyList (onSuccess called.1 (.removed property.key)) := by
  have noConnection : errMqttNoConn ≠ successRet := by decide
  have notExist : errShadowNotPropertyExist ≠ successRet := by decide
  unfold iotShadowUnRegisterProperty
  split
  · simpa only [onSuccess, if_neg noConnection] using Moves.refl keyed
  · split
    · simpa only [onSuccess, if_neg notExist] using Moves.refl keyed
    · unfold shadowCommonRemoveProperty
      split
      · simpa only [onSuccess, if_neg notExist] using Moves.refl keyed
      · dsimp only
        rw [onSuccess, if_pos rfl]
        exact ⟨keyed_eraseP keyed, registryOf_eraseP keyed⟩

theorem updatePropertyLoop_eq (method : Method) (properties : List DeviceProperty) (alloc : Nat)
    (list : List PropertyHandler) :
    updatePropertyLoop method (fun _ => true) properties alloc list =
      properties.foldl (fun list property => shadowCommonUpdateProperty list property method) list := by
  induction properties generalizing alloc list with
  | nil => rfl
  | cons property rest ih => rw [updatePropertyLoop, if_pos rfl, ih, List.foldl_cons]

/-- With its iterators `uiot_shadow_update_property` succeeds. -/
theorem uiotShadowUpdateProperty_told (shadow : ShadowClient) (params : RequestParams)
    (allocates : env.malloc = fun _ => true) :
    uiotShadowUpdateProperty shadow params env = (successRet, { shadow with
      propertyList := toldList params.method params.propertyDeltaList shadow.propertyList }) := by
  unfold uiotShadowUpdateProperty toldList listed
  simp only [allocates, updatePropertyLoop_eq, List.foldl_reverse, not_true_eq_false, if_false]
  by_cases all : params.method = .deleteAll
  · have unchanged : shadow.propertyList.isEmpty → shadow.propertyList.map (fun handler =>
        { handler with property := { handler.property with data := none } }) =
          shadow.propertyList := by
      intro empty
      rw [List.isEmpty_iff.mp empty, List.map_nil]
    simp only [all, ne_eq, not_true_eq_false, decide_false, Bool.and_false, Bool.false_eq_true,
      if_false, if_true]
    split
    · rename_i empty
      rw [unchanged empty]
    · rfl
  · cases empty : params.propertyDeltaList <;> simp [all]

theorem uiotShadowMakeRequest_told (shadow : ShadowClient) (jsonDoc : Buffer) (sizeOfBuffer : Nat)
    (params : RequestParams) (allocates : env.malloc = fun _ => true) :
    let made := uiotShadowMakeRequest shadow jsonDoc sizeOfBuffer params env
    (made.shadow.propertyList = if made.ret = successRet
      then toldList params.method params.propertyDeltaList shadow.propertyList
      else shadow.propertyList) ∧
    ∀ handler value, .property handler value ∉ made.outputs := by
  have added : (shadowAddRequestToList shadow params env).2.propertyList = shadow.propertyList := by
    unfold shadowAddRequestToList
    repeat' split
    all_goals rfl
  have later : ((env.after 2).after 1).malloc = fun _ => true := by
    simp only [Env.after, allocates]
  simp only [uiotShadowMakeRequest, publishRequest]
  rw [← added]
  generalize (shadowAddRequestToList shadow params env).2 = shadow
  split
  · simp
  · have lists := @publishOperation_lists shadow (env.after 2) params.method
      (buildDocument shadow.version jsonDoc sizeOfBuffer params ((env.after 2).malloc 0)).2.text
    have shows : ∀ handler value, .property handler value ∉
        (uiotShadowPublishOperationToCloud shadow params.method (buildDocument shadow.version
          jsonDoc sizeOfBuffer params ((env.after 2).malloc 0)).2.text (env.after 2)).2.2 := by
      intro handler value
      unfold uiotShadowPublishOperationToCloud
      simp only
      split <;> simp
    generalize uiotShadowPublishOperationToCloud shadow params.method (buildDocument shadow.version
      jsonDoc sizeOfBuffer params ((env.after 2).malloc 0)).2.text (env.after 2) = operation at *
    obtain ⟨ret, after, outputs⟩ := operation
    dsimp only at *
    split
    · rename_i failed
      simpa [failed] using ⟨lists.2, shows⟩
    · rw [uiotShadowUpdateProperty_told after params later]
      simpa [lists.2] using shows

theorem toldList_moves (keyed : Keyed shadow.propertyList) (jsonDoc : Buffer) (sizeOfBuffer : Nat)
    (params : RequestParams) (allocates : env.malloc = fun _ => true) :
    let made := uiotShadowMakeRequest shadow jsonDoc sizeOfBuffer params env
    Moves shadow.propertyList made.shadow.propertyList
      (onSuccess made.ret (.told params.method params.propertyDeltaList)) := by
  intro made
  rw [(uiotShadowMakeRequest_told shadow jsonDoc sizeOfBuffer params allocates).1, onSuccess]
  split
  · exact ⟨keyed_toldList keyed, (toldList_spec _ _ _).2.2⟩
  · exact Moves.refl keyed

theorem addDeltaProperties_eq (properties : List (Option DeviceProperty)) (alloc : Nat)
    (params : RequestParams) :
    ∃ alloc', addDeltaProperties (fun _ => true) properties alloc params =
      (true, alloc', { params with
        propertyDeltaList := params.propertyDeltaList ++ properties.filterMap id }) := by
  induction properties generalizing alloc params with
  | nil => exact ⟨alloc, by simp [addDeltaProperties]⟩
  | cons property rest ih =>
      cases property with
      | none => exact ih alloc params
      | some property =>
          obtain ⟨alloc', rest'⟩ := ih (alloc + 1)
            { params with propertyDeltaList := params.propertyDeltaList ++ [property] }
          exact ⟨alloc', by simpa [addDeltaProperties, Mqtt.listRpush] using rest'⟩

theorem request_moves (keyed : Keyed shadow.propertyList) (method : Method)
    (requestCallback : Option Nat) (timeoutSec : UInt32) (userContext : Nat)
    (properties : List (Option DeviceProperty)) (jsonDoc : Buffer)
    (allocates : env.malloc = fun _ => true) :
    let requested := iotShadowRequest method shadow requestCallback timeoutSec userContext
      properties jsonDoc env
    Moves shadow.propertyList requested.shadow.propertyList
      (onSuccess requested.ret (.told method (properties.filterMap id))) := by
  have noConnection : errMqttNoConn ≠ successRet := by decide
  have invalid : errParamInvalid ≠ successRet := by decide
  unfold iotShadowRequest uiotShadowRequestInit
  rw [allocates]
  split
  · simpa only [onSuccess, if_neg invalid] using Moves.refl keyed
  · obtain ⟨alloc, added⟩ := addDeltaProperties_eq properties 2
      ⟨method, [], timeoutSec, requestCallback, userContext⟩
    simp only [not_true_eq_false, if_false, added, List.nil_append]
    split
    · simpa only [onSuccess, if_neg noConnection] using Moves.refl keyed
    · exact toldList_moves keyed jsonDoc _ _ (by simp only [Env.after, allocates])

/-! ## What a desired state does -/

theorem deltaLoop_outputs (deltaStr : CString) (env : Env) (list : List PropertyHandler)
    (callable : ∀ handler ∈ list, handler.callback.isSome) :
    (deltaLoop deltaStr env list).1 = list.filterMap fun handler =>
      (findValueIfKeyMatch deltaStr handler.property).map (.property handler) := by
  induction list with
  | nil => rfl
  | cons handler list ih =>
      have rest := ih fun other member => callable other (List.mem_cons_of_mem _ member)
      have here := callable handler List.mem_cons_self
      rw [List.filterMap_cons, ← rest, deltaLoop]
      cases findValueIfKeyMatch deltaStr handler.property with
      | none => rfl
      | some value => simp only [here, if_true, Option.map_some]

/-- The key whose callback an output is. -/
def keyCalled : Output → Option CString
  | .property handler _ => some handler.property.key
  | .mqtt _ => none
  | .callback _ _ _ => none

theorem handleDelta_moves (keyed : Keyed shadow.propertyList) (deltaStr : CString)
    (allocates : env.malloc = fun _ => true) :
    Moves shadow.propertyList (handleDelta shadow deltaStr env).1.propertyList
      (answerEvents shadow deltaStr env) := by
  unfold handleDelta answerEvents
  simp only [allocates, Bool.and_self, Bool.not_true, Bool.and_false,
    Bool.false_eq_true, if_false, if_true]
  exact toldList_moves keyed _ _ _ (by simp only [Env.after, allocates])

/-- A desired state calls the registered properties it has a value for. -/
theorem handleDelta_property (keyed : Keyed shadow.propertyList) (deltaStr : CString)
    (allocates : env.malloc = fun _ => true) :
    (∀ handler value, .property handler value ∈ (handleDelta shadow deltaStr env).2 ↔
      registryOf shadow.propertyList handler.property.key =
          some ⟨handler.callback, handler.property.data⟩ ∧
        findValueIfKeyMatch deltaStr handler.property = some value) ∧
    ((handleDelta shadow deltaStr env).2.filterMap keyCalled).Nodup := by
  have callable : ∀ handler ∈ shadow.propertyList.reverse, handler.callback.isSome :=
    fun handler member => keyed.callable handler (List.mem_reverse.mp member)
  unfold handleDelta
  simp only [allocates, Bool.and_self, Bool.not_true, Bool.and_false,
    Bool.false_eq_true, if_false, if_true]
  rw [deltaLoop_outputs deltaStr env _ callable]
  have later : (env.after 3).malloc = fun _ => true := by simp only [Env.after, allocates]
  have quiet := (uiotShadowMakeRequest_told shadow ⟨[], 0, false⟩ cloudIotJsonRxBufLen
    ⟨answerMethod shadow.cloudSendMethod,
      (deltaLoop deltaStr env shadow.propertyList.reverse).2, maxWaitTimeSec, none, 0⟩ later).2
  constructor
  · intro handler value
    have member : handler ∈ shadow.propertyList ↔
        registryOf shadow.propertyList handler.property.key =
          some ⟨handler.callback, handler.property.data⟩ := by
      rw [registryOf, ← Option.mem_def, List.mem_dlookup_iff keyed.apart, entries, List.mem_map]
      constructor
      · exact fun member => ⟨handler, member, rfl⟩
      · rintro ⟨⟨⟨key, data⟩, callback⟩, member, same⟩
        obtain ⟨rfl, rest⟩ := Sigma.mk.inj_iff.mp same
        obtain ⟨rfl, rfl⟩ := Registered.mk.inj (eq_of_heq rest)
        exact member
    rw [List.mem_append, or_iff_left (quiet handler value), List.mem_filterMap, ← member]
    constructor
    · rintro ⟨other, among, called⟩
      obtain ⟨found, matched, same⟩ := Option.map_eq_some_iff.mp called
      obtain ⟨rfl, rfl⟩ := Output.property.inj same
      exact ⟨List.mem_reverse.mp among, matched⟩
    · rintro ⟨among, matched⟩
      exact ⟨handler, List.mem_reverse.mpr among, by rw [matched, Option.map_some]⟩
  · have none' : ∀ outputs : List Output, (∀ handler value, .property handler value ∉ outputs) →
        outputs.filterMap keyCalled = [] := by
      intro outputs quiet
      rw [List.filterMap_eq_nil_iff]
      intro output member
      cases output with
      | property handler value => exact absurd member (quiet handler value)
      | mqtt output => rfl
      | callback request ack document => rfl
    rw [List.filterMap_append, none' _ quiet, List.append_nil, List.filterMap_filterMap]
    have apart : shadow.propertyList.reverse.Pairwise fun first second =>
        first.property.key ≠ second.property.key := by
      have forward := List.nodupKeys_iff_pairwise.mp keyed.apart
      rw [entries, List.pairwise_map] at forward
      exact List.pairwise_reverse.mpr (forward.imp Ne.symm)
    refine List.pairwise_filterMap.mpr (apart.imp ?_)
    intro first second differ key called key' called' same
    refine differ ?_
    obtain ⟨output, called, isKey⟩ := Option.bind_eq_some_iff.mp called
    obtain ⟨output', called', isKey'⟩ := Option.bind_eq_some_iff.mp called'
    obtain ⟨_, _, rfl⟩ := Option.map_eq_some_iff.mp called
    obtain ⟨_, _, rfl⟩ := Option.map_eq_some_iff.mp called'
    exact (Option.some.inj isKey).trans (same.trans (Option.some.inj isKey').symm)

/-! ## Messages -/

theorem completeRequests_propertyList (shadow : ShadowClient) (type : List UInt8) (malloc : Bool) :
    (completeRequests shadow type malloc).1.propertyList = shadow.propertyList := rfl

theorem handleDesired_moves {shadow : ShadowClient} (keyed : Keyed shadow.propertyList)
    (desiredStr : Option CString) (allocates : env.malloc = fun _ => true) :
    Moves shadow.propertyList (handleDesired shadow desiredStr env).1.propertyList
      (desiredEvents shadow desiredStr env) := by
  cases desiredStr with
  | none => exact Moves.refl keyed
  | some desiredStr =>
      simp only [handleDesired, desiredEvents]
      split
      · exact handleDelta_moves keyed desiredStr allocates
      · exact Moves.refl keyed

theorem result_moves (keyed : Keyed shadow.propertyList) (message : Mqtt.Message)
    (allocates : env.malloc = fun _ => true) :
    Moves shadow.propertyList (topicRequestResultHandler shadow message env).1.propertyList
      (resultEvents shadow message env) := by
  have later : (env.after 1).malloc = fun _ => true := by simp only [Env.after, allocates]
  have differ : methodReply ≠ methodControl := by decide
  unfold topicRequestResultHandler resultEvents
  simp only
  split
  · exact Moves.refl keyed
  split
  · exact Moves.refl keyed
  cases isMethod : liteJsonValueOf (literal "Method") (received message.payload) with
  | none =>
      simp only [reduceCtorEq, if_false]
      exact Moves.refl keyed
  | some methodStr =>
      cases isVersion : parseVersionNum (received message.payload) with
      | none =>
          simp only [ite_self]
          exact Moves.refl keyed
      | some versionNum =>
          simp only [Option.some.injEq]
          by_cases reply : methodStr = methodReply
          · rw [if_pos reply, if_neg (by rw [reply]; exact differ)]
            cases parseShadowPayloadRetcodeType (received message.payload) with
            | none => exact Moves.refl keyed
            | some retCode =>
                dsimp only
                split <;> exact Moves.refl keyed
          · rw [if_neg reply]
            by_cases control : methodStr = methodControl
            · rw [if_pos control, if_pos control]
              exact @handleDesired_moves _ { shadow with
                cloudRcvBuf := received message.payload, version := versionNum } keyed _ later
            · rw [if_neg control, if_neg control]
              exact Moves.refl keyed

theorem sync_moves (keyed : Keyed shadow.propertyList) (message : Mqtt.Message)
    (allocates : env.malloc = fun _ => true) :
    Moves shadow.propertyList (topicSyncHandler shadow message env).1.propertyList
      (syncEvents shadow message env) := by
  have later : (env.after 1).malloc = fun _ => true := by simp only [Env.after, allocates]
  unfold topicSyncHandler syncEvents
  simp only
  split
  · exact Moves.refl keyed
  split
  · exact Moves.refl keyed
  cases isVersion : parseVersionNum (received message.payload) with
  | none => exact Moves.refl keyed
  | some versionNum =>
      exact @handleDesired_moves _ { shadow with
        cloudRcvBuf := received message.payload, version := versionNum } keyed _ later

/-- One call moves the store by its events. -/
theorem callStep_moves (keyed : Keyed shadow.propertyList) (call : Call)
    (allocates : call.Allocates) :
    Moves shadow.propertyList (callStep shadow call).1.propertyList
      (callStep shadow call).2.events := by
  cases call with
  | register property callback malloc =>
      obtain rfl : malloc = _ := allocates
      exact register_moves keyed property callback
  | unregister property malloc =>
      obtain rfl : malloc = _ := allocates
      exact unregister_moves keyed property
  | request method requestCallback timeoutSec userContext properties jsonDoc env =>
      exact request_moves keyed method requestCallback timeoutSec userContext properties jsonDoc
        allocates
  | expire now malloc => exact Moves.refl keyed
  | result message env => exact result_moves keyed message allocates
  | sync message env => exact sync_moves keyed message allocates
  | mqtt client => exact Moves.refl keyed

end Steps

/-! ## Runs -/

/-- The events of a run -/
def eventsOf (effects : List Effects) : List Event := effects.flatMap Effects.events

theorem run_moves (calls : List Call) (allocates : ∀ call ∈ calls, call.Allocates)
    (shadow : ShadowClient) (keyed : Keyed shadow.propertyList) :
    Moves shadow.propertyList (Runs.run callStep shadow calls).1.propertyList
      (eventsOf (Runs.run callStep shadow calls).2) := by
  induction calls generalizing shadow with
  | nil => exact Moves.refl keyed
  | cons call rest ih =>
      have first := callStep_moves keyed call (allocates call List.mem_cons_self)
      have later := ih (fun other member => allocates other (List.mem_cons_of_mem _ member))
        (callStep shadow call).1 first.keyed
      refine ⟨later.keyed, ?_⟩
      rw [Runs.run_cons_fst, later.store, first.store, Runs.run_cons_snd, eventsOf, eventsOf,
        List.flatMap_cons, List.foldl_append]

/-- Whatever the application calls and the cloud sends, the list of the
properties is what the events make of the empty store, and a desired state calls
each property of the store that it has a value for, once, and nothing else. -/
theorem registry_run (mqtt : Mqtt.Client) (productSn deviceSn : CString) (calls : List Call)
    (allocates : ∀ call ∈ calls, call.Allocates) :
    let run := Runs.run callStep (uiotShadowInit mqtt productSn deviceSn) calls
    let registry := (eventsOf run.2).foldl Registry.apply fun _ => none
    registryOf run.1.propertyList = registry ∧ (entries run.1.propertyList).NodupKeys ∧
      ∀ (deltaStr : CString) (env : Env), (env.malloc = fun _ => true) →
        (∀ handler value, .property handler value ∈ (handleDelta run.1 deltaStr env).2 ↔
          registry handler.property.key = some ⟨handler.callback, handler.property.data⟩ ∧
            findValueIfKeyMatch deltaStr handler.property = some value) ∧
        ((handleDelta run.1 deltaStr env).2.filterMap keyCalled).Nodup := by
  intro run registry
  have moves := run_moves calls allocates (uiotShadowInit mqtt productSn deviceSn) keyed_nil
  have store : registryOf run.1.propertyList = registry := moves.store
  refine ⟨store, moves.keyed.apart, fun deltaStr env allocates => ?_⟩
  rw [← store]
  exact handleDelta_property moves.keyed deltaStr allocates

/-- A property is registered, once more, and another one beside it; a desired
state with both keys calls the two that are there. -/
theorem registry_run_two :
    let mqtt := { Mqtt.uiotMqttInit ⟨1000, false⟩ with isConnected := true }
    let warm : DeviceProperty := ⟨literal "t", some (.int32 21)⟩
    let lit : DeviceProperty := ⟨literal "l", some (.bool true)⟩
    let calls : List Call := [.register warm (some 7) fun _ => true,
      .register warm (some 8) fun _ => true, .register lit (some 9) fun _ => true,
      .unregister ⟨literal "x", none⟩ fun _ => true]
    let run := Runs.run callStep (uiotShadowInit mqtt (literal "p") (literal "d")) calls
    let env : Env :=
      { tick := fun _ => 0
        rtTickFromMillisecond := id
        malloc := fun _ => true
        publish := ⟨fun _ => 0, id, fun _ => true, fun _ => [], [], 0, .qos0⟩
        answer := fun _ _ => [] }
    let deltaStr := literal "\x7b\"l\":0,\"t\":5\x7d"
    Output.property ⟨warm, some 7⟩ (literal "5") ∈ (handleDelta run.1 deltaStr env).2 ∧
      Output.property ⟨lit, some 9⟩ (literal "0") ∈ (handleDelta run.1 deltaStr env).2 := by
  intro mqtt warm lit calls run env deltaStr
  have allocates : ∀ call ∈ calls, call.Allocates := by
    simp [calls, Call.Allocates]
  obtain ⟨-, -, called⟩ := registry_run mqtt (literal "p") (literal "d") calls allocates
  have member := (called deltaStr env rfl).1
  exact ⟨(member _ _).mpr ⟨by decide +kernel, by decide +kernel⟩,
    (member _ _).mpr ⟨by decide +kernel, by decide +kernel⟩⟩

end UIoT.Shadow
