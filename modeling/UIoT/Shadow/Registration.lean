import UIoT.Shadow.Manager

/-!
# The properties of a shadow client and the requests of the application

`IOT_Shadow_Register_Property` and `IOT_Shadow_UnRegister_Property` keep the
list that the desired values of the cloud are handed out by. The requests of
the application allocate their parameters, and `uiot_shadow_make_request` frees
them again; a call that ends before it leaves them allocated, which `leaked`
counts in blocks.

`list_find` allocates an iterator. When it cannot, it finds nothing.
-/

set_option autoImplicit false

namespace UIoT.Shadow

open Mqtt (CString)

/-! ## The list of the properties -/

/-- `list_find` over the list of the properties -/
def findProperty (list : List PropertyHandler) (property : DeviceProperty) (malloc : Bool) :
    Option PropertyHandler :=
  if ¬malloc then none else list.find? (shadowCommonCheckPropertyMatch property)

/-- `shadow_common_check_property_existence` -/
def shadowCommonCheckPropertyExistence (shadow : ShadowClient) (property : DeviceProperty)
    (malloc : Bool) : Bool :=
  (findProperty shadow.propertyList property malloc).isSome

/-- `_add_property_handle_to_list` -/
def addPropertyHandleToList (shadow : ShadowClient) (property : DeviceProperty)
    (callback : Option Nat) (malloc : Nat → Bool) : Int × ShadowClient :=
  if ¬malloc 0 then (failureRet, shadow)
  else if ¬malloc 1 then (failureRet, shadow)
  else
    (successRet, { shadow with
      propertyList := Mqtt.listRpush shadow.propertyList { property, callback } })

/-- `shadow_common_register_property_on_delta` -/
def shadowCommonRegisterPropertyOnDelta (shadow : ShadowClient) (property : DeviceProperty)
    (callback : Option Nat) (malloc : Nat → Bool) : Int × ShadowClient :=
  if callback.isNone then (errParamInvalid, shadow)
  else if property.data.isNone then (errParamInvalid, shadow)
  else addPropertyHandleToList shadow property callback malloc

/-- `IOT_Shadow_Register_Property`: the first allocation is the iterator's, when
the list is not empty. -/
def iotShadowRegisterProperty (shadow : ShadowClient) (property : DeviceProperty)
    (callback : Option Nat) (malloc : Nat → Bool) : Int × ShadowClient :=
  if ¬shadow.mqtt.isConnected then (errMqttNoConn, shadow)
  else if shadow.propertyList.isEmpty then
    shadowCommonRegisterPropertyOnDelta shadow property callback malloc
  else if shadowCommonCheckPropertyExistence shadow property (malloc 0) then
    (errShadowPropertyExist, shadow)
  else
    shadowCommonRegisterPropertyOnDelta shadow property callback fun alloc => malloc (alloc + 1)

/-- `shadow_common_remove_property` -/
def shadowCommonRemoveProperty (shadow : ShadowClient) (property : DeviceProperty) (malloc : Bool) :
    Int × ShadowClient :=
  match findProperty shadow.propertyList property malloc with
  | none => (errShadowNotPropertyExist, shadow)
  | some _ =>
      (successRet, { shadow with
        propertyList := shadow.propertyList.eraseP (shadowCommonCheckPropertyMatch property) })

/-- `IOT_Shadow_UnRegister_Property` -/
def iotShadowUnRegisterProperty (shadow : ShadowClient) (property : DeviceProperty)
    (malloc : Nat → Bool) : Int × ShadowClient :=
  if ¬shadow.mqtt.isConnected then (errMqttNoConn, shadow)
  else if ¬shadowCommonCheckPropertyExistence shadow property (malloc 0) then
    (errShadowNotPropertyExist, shadow)
  else shadowCommonRemoveProperty shadow property (malloc 1)

/-! ## The requests of the application -/

/-- What a request of the application does. -/
structure Requested where
  ret : Int
  shadow : ShadowClient
  outputs : List Output
  /-- The blocks of the parameters that stay allocated. -/
  leaked : Nat
  /-- The parameters that `uiot_shadow_make_request` got. -/
  made : Option RequestParams

/-- `uiot_shadow_request_init`: the parameters and their empty list, with two
allocations. -/
def uiotShadowRequestInit (method : Method) (requestCallback : Option Nat) (timeoutSec : UInt32)
    (userContext : Nat) (malloc : Nat → Bool) : Option RequestParams :=
  if ¬malloc 0 then none
  else if ¬malloc 1 then none
  else some { method, propertyDeltaList := [], timeoutSec, requestCallback, userContext }

/-- The loop over the properties of a request, with
`IOT_Shadow_Request_Add_Delta_Property`: a null property is passed over, and the
first node that cannot be allocated ends it. -/
def addDeltaProperties (malloc : Nat → Bool) :
    List (Option DeviceProperty) → Nat → RequestParams → Bool × Nat × RequestParams
  | [], alloc, params => (true, alloc, params)
  | none :: rest, alloc, params => addDeltaProperties malloc rest alloc params
  | some property :: rest, alloc, params =>
      if ¬malloc alloc then (false, alloc, params)
      else
        addDeltaProperties malloc rest (alloc + 1)
          { params with propertyDeltaList := Mqtt.listRpush params.propertyDeltaList property }

/-- The blocks of some parameters: their own, their list's and its nodes. -/
def RequestParams.blocks (params : RequestParams) : Nat := params.propertyDeltaList.length + 2

/-- The requests of the application, with the properties they list. The call
allocates the parameters before it looks at the connection. -/
def iotShadowRequest (method : Method) (shadow : ShadowClient) (requestCallback : Option Nat)
    (timeoutSec : UInt32) (userContext : Nat) (properties : List (Option DeviceProperty))
    (jsonDoc : Utils.Buffer) (env : Env) : Requested :=
  if timeoutSec = 0 then ⟨errParamInvalid, shadow, [], 0, none⟩
  else
    match uiotShadowRequestInit method requestCallback timeoutSec userContext env.malloc with
    | none =>
        -- each property is refused for the parameters, and so is the request
        if properties.any Option.isSome then ⟨failureRet, shadow, [], 0, none⟩
        else if ¬shadow.mqtt.isConnected then ⟨errMqttNoConn, shadow, [], 0, none⟩
        else ⟨errParamInvalid, shadow, [], 0, none⟩
    | some params =>
        let (added, alloc, params) := addDeltaProperties env.malloc properties 2 params
        if ¬added then ⟨failureRet, shadow, [], params.blocks, none⟩
        else if ¬shadow.mqtt.isConnected then ⟨errMqttNoConn, shadow, [], params.blocks, none⟩
        else
          let made :=
            uiotShadowMakeRequest shadow jsonDoc Mqtt.uiotMqttTxBufLen params (env.after alloc)
          ⟨made.ret, made.shadow, made.outputs, 0, some params⟩

/-- `IOT_Shadow_Get_Sync` -/
def iotShadowGetSync (shadow : ShadowClient) (requestCallback : Option Nat) (timeoutSec : UInt32)
    (userContext : Nat) (jsonDoc : Utils.Buffer) (env : Env) : Requested :=
  iotShadowRequest .get shadow requestCallback timeoutSec userContext [] jsonDoc env

/-- `IOT_Shadow_Update` -/
def iotShadowUpdate (shadow : ShadowClient) (requestCallback : Option Nat) (timeoutSec : UInt32)
    (userContext : Nat) (properties : List (Option DeviceProperty)) (jsonDoc : Utils.Buffer)
    (env : Env) : Requested :=
  iotShadowRequest .update shadow requestCallback timeoutSec userContext properties jsonDoc env

/-- `IOT_Shadow_Update_And_Reset_Version` -/
def iotShadowUpdateAndResetVersion (shadow : ShadowClient) (requestCallback : Option Nat)
    (timeoutSec : UInt32) (userContext : Nat) (properties : List (Option DeviceProperty))
    (jsonDoc : Utils.Buffer) (env : Env) : Requested :=
  iotShadowRequest .updateAndResetVer shadow requestCallback timeoutSec userContext properties
    jsonDoc env

/-- `IOT_Shadow_Delete` -/
def iotShadowDelete (shadow : ShadowClient) (requestCallback : Option Nat) (timeoutSec : UInt32)
    (userContext : Nat) (properties : List (Option DeviceProperty)) (jsonDoc : Utils.Buffer)
    (env : Env) : Requested :=
  iotShadowRequest .delete shadow requestCallback timeoutSec userContext properties jsonDoc env

/-- `IOT_Shadow_Delete_All` -/
def iotShadowDeleteAll (shadow : ShadowClient) (requestCallback : Option Nat) (timeoutSec : UInt32)
    (userContext : Nat) (jsonDoc : Utils.Buffer) (env : Env) : Requested :=
  iotShadowRequest .deleteAll shadow requestCallback timeoutSec userContext [] jsonDoc env

/-- A request leaves blocks behind exactly when it got its parameters and did
not hand them on. -/
theorem iotShadowRequest_leaks (method : Method) (shadow : ShadowClient)
    (requestCallback : Option Nat) (timeoutSec : UInt32) (userContext : Nat)
    (properties : List (Option DeviceProperty)) (jsonDoc : Utils.Buffer) (env : Env) :
    let requested := iotShadowRequest method shadow requestCallback timeoutSec userContext
      properties jsonDoc env
    0 < requested.leaked ↔ timeoutSec ≠ 0 ∧ requested.made = none ∧
      (uiotShadowRequestInit method requestCallback timeoutSec userContext env.malloc).isSome := by
  unfold iotShadowRequest
  by_cases noTime : timeoutSec = 0
  · simp [noTime]
  · simp only [noTime, if_false, ne_eq, not_false_eq_true, true_and]
    cases uiotShadowRequestInit method requestCallback timeoutSec userContext env.malloc with
    | none =>
        simp only [Option.isSome_none, Bool.false_eq_true, and_false, iff_false, Nat.not_lt]
        split
        · exact Nat.le_refl 0
        · split <;> exact Nat.le_refl 0
    | some params =>
        simp only [Option.isSome_some, and_true]
        split
        · simp [RequestParams.blocks]
        · split
          · simp [RequestParams.blocks]
          · simp

end UIoT.Shadow
