import UIoT.Shadow.Manager

/-!
# What a request leaves in the list

`uiot_shadow_make_request` appends the request first and forgets whether that
worked; when a later step fails the request stays. So the code it returns tells
what happened to the list exactly when the two agree: the list has room for the
request if and only if the request goes out (`accounted_iff`).
-/

set_option autoImplicit false

namespace UIoT.Shadow

open Utils

variable (shadow : ShadowClient) (jsonDoc : Buffer) (sizeOfBuffer : Nat) (params : RequestParams)
  (env : Env)

/-! ## The property and its condition -/

/-- The code tells what happened: success means that one request for these
parameters is appended and its message is published, and an error that the list
is as it was. -/
def Accounted (outcome : Outcome) : Prop :=
  (outcome.ret = successRet ↔
    (∃ request : Request, request.method = params.method ∧
      request.callback = params.requestCallback ∧ request.userContext = params.userContext ∧
      outcome.shadow.requestList = shadow.requestList ++ [request]) ∧
    ∃ document, outcome.published = some (document, successRet)) ∧
  (outcome.ret ≠ successRet → outcome.shadow.requestList = shadow.requestList)

/-- The list takes one more request. -/
def HasRoom : Prop :=
  shadow.requestList.length < maxAppendingRequestAtAnyGivenTime ∧ env.malloc 0 ∧ env.malloc 1

/-- The local properties are updated with an iterator. -/
def NeedsIterator : Prop :=
  if params.method = .deleteAll then shadow.propertyList ≠ [] else listed params

/-- The publication takes place and is accepted. -/
structure Sent : Prop where
  built : (buildDocument shadow.version jsonDoc sizeOfBuffer params (env.malloc 2)).1 = successRet
  topic : (publishTopic shadow params.method).length < Mqtt.maxSizeOfCloudTopic
  accepted : 0 ≤ (Mqtt.uiotMqttPublish shadow.mqtt (publishTopic shadow params.method)
    { qos := .qos1
      retained := 0
      id := 0
      payload := some
        (buildDocument shadow.version jsonDoc sizeOfBuffer params (env.malloc 2)).2.text }
    env.publish).ret

/-- The request is sent and the local properties are updated. -/
def GoesOut : Prop :=
  Sent shadow jsonDoc sizeOfBuffer params env ∧ (NeedsIterator shadow params → env.malloc 3)

variable {shadow jsonDoc sizeOfBuffer params env}

/-! ## The steps -/

/-- The request that is appended. -/
def newRequest (shadow : ShadowClient) (params : RequestParams) (env : Env) : Request where
  issue := shadow.issued + 1
  method := params.method
  userContext := params.userContext
  timer := countdown env.rtTickFromMillisecond (env.tick 0) params.timeoutSec
  callback := params.requestCallback

theorem shadowAddRequestToList_room (room : HasRoom shadow env) :
    (shadowAddRequestToList shadow params env).2 = { shadow with
      requestList := shadow.requestList ++ [newRequest shadow params env]
      issued := shadow.issued + 1 } := by
  obtain ⟨notFull, first, second⟩ := room
  simp [shadowAddRequestToList, Nat.not_le.mpr notFull, first, second, Mqtt.listRpush, newRequest]

theorem shadowAddRequestToList_full (noRoom : ¬HasRoom shadow env) :
    (shadowAddRequestToList shadow params env).2 = shadow := by
  unfold shadowAddRequestToList
  split
  · rfl
  split
  · rfl
  split
  · rfl
  · rename_i notFull first second
    exact absurd ⟨Nat.not_le.mp notFull, not_not.mp first, not_not.mp second⟩ noRoom

theorem uiotShadowUpdateProperty_success :
    (uiotShadowUpdateProperty shadow params env).1 = successRet ↔
      (NeedsIterator shadow params → env.malloc 0) := by
  have fails : errParamInvalid ≠ successRet := by decide
  unfold uiotShadowUpdateProperty NeedsIterator
  by_cases all : params.method = .deleteAll
  · cases shadow.propertyList with
    | nil => simp [all]
    | cons handler rest => cases env.malloc 0 <;> simp [all]
  · cases isListed : listed params with
    | false => simp [all]
    | true => cases env.malloc 0 <;> simp [all]

theorem uiotShadowUpdateProperty_requestList :
    (uiotShadowUpdateProperty shadow params env).2.requestList = shadow.requestList := by
  unfold uiotShadowUpdateProperty
  repeat' split
  all_goals rfl

theorem publishOperation_lists (method : Method) (document : Mqtt.CString) :
    (uiotShadowPublishOperationToCloud shadow method document env).2.1.requestList =
        shadow.requestList ∧
      (uiotShadowPublishOperationToCloud shadow method document env).2.1.propertyList =
        shadow.propertyList := by
  unfold uiotShadowPublishOperationToCloud
  simp only
  split
  · exact ⟨rfl, rfl⟩
  · exact ⟨rfl, rfl⟩

theorem publishOperation_success (method : Method) (document : Mqtt.CString) :
    (uiotShadowPublishOperationToCloud shadow method document env).1 = successRet ↔
      (publishTopic shadow method).length < Mqtt.maxSizeOfCloudTopic ∧
        0 ≤ (Mqtt.uiotMqttPublish shadow.mqtt (publishTopic shadow method)
          { qos := .qos1, retained := 0, id := 0, payload := some document } env.publish).ret := by
  have fails : failureRet ≠ successRet := by decide
  have positive : 0 < Mqtt.maxSizeOfCloudTopic := by decide
  unfold uiotShadowPublishOperationToCloud
  simp only
  split
  · rename_i tooLong
    simp only [fails, false_iff]
    intro fits
    omega
  · rename_i short
    have fits : (publishTopic shadow method).length < Mqtt.maxSizeOfCloudTopic := by omega
    simp only [fits, true_and]
    split <;> simp [*]

/-- What follows the append: it leaves the list alone, it publishes when the
request is sent, and it succeeds when the request goes out. -/
theorem publishRequest_spec :
    let outcome := publishRequest shadow jsonDoc sizeOfBuffer params (env.after 2)
    outcome.shadow.requestList = shadow.requestList ∧
      ((∃ document, outcome.published = some (document, successRet)) ↔
        Sent shadow jsonDoc sizeOfBuffer params env) ∧
      (outcome.ret = successRet ↔ GoesOut shadow jsonDoc sizeOfBuffer params env) := by
  have build : (env.after 2).malloc 0 = env.malloc 2 := rfl
  have update : ((env.after 2).after 1).malloc 0 = env.malloc 3 := rfl
  unfold publishRequest
  rw [build]
  by_cases built :
      (buildDocument shadow.version jsonDoc sizeOfBuffer params (env.malloc 2)).1 = successRet
  · have lists := @publishOperation_lists shadow (env.after 2) params.method
      (buildDocument shadow.version jsonDoc sizeOfBuffer params (env.malloc 2)).2.text
    have success := @publishOperation_success shadow (env.after 2) params.method
      (buildDocument shadow.version jsonDoc sizeOfBuffer params (env.malloc 2)).2.text
    have isSent : Sent shadow jsonDoc sizeOfBuffer params env ↔
        (uiotShadowPublishOperationToCloud shadow params.method (buildDocument shadow.version
          jsonDoc sizeOfBuffer params (env.malloc 2)).2.text (env.after 2)).1 = successRet :=
      ⟨fun sent => success.mpr ⟨sent.topic, sent.accepted⟩,
        fun isSuccess => ⟨built, (success.mp isSuccess).1, (success.mp isSuccess).2⟩⟩
    rw [GoesOut, isSent]
    simp only [built, ne_eq, not_true_eq_false, if_false]
    generalize uiotShadowPublishOperationToCloud shadow params.method (buildDocument shadow.version
      jsonDoc sizeOfBuffer params (env.malloc 2)).2.text (env.after 2) = operation at lists
    obtain ⟨ret, after, outputs⟩ := operation
    by_cases isSuccess : ret = successRet
    · have needs : NeedsIterator after params ↔ NeedsIterator shadow params := by
        unfold NeedsIterator
        rw [lists.2]
      simp only [isSuccess, not_true_eq_false, if_false, Option.some.injEq, Prod.mk.injEq,
        and_true, exists_eq', true_and, uiotShadowUpdateProperty_success, needs, update]
      exact uiotShadowUpdateProperty_requestList.trans lists.1
    · simp only [isSuccess, not_false_eq_true, if_true, Option.some.injEq, Prod.mk.injEq, and_false,
        exists_false, false_and, and_true]
      exact lists.1
  · refine ⟨by simp [built], ?_, ?_⟩
    · simp only [built, ne_eq, not_false_eq_true, if_true, reduceCtorEq, exists_false, false_iff]
      exact fun sent => built sent.built
    · simp only [built, ne_eq, not_false_eq_true, if_true, false_iff]
      exact fun out => built out.1.built

/-- The list has no part in the publication. -/
theorem sent_list (list : List Request) (issued : Nat) :
    Sent { shadow with requestList := list, issued := issued } jsonDoc sizeOfBuffer params env ↔
      Sent shadow jsonDoc sizeOfBuffer params env :=
  ⟨fun sent => ⟨sent.built, sent.topic, sent.accepted⟩,
    fun sent => ⟨sent.built, sent.topic, sent.accepted⟩⟩

theorem uiotShadowMakeRequest_eq : uiotShadowMakeRequest shadow jsonDoc sizeOfBuffer params env =
    publishRequest (shadowAddRequestToList shadow params env).2 jsonDoc sizeOfBuffer params
      (env.after 2) := rfl

/-! ## The list and the code -/

/-- The code of a request tells what happened to the list exactly when the list
has room for the request if and only if the request goes out. -/
theorem accounted_iff (shadow : ShadowClient) (jsonDoc : Buffer) (sizeOfBuffer : Nat)
    (params : RequestParams) (env : Env) :
    Accounted shadow params (uiotShadowMakeRequest shadow jsonDoc sizeOfBuffer params env) ↔
      (HasRoom shadow env ↔ GoesOut shadow jsonDoc sizeOfBuffer params env) := by
  rw [uiotShadowMakeRequest_eq, Accounted]
  by_cases room : HasRoom shadow env
  · rw [shadowAddRequestToList_room room]
    obtain ⟨list, sent, success⟩ := @publishRequest_spec { shadow with
      requestList := shadow.requestList ++ [newRequest shadow params env]
      issued := shadow.issued + 1 } jsonDoc sizeOfBuffer params env
    have appended : ∃ request : Request, request.method = params.method ∧
        request.callback = params.requestCallback ∧ request.userContext = params.userContext ∧
        shadow.requestList ++ [newRequest shadow params env] = shadow.requestList ++ [request] :=
      ⟨_, rfl, rfl, rfl, rfl⟩
    have longer : shadow.requestList ++ [newRequest shadow params env] ≠ shadow.requestList := by
      simp
    rw [sent_list] at sent
    rw [GoesOut, sent_list] at success
    simp only [list, sent, success, appended, longer, room, true_and, true_iff, imp_false, not_not]
    constructor
    · exact fun both => both.2
    · exact fun out => ⟨⟨fun _ => out.1, fun _ => out⟩, out⟩
  · rw [shadowAddRequestToList_full room]
    obtain ⟨list, sent, success⟩ := @publishRequest_spec shadow jsonDoc sizeOfBuffer params env
    have notLonger : ∀ request, shadow.requestList ≠ shadow.requestList ++ [request] := by
      intro request same
      simp at same
    simp only [list, sent, success, notLonger, room, and_false, exists_false, false_and, iff_false,
      implies_true, and_true, false_iff]

/-- A synchronisation over a client that is not connected fails, and its request
stays in the list. -/
theorem request_fails_and_stays :
    let shadow := uiotShadowInit (Mqtt.uiotMqttInit ⟨1000, false⟩) (literal "p") (literal "d")
    let params : RequestParams := ⟨.get, [], 1, some 1, 0⟩
    let env : Env :=
      { tick := fun _ => 0
        rtTickFromMillisecond := id
        malloc := fun _ => true
        publish := ⟨fun _ => 0, id, fun _ => true, fun _ => [], [], 0, .qos0⟩
        answer := fun _ _ => [] }
    let outcome := uiotShadowMakeRequest shadow ⟨[], 0, false⟩ 2048 params env
    outcome.ret = failureRet ∧ outcome.shadow.requestList.map Request.callback = [some 1] ∧
      ¬Accounted shadow params outcome := by
  intro shadow params env outcome
  have failed : outcome.ret = failureRet := by decide
  have stays : outcome.shadow.requestList.map Request.callback = [some 1] := by decide
  refine ⟨failed, stays, fun accounted => ?_⟩
  have same := accounted.2 (by rw [failed]; decide)
  rw [same] at stays
  simp [shadow, uiotShadowInit] at stays

end UIoT.Shadow
