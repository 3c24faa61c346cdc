import UIoT.Lib.Runs
import UIoT.Shadow.Accounting

/-!
# When requests leave the list

A step appends at most one request, and then takes some requests out: the sweep
those that have expired, a message of the cloud, when it is one that completes
requests, all of them. `step_settles` says so for every step. Over a run no
request is called back twice (`callbacks_once`).
-/

set_option autoImplicit false

namespace UIoT.Shadow

open Utils
open Mqtt (CString)
open Runs

/-! ## What a message completes -/

/-- The message is taken into `cloud_rcv_buf`. -/
def Taken (message : Mqtt.Message) : Prop :=
  message.topic ≠ [] ∧ message.payload.length ≤ cloudIotJsonRxBufLen

instance (message : Mqtt.Message) : Decidable (Taken message) := inferInstanceAs (Decidable (_ ∧ _))

/-- The method of a downstream message that completes requests: a push, or a
reply with the code of success. -/
def resultType (message : Mqtt.Message) : Option (List UInt8) :=
  if Taken message ∧ (parseVersionNum (received message.payload)).isSome then
    match liteJsonValueOf (literal "Method") (received message.payload) with
    | none => none
    | some methodStr =>
        if methodStr = methodReply then
          if parseShadowPayloadRetcodeType (received message.payload) = some 0 then some methodReply
          else none
        else if methodStr = methodControl then some methodControl
        else none
  else none

/-- The answer to a synchronisation completes requests when it has a version. -/
def syncType (message : Mqtt.Message) : Option (List UInt8) :=
  if Taken message ∧ (parseVersionNum (received message.payload)).isSome then some methodGetReply
  else none

/-- How a step completes a request that is in the list, if it does. -/
def completion : Input → Request → Option RequestAck
  | .expire now malloc, request =>
      if malloc ∧ hasExpired request.timer (now request) then some .timeout else none
  | .result message env, _ =>
      if env.malloc 0 then
        (resultType message).map fun type => requestStatus type (received message.payload)
      else none
  | .sync message env, _ =>
      if env.malloc 0 then
        (syncType message).map fun type => requestStatus type (received message.payload)
      else none
  | _, _ => none

/-! ## What a step appends -/

instance (shadow : ShadowClient) (env : Env) : Decidable (HasRoom shadow env) :=
  inferInstanceAs (Decidable (_ ∧ _))

/-- The parameters of an answer to desired values. -/
def answerParams (shadow : ShadowClient) (properties : List DeviceProperty) : RequestParams where
  method := answerMethod shadow.cloudSendMethod
  propertyDeltaList := properties
  timeoutSec := maxWaitTimeSec
  requestCallback := none
  userContext := 0

/-- Desired values are answered with a request in the list. -/
def Answers (shadow : ShadowClient) (desired : Option CString) (env : Env) : Prop :=
  (∃ text ∈ desired, 2 < text.length) ∧ env.malloc 0 ∧ env.malloc 1 ∧
    (shadow.propertyList = [] ∨ env.malloc 2) ∧ HasRoom shadow (env.after 3)

instance (shadow : ShadowClient) (desired : Option CString) (env : Env) :
    Decidable (Answers shadow desired env) := inferInstanceAs (Decidable (_ ∧ _))

/-- The answer to desired values that is appended, if one is. -/
def answer (shadow : ShadowClient) (desired : Option CString) (env : Env) : List Request :=
  if Answers shadow desired env then [newRequest shadow (answerParams shadow []) (env.after 3)] else []

/-- The desired values in a downstream message. -/
def desiredOfResult (message : Mqtt.Message) : Option CString :=
  liteJsonValueOf (literal "Payload.State.Desired") (received message.payload)

/-- The desired values in an answer to a synchronisation. -/
def desiredOfSync (message : Mqtt.Message) : Option CString :=
  liteJsonValueOf (literal "State.Desired") (received message.payload)

/-- The requests that a step appends. -/
def appended (shadow : ShadowClient) : Input → List Request
  | .makeRequest _ _ params env =>
      if HasRoom shadow env then [newRequest shadow params env] else []
  | .result message env =>
      if resultType message = some methodControl then
        answer shadow (desiredOfResult message) (env.after 1)
      else []
  | .sync message env =>
      if syncType message = some methodGetReply then
        answer shadow (desiredOfSync message) (env.after 1)
      else []
  | _ => []

/-! ## The property -/

/-- The callbacks of requests among outputs. -/
def callbacks (outputs : List Output) : List (Request × RequestAck) :=
  outputs.filterMap fun output =>
    match output with
    | .callback request ack _ => some (request, ack)
    | _ => none

/-- The call of a request's callback at its completion. -/
def called (input : Input) (request : Request) : Option (Request × RequestAck) :=
  if request.callback.isSome then (completion input request).map (request, ·) else none

/-- What a step does to the list: it appends at most one new request, takes out
exactly those that it completes and calls back those of them that have a
callback. -/
structure Settles (shadow : ShadowClient) (input : Input) : Prop where
  fresh : ∀ request ∈ appended shadow input, request.issue = shadow.issued + 1
  one : (appended shadow input).length ≤ 1
  counted : (step shadow input).1.issued = shadow.issued + (appended shadow input).length
  room : appended shadow input = [] ∨
    shadow.requestList.length < maxAppendingRequestAtAnyGivenTime
  remaining : (step shadow input).1.requestList = (shadow.requestList ++ appended shadow input).filter
    fun request => (completion input request).isNone
  calledBack : callbacks (step shadow input).2 =
    (shadow.requestList ++ appended shadow input).reverse.filterMap (called input)
  notYet : ∀ request ∈ appended shadow input, called input request = none

variable {shadow : ShadowClient} {jsonDoc : Buffer} {size : Nat} {params : RequestParams} {env : Env}

/-! ## Callbacks -/

theorem callbacks_append (first second : List Output) :
    callbacks (first ++ second) = callbacks first ++ callbacks second :=
  List.filterMap_append

theorem callbacks_callBack (request : Request) (ack : RequestAck) (document : CString) :
    callbacks (callBack request ack document) =
      if request.callback.isSome then [(request, ack)] else [] := by
  unfold callBack
  split
  · rfl
  · rfl

/-- A traversal takes out what its visits complete, and calls it back. -/
theorem traverseList_spec (list : List Request) (malloc : Bool) (ack : Request → Option RequestAck)
    (document : CString) :
    let visit := fun request => (ack request).map fun ack => callBack request ack document
    let completed := fun request => if malloc then ack request else none
    (traverseList list malloc visit).1 = list.filter (fun request => (completed request).isNone) ∧
      callbacks (traverseList list malloc visit).2 = list.reverse.filterMap fun request =>
        if request.callback.isSome then (completed request).map (request, ·) else none := by
  have calls : ∀ list : List Request,
      callbacks (list.flatMap fun request =>
        ((ack request).map fun ack => callBack request ack document).getD []) =
      list.filterMap fun request =>
        if request.callback.isSome then (ack request).map (request, ·) else none := by
    intro list
    induction list with
    | nil => rfl
    | cons request list ih =>
        rw [List.flatMap_cons, callbacks_append, ih, List.filterMap_cons]
        cases ack request with
        | none => cases request.callback <;> rfl
        | some ack =>
            rw [Option.map_some, Option.getD_some, callbacks_callBack]
            cases request.callback <;> rfl
  intro visit completed
  have nothing : malloc = false → list.filter (fun request => (completed request).isNone) = list ∧
      (list.reverse.filterMap fun request =>
        if request.callback.isSome then (completed request).map (request, ·) else none) = [] := by
    rintro rfl
    simp [completed]
  unfold traverseList
  cases malloc with
  | false =>
      rw [Bool.not_false, Bool.or_true, if_pos rfl, (nothing rfl).1, (nothing rfl).2]
      exact ⟨rfl, rfl⟩
  | true =>
      cases list with
      | nil => exact ⟨rfl, rfl⟩
      | cons request list =>
          simp only [List.isEmpty_cons, Bool.not_true, Bool.or_false, Bool.false_eq_true, if_false]
          refine ⟨?_, calls _⟩
          congr 1
          funext request
          cases isDone : ack request <;> simp [visit, completed, isDone]

/-! ## Making a request -/

/-- The requests, the count of them and the last message are kept. -/
structure Keeps (before after : ShadowClient) : Prop where
  requestList : after.requestList = before.requestList
  issued : after.issued = before.issued
  cloudRcvBuf : after.cloudRcvBuf = before.cloudRcvBuf

theorem Keeps.refl (shadow : ShadowClient) : Keeps shadow shadow := ⟨rfl, rfl, rfl⟩

theorem callbacks_mqtt (outputs : List Mqtt.Output) : callbacks (outputs.map .mqtt) = [] := by
  induction outputs with
  | nil => rfl
  | cons output outputs ih => exact ih

theorem publishOperation_keeps (method : Method) (document : CString) :
    let published := uiotShadowPublishOperationToCloud shadow method document env
    Keeps shadow published.2.1 ∧ callbacks published.2.2 = [] := by
  unfold uiotShadowPublishOperationToCloud
  simp only
  split
  · exact ⟨.refl _, rfl⟩
  · exact ⟨⟨rfl, rfl, rfl⟩, callbacks_mqtt _⟩

theorem updateProperty_keeps : Keeps shadow (uiotShadowUpdateProperty shadow params env).2 := by
  unfold uiotShadowUpdateProperty
  repeat' split
  all_goals exact ⟨rfl, rfl, rfl⟩

theorem publishRequest_keeps :
    let outcome := publishRequest shadow jsonDoc size params env
    Keeps shadow outcome.shadow ∧ callbacks outcome.outputs = [] := by
  unfold publishRequest
  simp only
  split
  · exact ⟨.refl _, rfl⟩
  · obtain ⟨kept, quiet⟩ := @publishOperation_keeps shadow env params.method
      (buildDocument shadow.version jsonDoc size params (env.malloc 0)).2.text
    split
    · exact ⟨kept, quiet⟩
    · have updated := @updateProperty_keeps (uiotShadowPublishOperationToCloud shadow params.method
        (buildDocument shadow.version jsonDoc size params (env.malloc 0)).2.text env).2.1 params
        (env.after 1)
      exact ⟨⟨updated.requestList.trans kept.requestList, updated.issued.trans kept.issued,
        updated.cloudRcvBuf.trans kept.cloudRcvBuf⟩, quiet⟩

/-- A call that appends these requests and completes none. -/
structure Appends (shadow : ShadowClient) (requests : List Request)
    (result : ShadowClient × List Output) : Prop where
  list : result.1.requestList = shadow.requestList ++ requests
  counted : result.1.issued = shadow.issued + requests.length
  cloudRcvBuf : result.1.cloudRcvBuf = shadow.cloudRcvBuf
  quiet : callbacks result.2 = []

theorem Appends.nothing (shadow : ShadowClient) : Appends shadow [] (shadow, []) :=
  ⟨(List.append_nil _).symm, rfl, rfl, rfl⟩

theorem makeRequest_appends :
    let made := uiotShadowMakeRequest shadow jsonDoc size params env
    Appends shadow (if HasRoom shadow env then [newRequest shadow params env] else [])
      (made.shadow, made.outputs) := by
  obtain ⟨kept, quiet⟩ := @publishRequest_keeps (shadowAddRequestToList shadow params env).2 jsonDoc
    size params (env.after 2)
  rw [uiotShadowMakeRequest_eq]
  by_cases room : HasRoom shadow env
  · rw [shadowAddRequestToList_room room] at kept quiet ⊢
    rw [if_pos room]
    exact ⟨kept.requestList, kept.issued, kept.cloudRcvBuf, quiet⟩
  · rw [shadowAddRequestToList_full room] at kept quiet ⊢
    rw [if_neg room]
    exact ⟨kept.requestList.trans (List.append_nil _).symm, kept.issued, kept.cloudRcvBuf, quiet⟩

/-! ## Desired values -/

theorem callbacks_deltaLoop (text : CString) (handlers : List PropertyHandler) :
    callbacks (deltaLoop text env handlers).1 = [] := by
  induction handlers with
  | nil => rfl
  | cons handler rest ih =>
      rw [deltaLoop]
      simp only
      split
      · exact ih
      · split
        · exact ih
        · exact ih

theorem handleDelta_appends (text : CString) :
    Appends shadow
      (if env.malloc 0 ∧ env.malloc 1 ∧ (shadow.propertyList = [] ∨ env.malloc 2) ∧
          HasRoom shadow (env.after 3) then
        [newRequest shadow (answerParams shadow []) (env.after 3)] else [])
      (handleDelta shadow text env) := by
  have quiet := @callbacks_deltaLoop env text shadow.propertyList.reverse
  have needsIterator : (!shadow.propertyList.isEmpty && !env.malloc 2) = true ↔
      ¬(shadow.propertyList = [] ∨ env.malloc 2 = true) := by
    cases shadow.propertyList <;> simp
  unfold handleDelta
  by_cases iterator : shadow.propertyList = [] ∨ env.malloc 2 = true
  · rw [if_neg (fun needed => needsIterator.mp needed iterator)]
    by_cases allocated : env.malloc 0 = true ∧ env.malloc 1 = true
    · have made := @makeRequest_appends shadow ⟨[], 0, false⟩ cloudIotJsonRxBufLen
        (answerParams shadow (deltaLoop text env shadow.propertyList.reverse).2) (env.after 3)
      simp only [allocated, iterator, true_and, Bool.and_self, if_true]
      refine ⟨made.list, made.counted, made.cloudRcvBuf, ?_⟩
      rw [callbacks_append, quiet]
      exact made.quiet
    · have notAllocated : ¬(env.malloc 0 && env.malloc 1) = true := by
        rwa [Bool.and_eq_true]
      rw [if_neg (fun all => allocated ⟨all.1, all.2.1⟩)]
      simp only [notAllocated]
      exact ⟨(List.append_nil _).symm, rfl, rfl, quiet⟩
  · rw [if_pos (needsIterator.mpr iterator), if_neg (fun all => iterator all.2.2.1)]
    exact .nothing shadow

theorem handleDesired_appends (desired : Option CString) :
    Appends shadow (answer shadow desired env) (handleDesired shadow desired env) := by
  unfold handleDesired answer
  cases desired with
  | none =>
      rw [if_neg]
      · exact .nothing shadow
      · rintro ⟨⟨text, member, _⟩, _⟩
        cases member
  | some text =>
      by_cases long : 2 < text.length
      · have answers : Answers shadow (some text) env ↔ env.malloc 0 ∧ env.malloc 1 ∧
            (shadow.propertyList = [] ∨ env.malloc 2) ∧ HasRoom shadow (env.after 3) :=
          ⟨fun answers => answers.2, fun rest => ⟨⟨text, rfl, long⟩, rest⟩⟩
        simp only [long, if_true, answers]
        exact handleDelta_appends text
      · have noAnswer : ¬Answers shadow (some text) env := by
          rintro ⟨⟨other, member, isLong⟩, _⟩
          cases member
          exact long isLong
        rw [if_neg noAnswer]
        simp only [long, if_false]
        exact .nothing shadow

/-! ## Steps -/

/-- What a traversal after an append leaves. -/
theorem completeRequests_spec {middle : ShadowClient} {requests : List Request} {outputs : List Output}
    (appends : Appends shadow requests (middle, outputs)) (type : List UInt8) (malloc : Bool) :
    let result := completeRequests middle type malloc
    let completed : Request → Option RequestAck := fun _ =>
      if malloc then some (requestStatus type shadow.cloudRcvBuf) else none
    result.1.issued = shadow.issued + requests.length ∧
      result.1.requestList =
        (shadow.requestList ++ requests).filter (fun request => (completed request).isNone) ∧
      callbacks (outputs ++ result.2) = (shadow.requestList ++ requests).reverse.filterMap
        fun request => if request.callback.isSome then (completed request).map (request, ·) else none := by
  obtain ⟨list, counted, cloudRcvBuf, quiet⟩ := appends
  have traversal := traverseList_spec middle.requestList malloc
    (fun _ => some (requestStatus type middle.cloudRcvBuf)) middle.cloudRcvBuf
  dsimp only at list counted cloudRcvBuf quiet
  rw [list, cloudRcvBuf] at traversal
  intro result completed
  have isResult : result = completeRequests middle type malloc := rfl
  unfold completeRequests at isResult
  rw [isResult, callbacks_append, quiet, list, cloudRcvBuf]
  exact ⟨counted, traversal.1, traversal.2⟩

/-- The client with a message in `cloud_rcv_buf` and its version. -/
def withMessage (shadow : ShadowClient) (message : Mqtt.Message) (version : UInt32) : ShadowClient :=
  { shadow with cloudRcvBuf := received message.payload, version := version }

/-- What a message does that completes requests behind its desired values. -/
def desiredThenComplete (shadow : ShadowClient) (desired : Option CString) (type : List UInt8)
    (env : Env) : ShadowClient × List Output :=
  let answered := handleDesired shadow desired (env.after 1)
  let completed := completeRequests answered.1 type (env.malloc 0)
  (completed.1, answered.2 ++ completed.2)

/-- What a downstream message does. -/
inductive ResultCase (shadow : ShadowClient) (message : Mqtt.Message) (env : Env) :
    ShadowClient × List Output → Prop where
  | ignored (after : ShadowClient) (type : resultType message = none) (keeps : Keeps
      { shadow with cloudRcvBuf := after.cloudRcvBuf } after) : ResultCase shadow message env (after, [])
  | reply (version : UInt32) (type : resultType message = some methodReply) :
      ResultCase shadow message env
        (completeRequests (withMessage shadow message version) methodReply (env.malloc 0))
  | control (version : UInt32) (type : resultType message = some methodControl) :
      ResultCase shadow message env (desiredThenComplete (withMessage shadow message version)
        (desiredOfResult message) methodControl env)

theorem topicRequestResultHandler_case (message : Mqtt.Message) :
    ResultCase shadow message env (topicRequestResultHandler shadow message env) := by
  have other : methodControl ≠ methodReply := by decide
  unfold topicRequestResultHandler
  by_cases noTopic : message.topic = []
  · rw [noTopic]
    exact .ignored _ (if_neg fun both => both.1.1 noTopic) ⟨rfl, rfl, rfl⟩
  have hasTopic : ¬message.topic.isEmpty = true := by rwa [List.isEmpty_iff]
  rw [if_neg hasTopic]
  by_cases tooLong : cloudIotJsonRxBufLen < message.payload.length
  · rw [if_pos tooLong]
    exact .ignored _ (if_neg fun both => Nat.not_le.mpr tooLong both.1.2) ⟨rfl, rfl, rfl⟩
  rw [if_neg tooLong]
  have taken : Taken message := ⟨noTopic, Nat.not_lt.mp tooLong⟩
  dsimp only
  cases method : liteJsonValueOf (literal "Method") (received message.payload) with
  | none =>
      refine .ignored _ ?_ ⟨rfl, rfl, rfl⟩
      rw [resultType, method]
      exact ite_self _
  | some methodStr =>
      dsimp only
      cases version : parseVersionNum (received message.payload) with
      | none => exact .ignored _ (if_neg fun both => by simp [version] at both) ⟨rfl, rfl, rfl⟩
      | some versionNum =>
          have type : resultType message = if methodStr = methodReply then
              (if parseShadowPayloadRetcodeType (received message.payload) = some 0 then
                some methodReply else none)
            else if methodStr = methodControl then some methodControl else none := by
            rw [resultType, method, if_pos ⟨taken, by rw [version]; rfl⟩]
          dsimp only
          by_cases isReply : methodStr = methodReply
          · subst isReply
            rw [if_pos rfl] at type ⊢
            cases code : parseShadowPayloadRetcodeType (received message.payload) with
            | none =>
                rw [code] at type
                exact .ignored _ type ⟨rfl, rfl, rfl⟩
            | some retCode =>
                rw [code] at type
                dsimp only
                by_cases success : retCode = 0
                · subst success
                  exact .reply versionNum type
                · rw [if_pos success]
                  rw [if_neg (fun same => success (Option.some.inj same))] at type
                  exact .ignored _ type ⟨rfl, rfl, rfl⟩
          · rw [if_neg isReply] at type ⊢
            by_cases isControl : methodStr = methodControl
            · subst isControl
              rw [if_pos rfl] at type ⊢
              exact .control versionNum type
            · rw [if_neg isControl] at type ⊢
              exact .ignored _ type ⟨rfl, rfl, rfl⟩

/-- What an answer to a synchronisation does. -/
inductive SyncCase (shadow : ShadowClient) (message : Mqtt.Message) (env : Env) :
    ShadowClient × List Output → Prop where
  | ignored (after : ShadowClient) (type : syncType message = none) (keeps : Keeps
      { shadow with cloudRcvBuf := after.cloudRcvBuf } after) : SyncCase shadow message env (after, [])
  | getReply (version : UInt32) (type : syncType message = some methodGetReply) :
      SyncCase shadow message env (desiredThenComplete (withMessage shadow message version)
        (desiredOfSync message) methodGetReply env)

theorem topicSyncHandler_case (message : Mqtt.Message) :
    SyncCase shadow message env (topicSyncHandler shadow message env) := by
  unfold topicSyncHandler
  by_cases noTopic : message.topic = []
  · rw [noTopic]
    exact .ignored _ (if_neg fun both => both.1.1 noTopic) ⟨rfl, rfl, rfl⟩
  have hasTopic : ¬message.topic.isEmpty = true := by rwa [List.isEmpty_iff]
  rw [if_neg hasTopic]
  by_cases tooLong : cloudIotJsonRxBufLen < message.payload.length
  · rw [if_pos tooLong]
    exact .ignored _ (if_neg fun both => Nat.not_le.mpr tooLong both.1.2) ⟨rfl, rfl, rfl⟩
  rw [if_neg tooLong]
  dsimp only
  cases version : parseVersionNum (received message.payload) with
  | none => exact .ignored _ (if_neg fun both => by simp [version] at both) ⟨rfl, rfl, rfl⟩
  | some versionNum =>
      exact .getReply versionNum
        (if_pos ⟨⟨noTopic, Nat.not_lt.mp tooLong⟩, by rw [version]; rfl⟩)

/-! ## Every step settles -/

theorem newRequest_issue : (newRequest shadow params env).issue = shadow.issued + 1 := rfl

theorem answer_spec (desired : Option CString) :
    (∀ request ∈ answer shadow desired env, request.issue = shadow.issued + 1) ∧
      (answer shadow desired env).length ≤ 1 ∧
      (answer shadow desired env = [] ∨
        shadow.requestList.length < maxAppendingRequestAtAnyGivenTime) ∧
      ∀ request ∈ answer shadow desired env, request.callback = none := by
  unfold answer
  split
  · rename_i answers
    refine ⟨fun request member => ?_, Nat.le_refl _, .inr answers.2.2.2.2.1, fun request member => ?_⟩
    · rw [List.mem_singleton.mp member, newRequest_issue]
    · rw [List.mem_singleton.mp member]
      rfl
  · exact ⟨fun _ member => (by cases member), Nat.zero_le _, .inl rfl,
      fun _ member => (by cases member)⟩

/-- A step that completes no request. -/
theorem settles_of_append {input : Input}
    (list : (step shadow input).1.requestList = shadow.requestList ++ appended shadow input)
    (counted : (step shadow input).1.issued = shadow.issued + (appended shadow input).length)
    (quiet : callbacks (step shadow input).2 = [])
    (fresh : ∀ request ∈ appended shadow input, request.issue = shadow.issued + 1)
    (one : (appended shadow input).length ≤ 1)
    (room : appended shadow input = [] ∨
      shadow.requestList.length < maxAppendingRequestAtAnyGivenTime)
    (completesNone : ∀ request, completion input request = none) : Settles shadow input := by
  have notCalled : ∀ request, called input request = none := by
    intro request
    rw [called, completesNone, Option.map_none]
    exact ite_self _
  refine ⟨fresh, one, counted, room, ?_, ?_, fun request _ => notCalled request⟩
  · simp only [completesNone, Option.isNone_none, List.filter_true]
    exact list
  · rw [quiet]
    exact (List.filterMap_eq_nil_iff.mpr fun request _ => notCalled request).symm

/-- A step that leaves the list alone. -/
theorem settles_of_keep {input : Input} (list : (step shadow input).1.requestList = shadow.requestList)
    (issued : (step shadow input).1.issued = shadow.issued) (quiet : (step shadow input).2 = [])
    (appendsNone : appended shadow input = [])
    (completesNone : ∀ request, completion input request = none) : Settles shadow input := by
  refine settles_of_append ?_ ?_ ?_ ?_ ?_ (.inl appendsNone) completesNone
  · rw [list, appendsNone, List.append_nil]
  · rw [issued, appendsNone]
    rfl
  · rw [quiet]
    rfl
  · rw [appendsNone]
    exact fun _ member => by cases member
  · rw [appendsNone]
    exact Nat.zero_le _

/-- A step that hands the list to a traversal behind its append. -/
theorem settles_of_complete {input : Input} (base : ShadowClient) (desired : Option CString)
    {type : List UInt8} (list : base.requestList = shadow.requestList)
    (issued : base.issued = shadow.issued)
    (answers : appended shadow input = answer base desired (env.after 1))
    (completes : ∀ request, completion input request =
      if env.malloc 0 then some (requestStatus type base.cloudRcvBuf) else none)
    (isStep : step shadow input = desiredThenComplete base desired type env) :
    Settles shadow input := by
  obtain ⟨fresh, one, room, noCallback⟩ := @answer_spec base (env.after 1) desired
  rw [issued, ← answers] at fresh
  rw [← answers] at one room noCallback
  rw [list] at room
  have appends := @handleDesired_appends base (env.after 1) desired
  rw [← answers] at appends
  obtain ⟨counted, remaining, calledBack⟩ :=
    completeRequests_spec appends type (env.malloc 0)
  rw [list] at remaining calledBack
  rw [issued] at counted
  refine ⟨fresh, one, ?_, room, ?_, ?_, fun request member => ?_⟩
  · rw [isStep]
    exact counted
  · rw [isStep]
    simp only [completes]
    exact remaining
  · have calls : called input = fun request => if request.callback.isSome then
        (if env.malloc 0 then some (requestStatus type base.cloudRcvBuf) else none).map (request, ·)
        else none := by
      funext request
      rw [called, completes]
    rw [isStep, calls]
    exact calledBack
  · rw [called, noCallback request member]
    rfl

theorem step_settles (shadow : ShadowClient) (input : Input) : Settles shadow input := by
  cases input with
  | makeRequest jsonDoc size params env =>
      have made := @makeRequest_appends shadow jsonDoc size params env
      refine settles_of_append made.list made.counted made.quiet ?_ ?_ ?_ (fun _ => rfl)
      · intro request member
        rw [appended] at member
        split at member
        · rw [List.mem_singleton.mp member, newRequest_issue]
        · cases member
      · rw [appended]
        split <;> simp
      · rw [appended]
        split
        · rename_i room
          exact .inr room.1
        · exact .inl rfl
  | register propertyList => exact settles_of_keep rfl rfl rfl rfl fun _ => rfl
  | mqtt client => exact settles_of_keep rfl rfl rfl rfl fun _ => rfl
  | expire now malloc =>
      have none : appended shadow (.expire now malloc) = [] := rfl
      have visit : handleExpiredRequestCallback now shadow.cloudRcvBuf = fun request =>
          (if hasExpired request.timer (now request) then some .timeout else Option.none).map
            fun ack => callBack request ack shadow.cloudRcvBuf := by
        funext request
        unfold handleExpiredRequestCallback
        split
        · rfl
        · rfl
      obtain ⟨remaining, calledBack⟩ := traverseList_spec shadow.requestList malloc
        (fun request => if hasExpired request.timer (now request) then some .timeout else Option.none)
        shadow.cloudRcvBuf
      rw [← visit] at remaining calledBack
      have completes : ∀ request, completion (.expire now malloc) request = if malloc then
          (if hasExpired request.timer (now request) then some .timeout else Option.none)
          else Option.none := by
        intro request
        cases malloc
        · simp [completion]
        · simp [completion]
      have calls : called (.expire now malloc) = fun request => if request.callback.isSome then
          (if malloc then (if hasExpired request.timer (now request) then some RequestAck.timeout
            else Option.none) else Option.none).map (request, ·) else Option.none := by
        funext request
        rw [called, completes]
      refine ⟨?_, ?_, rfl, .inl none, ?_, ?_, ?_⟩
      · rw [none]
        exact fun _ member => by cases member
      · rw [none]
        exact Nat.zero_le _
      · simp only [completes, none, List.append_nil]
        exact remaining
      · rw [calls, none, List.append_nil]
        exact calledBack
      · rw [none]
        exact fun _ member => by cases member
  | result message env =>
      have handled := @topicRequestResultHandler_case shadow env message
      generalize isStep : topicRequestResultHandler shadow message env = result at handled
      cases handled with
      | ignored after type keeps =>
          refine settles_of_keep ?_ ?_ ?_ ?_ ?_
          · rw [step, isStep]
            exact keeps.requestList
          · rw [step, isStep]
            exact keeps.issued
          · rw [step, isStep]
          · rw [appended, type]
            exact if_neg (by decide)
          · intro request
            rw [completion, type, Option.map_none]
            exact ite_self _
      | reply version type =>
          refine settles_of_complete (withMessage shadow message version) none rfl rfl ?_ ?_ isStep
          · have notControl : some methodReply ≠ some methodControl := by decide
            rw [appended, type, if_neg notControl, answer, if_neg]
            rintro ⟨⟨text, member, _⟩, _⟩
            cases member
          · intro request
            rw [completion, type]
            rfl
      | control version type =>
          refine settles_of_complete (withMessage shadow message version) _ rfl rfl ?_ ?_ isStep
          · rw [appended, type, if_pos rfl]
            rfl
          · intro request
            rw [completion, type]
            rfl
  | sync message env =>
      have handled := @topicSyncHandler_case shadow env message
      generalize isStep : topicSyncHandler shadow message env = result at handled
      cases handled with
      | ignored after type keeps =>
          refine settles_of_keep ?_ ?_ ?_ ?_ ?_
          · rw [step, isStep]
            exact keeps.requestList
          · rw [step, isStep]
            exact keeps.issued
          · rw [step, isStep]
          · rw [appended, type]
            exact if_neg (by decide)
          · intro request
            rw [completion, type, Option.map_none]
            exact ite_self _
      | getReply version type =>
          refine settles_of_complete (withMessage shadow message version) _ rfl rfl ?_ ?_ isStep
          · rw [appended, type, if_pos rfl]
            rfl
          · intro request
            rw [completion, type]
            rfl

/-! ## Runs -/

/-- The numbers of the requests in the list. -/
def issues (shadow : ShadowClient) : List Nat := shadow.requestList.map Request.issue

/-- The list is short, and its requests have different numbers, none of them
still to come. -/
structure Numbered (shadow : ShadowClient) : Prop where
  bounded : shadow.requestList.length ≤ maxAppendingRequestAtAnyGivenTime
  distinct : (issues shadow).Nodup
  known : ∀ issue ∈ issues shadow, issue ≤ shadow.issued

variable {input : Input}

theorem appended_nodup (shadow : ShadowClient) (input : Input) :
    ((appended shadow input).map Request.issue).Nodup := by
  have one := (step_settles shadow input).one
  match appended shadow input, one with
  | [], _ => exact List.nodup_nil
  | [_], _ => exact List.nodup_singleton _

/-- With what the step appends the requests still have different numbers. -/
theorem Numbered.with_appended (numbered : Numbered shadow) (input : Input) :
    ((shadow.requestList ++ appended shadow input).map Request.issue).Nodup := by
  have settles := step_settles shadow input
  rw [List.map_append]
  refine List.nodup_append.mpr ⟨numbered.distinct, appended_nodup shadow input, ?_⟩
  rintro issue old new isNew rfl
  obtain ⟨request, member, rfl⟩ := List.mem_map.mp isNew
  have known := numbered.known _ old
  rw [settles.fresh request member] at known
  omega

theorem Numbered.step (numbered : Numbered shadow) (input : Input) :
    Numbered (step shadow input).1 := by
  have settles := step_settles shadow input
  have kept : ((Shadow.step shadow input).1.requestList).Sublist
      (shadow.requestList ++ appended shadow input) := by
    rw [settles.remaining]
    exact List.filter_sublist
  refine ⟨?_, (numbered.with_appended input).sublist (kept.map _), ?_⟩
  · have length := kept.length_le
    rw [List.length_append] at length
    have bounded := numbered.bounded
    have one := settles.one
    rcases settles.room with none | room
    · rw [none, List.length_nil] at length
      omega
    · omega
  · intro issue member
    obtain ⟨request, inList, rfl⟩ := List.mem_map.mp member
    rw [settles.counted]
    rcases List.mem_append.mp (kept.subset inList) with old | new
    · have known := numbered.known _ (List.mem_map_of_mem old)
      omega
    · rw [settles.fresh request new]
      have some := List.length_pos_of_mem new
      omega

/-- The numbers of the requests that a step calls back. -/
def calledIssues (shadow : ShadowClient) (input : Input) : List Nat :=
  (callbacks (step shadow input).2).map fun call => call.1.issue

theorem called_some {request : Request} {call : Request × RequestAck}
    (isCalled : called input request = some call) :
    call.1 = request ∧ (completion input request).isSome := by
  unfold called at isCalled
  split at isCalled
  · obtain ⟨ack, completes, rfl⟩ := Option.map_eq_some_iff.mp isCalled
    exact ⟨rfl, by rw [completes]; rfl⟩
  · cases isCalled

/-- The calls are some of the requests, in their order. -/
theorem called_sublist (list : List Request) :
    ((list.filterMap (called input)).map fun call => call.1.issue).Sublist
      (list.map Request.issue) := by
  induction list with
  | nil => exact .slnil
  | cons request list ih =>
      rw [List.filterMap_cons, List.map_cons]
      cases calls : called input request with
      | none => exact ih.cons _
      | some call =>
          dsimp only
          rw [List.map_cons, (called_some calls).1]
          exact ih.cons_cons _

/-- A step calls back requests that were in its list, and takes them out. -/
theorem Numbered.calledIssues_fresh (numbered : Numbered shadow) :
    Fresh issues calledIssues (fun shadow issue => issue ≤ shadow.issued) shadow input
      (Shadow.step shadow input).1 := by
  have settles := step_settles shadow input
  have distinct := numbered.with_appended input
  have isCalled : ∀ issue ∈ calledIssues shadow input, ∃ request ∈ shadow.requestList,
      request.issue = issue ∧ (completion input request).isSome := by
    intro issue member
    rw [calledIssues, settles.calledBack] at member
    obtain ⟨call, isCall, rfl⟩ := List.mem_map.mp member
    obtain ⟨request, inList, calls⟩ := List.mem_filterMap.mp isCall
    obtain ⟨same, completes⟩ := called_some calls
    rcases List.mem_append.mp (List.mem_reverse.mp inList) with old | new
    · exact ⟨request, old, by rw [same], completes⟩
    · rw [settles.notYet request new] at calls
      cases calls
  refine ⟨?_, ?_, ?_, numbered.known, ?_, ?_⟩
  · intro issue member
    obtain ⟨request, inList, rfl, _⟩ := isCalled issue member
    exact List.mem_map_of_mem inList
  · rw [calledIssues, settles.calledBack]
    refine List.Nodup.sublist (called_sublist _) ?_
    rw [List.map_reverse]
    exact List.nodup_reverse.mpr distinct
  · intro issue member stays
    obtain ⟨request, inList, rfl, completes⟩ := isCalled issue member
    rw [issues, settles.remaining] at stays
    obtain ⟨other, isOther, same⟩ := List.mem_map.mp stays
    obtain ⟨otherInList, notCompleted⟩ := List.mem_filter.mp isOther
    have equal := List.inj_on_of_nodup_map distinct otherInList
      (List.mem_append_left _ inList) same
    rw [equal, Option.isNone_iff_eq_none] at notCompleted
    rw [notCompleted] at completes
    cases completes
  · intro issue known
    rw [settles.counted]
    omega
  · intro issue member known
    rw [issues, settles.remaining] at member
    obtain ⟨request, isRequest, rfl⟩ := List.mem_map.mp member
    rcases List.mem_append.mp (List.mem_filter.mp isRequest).1 with old | new
    · exact List.mem_map_of_mem old
    · have fresh := settles.fresh request new
      omega

theorem numbered_init (mqtt : Mqtt.Client) (productSn deviceSn : CString) :
    Numbered (uiotShadowInit mqtt productSn deviceSn) :=
  ⟨Nat.zero_le _, List.nodup_nil, fun _ member => by cases member⟩

/-- The number of a request that is appended is the next one. -/
theorem appended_fresh (shadow : ShadowClient) (input : Input) :
    Fresh (fun shadow => [shadow.issued + 1])
      (fun shadow input => (appended shadow input).map Request.issue)
      (fun shadow issue => issue ≤ shadow.issued + 1) shadow input (step shadow input).1 := by
  have settles := step_settles shadow input
  have isNext : ∀ issue ∈ (appended shadow input).map Request.issue, issue = shadow.issued + 1 := by
    intro issue member
    obtain ⟨request, isRequest, rfl⟩ := List.mem_map.mp member
    exact settles.fresh request isRequest
  refine ⟨?_, appended_nodup shadow input, ?_, ?_, ?_, ?_⟩
  · intro issue member
    rw [isNext issue member]
    exact List.mem_singleton_self _
  · intro issue member later
    have some := List.length_pos_of_mem member
    rw [List.length_map] at some
    rw [isNext issue member, settles.counted, List.mem_singleton] at later
    omega
  · intro issue member
    exact Nat.le_of_eq (List.mem_singleton.mp member)
  · intro issue known
    rw [settles.counted]
    omega
  · intro issue member known
    rw [settles.counted, List.mem_singleton] at member
    rw [List.mem_singleton]
    omega

/-- In every run of a shadow client each step settles the list: what it
completes, and nothing else, leaves the list and is called back. The list is
never longer than it may be, each request that is appended has a number of its
own, and no number is called back twice. -/
theorem callbacks_once (mqtt : Mqtt.Client) (productSn deviceSn : CString) (inputs : List Input) :
    let start := uiotShadowInit mqtt productSn deviceSn
    Along step (fun shadow input => Settles shadow input ∧
      shadow.requestList.length ≤ maxAppendingRequestAtAnyGivenTime) start inputs ∧
    (run step start inputs).1.requestList.length ≤ maxAppendingRequestAtAnyGivenTime ∧
    (logOf step (fun shadow input => (appended shadow input).map Request.issue) start inputs).Nodup ∧
    (logOf step calledIssues start inputs).Nodup := by
  intro start
  obtain ⟨along, last⟩ := (along_true step start inputs).invariant Numbered
    (numbered_init mqtt productSn deviceSn) fun shadow input numbered _ => numbered.step input
  refine ⟨along.mono ?_, last.bounded, ?_, ?_⟩
  · exact fun shadow input both => ⟨step_settles shadow input, both.1.bounded⟩
  · exact (logOf_nodup ((along_true step start inputs).mono
      fun shadow input _ => appended_fresh shadow input)).1
  · exact (logOf_nodup (along.mono fun shadow input both => both.1.calledIssues_fresh)).1

end UIoT.Shadow
