import UIoT.Shadow.Completion

/-!
# Replies that reject

`_handle_request_callback` has a branch for a code other than zero, but
`topic_request_result_handler` leaves in front of the traversal when a reply
carries such a code. So no reply rejects a request: the request stays in the
list, and its callback hears of a timeout when its timer has run out
(`reply_never_rejects`).
-/

set_option autoImplicit false

namespace UIoT.Shadow

open Utils
open Runs

/-- A reply with a version and with a code other than zero. -/
structure RejectingReply (message : Mqtt.Message) : Prop where
  method : liteJsonValueOf (literal "Method") (received message.payload) = some methodReply
  version : (parseVersionNum (received message.payload)).isSome
  code : ∃ retCode, parseShadowPayloadRetcodeType (received message.payload) = some retCode ∧
    retCode ≠ 0

/-- A message rejects a request: its callback, if it has one, hears of it, and the
request leaves the list. -/
structure Rejected (request : Request) (message : Mqtt.Message)
    (result : ShadowClient × List Output) : Prop where
  called : request.callback.isSome →
    Output.callback request .rejected (received message.payload) ∈ result.2
  leaves : request ∉ result.1.requestList

variable {shadow : ShadowClient} {message : Mqtt.Message} {env : Env}

/-- A reply that rejects does nothing to the requests. -/
theorem topicRequestResultHandler_rejecting (rejecting : RejectingReply message) :
    (topicRequestResultHandler shadow message env).1.requestList = shadow.requestList ∧
      (topicRequestResultHandler shadow message env).2 = [] := by
  obtain ⟨method, version, retCode, code, failed⟩ := rejecting
  obtain ⟨versionNum, isVersion⟩ := Option.isSome_iff_exists.mp version
  unfold topicRequestResultHandler
  split
  · exact ⟨rfl, rfl⟩
  split
  · exact ⟨rfl, rfl⟩
  · simp only [method, isVersion, code, if_true, if_pos failed]
    exact ⟨trivial, trivial⟩

/-- A request that is still in the list when its timer has run out is reported as
timed out. -/
theorem handleExpiredRequest_calls {request : Request} (pending : request ∈ shadow.requestList)
    (hasCallback : request.callback.isSome) {now : Request → UInt32}
    (expired : hasExpired request.timer (now request) = true) :
    Output.callback request .timeout shadow.cloudRcvBuf ∈
      (handleExpiredRequest shadow now true).2 := by
  have nonempty : shadow.requestList.isEmpty = false :=
    List.isEmpty_eq_false_iff.mpr (List.ne_nil_of_mem pending)
  simp only [handleExpiredRequest, traverseList, nonempty, Bool.not_true, Bool.or_false,
    Bool.false_eq_true, if_false]
  apply List.mem_flatMap.mpr
  refine ⟨request, List.mem_reverse.mpr pending, ?_⟩
  rw [handleExpiredRequestCallback, if_pos expired, Option.getD_some, callBack, if_pos hasCallback]
  exact List.mem_singleton_self _

/-- Whatever the state, a reply with a code other than zero rejects no request that
is pending: the request stays, nothing is called back, and a sweep behind its
timeout reports it as timed out. -/
theorem reply_never_rejects (shadow : ShadowClient) (message : Mqtt.Message) (env : Env)
    (rejecting : RejectingReply message) (request : Request)
    (pending : request ∈ shadow.requestList) :
    let result := topicRequestResultHandler shadow message env
    ¬Rejected request message result ∧ request ∈ result.1.requestList ∧ callbacks result.2 = [] ∧
      ∀ now : Request → UInt32, request.callback.isSome →
        hasExpired request.timer (now request) = true →
        Output.callback request .timeout result.1.cloudRcvBuf ∈
          (handleExpiredRequest result.1 now true).2 := by
  intro result
  obtain ⟨sameList, silent⟩ := @topicRequestResultHandler_rejecting shadow message env rejecting
  have stays : request ∈ result.1.requestList := sameList ▸ pending
  refine ⟨fun rejected => rejected.leaves stays, stays, ?_, ?_⟩
  · rw [silent]
    rfl
  · intro now hasCallback expired
    exact handleExpiredRequest_calls stays hasCallback expired

/-- A world in which nothing fails. -/
def calmEnv : Env :=
  { tick := fun _ => 0
    rtTickFromMillisecond := id
    malloc := fun _ => true
    publish := ⟨fun _ => 0, id, fun _ => true, fun _ => [], [], 0, .qos0⟩
    answer := fun _ _ => [] }

/-- A client with an update that is pending for one second. -/
def updatingClient : ShadowClient :=
  (step (uiotShadowInit (Mqtt.uiotMqttInit ⟨1000, false⟩) (literal "p") (literal "d"))
    (.makeRequest ⟨[], 0, false⟩ 256 ⟨.update, [⟨literal "k", some (.uint8 1)⟩], 1, some 1, 0⟩
      calmEnv)).1

/-- The reply that rejects it. -/
def rejection : Mqtt.Message :=
  ⟨1, 0, 0, some 1, literal "t",
    literal "\x7b\"Method\":\"reply\",\"Payload\":\x7b\"RetCode\":5\x7d,\"Version\":1\x7d"⟩

theorem reply_never_rejects_update :
    let request : Request := ⟨1, .update, 0, ⟨1000⟩, some 1⟩
    let result := topicRequestResultHandler updatingClient rejection calmEnv
    ¬Rejected request rejection result ∧ request ∈ result.1.requestList ∧ callbacks result.2 = [] ∧
      ∀ now : Request → UInt32, request.callback.isSome →
        hasExpired request.timer (now request) = true →
        Output.callback request .timeout result.1.cloudRcvBuf ∈
          (handleExpiredRequest result.1 now true).2 :=
  reply_never_rejects updatingClient rejection calmEnv
    ⟨by decide +kernel, by decide +kernel, 5, by decide +kernel, by decide⟩ ⟨1, .update, 0, ⟨1000⟩, some 1⟩
    (by decide +kernel)

/-- The update is rejected by the cloud and reported as timed out. -/
theorem rejected_update_times_out :
    let result := step updatingClient (.result rejection calmEnv)
    ¬(∀ request ∈ updatingClient.requestList, Rejected request rejection result) ∧
      result.2 = [] ∧
      (callbacks (step result.1 (.expire (fun _ => 5000) true)).2).map
        (fun call => (call.1.method, call.2)) = [(.update, .timeout)] := by
  intro result
  have stays : ⟨1, .update, 0, ⟨1000⟩, some 1⟩ ∈ updatingClient.requestList ∧
      ⟨1, .update, 0, ⟨1000⟩, some 1⟩ ∈ result.1.requestList := by decide +kernel
  refine ⟨fun all => ?_, by decide +kernel, by decide +kernel⟩
  exact (all _ stays.1).leaves stays.2

end UIoT.Shadow
