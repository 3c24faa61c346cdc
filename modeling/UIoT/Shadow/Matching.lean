import UIoT.Shadow.Completion

/-!
# Answers and the requests they complete

A message of the cloud names no request: it completes every request of the
list. So it completes the one it answers, and no other, exactly when the list
holds no other (`matched_iff`): the list with the answer to the message's own
desired values has at most one request, and that is one of the kind that the
message answers.
-/

set_option autoImplicit false

namespace UIoT.Shadow

open Utils
open Mqtt (CString)
open Runs

/-! ## The property -/

/-- The input is a successful answer to requests of a method: a `get_reply` for
`GET`, a `reply` with the code of success for the others. -/
def AnswersMethod : Input → Method → Prop
  | .result message _, method => resultType message = some methodReply ∧ method ≠ .get
  | .sync message _, method => syncType message = some methodGetReply ∧ method = .get
  | _, _ => False

/-- The input is a message of the cloud. -/
def IsMessage : Input → Prop
  | .result _ _ => True
  | .sync _ _ => True
  | _ => False

/-- The input is a `control` push. -/
def IsControl : Input → Prop
  | .result message _ => resultType message = some methodControl
  | _ => False

/-- The application made the request: it is not an answer to desired values. -/
def IsUser (request : Request) : Prop :=
  request.method ≠ .replyControlUpdate ∧ request.method ≠ .replyControlDelete

/-- The requests in the list with those that the step appends. -/
def pending (shadow : ShadowClient) (input : Input) : List Request :=
  shadow.requestList ++ appended shadow input

/-- The requests that a step completes: they leave the list
(`Settles.remaining`). -/
def completed (shadow : ShadowClient) (input : Input) : List Request :=
  (pending shadow input).filter fun request => (completion input request).isSome

/-- A callback hears of acceptance from an answer to its kind of request, a push
completes no request of the application, and a message completes at most one
request. -/
structure Matched (shadow : ShadowClient) (input : Input) : Prop where
  answered : ∀ call ∈ callbacks (step shadow input).2, call.2 = .accepted →
    AnswersMethod input call.1.method
  notByControl : IsControl input → ∀ request ∈ completed shadow input, ¬IsUser request
  single : IsMessage input → (completed shadow input).length ≤ 1

/-! ## The condition -/

/-- The list is empty, or it holds one request, which `suits`, and the message's
desired values are not answered with another. -/
def Alone (shadow : ShadowClient) (desired : Option CString) (env : Env) (suits : Request → Prop) :
    Prop :=
  shadow.requestList = [] ∨
    ((∃ request, shadow.requestList = [request] ∧ suits request) ∧ ¬Answers shadow desired env)

/-- The request hears nothing, or a reply answers it. -/
def SuitsReply (request : Request) : Prop := request.callback = none ∨ request.method ≠ .get

/-- The request hears nothing, or a `get_reply` answers it. -/
def SuitsGetReply (request : Request) : Prop := request.callback = none ∨ request.method = .get

/-- The request is none of the application, and does not hear of acceptance. -/
def SuitsControl (message : Mqtt.Message) (request : Request) : Prop :=
  ¬IsUser request ∧ (request.callback = none ∨
    requestStatus methodControl (received message.payload) ≠ .accepted)

/-- A message that completes requests meets no request but one that suits it. -/
def MeetsItsRequest (shadow : ShadowClient) : Input → Prop
  | .result message env => env.malloc 0 →
      (resultType message = some methodReply → Alone shadow none (env.after 1) SuitsReply) ∧
      (resultType message = some methodControl →
        Alone shadow (desiredOfResult message) (env.after 1) (SuitsControl message))
  | .sync message env => env.malloc 0 → syncType message = some methodGetReply →
      Alone shadow (desiredOfSync message) (env.after 1) SuitsGetReply
  | _ => True

/-! ## One step -/

variable {shadow : ShadowClient} {input : Input} {env : Env}

/-- A step that completes nothing matches. -/
theorem matched_of_none (completesNone : ∀ request, completion input request = none) :
    Matched shadow input := by
  have noCall : callbacks (step shadow input).2 = [] := by
    rw [(step_settles shadow input).calledBack]
    refine List.filterMap_eq_nil_iff.mpr fun request _ => ?_
    rw [called, completesNone]
    exact ite_self _
  have nothing : completed shadow input = [] := by
    refine List.filter_eq_nil_iff.mpr fun request _ => ?_
    rw [completesNone]
    exact Bool.false_ne_true
  refine ⟨fun call member => ?_, fun _ request member => ?_, fun _ => ?_⟩
  · rw [noCall] at member
    cases member
  · rw [nothing] at member
    cases member
  · rw [nothing]
    exact Nat.zero_le _

/-- A step that completes whatever is pending. -/
theorem matched_of_all {status : RequestAck} (isMessage : IsMessage input)
    (completes : ∀ request, completion input request = some status) :
    Matched shadow input ↔ (pending shadow input).length ≤ 1 ∧
      ∀ request ∈ pending shadow input,
        (request.callback.isSome → status = .accepted → AnswersMethod input request.method) ∧
        (IsControl input → ¬IsUser request) := by
  have all : completed shadow input = pending shadow input := by
    refine List.filter_eq_self.mpr fun request _ => ?_
    rw [completes]
    rfl
  have calls : ∀ call, call ∈ callbacks (step shadow input).2 ↔
      ∃ request ∈ pending shadow input, request.callback.isSome ∧ (request, status) = call := by
    intro call
    rw [(step_settles shadow input).calledBack, List.mem_filterMap]
    simp only [List.mem_reverse, called, completes, Option.map_some, Option.ite_none_right_eq_some,
      Option.some.injEq]
    exact Iff.rfl
  constructor
  · intro matched
    refine ⟨all ▸ matched.single isMessage, fun request member => ⟨fun some accepted => ?_, ?_⟩⟩
    · exact matched.answered _ ((calls _).mpr ⟨request, member, some, rfl⟩) accepted
    · exact fun isControl => matched.notByControl isControl request (all.symm ▸ member)
  · rintro ⟨single, each⟩
    refine ⟨fun call member accepted => ?_, fun isControl request member => ?_, fun _ => all ▸ single⟩
    · obtain ⟨request, inList, some, rfl⟩ := (calls call).mp member
      exact (each request inList).1 some accepted
    · exact (each request (all ▸ member)).2 isControl

/-- The answer to desired values has no callback and is not the application's. -/
theorem answer_internal {desired : Option CString} {request : Request}
    (member : request ∈ answer shadow desired env) :
    request.callback = none ∧ ¬IsUser request := by
  unfold answer at member
  split at member
  · rw [List.mem_singleton.mp member]
    refine ⟨rfl, fun isUser => ?_⟩
    have method : (newRequest shadow (answerParams shadow []) (env.after 3)).method =
        answerMethod shadow.cloudSendMethod := rfl
    rw [IsUser, method] at isUser
    cases sent : shadow.cloudSendMethod with
    | get => exact isUser.1 (by rw [sent]; rfl)
    | update => exact isUser.1 (by rw [sent]; rfl)
    | updateAndResetVer => exact isUser.1 (by rw [sent]; rfl)
    | replyControlUpdate => exact isUser.1 (by rw [sent]; rfl)
    | delete => exact isUser.2 (by rw [sent]; rfl)
    | deleteAll => exact isUser.2 (by rw [sent]; rfl)
    | replyControlDelete => exact isUser.2 (by rw [sent]; rfl)
  · cases member

/-- What is pending is one request that suits, when it comes from a list and an
answer that suits. -/
theorem alone_iff {desired : Option CString} {each suits : Request → Prop}
    (same : ∀ request, each request ↔ suits request)
    (isPending : pending shadow input = shadow.requestList ++ answer shadow desired env)
    (answerSuits : ∀ request ∈ answer shadow desired env, suits request) :
    ((pending shadow input).length ≤ 1 ∧ ∀ request ∈ pending shadow input, each request) ↔
      Alone shadow desired env suits := by
  simp only [same]
  have length : (answer shadow desired env).length = if Answers shadow desired env then 1 else 0 := by
    unfold answer
    split
    · rfl
    · rfl
  have noAnswer : ¬Answers shadow desired env → answer shadow desired env = [] := fun none =>
    if_neg none
  rw [isPending, Alone]
  cases list : shadow.requestList with
  | nil =>
      simp only [List.nil_append, true_or, iff_true]
      refine ⟨?_, answerSuits⟩
      rw [length]
      split
      · exact Nat.le_refl _
      · exact Nat.zero_le _
  | cons request rest =>
      constructor
      · rintro ⟨single, each⟩
        rw [List.length_append, List.length_cons, length] at single
        refine .inr ⟨⟨request, ?_, each request (List.mem_append_left _ List.mem_cons_self)⟩,
          fun answers => ?_⟩
        · rw [List.length_eq_zero_iff.mp (by omega : rest.length = 0)]
        · rw [if_pos answers] at single
          omega
      · rintro (empty | ⟨⟨only, isOnly, suitsOnly⟩, none⟩)
        · cases empty
        · rw [isOnly, noAnswer none, List.append_nil]
          refine ⟨Nat.le_refl _, fun other member => ?_⟩
          rw [List.mem_singleton.mp member]
          exact suitsOnly

/-- A downstream message that completes requests is a reply with the code of
success or a push. -/
theorem resultType_some {message : Mqtt.Message} {type : List UInt8}
    (isType : resultType message = some type) :
    (type = methodReply ∧ parseShadowPayloadRetcodeType (received message.payload) = some 0) ∨
      type = methodControl := by
  unfold resultType at isType
  split at isType
  · split at isType
    · cases isType
    · split at isType
      · split at isType
        · cases isType
          exact .inl ⟨rfl, by assumption⟩
        · cases isType
      · split at isType
        · cases isType
          exact .inr rfl
        · cases isType
  · cases isType

theorem requestStatus_reply {document : CString}
    (success : parseShadowPayloadRetcodeType document = some 0) :
    requestStatus methodReply document = .accepted := by
  have other : methodReply ≠ methodGetReply := by decide
  rw [requestStatus, if_neg other, if_pos (.inl rfl), success]
  rfl

theorem requestStatus_getReply (document : CString) :
    requestStatus methodGetReply document = .accepted := if_pos rfl

/-- What a request must be for an acceptance that answers it. -/
theorem suits_iff {request : Request} {P : Prop} :
    (request.callback.isSome → RequestAck.accepted = .accepted → P) ↔
      request.callback = none ∨ P := by
  cases request.callback with
  | none => simp
  | some callback => simp

theorem matched_result (message : Mqtt.Message) :
    Matched shadow (.result message env) ↔ MeetsItsRequest shadow (.result message env) := by
  have isMessage : IsMessage (.result message env) := trivial
  cases malloc : env.malloc 0 with
  | false =>
      refine iff_of_true (matched_of_none fun request => ?_) fun allocated => ?_
      · simp [completion, malloc]
      · rw [malloc] at allocated
        cases allocated
  | true =>
      have completes : ∀ request, completion (.result message env) request =
          (resultType message).map fun type => requestStatus type (received message.payload) := by
        intro request
        rw [completion, if_pos malloc]
      cases type : resultType message with
      | none =>
          refine iff_of_true (matched_of_none fun request => ?_) fun _ => ⟨?_, ?_⟩
          · rw [completes, type, Option.map_none]
          · rw [type]
            exact fun other => by cases other
          · rw [type]
            exact fun other => by cases other
      | some methodStr =>
          rw [type, Option.map_some] at completes
          have different : methodControl ≠ methodReply := by decide
          rcases resultType_some type with ⟨rfl, success⟩ | rfl
          · rw [requestStatus_reply success] at completes
            have notControl : ¬IsControl (.result message env) := fun isControl => by
              rw [IsControl, type] at isControl
              exact different (Option.some.inj isControl).symm
            have isPending : pending shadow (.result message env) =
                shadow.requestList ++ answer shadow none (env.after 1) := by
              rw [pending, appended, type, if_neg (fun same => different (Option.some.inj same).symm),
                answer, if_neg]
              rintro ⟨⟨text, member, _⟩, _⟩
              cases member
            have suits : ∀ request : Request,
                ((request.callback.isSome → RequestAck.accepted = .accepted →
                    AnswersMethod (.result message env) request.method) ∧
                  (IsControl (.result message env) → ¬IsUser request)) ↔ SuitsReply request := by
              intro request
              rw [suits_iff, SuitsReply, AnswersMethod]
              simp only [type, notControl, false_implies, and_true, true_and]
            rw [matched_of_all isMessage completes, alone_iff suits isPending fun request member =>
              .inl (answer_internal member).1, MeetsItsRequest]
            simp only [malloc, type, true_implies, Option.some.injEq, different.symm, false_implies,
              and_true]
          · have isPending : pending shadow (.result message env) =
                shadow.requestList ++ answer shadow (desiredOfResult message) (env.after 1) := by
              rw [pending, appended, type, if_pos rfl]
            have suits : ∀ request : Request,
                ((request.callback.isSome →
                    requestStatus methodControl (received message.payload) = .accepted →
                    AnswersMethod (.result message env) request.method) ∧
                  (IsControl (.result message env) → ¬IsUser request)) ↔
                SuitsControl message request := by
              intro request
              rw [SuitsControl, AnswersMethod, IsControl, type]
              cases request.callback <;> simp [different, and_comm]
            rw [matched_of_all isMessage completes, alone_iff suits isPending fun request member =>
              ⟨(answer_internal member).2, .inl (answer_internal member).1⟩, MeetsItsRequest]
            simp only [malloc, type, true_implies, Option.some.injEq, different, false_implies, true_and]

theorem matched_sync (message : Mqtt.Message) :
    Matched shadow (.sync message env) ↔ MeetsItsRequest shadow (.sync message env) := by
  have isMessage : IsMessage (.sync message env) := trivial
  cases malloc : env.malloc 0 with
  | false =>
      refine iff_of_true (matched_of_none fun request => ?_) fun allocated => ?_
      · simp [completion, malloc]
      · rw [malloc] at allocated
        cases allocated
  | true =>
      have completes : ∀ request, completion (.sync message env) request =
          (syncType message).map fun type => requestStatus type (received message.payload) := by
        intro request
        rw [completion, if_pos malloc]
      by_cases type : syncType message = some methodGetReply
      · rw [type, Option.map_some, requestStatus_getReply] at completes
        have isPending : pending shadow (.sync message env) =
            shadow.requestList ++ answer shadow (desiredOfSync message) (env.after 1) := by
          rw [pending, appended, if_pos type]
        have notControl : ¬IsControl (.sync message env) := fun isControl => isControl
        have suits : ∀ request : Request,
            ((request.callback.isSome → RequestAck.accepted = .accepted →
                AnswersMethod (.sync message env) request.method) ∧
              (IsControl (.sync message env) → ¬IsUser request)) ↔ SuitsGetReply request := by
          intro request
          rw [suits_iff, SuitsGetReply, AnswersMethod]
          simp only [type, notControl, false_implies, and_true, true_and]
        rw [matched_of_all isMessage completes, alone_iff suits isPending fun request member =>
          .inl (answer_internal member).1, MeetsItsRequest]
        simp only [malloc, type, true_implies]
      · have none : syncType message = none := by
          unfold syncType at type ⊢
          split
          · rename_i taken
            exact absurd (if_pos taken) type
          · rfl
        refine iff_of_true (matched_of_none fun request => ?_) fun _ isType => absurd isType type
        rw [completes, none, Option.map_none]

/-- A step completes the request that its message answers, and no other, exactly
when the message meets no other. -/
theorem matched_iff (shadow : ShadowClient) (input : Input) :
    Matched shadow input ↔ MeetsItsRequest shadow input := by
  cases input with
  | makeRequest => exact iff_of_true (matched_of_none fun _ => rfl) trivial
  | register => exact iff_of_true (matched_of_none fun _ => rfl) trivial
  | mqtt => exact iff_of_true (matched_of_none fun _ => rfl) trivial
  | expire now malloc =>
      refine iff_of_true ⟨fun call member accepted => ?_, fun isControl => ?_, fun isMessage => ?_⟩
        trivial
      · rw [(step_settles shadow (.expire now malloc)).calledBack] at member
        obtain ⟨request, _, calls⟩ := List.mem_filterMap.mp member
        unfold called at calls
        split at calls
        · obtain ⟨ack, completes, rfl⟩ := Option.map_eq_some_iff.mp calls
          rw [completion] at completes
          split at completes
          · cases completes
            cases accepted
          · cases completes
        · cases calls
      · cases isControl
      · cases isMessage
  | result message env => exact matched_result message
  | sync message env => exact matched_sync message

/-! ## Runs -/

/-- In a run every message completes the request it answers and no other exactly
when every message that completes requests meets no other. -/
theorem matched_run_iff (start : ShadowClient) (inputs : List Input) :
    Along step Matched start inputs ↔ Along step MeetsItsRequest start inputs :=
  ⟨fun along => along.mono fun shadow input => (matched_iff shadow input).mp,
    fun along => along.mono fun shadow input => (matched_iff shadow input).mpr⟩

/-- An update and a synchronisation are pending when the update is answered: both
are completed, and the synchronisation hears of acceptance. -/
theorem reply_completes_get :
    let start := uiotShadowInit (Mqtt.uiotMqttInit ⟨1000, false⟩) (literal "p") (literal "d")
    let env : Env :=
      { tick := fun _ => 0
        rtTickFromMillisecond := id
        malloc := fun _ => true
        publish := ⟨fun _ => 0, id, fun _ => true, fun _ => [], [], 0, .qos0⟩
        answer := fun _ _ => [] }
    let reply := literal "\x7b\"Method\":\"reply\",\"Payload\":\x7b\"RetCode\":0\x7d,\"Version\":1\x7d"
    let inputs : List Input :=
      [.makeRequest ⟨[], 0, false⟩ 256 ⟨.update, [⟨literal "k", some (.uint8 1)⟩], 1, some 1, 0⟩ env,
        .makeRequest ⟨[], 0, false⟩ 256 ⟨.get, [], 1, some 2, 0⟩ env,
        .result ⟨1, 0, 0, some 1, literal "t", reply⟩ env]
    ¬Along step Matched start inputs := by
  intro start env reply inputs along
  obtain ⟨_, _, matched, _⟩ := along
  have heard : (callbacks (step (run step start (inputs.take 2)).1
      (.result ⟨1, 0, 0, some 1, literal "t", reply⟩ env)).2).map
        (fun call => (call.1.method, call.2)) =
      [(.get, .accepted), (.update, .accepted)] := by decide +kernel
  have first : (Method.get, RequestAck.accepted) ∈ [(Method.get, RequestAck.accepted),
      (.update, .accepted)] := List.mem_cons_self
  rw [← heard] at first
  obtain ⟨call, member, same⟩ := List.mem_map.mp first
  have method : call.1.method = .get := congrArg Prod.fst same
  exact (matched.answered call member (congrArg Prod.snd same)).2 method

end UIoT.Shadow
