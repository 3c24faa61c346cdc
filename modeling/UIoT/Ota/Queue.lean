import UIoT.Ota.Moves

/-!
# The queue of update messages

Update messages that come while a download is under way are queued, and the callback
takes the first one when its download has returned. They are handled in the order in
which they came, and each once. But a message that starts no download leaves those
behind it in the queue (`refused_strands`): the queue is empty whenever the callback
has returned, as long as every message that is taken off starts its download, unless
it is the last one (`queue_handled`).
-/

set_option autoImplicit false

namespace UIoT.Ota

open Utils Runs

variable {ν : Type} (platform : Platform ν)

/-! ## The property -/

/-- The messages that are queued. -/
def queuedOf (events : List Event) : List (List UInt8) :=
  events.filterMap fun
    | .queued msg => some msg
    | .handled _ => none

/-- The messages that are taken off the queue and handled. -/
def handledOf (events : List Event) : List (List UInt8) :=
  events.filterMap fun
    | .queued _ => none
    | .handled msg => some msg

/-- The messages are handled in order, each once, and none is left when the callback
has returned and no download is under way. -/
structure Handled (device : Device ν) (events : List (List Event)) : Prop where
  order : events.flatMap queuedOf = events.flatMap handledOf ++ device.ota.msgList
  empty : device.control = .waiting → device.downloads = [] → device.ota.msgList = []

/-! ## The condition -/

/-- An update message gets as far as its download: its fields are read, and a client
is there and connects. -/
def startsDownload (ota : OtaStruct) (msg : List UInt8) (s : ν) : Bool :=
  let (allocated, s) := platform.malloc s
  let (ret, params, s) := otaLibGetParams platform msg ota.params s
  allocated && otaLibGetMsgType msg = some updateFirmwareMethod && ret = successRet &&
    match ofcInit platform (params.url.getD []) s with
    | (none, _) => false
    | (some ofc, s) => (ofcConnect platform ofc s).toOption.map (·.1) = some successRet

/-- The message in the callback starts its download, where others are queued and none
is under way. -/
def HandsOn (device : Device ν) : Prop :=
  ∀ msg ∈ device.control.message, device.downloads = [] → device.ota.msgList ≠ [] →
    startsDownload platform device.ota msg device.world

instance (device : Device ν) : Decidable (HandsOn platform device) :=
  inferInstanceAs (Decidable (∀ msg ∈ device.control.message, _))

variable {platform} {device after : Device ν} {input : Input} {events : List Event} {msg : List UInt8}

/-! ## The order -/

theorem moves_conserve (moves : Moves platform device input after events) :
    device.ota.msgList ++ queuedOf events = handledOf events ++ after.ota.msgList := by
  have same : ∀ {msgList : List (List UInt8)}, msgList = device.ota.msgList →
      device.ota.msgList ++ queuedOf [] = handledOf [] ++ msgList := by
    intro msgList same
    rw [same]
    exact List.append_nil _
  cases moves with
  | stays | faults | delivers | dismisses | cancels | starts | writes | returns => exact same rfl
  | queues => rfl
  | refuses msg ota s isReceived isUpdate notFetching refused =>
      cases refused <;> exact same rfl
  | startFails msg params download ota s isReceived isUpdate notFetching names announces begins
      cleared => exact same cleared.msgList
  | fetches turns download others length ota buf s isTurn isFetching top fetched =>
      rcases iotOtaFetchYield_ok fetched with ⟨_, kept, _⟩ | ⟨took, _⟩
      · exact same kept.msgList
      · exact same took.msgList
  | ends download others ret ota s top ended =>
      cases ended with
      | writing length _ _ _ cleared => exact same cleared.msgList
      | finishing _ _ _ _ _ cleared => exact same cleared.msgList
  | goesOn download others ota isWaiting top notFetched kept => exact same kept.msgList
  | pops download ret state msg msgList isReturned states first =>
      rw [first]
      exact List.append_nil _

/-! ## What is handled starts -/

variable {ota : OtaStruct} {others : List Download} {s : ν}

theorem updateFirmware_starts
    (success : (otaLibGetParams platform msg ota.params s).1 = successRet)
    (connects : ∀ params s', otaLibGetParams platform msg ota.params s = (successRet, params, s') →
      ∃ ofc s'', ofcInit platform (params.url.getD []) s' = (some ofc, s'') ∧
        (ofcConnect platform ofc s'').toOption.map (·.1) = some successRet)
    (returns : updateFirmware platform others ota msg s = .ok after) : after.control ≠ .waiting := by
  cases read : otaLibGetParams platform msg ota.params s with
  | mk ret rest =>
      obtain ⟨params, s'⟩ := rest
      rw [read] at success
      subst success
      obtain ⟨ofc, s'', isClient, connected⟩ := connects params s' read
      rw [updateFirmware, read] at returns
      dsimp only at returns
      rw [if_neg (not_not.mpr rfl)] at returns
      obtain ⟨url, isUrl, returns⟩ := bind_ok returns
      rw [used_ok isUrl, Option.getD_some] at isClient
      rw [isClient] at returns
      obtain ⟨⟨ret, ofc, s⟩, isConnected, returns⟩ := bind_ok returns
      rw [isConnected] at connected
      dsimp only at returns
      rw [if_neg (not_not.mpr (Option.some.inj connected))] at returns
      obtain ⟨download, _, ⟨s', rfl⟩ | ⟨cleared, s', _, rfl⟩⟩ := startDownload_ok rfl returns
      · exact Control.noConfusion
      · exact Control.noConfusion

theorem otaCallback_starts (starts : startsDownload platform ota msg s)
    (notFetching : ota.state ≠ .fetching)
    (returns : otaCallback platform others ota msg s = .ok (after, events)) :
    after.control ≠ .waiting := by
  rw [startsDownload] at starts
  dsimp only at starts
  rw [Bool.and_eq_true, Bool.and_eq_true, Bool.and_eq_true, decide_eq_true_iff,
    decide_eq_true_iff] at starts
  obtain ⟨⟨⟨allocated, isUpdate⟩, success⟩, connects⟩ := starts
  have notCancel : ¬(ota.chFetch = .null ∧ updateFirmwareMethod = cancelUpdateMethod) := by
    rintro ⟨_, same⟩
    revert same
    decide
  rw [otaCallback] at returns
  dsimp only at returns
  rw [if_neg (not_not.mpr allocated), isUpdate] at returns
  dsimp only at returns
  rw [if_neg notCancel, if_pos rfl, if_neg notFetching] at returns
  obtain ⟨device, updates, returns⟩ := bind_ok returns
  cases returns
  refine updateFirmware_starts success (fun params s' read => ?_) updates
  rw [read] at connects
  dsimp only at connects
  split at connects
  · cases connects
  · rename_i ofc s'' isClient
    exact ⟨ofc, s'', isClient, of_decide_eq_true connects⟩

/-- The step of a message that starts its download. -/
theorem step_starts {input : Input} (isReceived : device.control = .received msg)
    (notFetching : device.ota.state ≠ .fetching)
    (starts : startsDownload platform device.ota msg device.world) :
    (device.step platform input).1.control ≠ .waiting := by
  have notWaiting : device.control ≠ .waiting := by
    rw [isReceived]
    exact Control.noConfusion
  cases input with
  | deliver payload =>
      rw [Device.step, if_neg notWaiting]
      exact notWaiting
  | yieldEnds =>
      rw [Device.step, if_neg notWaiting]
      exact notWaiting
  | proceed turns =>
      rw [Device.step, Device.goOn, isReceived]
      dsimp only
      cases result : otaCallback platform device.downloads device.ota msg device.world with
      | ok result => exact otaCallback_starts starts notFetching result
      | error fault =>
          cases fault with
          | unfinished => exact notWaiting
          | outside | pointer | arithmetic | indeterminate => exact Control.noConfusion

/-! ## The invariant -/

/-- Where no download is under way, the handle is not fetching, and a callback that
has returned has left no message. Downloads come from messages. -/
structure QueueInv (device : Device ν) : Prop where
  empty : device.control = .waiting → device.downloads = [] → device.ota.msgList = []
  notFetching : device.downloads = [] → device.ota.state ≠ .fetching
  messages : ∀ download ∈ device.downloads, download.message.isSome
  returned : ∀ download ret, device.control = .returned download ret → download.message.isSome

/-- Steps that end in the callback's return. -/
theorem QueueInv.of_same {ota : OtaStruct} {s : ν} (inv : QueueInv device)
    (msgList : ota.msgList = device.ota.msgList)
    (state : ota.state = device.ota.state ∨ ota.state = .disconnected)
    (empty : device.downloads = [] → device.ota.msgList = []) :
    QueueInv ⟨ota, s, device.downloads, .waiting⟩ where
  empty := fun _ none => msgList.trans (empty none)
  notFetching := by
    intro none
    rcases state with same | disconnected
    · dsimp only
      rw [same]
      exact inv.notFetching none
    · dsimp only
      rw [disconnected]
      exact OtaState.noConfusion
  messages := inv.messages
  returned := fun _ _ returned => (by cases returned)

theorem moves_queueInv (inv : QueueInv device)
    (handsOn : ∀ msg, device.control = .received msg → device.downloads = [] →
      device.ota.msgList ≠ [] → after.control ≠ .waiting)
    (moves : Moves platform device input after events) : QueueInv after := by
  have handled : ∀ {msg}, device.control = .received msg → after.control = .waiting →
      device.downloads = [] → device.ota.msgList = [] := by
    intro msg isReceived isWaiting none
    by_contra others
    exact handsOn msg isReceived none others isWaiting
  have cleared : ∀ {before ota : OtaStruct} {s : ν} {download : Download} {others : List Download}
      {ret : Int}, Cleared before ota → (∀ each ∈ others, each.message.isSome) →
      download.message.isSome →
      QueueInv (⟨ota, s, others, .returned download ret⟩ : Device ν) := by
    intro before ota s download others ret cleared messages message
    refine ⟨fun isWaiting => (by cases isWaiting), fun _ => ?_, messages, fun _ _ returned => ?_⟩
    · dsimp only
      rw [cleared.state]
      exact OtaState.noConfusion
    · cases returned
      exact message
  cases moves with
  | stays => exact inv
  | faults fault =>
      exact ⟨fun isWaiting => (by cases isWaiting), inv.notFetching, inv.messages,
        fun _ _ returned => (by cases returned)⟩
  | delivers msg isWaiting =>
      exact ⟨fun isWaiting => (by cases isWaiting), inv.notFetching, inv.messages,
        fun _ _ returned => (by cases returned)⟩
  | dismisses msg s isReceived =>
      exact inv.of_same rfl (.inl rfl) (handled isReceived rfl)
  | queues msg s isReceived isUpdate isFetching =>
      refine ⟨fun _ none => absurd isFetching (inv.notFetching none), inv.notFetching, inv.messages,
        fun _ _ returned => (by cases returned)⟩
  | refuses msg ota s isReceived isUpdate notFetching refused =>
      refine inv.of_same ?_ ?_ (handled isReceived rfl)
      · cases refused <;> rfl
      · cases refused with
        | params => exact .inl rfl
        | memory => exact .inl rfl
        | connection => exact .inr rfl
  | cancels msg ofc s isReceived =>
      exact inv.of_same rfl (.inr rfl) (handled isReceived rfl)
  | starts msg params ofc download s isReceived isUpdate notFetching names announces begins =>
      refine ⟨fun isWaiting => (by cases isWaiting), fun none => (by cases none), ?_,
        fun _ _ returned => (by cases returned)⟩
      intro each member
      rcases List.mem_cons.mp member with rfl | member
      · rw [begins.message]
        rfl
      · exact inv.messages each member
  | startFails msg params download ota s isReceived isUpdate notFetching names announces begins
      clears =>
      refine cleared clears inv.messages ?_
      rw [begins.message]
      rfl
  | fetches turns download others length ota buf s isTurn isFetching top fetched =>
      refine ⟨fun isWaiting => (by cases isWaiting), fun none => (by cases none), ?_,
        fun _ _ returned => (by cases returned)⟩
      intro each member
      have messages := inv.messages
      rw [top] at messages
      rcases List.mem_cons.mp member with rfl | member
      · exact messages download (List.mem_cons_self ..)
      · exact messages each (List.mem_cons_of_mem _ member)
  | writes download others length s isFetched top =>
      refine ⟨fun _ none => (by cases none), fun none => (by cases none), ?_,
        fun _ _ returned => (by cases returned)⟩
      intro each member
      have messages := inv.messages
      rw [top] at messages
      rcases List.mem_cons.mp member with rfl | member
      · exact messages download (List.mem_cons_self ..)
      · exact messages each (List.mem_cons_of_mem _ member)
  | ends download others ret ota s top ended =>
      have messages := inv.messages
      rw [top] at messages
      have message := messages download (List.mem_cons_self ..)
      have rest : ∀ each ∈ others, each.message.isSome := fun each member =>
        messages each (List.mem_cons_of_mem _ member)
      cases ended with
      | writing length _ _ _ clears => exact cleared clears rest message
      | finishing _ _ _ _ _ clears => exact cleared clears rest message
  | goesOn download others ota isWaiting top notFetched kept state =>
      refine ⟨fun isWaiting => (by cases isWaiting), fun none => ?_, inv.messages,
        fun _ _ returned => (by cases returned)⟩
      rw [top] at none
      cases none
  | returns download ret state isReturned states empty =>
      refine ⟨fun _ _ => empty (inv.returned download ret isReturned), fun none => ?_, inv.messages,
        fun _ _ returned => (by cases returned)⟩
      rcases states with rfl | rfl
      · exact inv.notFetching none
      · exact OtaState.noConfusion
  | pops download ret state msg msgList isReturned states =>
      refine ⟨fun isWaiting => (by cases isWaiting), fun none => ?_, inv.messages,
        fun _ _ returned => (by cases returned)⟩
      rcases states with rfl | rfl
      · exact inv.notFetching none
      · exact OtaState.noConfusion

/-! ## Runs -/

/-- In every run, queued messages are handled in order, each once, and none is left
behind as long as each that has others behind it starts its download. -/
theorem queue_handled (platform : Platform ν) (productSn deviceSn : List UInt8) (s : ν)
    (inputs : List Input)
    (handsOn : Along (Device.step platform) (fun device _ => HandsOn platform device)
      (deviceInit productSn deviceSn s) inputs) :
    Handled (run (Device.step platform) (deviceInit productSn deviceSn s) inputs).1
      (run (Device.step platform) (deviceInit productSn deviceSn s) inputs).2 := by
  have start : QueueInv (deviceInit productSn deviceSn s) :=
    { empty := fun _ _ => rfl
      notFetching := fun _ => OtaState.noConfusion
      messages := fun _ member => (List.not_mem_nil member).elim
      returned := fun _ _ returned => (by cases returned) }
  have step : ∀ (device : Device ν) (input : Input), QueueInv device → HandsOn platform device →
      QueueInv (device.step platform input).1 := by
    intro device input inv handsOn
    refine moves_queueInv inv (fun msg isReceived none others => ?_) (step_moves device input)
    refine step_starts isReceived (inv.notFetching none) (handsOn msg ?_ none others)
    rw [isReceived]
    rfl
  have order := run_conserves (fun device : Device ν => device.ota.msgList) queuedOf handledOf
    (fun device input => moves_conserve (@step_moves _ platform device input))
    (deviceInit productSn deviceSn s) inputs
  exact ⟨order, (handsOn.invariant QueueInv start step).2.empty⟩

/-- What comes to a device with two messages behind its first download. -/
def handedOnInputs : List Input :=
  [.deliver (updateMessage "0" "10"), .proceed 0, .proceed 50, .proceed 0,
    .deliver (updateMessage "1" "20"), .proceed 0, .deliver (updateMessage "2" "30"), .proceed 0,
    .yieldEnds, .proceed 50, .proceed 0, .yieldEnds, .proceed 0, .proceed 0, .proceed 50]

theorem queue_handled_two :
    Handled
      (run (Device.step scripted) (deviceInit (literal "product") (literal "device")
        ⟨[], [okResponse "4" "abcd", okResponse "6" "efghij"]⟩) handedOnInputs).1
      (run (Device.step scripted) (deviceInit (literal "product") (literal "device")
        ⟨[], [okResponse "4" "abcd", okResponse "6" "efghij"]⟩) handedOnInputs).2 :=
  queue_handled scripted (literal "product") (literal "device")
    ⟨[], [okResponse "4" "abcd", okResponse "6" "efghij"]⟩ handedOnInputs (by decide +kernel)

/-- An update message without a size, and a good one behind it, wait for a download. -/
def strandingInputs : List Input :=
  [.deliver (updateMessage "0" "10"), .proceed 0, .proceed 50, .proceed 0,
    .deliver (updateMessage "1" "null"), .proceed 0, .deliver (updateMessage "2" "30"), .proceed 0,
    .yieldEnds, .proceed 50, .proceed 0, .yieldEnds, .proceed 0, .proceed 0]

/-- A message that is refused leaves the one behind it in the queue. -/
theorem refused_strands : ¬Handled
    (play [okResponse "4" "abcd", okResponse "6" "efghij"] strandingInputs)
    (run (Device.step scripted) (scriptedDevice [okResponse "4" "abcd", okResponse "6" "efghij"])
      strandingInputs).2 := by
  intro handled
  have returned : (play [okResponse "4" "abcd", okResponse "6" "efghij"]
      strandingInputs).control = .waiting := by decide +kernel
  have idle : (play [okResponse "4" "abcd", okResponse "6" "efghij"]
      strandingInputs).downloads = [] := by decide +kernel
  have left : (play [okResponse "4" "abcd", okResponse "6" "efghij"]
      strandingInputs).ota.msgList.length = 1 := by decide +kernel
  rw [handled.empty returned idle] at left
  cases left

end UIoT.Ota
