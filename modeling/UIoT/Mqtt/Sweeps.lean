import Mathlib.Data.List.Induction
import UIoT.Utils.LinkedList
import UIoT.Mqtt.PacketIds

/-!
# The sweeps on the heap

`uiot_mqtt_pub_info_proc` and `uiot_mqtt_sub_info_proc` walk their list from the
tail with an iterator, and remove a node when the iterator has left it: the one
that is to go is kept in `temp_node` until the next one has been read.

On a heap that holds the list, the loop ends, uses no node that is freed, and
leaves a list again (`sweepLoop_spec`). Its entries are those that are normal and
not expired, in order, and each other normal entry is reported once
(`sweepCells_exact`). The model of the client, whose wait lists are lists, does
the same (`pubInfoProc_refines`, `subInfoProc_refines`).
-/

set_option autoImplicit false

namespace UIoT.Mqtt

open Chains LinkedList

/-! ## The functions -/

/-- What the two sweeps differ in: the fields of their entries, the event of an
entry whose time is up, and what is done to its timer, with the clock readings
that takes. -/
structure SweepKind (α : Type) where
  nodeState : α → NodeState
  startTime : α → Timer
  report : α → List Output
  rearm : Nat → α → α
  extra : Nat

/-- How often the clock has been read, and the events so far. -/
structure SweepState where
  readings : Nat
  outputs : List Output

/-- The body of the loop of a sweep, from the value of the node on: whether the
node is to go, its value and the state afterwards. -/
def sweepBody {α : Type} (kind : SweepKind α) (connected : Bool) (tick : Nat → UInt32)
    (seen : SweepState) : Option α → Bool × Option α × SweepState
  | none => (true, none, seen)
  | some entry =>
      if kind.nodeState entry = .invalid then (true, some entry, seen)
      else if ¬connected then (false, some entry, seen)
      else if 0 < leftMs (kind.startTime entry) (tick seen.readings) then
        (false, some entry, { seen with readings := seen.readings + 1 })
      else
        (true, some (kind.rearm (seen.readings + 1) entry),
          ⟨seen.readings + 1 + kind.extra, seen.outputs ++ kind.report entry⟩)

/-- The node in `tempNode` is removed, if there is one. -/
def removeTemp {α : Type} (heap : Heap α) (list : Ends) : Option Nat → Option (Heap α × Ends)
  | some tempNode => LinkedList.listRemove heap list tempNode
  | none => some (heap, list)

/-- The loop of a sweep, with the node that goes next in `tempNode`. -/
def sweepLoop {α : Type} (body : SweepState → Option α → Bool × Option α × SweepState) :
    Nat → Heap (Option α) → Ends → ListIterator → Option Nat → SweepState →
      Option (Heap (Option α) × Ends × SweepState)
  | 0, _, _, _, _, _ => none
  | fuel + 1, heap, list, iter, tempNode, seen => do
      let (node, iter) ← listIteratorNext heap iter
      let (heap, list) ← removeTemp heap list tempNode
      match node with
      | none => return (heap, list, seen)
      | some node => do
          let read ← heap node
          let (goes, val, seen) := body seen read.val
          let heap ← heap.modify node fun read => { read with val := val }
          sweepLoop body fuel heap list iter (if goes then some node else none) seen

/-- A sweep over a list on the heap: the heap, the list and the events afterwards.
The iterator is the first allocation. -/
def infoProcOnHeap {α : Type} (kind : SweepKind α) (fuel : Nat) (client : Client)
    (heap : Heap (Option α)) (list : Ends) (env : Env) :
    Option (Heap (Option α) × Ends × List Output) :=
  if list.len = 0 then some (heap, list, [])
  else if ¬env.malloc 0 then some (heap, list, [])
  else do
    let (heap, list, seen) ← sweepLoop (sweepBody kind client.isConnected env.tick) fuel heap list
      (listIteratorNew list .tail) none ⟨0, []⟩
    return (heap, list, seen.outputs)

/-- Publications: an entry whose time is up is armed again before it goes. -/
def pubInfoKind (client : Client) (env : Env) : SweepKind PubInfo where
  nodeState := PubInfo.nodeState
  startTime := PubInfo.pubStartTime
  report := reportPub client
  rearm reading repubInfo :=
    { repubInfo with
      pubStartTime :=
        countdownMs env.rtTickFromMillisecond (env.tick reading) client.commandTimeoutMs }
  extra := 1

/-- Subscriptions and unsubscriptions. -/
def subInfoKind (client : Client) : SweepKind SubInfo where
  nodeState := SubInfo.nodeState
  startTime := SubInfo.subStartTime
  report := reportSub client
  rearm _ subInfo := subInfo
  extra := 0

/-- `uiot_mqtt_pub_info_proc` on the heap. -/
def pubInfoProcOnHeap (fuel : Nat) (client : Client) (heap : Heap (Option PubInfo)) (list : Ends)
    (env : Env) : Option (Heap (Option PubInfo) × Ends × List Output) :=
  infoProcOnHeap (pubInfoKind client env) fuel client heap list env

/-- `uiot_mqtt_sub_info_proc` on the heap. -/
def subInfoProcOnHeap (fuel : Nat) (client : Client) (heap : Heap (Option SubInfo)) (list : Ends)
    (env : Env) : Option (Heap (Option SubInfo) × Ends × List Output) :=
  infoProcOnHeap (subInfoKind client) fuel client heap list env

/-! ## The loop -/

/-- What the bodies make of the cells, from the tail on. -/
def sweepCells {α : Type} (body : SweepState → Option α → Bool × Option α × SweepState) :
    SweepState → List (Nat × Option α) → List (Nat × Option α) × SweepState
  | seen, [] => ([], seen)
  | seen, (address, val) :: rest =>
      let (goes, val, seen) := body seen val
      let (kept, seen) := sweepCells body seen rest
      (if goes then kept else (address, val) :: kept, seen)

section Loop

variable {α : Type} {body : SweepState → Option α → Bool × Option α × SweepState}

/-- The node that is to go is removed. -/
theorem removeTemp_spec {heap : Heap (Option α)} {list : Ends} {front behind : List (Nat × Option α)}
    (pending : Option (Nat × Option α))
    (represents : Represents heap list (front ++ (pending.toList ++ behind))) :
    ∃ removed ends, removeTemp heap list (pending.map Prod.fst) = some (removed, ends) ∧
      Represents removed ends (front ++ behind) := by
  cases pending with
  | none => exact ⟨heap, list, rfl, represents⟩
  | some cell => exact listRemove_spec represents

/-- The loop goes through the cells in front of the iterator. The cell that is to
go lies right behind them, and what lies behind that stays. -/
theorem sweepLoop_spec (front : List (Nat × Option α)) {heap : Heap (Option α)} {list : Ends}
    {behind : List (Nat × Option α)} (pending : Option (Nat × Option α)) {fuel : Nat}
    (enough : front.length < fuel) (seen : SweepState)
    (represents : Represents heap list (front ++ (pending.toList ++ behind))) :
    ∃ swept ends,
      sweepLoop body fuel heap list ⟨lastOf none front, .tail⟩ (pending.map Prod.fst) seen =
        some (swept, ends, (sweepCells body seen front.reverse).2) ∧
      Represents swept ends ((sweepCells body seen front.reverse).1.reverse ++ behind) := by
  induction front using List.reverseRecOn generalizing heap list behind pending fuel seen with
  | nil =>
      obtain ⟨fuel, rfl⟩ := Nat.exists_eq_add_of_lt enough
      obtain ⟨removed, ends, isRemoved, rest⟩ := removeTemp_spec pending represents
      refine ⟨removed, ends, ?_, rest⟩
      simp only [sweepLoop, lastOf, listIteratorNext, Option.bind_eq_bind, Option.bind_some,
        isRemoved]
      rfl
  | append_singleton front cell inductionHypothesis =>
      obtain ⟨address, val⟩ := cell
      obtain ⟨fuel, rfl⟩ := Nat.exists_eq_add_of_lt enough
      have ahead : Represents heap list (front ++ (address, val) :: (pending.toList ++ behind)) := by
        rw [List.append_assoc] at represents
        exact represents
      obtain ⟨removed, ends, isRemoved, rest⟩ := removeTemp_spec pending represents
      rw [List.append_assoc] at rest
      have here := rest.node
      have left : front.length < front.length + 1 + fuel := by omega
      have shorter : (front ++ [(address, val)]).length + fuel = front.length + 1 + fuel := by
        rw [List.length_append, List.length_singleton]
      rw [List.reverse_concat]
      simp only [sweepLoop, lastOf_append, lastOf, listIteratorNext_tail ahead,
        Option.bind_eq_bind, Option.bind_some, isRemoved, here, Heap.modify, Option.map_some,
        sweepCells, shorter]
      generalize judged : body seen val = verdict
      obtain ⟨goes, val', later⟩ := verdict
      have stored := rest.setVal val'
      cases goes with
      | true => exact inductionHypothesis (some (address, val')) left later stored
      | false =>
          obtain ⟨swept, sweptEnds, ran, kept⟩ := inductionHypothesis none left later stored
          refine ⟨swept, sweptEnds, ran, ?_⟩
          rw [if_neg Bool.false_ne_true, List.reverse_cons, List.append_assoc]
          exact kept

/-- A sweep with enough fuel ends, and has swept the cells if there are any and its
iterator is allocated. -/
theorem infoProcOnHeap_spec (kind : SweepKind α) (client : Client) (env : Env)
    {heap : Heap (Option α)} {list : Ends} {cells : List (Nat × Option α)} {fuel : Nat}
    (represents : Represents heap list cells) (enough : cells.length < fuel) :
    let judged := sweepCells (sweepBody kind client.isConnected env.tick) ⟨0, []⟩ cells.reverse
    ∃ swept ends,
      infoProcOnHeap kind fuel client heap list env =
          some (swept, ends,
            if cells.length ≠ 0 ∧ env.malloc 0 then judged.2.outputs else []) ∧
        Represents swept ends
          (if cells.length ≠ 0 ∧ env.malloc 0 then judged.1.reverse else cells) := by
  intro judged
  rw [infoProcOnHeap, represents.len]
  by_cases empty : cells.length = 0
  · rw [if_pos empty]
    simp only [empty, ne_eq, not_true_eq_false, false_and, if_false]
    exact ⟨heap, list, rfl, represents⟩
  rw [if_neg empty]
  by_cases allocated : env.malloc 0 = true
  · simp only [empty, allocated, ne_eq, not_false_eq_true, true_and, not_true_eq_false, if_false,
      if_true]
    have start : Represents heap list (cells ++ ((none : Option (Nat × Option α)).toList ++ [])) := by
      simpa using represents
    obtain ⟨swept, ends, ran, rest⟩ := @sweepLoop_spec _
      (sweepBody kind client.isConnected env.tick) cells heap list [] none fuel enough ⟨0, []⟩ start
    rw [Option.map_none, ← represents.tail] at ran
    rw [List.append_nil] at rest
    refine ⟨swept, ends, ?_, rest⟩
    simp only [listIteratorNew, ran, Option.bind_eq_bind, Option.bind_some]
    rfl
  · simp only [allocated, Bool.false_eq_true, not_false_eq_true, if_true, and_false, if_false]
    exact ⟨heap, list, rfl, represents⟩

end Loop

/-! ## Exactly the expired entries -/

section Exact

variable {α : Type} (kind : SweepKind α) (connected : Bool)

/-- A node stays: its entry is normal, and not expired unless the client has no
connection. -/
def stays (now : UInt32) : Option α → Bool
  | none => false
  | some entry =>
      kind.nodeState entry = .normal && (!connected || 0 < leftMs (kind.startTime entry) now)

/-- A node holds a normal entry whose time is up. -/
def timesOut (now : UInt32) : Option α → Bool
  | none => false
  | some entry =>
      kind.nodeState entry = .normal && connected && leftMs (kind.startTime entry) now ≤ 0

/-- The events of a node that times out. -/
def reportOf (val : Option α) : List Output := val.toList.flatMap kind.report

/-- A look at a cell, with the number of the reading of the clock. -/
abbrev Look (α : Type) := (Nat × Option α) × Nat

/-- What a sweep has made of a list, looking at its cells from the tail on: those
that stay at the tick of their look are left in order, and those that time out
are reported once each. -/
structure SweptExactly (tick : Nat → UInt32) (cells kept : List (Nat × Option α))
    (outputs : List Output) (looks : List (Look α)) : Prop where
  cells : looks.map Prod.fst = cells
  fromTail : (looks.map Prod.snd).Pairwise (· ≥ ·)
  kept : kept = (looks.filter fun look => stays kind connected (tick look.2) look.1.2).map Prod.fst
  outputs : outputs =
    (looks.reverse.filter fun look => timesOut kind connected (tick look.2) look.1.2).flatMap
      fun look => reportOf kind look.1.2

/-- What the body does with a node. -/
theorem sweepBody_spec (tick : Nat → UInt32) (seen : SweepState) (val : Option α) :
    let judged := sweepBody kind connected tick seen val
    judged.1 = !stays kind connected (tick seen.readings) val ∧
      (judged.1 = false → judged.2.1 = val) ∧ seen.readings ≤ judged.2.2.readings ∧
      judged.2.2.outputs = seen.outputs ++
        if timesOut kind connected (tick seen.readings) val then reportOf kind val else [] := by
  cases val with
  | none => simp [sweepBody, stays, timesOut]
  | some entry =>
      have either : kind.nodeState entry = .invalid ∨ kind.nodeState entry = .normal := by
        cases kind.nodeState entry with
        | normal => exact .inr rfl
        | invalid => exact .inl rfl
      rcases either with invalid | normal
      · simp [sweepBody, stays, timesOut, invalid]
      · cases connected with
        | false => simp [sweepBody, stays, timesOut, normal]
        | true =>
            by_cases left : 0 < leftMs (kind.startTime entry) (tick seen.readings)
            · have notUp := Int.not_le.mpr left
              simp [sweepBody, stays, timesOut, normal, left, notUp]
            · have up := Int.not_lt.mp left
              simp [sweepBody, stays, timesOut, reportOf, normal, left, up]
              omega

/-- The cells of a sweep, from the tail on. -/
theorem sweepCells_exact (tick : Nat → UInt32) (cells : List (Nat × Option α)) (seen : SweepState) :
    let swept := sweepCells (sweepBody kind connected tick) seen cells
    ∃ looks : List (Look α), looks.map Prod.fst = cells ∧ (∀ look ∈ looks, seen.readings ≤ look.2) ∧
      (looks.map Prod.snd).Pairwise (· ≤ ·) ∧
      swept.1 = (looks.filter fun look => stays kind connected (tick look.2) look.1.2).map Prod.fst ∧
      swept.2.outputs = seen.outputs ++
        (looks.filter fun look => timesOut kind connected (tick look.2) look.1.2).flatMap
          fun look => reportOf kind look.1.2 := by
  induction cells generalizing seen with
  | nil =>
      refine ⟨[], rfl, ?_, .nil, rfl, (List.append_nil _).symm⟩
      intro look among
      cases among
  | cons cell cells inductionHypothesis =>
      obtain ⟨address, val⟩ := cell
      obtain ⟨goes, same, later, reported⟩ := sweepBody_spec kind connected tick seen val
      simp only [sweepCells]
      generalize sweepBody kind connected tick seen val = judged at goes same later reported ⊢
      obtain ⟨looks, isCells, behind, ordered, kept, outputs⟩ := inductionHypothesis judged.2.2
      refine ⟨((address, val), seen.readings) :: looks, ?_, ?_, ?_, ?_, ?_⟩
      · rw [List.map_cons, isCells]
      · intro look among
        rcases List.mem_cons.mp among with rfl | rest
        · exact Nat.le_refl _
        · exact Nat.le_trans later (behind look rest)
      · rw [List.map_cons, List.pairwise_cons]
        refine ⟨fun reading among => ?_, ordered⟩
        obtain ⟨look, rest, rfl⟩ := List.mem_map.mp among
        exact Nat.le_trans later (behind look rest)
      · rw [kept]
        by_cases stay : stays kind connected (tick seen.readings) val = true
        · have notGoes : judged.1 = false := by rw [goes, stay]; rfl
          rw [List.filter_cons_of_pos (by exact stay), List.map_cons, notGoes, same notGoes]
          rfl
        · have isGoes : judged.1 = true := by simpa [goes] using stay
          rw [List.filter_cons_of_neg (by exact stay), isGoes]
          rfl
      · rw [outputs, reported, List.append_assoc]
        by_cases out : timesOut kind connected (tick seen.readings) val = true
        · rw [List.filter_cons_of_pos (by exact out), List.flatMap_cons, if_pos out]
        · rw [List.filter_cons_of_neg (by exact out), if_neg out, List.nil_append]

/-- A sweep with enough fuel ends with a list on the heap again. Where its iterator
is allocated it has swept exactly, and else it has done nothing. -/
theorem infoProcOnHeap_exact (client : Client) (env : Env) {heap : Heap (Option α)} {list : Ends}
    {cells : List (Nat × Option α)} {fuel : Nat} (represents : Represents heap list cells)
    (enough : cells.length < fuel) :
    ∃ swept ends kept outputs,
      infoProcOnHeap kind fuel client heap list env = some (swept, ends, outputs) ∧
        Represents swept ends kept ∧
        (env.malloc 0 = true →
          ∃ looks, SweptExactly kind client.isConnected env.tick cells kept outputs looks) ∧
        (env.malloc 0 = false → kept = cells ∧ outputs = []) := by
  obtain ⟨swept, ends, ran, rest⟩ := infoProcOnHeap_spec kind client env represents enough
  by_cases sweeps : cells.length ≠ 0 ∧ env.malloc 0 = true
  · rw [if_pos sweeps] at ran rest
    obtain ⟨looks, isCells, -, ordered, kept, outputs⟩ :=
      sweepCells_exact kind client.isConnected env.tick cells.reverse ⟨0, []⟩
    refine ⟨swept, ends, _, _, ran, rest, fun _ => ⟨looks.reverse, ?_, ?_, ?_, ?_⟩,
      fun failed => ?_⟩
    · rw [List.map_reverse, isCells, List.reverse_reverse]
    · rw [List.map_reverse, List.pairwise_reverse]
      exact ordered
    · rw [kept, List.filter_reverse, List.map_reverse]
    · rw [outputs, List.reverse_reverse]
      rfl
    · exact absurd (failed.symm.trans sweeps.2) Bool.false_ne_true
  · rw [if_neg sweeps] at ran rest
    refine ⟨swept, ends, _, _, ran, rest, fun allocated => ?_, fun _ => ⟨rfl, rfl⟩⟩
    obtain rfl : cells = [] := by
      by_contra nonempty
      exact sweeps ⟨mt List.eq_nil_of_length_eq_zero nonempty, allocated⟩
    exact ⟨[], rfl, .nil, rfl, rfl⟩

end Exact

/-- On a heap that holds a wait list, a sweep ends. When its iterator is allocated
the nodes left are those of the normal entries that are not expired, or that a
client without a connection keeps, and each other normal entry has had its event,
if there is a handler. When the iterator is not allocated nothing has happened. -/
theorem info_procs_sweep (client : Client) (env : Env) :
    (∀ (heap : Heap (Option PubInfo)) list cells fuel, Represents heap list cells →
      cells.length < fuel →
      ∃ swept ends kept outputs,
        pubInfoProcOnHeap fuel client heap list env = some (swept, ends, outputs) ∧
          Represents swept ends kept ∧
          (env.malloc 0 = true → ∃ looks, SweptExactly (pubInfoKind client env) client.isConnected
            env.tick cells kept outputs looks) ∧
          (env.malloc 0 = false → kept = cells ∧ outputs = [])) ∧
    (∀ (heap : Heap (Option SubInfo)) list cells fuel, Represents heap list cells →
      cells.length < fuel →
      ∃ swept ends kept outputs,
        subInfoProcOnHeap fuel client heap list env = some (swept, ends, outputs) ∧
          Represents swept ends kept ∧
          (env.malloc 0 = true → ∃ looks, SweptExactly (subInfoKind client) client.isConnected
            env.tick cells kept outputs looks) ∧
          (env.malloc 0 = false → kept = cells ∧ outputs = [])) := by
  constructor
  · intro heap list cells fuel represents enough
    exact infoProcOnHeap_exact (pubInfoKind client env) client env represents enough
  · intro heap list cells fuel represents enough
    exact infoProcOnHeap_exact (subInfoKind client) client env represents enough

/-- A publication that was answered, in front of one whose time is up. -/
def sweptPubs : List (Nat × Option PubInfo) :=
  [(1, some ⟨1, ⟨0⟩, .invalid, 1⟩), (2, some ⟨2, ⟨0⟩, .normal, 2⟩)]

/-- The ends of their list. -/
def sweptPubsEnds : Ends := ⟨some 1, some 2, 2⟩

theorem sweptPubs_represents : Represents (Heap.ofCells none sweptPubs none) sweptPubsEnds sweptPubs :=
  represents_ofCells (by decide)

theorem info_procs_sweep_two :
    let client := { uiotMqttInit ⟨2000, true⟩ with isConnected := true }
    ∃ swept ends kept outputs,
      pubInfoProcOnHeap 3 client (Heap.ofCells none sweptPubs none) sweptPubsEnds (calm 0) =
          some (swept, ends, outputs) ∧
        Represents swept ends kept ∧
        ((calm 0).malloc 0 = true → ∃ looks, SweptExactly (pubInfoKind client (calm 0)) true
          (calm 0).tick sweptPubs kept outputs looks) ∧
        ((calm 0).malloc 0 = false → kept = sweptPubs ∧ outputs = []) := by
  intro client
  exact (info_procs_sweep client (calm 0)).1 _ _ _ 3 sweptPubs_represents (by decide)

/-- Without memory for the iterator the sweep leaves an entry that was answered, and
does not report the one whose time is up. -/
theorem sweep_without_iterator :
    let client := { uiotMqttInit ⟨2000, true⟩ with isConnected := true }
    let env := { calm 0 with malloc := fun _ => false }
    let heap := Heap.ofCells none sweptPubs none
    pubInfoProcOnHeap 3 client heap sweptPubsEnds env = some (heap, sweptPubsEnds, []) ∧
      ¬∃ looks, SweptExactly (pubInfoKind client env) client.isConnected env.tick
        sweptPubs sweptPubs [] looks := by
  intro client env heap
  refine ⟨rfl, ?_⟩
  rintro ⟨looks, swept⟩
  have stay : ((1, some ⟨1, ⟨0⟩, .invalid, 1⟩) : Nat × Option PubInfo) ∈
      (looks.filter fun look => stays (pubInfoKind client env) client.isConnected
        (env.tick look.2) look.1.2).map Prod.fst := swept.kept ▸ List.mem_cons_self ..
  obtain ⟨look, among, isLook⟩ := List.mem_map.mp stay
  have isStaying := (List.mem_filter.mp among).2
  rw [isLook] at isStaying
  exact absurd isStaying Bool.false_ne_true

/-! ## The model of the client -/

section Refines

variable {α : Type}

/-- On nodes that all have a value the bodies do what the sweep of a list does. -/
theorem sweepCells_entries (kind : SweepKind α) (connected : Bool) (tick : Nat → UInt32)
    (cells : List (Nat × Option α)) (entries : List α)
    (isEntries : cells.map Prod.snd = entries.map some) (seen : SweepState) :
    let judged := sweepCells (sweepBody kind connected tick) seen cells
    let swept := sweepEntries connected kind.nodeState kind.startTime kind.report kind.extra tick
      seen.readings entries
    judged.1.map Prod.snd = swept.1.map some ∧ judged.2.outputs = seen.outputs ++ swept.2 := by
  induction cells generalizing entries seen with
  | nil =>
      obtain rfl : entries = [] := List.map_eq_nil_iff.mp isEntries.symm
      exact ⟨rfl, (List.append_nil _).symm⟩
  | cons cell cells inductionHypothesis =>
      obtain ⟨address, val⟩ := cell
      cases entries with
      | nil => cases isEntries
      | cons entry entries =>
          obtain ⟨rfl, isRest⟩ := List.cons.inj isEntries
          simp only [sweepCells, sweepEntries, sweepBody]
          by_cases invalid : kind.nodeState entry = .invalid
          · simp only [if_pos invalid]
            exact inductionHypothesis entries isRest seen
          simp only [if_neg invalid]
          by_cases offline : ¬connected = true
          · obtain ⟨kept, outputs⟩ := inductionHypothesis entries isRest seen
            simp only [if_pos offline, Bool.false_eq_true, if_false, List.map_cons, kept]
            exact ⟨trivial, outputs⟩
          simp only [if_neg offline]
          by_cases left : 0 < leftMs (kind.startTime entry) (tick seen.readings)
          · obtain ⟨kept, outputs⟩ :=
              inductionHypothesis entries isRest { seen with readings := seen.readings + 1 }
            simp only [if_pos left, Bool.false_eq_true, if_false, List.map_cons, kept]
            exact ⟨trivial, outputs⟩
          · obtain ⟨kept, outputs⟩ := inductionHypothesis entries isRest
              ⟨seen.readings + 1 + kind.extra, seen.outputs ++ kind.report entry⟩
            simp only [if_neg left, if_true, kept, outputs, List.append_assoc]
            exact ⟨trivial, trivial⟩

/-- A sweep of the heap and a sweep of the list leave the same entries. -/
theorem infoProcOnHeap_entries (kind : SweepKind α) (client : Client) (env : Env)
    {heap : Heap (Option α)} {list : Ends} {cells : List (Nat × Option α)} {fuel : Nat}
    (represents : Represents heap list cells) (enough : cells.length < fuel) {entries : List α}
    (isEntries : cells.map Prod.snd = entries.map some) :
    let swept := sweepEntries client.isConnected kind.nodeState kind.startTime kind.report kind.extra
      env.tick 0 entries.reverse
    ∃ heap' list' kept,
      infoProcOnHeap kind fuel client heap list env =
          some (heap', list', if entries.length ≠ 0 ∧ env.malloc 0 then swept.2 else []) ∧
        Represents heap' list' kept ∧
        kept.map Prod.snd =
          (if entries.length ≠ 0 ∧ env.malloc 0 then swept.1.reverse else entries).map some := by
  intro swept
  obtain ⟨heap', list', ran, rest⟩ := infoProcOnHeap_spec kind client env represents enough
  have sameLength : cells.length = entries.length := by
    simpa using congrArg List.length isEntries
  have isReversed : cells.reverse.map Prod.snd = entries.reverse.map some := by
    rw [List.map_reverse, isEntries, List.map_reverse]
  obtain ⟨kept, outputs⟩ := sweepCells_entries kind client.isConnected env.tick cells.reverse
    entries.reverse isReversed ⟨0, []⟩
  rw [sameLength] at ran rest
  refine ⟨heap', list', _, ?_, rest, ?_⟩
  · rw [ran, outputs]
    rfl
  · split
    · rw [List.map_reverse, kept, List.map_reverse]
    · exact isEntries

/-- The model of the client sweeps its publications as the code on the heap does. -/
theorem pubInfoProc_refines (client : Client) (env : Env) {heap : Heap (Option PubInfo)} {list : Ends}
    {cells : List (Nat × Option PubInfo)} {fuel : Nat} (represents : Represents heap list cells)
    (enough : cells.length < fuel)
    (isEntries : cells.map Prod.snd = client.listPubWaitAck.map some) :
    let swept := uiotMqttPubInfoProc client env
    ∃ heap' list' kept,
      pubInfoProcOnHeap fuel client heap list env = some (heap', list', swept.outputs) ∧
        Represents heap' list' kept ∧
        kept.map Prod.snd = swept.client.listPubWaitAck.map some := by
  obtain ⟨heap', list', kept, ran, rest, values⟩ := infoProcOnHeap_entries (pubInfoKind client env)
    client env represents enough isEntries
  refine ⟨heap', list', kept, ?_, rest, ?_⟩
  · rw [pubInfoProcOnHeap, ran, uiotMqttPubInfoProc]
    split <;> rfl
  · rw [values, uiotMqttPubInfoProc]
    split <;> rfl

/-- The model of the client sweeps its subscriptions as the code on the heap does. -/
theorem subInfoProc_refines (client : Client) (env : Env) {heap : Heap (Option SubInfo)} {list : Ends}
    {cells : List (Nat × Option SubInfo)} {fuel : Nat} (represents : Represents heap list cells)
    (enough : cells.length < fuel)
    (isEntries : cells.map Prod.snd = client.listSubWaitAck.map some) :
    let swept := uiotMqttSubInfoProc client env
    ∃ heap' list' kept,
      subInfoProcOnHeap fuel client heap list env = some (heap', list', swept.outputs) ∧
        Represents heap' list' kept ∧
        kept.map Prod.snd = swept.client.listSubWaitAck.map some := by
  obtain ⟨heap', list', kept, ran, rest, values⟩ := infoProcOnHeap_entries (subInfoKind client)
    client env represents enough isEntries
  refine ⟨heap', list', kept, ?_, rest, ?_⟩
  · rw [subInfoProcOnHeap, ran, uiotMqttSubInfoProc]
    split <;> rfl
  · rw [values, uiotMqttSubInfoProc]
    split <;> rfl

end Refines

end UIoT.Mqtt
