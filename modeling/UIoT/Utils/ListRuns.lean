import Mathlib.Data.List.Induction
import UIoT.Lib.Simulation
import UIoT.Utils.LinkedList

/-!
# Runs of the list functions

An abstract sequence says which nodes are allocated, with their values, and which of them are in the
list, in order. What a client may do, it says as well: only a node that is not in the list is pushed or
freed, and only one that is in it is removed. Whatever the calls are, the pointers stay those of the
sequence (`perform_refines`), so both ways along the list give its nodes, also while nodes are removed
on the way (`list_represents`).
-/

set_option autoImplicit false

namespace UIoT.LinkedList

open Chains Simulation

variable {α : Type}

/-! ## Calls -/

/-- The calls of a client. -/
inductive Call (α : Type) where
  /-- `list_node_new`, where the memory of the node is at this address. -/
  | nodeNew (address : Nat) (val : α)
  | rpush (address : Nat)
  | lpush (address : Nat)
  | rpop
  | lpop
  | remove (address : Nat)
  /-- `HAL_Free` of a node. -/
  | free (address : Nat)

/-- `list_node_new`, when it is allocated. -/
def listNodeNew (heap : Heap α) (address : Nat) (val : α) : Heap α :=
  Function.update heap address (some ⟨none, none, val⟩)

/-- What a call returns and what it leaves. -/
def perform (state : Heap α × Ends) : Call α → Option (Option Nat × Heap α × Ends)
  | .nodeNew address val => some (some address, listNodeNew state.1 address val, state.2)
  | .rpush address => (listRpush state.1 state.2 address).map fun next => (some address, next)
  | .lpush address => (listLpush state.1 state.2 address).map fun next => (some address, next)
  | .rpop => listRpop state.1 state.2
  | .lpop => listLpop state.1 state.2
  | .remove address => (listRemove state.1 state.2 address).map fun next => (none, next)
  | .free address => some (none, state.1.free address, state.2)

/-- `list_new` -/
def listNew : Ends := ⟨none, none, 0⟩

/-! ## The abstract sequence -/

/-- The values of the nodes that are allocated, and the nodes in the list. -/
structure Sequence (α : Type) where
  nodes : Nat → Option α
  order : List Nat

/-- A call, if it is one that a client may make. -/
def Sequence.perform (sequence : Sequence α) : Call α → Option (Option Nat × Sequence α)
  | .nodeNew address val =>
      if sequence.nodes address = none then
        some (some address, { sequence with nodes := Function.update sequence.nodes address (some val) })
      else none
  | .rpush address =>
      if sequence.nodes address ≠ none ∧ address ∉ sequence.order then
        some (some address, { sequence with order := sequence.order ++ [address] })
      else none
  | .lpush address =>
      if sequence.nodes address ≠ none ∧ address ∉ sequence.order then
        some (some address, { sequence with order := address :: sequence.order })
      else none
  | .rpop => some (sequence.order.getLast?, { sequence with order := sequence.order.dropLast })
  | .lpop => some (sequence.order.head?, { sequence with order := sequence.order.tail })
  | .remove address =>
      if address ∈ sequence.order then
        some (none, { nodes := Function.update sequence.nodes address none
                      order := sequence.order.erase address })
      else none
  | .free address =>
      if sequence.nodes address ≠ none ∧ address ∉ sequence.order then
        some (none, { sequence with nodes := Function.update sequence.nodes address none })
      else none

/-! ## Values -/

/-- The values of the nodes that are allocated. -/
def valuesOf (heap : Heap α) (address : Nat) : Option α := (heap address).map Node.val

section Values

variable {heap heap' : Heap α} {list list' : Ends} {address : Nat}

theorem valuesOf_update (node : Node α) :
    valuesOf (Function.update heap address (some node)) =
      Function.update (valuesOf heap) address (some node.val) := by
  funext other
  by_cases same : other = address
  · subst same
    rw [valuesOf, Function.update_self, Function.update_self]
    rfl
  · rw [valuesOf, Function.update_of_ne same, Function.update_of_ne same]
    rfl

theorem valuesOf_free :
    valuesOf (heap.free address) = Function.update (valuesOf heap) address none := by
  funext other
  by_cases same : other = address
  · subst same
    rw [valuesOf, Heap.free, Function.update_self, Function.update_self]
    rfl
  · rw [valuesOf, Heap.free, Function.update_of_ne same, Function.update_of_ne same]
    rfl

/-- Turning pointers keeps the values. -/
theorem modify_values {change : Node α → Node α} (modified : heap.modify address change = some heap')
    (keeps : ∀ node, (change node).val = node.val) : valuesOf heap' = valuesOf heap := by
  rw [Heap.modify, Option.map_eq_some_iff] at modified
  obtain ⟨node, here, rfl⟩ := modified
  rw [valuesOf_update, keeps]
  apply Function.update_eq_self_iff.mpr
  rw [valuesOf, here]
  rfl

theorem turned_values {change : Node α → Node α} {ends : Ends}
    (turned : (heap.modify address change).map (fun modified => (modified, ends)) = some (heap', list'))
    (keeps : ∀ node, (change node).val = node.val) : valuesOf heap' = valuesOf heap := by
  rw [Option.map_eq_some_iff] at turned
  obtain ⟨modified, isModified, same⟩ := turned
  rw [Prod.mk.injEq] at same
  rw [← same.1]
  exact modify_values isModified keeps

theorem turnNext_values {last target : Option Nat}
    (turned : turnNext heap list last target = some (heap', list')) : valuesOf heap' = valuesOf heap := by
  cases last with
  | none =>
      rw [turnNext, Option.some.injEq, Prod.mk.injEq] at turned
      rw [turned.1]
  | some last =>
      rw [turnNext] at turned
      exact turned_values turned fun _ => rfl

theorem turnPrev_values {first target : Option Nat}
    (turned : turnPrev heap list first target = some (heap', list')) : valuesOf heap' = valuesOf heap := by
  cases first with
  | none =>
      rw [turnPrev, Option.some.injEq, Prod.mk.injEq] at turned
      rw [turned.1]
  | some first =>
      rw [turnPrev] at turned
      exact turned_values turned fun _ => rfl

theorem listRpush_values (pushed : listRpush heap list address = some (heap', list')) :
    valuesOf heap' = valuesOf heap := by
  rw [listRpush] at pushed
  split at pushed
  · simp only [Option.bind_eq_bind, Option.bind_eq_some_iff] at pushed
    obtain ⟨first, isFirst, tail, -, second, isSecond, same⟩ := pushed
    obtain ⟨rfl, -⟩ := Prod.mk.inj (Option.some.inj same)
    rw [modify_values isSecond fun _ => rfl, modify_values isFirst fun _ => rfl]
  · simp only [Option.bind_eq_bind, Option.bind_eq_some_iff] at pushed
    obtain ⟨first, isFirst, same⟩ := pushed
    obtain ⟨rfl, -⟩ := Prod.mk.inj (Option.some.inj same)
    rw [modify_values isFirst fun _ => rfl]

theorem listLpush_values (pushed : listLpush heap list address = some (heap', list')) :
    valuesOf heap' = valuesOf heap := by
  rw [listLpush] at pushed
  split at pushed
  · simp only [Option.bind_eq_bind, Option.bind_eq_some_iff] at pushed
    obtain ⟨first, isFirst, head, -, second, isSecond, same⟩ := pushed
    obtain ⟨rfl, -⟩ := Prod.mk.inj (Option.some.inj same)
    rw [modify_values isSecond fun _ => rfl, modify_values isFirst fun _ => rfl]
  · simp only [Option.bind_eq_bind, Option.bind_eq_some_iff] at pushed
    obtain ⟨first, isFirst, same⟩ := pushed
    obtain ⟨rfl, -⟩ := Prod.mk.inj (Option.some.inj same)
    rw [modify_values isFirst fun _ => rfl]

variable {popped : Option Nat}

theorem listRpop_values (pops : listRpop heap list = some (popped, heap', list')) :
    valuesOf heap' = valuesOf heap := by
  rw [listRpop] at pops
  split at pops
  · obtain ⟨-, same⟩ := Prod.mk.inj (Option.some.inj pops)
    obtain ⟨rfl, -⟩ := Prod.mk.inj same
    rfl
  · simp only [Option.bind_eq_bind, Option.bind_eq_some_iff] at pops
    obtain ⟨address, -, node, -, pops⟩ := pops
    split at pops
    · simp only [Option.bind_eq_some_iff] at pops
      obtain ⟨tail, -, first, isFirst, second, isSecond, same⟩ := pops
      obtain ⟨-, same⟩ := Prod.mk.inj (Option.some.inj same)
      obtain ⟨rfl, -⟩ := Prod.mk.inj same
      rw [modify_values isSecond fun _ => rfl, modify_values isFirst fun _ => rfl]
    · simp only [Option.bind_eq_some_iff] at pops
      obtain ⟨first, isFirst, same⟩ := pops
      obtain ⟨-, same⟩ := Prod.mk.inj (Option.some.inj same)
      obtain ⟨rfl, -⟩ := Prod.mk.inj same
      rw [modify_values isFirst fun _ => rfl]

theorem listLpop_values (pops : listLpop heap list = some (popped, heap', list')) :
    valuesOf heap' = valuesOf heap := by
  rw [listLpop] at pops
  split at pops
  · obtain ⟨-, same⟩ := Prod.mk.inj (Option.some.inj pops)
    obtain ⟨rfl, -⟩ := Prod.mk.inj same
    rfl
  · simp only [Option.bind_eq_bind, Option.bind_eq_some_iff] at pops
    obtain ⟨address, -, node, -, pops⟩ := pops
    split at pops
    · simp only [Option.bind_eq_some_iff] at pops
      obtain ⟨head, -, first, isFirst, second, isSecond, same⟩ := pops
      obtain ⟨-, same⟩ := Prod.mk.inj (Option.some.inj same)
      obtain ⟨rfl, -⟩ := Prod.mk.inj same
      rw [modify_values isSecond fun _ => rfl, modify_values isFirst fun _ => rfl]
    · simp only [Option.bind_eq_some_iff] at pops
      obtain ⟨first, isFirst, same⟩ := pops
      obtain ⟨-, same⟩ := Prod.mk.inj (Option.some.inj same)
      obtain ⟨rfl, -⟩ := Prod.mk.inj same
      rw [modify_values isFirst fun _ => rfl]

/-- Only the node that is removed is not allocated any more. -/
theorem listRemove_values (removed : listRemove heap list address = some (heap', list')) :
    valuesOf heap' = Function.update (valuesOf heap) address none := by
  simp only [listRemove, Option.bind_eq_bind, Option.bind_eq_some_iff] at removed
  obtain ⟨node, -, ⟨once, ends⟩, turnedNext, later, -, ⟨twice, ends'⟩, turnedPrev, same⟩ := removed
  obtain ⟨rfl, -⟩ := Prod.mk.inj (Option.some.inj same)
  rw [valuesOf_free, turnPrev_values turnedPrev, turnNext_values turnedNext]

end Values

/-! ## Every call keeps the list a sequence -/

/-- The heap and the ends hold a sequence. -/
structure Refines (state : Heap α × Ends) (sequence : Sequence α) : Prop where
  order : ∃ cells, Represents state.1 state.2 cells ∧ cells.map Prod.fst = sequence.order
  values : valuesOf state.1 = sequence.nodes

theorem refines_listNew (heap : Heap α) : Refines (heap, listNew) ⟨valuesOf heap, []⟩ where
  order := ⟨[], ⟨List.nodup_nil, trivial, rfl, rfl, rfl⟩, rfl⟩
  values := rfl

section Calls

variable {state : Heap α × Ends} {sequence sequence' : Sequence α} {address : Nat} {val : α}
  {out : Option Nat}

/-- What is not in the list can be written. -/
theorem Refines.outside (refines : Refines state sequence) (outside : address ∉ sequence.order)
    (node : Option (Node α)) :
    Refines (Function.update state.1 address node, state.2)
      { sequence with nodes := Function.update sequence.nodes address (node.map Node.val) } where
  order := by
    obtain ⟨cells, represents, isOrder⟩ := refines.order
    refine ⟨cells, ⟨represents.apart, ?_, represents.head, represents.tail, represents.len⟩, isOrder⟩
    refine represents.chain.congr fun other among => Function.update_of_ne ?_ ..
    rintro rfl
    exact outside (isOrder ▸ among)
  values := by
    rw [← refines.values]
    cases node with
    | none => exact valuesOf_free
    | some node => exact valuesOf_update node

/-- A node with a value is allocated. -/
theorem Refines.node (refines : Refines state sequence) (allocated : sequence.nodes address ≠ none) :
    ∃ prev next val, state.1 address = some ⟨prev, next, val⟩ := by
  rw [← refines.values, valuesOf, ne_eq, Option.map_eq_none_iff] at allocated
  obtain ⟨node, here⟩ := Option.ne_none_iff_exists'.mp allocated
  exact ⟨node.prev, node.next, node.val, here⟩

/-- The nodes of the list are allocated. -/
theorem Refines.allocated (refines : Refines state sequence) (among : address ∈ sequence.order) :
    sequence.nodes address ≠ none := by
  obtain ⟨cells, represents, isOrder⟩ := refines.order
  rw [← isOrder, List.mem_map] at among
  obtain ⟨⟨here, val⟩, isCell, rfl⟩ := among
  obtain ⟨first, second, isCells⟩ := List.append_of_mem isCell
  rw [isCells] at represents
  rw [← refines.values, valuesOf, represents.node]
  exact Option.some_ne_none val

theorem Refines.rpush (refines : Refines state sequence) (allocated : sequence.nodes address ≠ none)
    (outside : address ∉ sequence.order) :
    ∃ state', listRpush state.1 state.2 address = some state' ∧
      Refines state' { sequence with order := sequence.order ++ [address] } := by
  obtain ⟨prev, next, val, here⟩ := refines.node allocated
  obtain ⟨cells, represents, isOrder⟩ := refines.order
  obtain ⟨pushed, ends, pushes, represents'⟩ :=
    listRpush_spec represents (isOrder ▸ outside) here
  refine ⟨(pushed, ends), pushes, ⟨cells ++ [(address, val)], represents', ?_⟩, ?_⟩
  · rw [List.map_append, isOrder]
    rfl
  · exact (listRpush_values pushes).trans refines.values

theorem Refines.lpush (refines : Refines state sequence) (allocated : sequence.nodes address ≠ none)
    (outside : address ∉ sequence.order) :
    ∃ state', listLpush state.1 state.2 address = some state' ∧
      Refines state' { sequence with order := address :: sequence.order } := by
  obtain ⟨prev, next, val, here⟩ := refines.node allocated
  obtain ⟨cells, represents, isOrder⟩ := refines.order
  obtain ⟨pushed, ends, pushes, represents'⟩ :=
    listLpush_spec represents (isOrder ▸ outside) here
  refine ⟨(pushed, ends), pushes, ⟨(address, val) :: cells, represents', ?_⟩, ?_⟩
  · rw [List.map_cons, isOrder]
  · exact (listLpush_values pushes).trans refines.values

theorem Refines.rpop (refines : Refines state sequence) :
    ∃ state', listRpop state.1 state.2 = some (sequence.order.getLast?, state') ∧
      Refines state' { sequence with order := sequence.order.dropLast } := by
  obtain ⟨cells, represents, isOrder⟩ := refines.order
  rcases cells.eq_nil_or_concat with rfl | ⟨front, ⟨address, val⟩, isConcat⟩
  · have isEmpty : state.2.len = 0 := represents.len
    rw [List.map_nil] at isOrder
    refine ⟨state, ?_, ⟨[], represents, ?_⟩, refines.values⟩
    · rw [listRpop, if_pos isEmpty, ← isOrder]
      rfl
    · rw [← isOrder]
      rfl
  · rw [List.concat_eq_append] at isConcat
    subst isConcat
    rw [List.map_append, List.map_singleton] at isOrder
    obtain ⟨popped, ends, pops, represents'⟩ := listRpop_spec represents
    refine ⟨(popped, ends), ?_, ⟨front, represents', ?_⟩, ?_⟩
    · rw [pops, ← isOrder, List.getLast?_concat]
    · rw [← isOrder, List.dropLast_concat]
    · exact (listRpop_values pops).trans refines.values

theorem Refines.lpop (refines : Refines state sequence) :
    ∃ state', listLpop state.1 state.2 = some (sequence.order.head?, state') ∧
      Refines state' { sequence with order := sequence.order.tail } := by
  obtain ⟨cells, represents, isOrder⟩ := refines.order
  cases cells with
  | nil =>
      have isEmpty : state.2.len = 0 := represents.len
      rw [List.map_nil] at isOrder
      refine ⟨state, ?_, ⟨[], represents, ?_⟩, refines.values⟩
      · rw [listLpop, if_pos isEmpty, ← isOrder]
        rfl
      · rw [← isOrder]
        rfl
  | cons cell cells =>
      rw [List.map_cons] at isOrder
      obtain ⟨popped, ends, pops, represents'⟩ := listLpop_spec represents
      refine ⟨(popped, ends), ?_, ⟨cells, represents', ?_⟩, ?_⟩
      · rw [pops, ← isOrder]
        rfl
      · rw [← isOrder]
        rfl
      · exact (listLpop_values pops).trans refines.values

theorem Refines.remove (refines : Refines state sequence) (among : address ∈ sequence.order) :
    ∃ state', listRemove state.1 state.2 address = some state' ∧
      Refines state' ⟨Function.update sequence.nodes address none, sequence.order.erase address⟩ := by
  obtain ⟨cells, represents, isOrder⟩ := refines.order
  rw [← isOrder, List.mem_map] at among
  obtain ⟨⟨here, val⟩, isCell, rfl⟩ := among
  obtain ⟨first, second, rfl⟩ := List.append_of_mem isCell
  obtain ⟨removed, ends, removes, represents'⟩ := listRemove_spec represents
  refine ⟨(removed, ends), removes, ⟨first ++ second, represents', ?_⟩, ?_⟩
  · have apart := represents.apart
    rw [List.map_append, List.map_cons, List.nodup_append] at apart
    have notBefore : here ∉ first.map Prod.fst := fun before =>
      apart.2.2 here before here List.mem_cons_self rfl
    rw [← isOrder, List.map_append, List.map_append, List.map_cons, List.erase_append_right _ notBefore,
      List.erase_cons_head]
  · rw [← refines.values]
    exact listRemove_values removes

/-- A call that a client may make has the result that it has on the sequence. -/
theorem perform_refines (call : Call α) (refines : Refines state sequence)
    (performs : sequence.perform call = some (out, sequence')) :
    ∃ state', perform state call = some (out, state') ∧ Refines state' sequence' := by
  cases call with
  | nodeNew address val =>
      rw [Sequence.perform, Option.ite_none_right_eq_some, Option.some.injEq, Prod.mk.injEq] at performs
      obtain ⟨free, rfl, rfl⟩ := performs
      have outside : address ∉ sequence.order := fun among => refines.allocated among free
      exact ⟨_, rfl, refines.outside outside (some ⟨none, none, val⟩)⟩
  | rpush address =>
      rw [Sequence.perform, Option.ite_none_right_eq_some, Option.some.injEq, Prod.mk.injEq] at performs
      obtain ⟨⟨allocated, outside⟩, rfl, rfl⟩ := performs
      obtain ⟨state', pushes, refines'⟩ := refines.rpush allocated outside
      refine ⟨state', ?_, refines'⟩
      rw [perform, pushes]
      rfl
  | lpush address =>
      rw [Sequence.perform, Option.ite_none_right_eq_some, Option.some.injEq, Prod.mk.injEq] at performs
      obtain ⟨⟨allocated, outside⟩, rfl, rfl⟩ := performs
      obtain ⟨state', pushes, refines'⟩ := refines.lpush allocated outside
      refine ⟨state', ?_, refines'⟩
      rw [perform, pushes]
      rfl
  | rpop =>
      rw [Sequence.perform, Option.some.injEq, Prod.mk.injEq] at performs
      obtain ⟨rfl, rfl⟩ := performs
      exact refines.rpop
  | lpop =>
      rw [Sequence.perform, Option.some.injEq, Prod.mk.injEq] at performs
      obtain ⟨rfl, rfl⟩ := performs
      exact refines.lpop
  | remove address =>
      rw [Sequence.perform, Option.ite_none_right_eq_some, Option.some.injEq, Prod.mk.injEq] at performs
      obtain ⟨among, rfl, rfl⟩ := performs
      obtain ⟨state', removes, refines'⟩ := refines.remove among
      refine ⟨state', ?_, refines'⟩
      rw [perform, removes]
      rfl
  | free address =>
      rw [Sequence.perform, Option.ite_none_right_eq_some, Option.some.injEq, Prod.mk.injEq] at performs
      obtain ⟨⟨-, outside⟩, rfl, rfl⟩ := performs
      exact ⟨_, rfl, refines.outside outside none⟩

end Calls

/-! ## Both ways along the list -/

/-- The nodes that are met from some node on, in at most so many steps, up to NULL. -/
def follow (direction : ListDirection) (heap : Heap α) : Nat → Option Nat → Option (List Nat)
  | _, none => some []
  | 0, some _ => none
  | steps + 1, some address =>
      (heap address).bind fun node =>
        (follow direction heap steps
          (match direction with | .head => node.next | .tail => node.prev)).map (address :: ·)

/-- The caller's loop around an iterator: it removes those of the nodes it is given that it chooses. -/
def iterate (chosen : Nat → Bool) : Nat → Heap α → Ends → ListIterator →
    Option (List Nat × Heap α × Ends)
  | 0, _, _, _ => none
  | turns + 1, heap, list, iter =>
      match listIteratorNext heap iter with
      | none => none
      | some (none, _) => some ([], heap, list)
      | some (some address, iter) =>
          (if chosen address then listRemove heap list address else some (heap, list)).bind
            fun (heap, list) =>
              (iterate chosen turns heap list iter).map fun (visited, state) =>
                (address :: visited, state)

/-- Both ways along the list give exactly these nodes. -/
structure Reads (heap : Heap α) (list : Ends) (order : List Nat) : Prop where
  length : list.len = order.length
  forward : follow .head heap list.len list.head = some order
  backward : follow .tail heap list.len list.tail = some order.reverse

section Traversals

variable {heap : Heap α} {list : Ends} {cells : List (Nat × α)} {front behind : Option Nat}

theorem follow_head (chain : Chain heap front cells none) :
    follow .head heap cells.length (firstOf cells none) = some (cells.map Prod.fst) := by
  induction cells generalizing front with
  | nil => rfl
  | cons cell cells inductionHypothesis =>
      obtain ⟨here, rest⟩ := chain
      rw [firstOf, List.length_cons, follow, here, Option.bind_some]
      dsimp only
      rw [inductionHypothesis rest]
      rfl

theorem follow_tail (chain : Chain heap none cells behind) :
    follow .tail heap cells.length (lastOf none cells) = some (cells.map Prod.fst).reverse := by
  induction cells using List.reverseRecOn generalizing behind with
  | nil => rfl
  | append_singleton cells cell inductionHypothesis =>
      obtain ⟨inFront, here, -⟩ := chain_append.mp chain
      rw [lastOf_append, List.length_append, List.map_append, List.reverse_append, lastOf, lastOf,
        List.length_singleton, follow, here, Option.bind_some]
      dsimp only
      rw [inductionHypothesis inFront]
      rfl

theorem reads_of_represents (represents : Represents heap list cells) :
    Reads heap list (cells.map Prod.fst) where
  length := by rw [represents.len, List.length_map]
  forward := by
    rw [represents.len, represents.head]
    exact follow_head represents.chain
  backward := by
    rw [represents.len, represents.tail]
    exact follow_tail represents.chain

/-- The cells of the nodes that are not chosen. -/
def leftOf (chosen : Nat → Bool) (cells : List (Nat × α)) : List (Nat × α) :=
  cells.filter fun cell => !chosen cell.1

theorem map_leftOf (chosen : Nat → Bool) (cells : List (Nat × α)) :
    (leftOf chosen cells).map Prod.fst = (cells.map Prod.fst).filter fun address => !chosen address := by
  rw [leftOf, List.filter_map]
  rfl

/-- What an iterator from the head still has to visit, behind the nodes that were left. -/
theorem iterate_head (chosen : Nat → Bool) {kept rest : List (Nat × α)}
    (represents : Represents heap list (kept ++ rest)) :
    ∃ heap' list', iterate chosen (rest.length + 1) heap list ⟨firstOf rest none, .head⟩ =
        some (rest.map Prod.fst, heap', list') ∧
      Represents heap' list' (kept ++ leftOf chosen rest) := by
  induction rest generalizing heap list kept with
  | nil => exact ⟨heap, list, rfl, represents⟩
  | cons cell rest inductionHypothesis =>
      obtain ⟨address, val⟩ := cell
      have next : listIteratorNext heap ⟨some address, .head⟩ =
          some (some address, ⟨firstOf rest none, .head⟩) := by
        rw [listIteratorNext]
        dsimp only
        rw [represents.node]
        rfl
      rw [List.length_cons, firstOf, iterate, next]
      dsimp only
      by_cases isChosen : chosen address = true
      · obtain ⟨removed, ends, removes, represents'⟩ := listRemove_spec represents
        obtain ⟨heap', list', iterates, left⟩ := inductionHypothesis represents'
        refine ⟨heap', list', ?_, ?_⟩
        · rw [if_pos isChosen, removes, Option.bind_some]
          dsimp only
          rw [iterates]
          rfl
        · rw [leftOf, List.filter_cons_of_neg]
          · exact left
          · rw [isChosen]
            exact Bool.false_ne_true
      · have passed : kept ++ (address, val) :: rest = (kept ++ [(address, val)]) ++ rest := by
          rw [List.append_assoc]
          rfl
        rw [passed] at represents
        obtain ⟨heap', list', iterates, left⟩ := inductionHypothesis represents
        refine ⟨heap', list', ?_, ?_⟩
        · rw [if_neg isChosen, Option.bind_some]
          dsimp only
          rw [iterates]
          rfl
        · rw [leftOf, List.filter_cons_of_pos]
          · rw [List.append_assoc] at left
            exact left
          · rw [Bool.not_eq_true] at isChosen
            rw [isChosen]
            rfl

/-- What an iterator from the tail still has to visit, in front of the nodes that were left. -/
theorem iterate_tail (chosen : Nat → Bool) {kept rest : List (Nat × α)}
    (represents : Represents heap list (rest ++ kept)) :
    ∃ heap' list', iterate chosen (rest.length + 1) heap list ⟨lastOf none rest, .tail⟩ =
        some ((rest.map Prod.fst).reverse, heap', list') ∧
      Represents heap' list' (leftOf chosen rest ++ kept) := by
  induction rest using List.reverseRecOn generalizing heap list kept with
  | nil => exact ⟨heap, list, rfl, represents⟩
  | append_singleton rest cell inductionHypothesis =>
      obtain ⟨address, val⟩ := cell
      rw [List.append_assoc, List.singleton_append] at represents
      rw [lastOf_append, List.length_append, List.map_append, List.reverse_append, lastOf, lastOf,
        List.length_singleton, iterate, listIteratorNext_tail represents, leftOf, List.filter_append]
      dsimp only
      by_cases isChosen : chosen address = true
      · obtain ⟨removed, ends, removes, represents'⟩ := listRemove_spec represents
        obtain ⟨heap', list', iterates, left⟩ := inductionHypothesis represents'
        refine ⟨heap', list', ?_, ?_⟩
        · rw [if_pos isChosen, removes, Option.bind_some]
          dsimp only
          rw [iterates]
          rfl
        · rw [List.filter_cons_of_neg, List.filter_nil, List.append_nil]
          · exact left
          · rw [isChosen]
            exact Bool.false_ne_true
      · obtain ⟨heap', list', iterates, left⟩ := inductionHypothesis represents
        refine ⟨heap', list', ?_, ?_⟩
        · rw [if_neg isChosen, Option.bind_some]
          dsimp only
          rw [iterates]
          rfl
        · rw [List.filter_cons_of_pos, List.filter_nil, List.append_assoc]
          · exact left
          · rw [Bool.not_eq_true] at isChosen
            rw [isChosen]
            rfl

end Traversals

/-! ## Runs -/

/-- The order in which an iterator meets the nodes. -/
def met (direction : ListDirection) (order : List Nat) : List Nat :=
  match direction with
  | .head => order
  | .tail => order.reverse

/-- The heap and the ends are a list with the nodes and the values of a sequence, also for an iterator
whose caller removes nodes. -/
structure IsList (heap : Heap α) (list : Ends) (sequence : Sequence α) : Prop where
  reads : Reads heap list sequence.order
  values : ∀ address, (heap address).map Node.val = sequence.nodes address
  allocated : ∀ address ∈ sequence.order, sequence.nodes address ≠ none
  iterates : ∀ direction chosen, ∃ heap' list',
    iterate chosen (list.len + 1) heap list (listIteratorNew list direction) =
        some (met direction sequence.order, heap', list') ∧
      Reads heap' list' (sequence.order.filter fun address => !chosen address)

theorem Refines.isList {heap : Heap α} {list : Ends} {sequence : Sequence α}
    (refines : Refines (heap, list) sequence) : IsList heap list sequence where
  reads := by
    obtain ⟨cells, represents, isOrder⟩ := refines.order
    exact isOrder ▸ reads_of_represents represents
  values address := congrFun refines.values address
  allocated address among := refines.allocated among
  iterates direction chosen := by
    obtain ⟨cells, represents, isOrder⟩ := refines.order
    rw [← isOrder, ← map_leftOf, represents.len]
    cases direction with
    | head =>
        obtain ⟨heap', list', iterates, left⟩ := @iterate_head α heap list chosen [] cells represents
        rw [listIteratorNew, represents.head]
        exact ⟨heap', list', iterates, reads_of_represents left⟩
    | tail =>
        rw [← List.append_nil cells] at represents
        obtain ⟨heap', list', iterates, left⟩ := iterate_tail chosen represents
        rw [List.append_nil] at represents left
        rw [listIteratorNew, represents.tail]
        exact ⟨heap', list', iterates, reads_of_represents left⟩

/-- Whatever a client does with a new list, the calls give what they give on the sequence, and the list
is the one of the sequence. -/
theorem list_represents (heap : Heap α) (calls : List (Call α)) (results : List (Option Nat))
    (sequence : Sequence α)
    (performs : runSome Sequence.perform ⟨valuesOf heap, []⟩ calls = some (results, sequence)) :
    ∃ heap' list', runSome perform (heap, listNew) calls = some (results, heap', list') ∧
      IsList heap' list' sequence := by
  obtain ⟨⟨heap', list'⟩, runs, refines⟩ :=
    runSome_simulates Refines (fun _ _ call _ _ related step => perform_refines call related step)
      (refines_listNew heap) performs
  exact ⟨heap', list', runs, refines.isList⟩

/-- A node is removed from the middle, and the last one popped and freed. -/
theorem list_represents_3 :
    ∃ heap list, runSome perform (fun _ => none, listNew)
        [.nodeNew 1 'a', .nodeNew 2 'b', .nodeNew 3 'c', .rpush 1, .rpush 2, .lpush 3, .remove 1, .rpop,
          .free 2] =
        some ([some 1, some 2, some 3, some 1, some 2, some 3, none, some 2, none], heap, list) ∧
      Reads heap list [3] := by
  obtain ⟨heap, list, runs, isList⟩ := list_represents (fun _ => none)
    [.nodeNew 1 'a', .nodeNew 2 'b', .nodeNew 3 'c', .rpush 1, .rpush 2, .lpush 3, .remove 1, .rpop, .free 2]
    [some 1, some 2, some 3, some 1, some 2, some 3, none, some 2, none] ⟨_, [3]⟩ rfl
  exact ⟨heap, list, runs, isList.reads⟩

end UIoT.LinkedList
