import UIoT.Lib.Chains

/-!
# Linked lists

The lists of `utils_list.c`, with their nodes on a heap. A call that would read
or write a node that is not allocated has no result.

On a list with given cells, `list_remove` takes one cell out
(`listRemove_spec`), a push puts one at either end (`listRpush_spec`,
`listLpush_spec`), a pop takes one from there (`listRpop_spec`, `listLpop_spec`), and
an iterator from the tail stands in front of the cells it has passed
(`listIteratorNext_tail`).
-/

set_option autoImplicit false

namespace UIoT.LinkedList

open Chains

variable {α : Type}

/-! ## The functions -/

/-- `ListDirection` -/
inductive ListDirection where
  | head | tail

/-- `ListIterator` -/
structure ListIterator where
  next : Option Nat
  direction : ListDirection

/-- `list_iterator_new`, when it is allocated. -/
def listIteratorNew (list : Ends) (direction : ListDirection) : ListIterator :=
  match direction with
  | .head => ⟨list.head, direction⟩
  | .tail => ⟨list.tail, direction⟩

/-- `list_iterator_next` -/
def listIteratorNext (heap : Heap α) (iter : ListIterator) : Option (Option Nat × ListIterator) :=
  match iter.next with
  | none => some (none, iter)
  | some curr =>
      (heap curr).map fun node =>
        match iter.direction with
        | .head => (some curr, { iter with next := node.next })
        | .tail => (some curr, { iter with next := node.prev })

/-- `list_remove`. Freeing the value is left to the heap of the values. -/
def listRemove (heap : Heap α) (list : Ends) (address : Nat) : Option (Heap α × Ends) := do
  let node ← heap address
  let (heap, list) ← turnNext heap list node.prev node.next
  let node ← heap address
  let (heap, list) ← turnPrev heap list node.next node.prev
  return (heap.free address, { list with len := list.len - 1 })

/-- `list_rpush` of a node that `list_node_new` has made. -/
def listRpush (heap : Heap α) (list : Ends) (address : Nat) : Option (Heap α × Ends) := do
  if list.len ≠ 0 then
    let heap ← heap.modify address fun node => { node with prev := list.tail, next := none }
    let tail ← list.tail
    let heap ← heap.modify tail fun node => { node with next := some address }
    return (heap, { list with tail := some address, len := list.len + 1 })
  else
    let heap ← heap.modify address fun node => { node with prev := none, next := none }
    return (heap, ⟨some address, some address, list.len + 1⟩)

/-- `list_lpush` of a node that `list_node_new` has made. -/
def listLpush (heap : Heap α) (list : Ends) (address : Nat) : Option (Heap α × Ends) := do
  if list.len ≠ 0 then
    let heap ← heap.modify address fun node => { node with next := list.head, prev := none }
    let head ← list.head
    let heap ← heap.modify head fun node => { node with prev := some address }
    return (heap, { list with head := some address, len := list.len + 1 })
  else
    let heap ← heap.modify address fun node => { node with prev := none, next := none }
    return (heap, ⟨some address, some address, list.len + 1⟩)

/-- `list_rpop`, with the node that it returns. -/
def listRpop (heap : Heap α) (list : Ends) : Option (Option Nat × Heap α × Ends) := do
  if list.len = 0 then return (none, heap, list)
  else
    let address ← list.tail
    let node ← heap address
    if list.len - 1 ≠ 0 then
      let tail ← node.prev
      let heap ← heap.modify tail fun node => { node with next := none }
      let heap ← heap.modify address fun node => { node with next := none, prev := none }
      return (some address, heap, { list with tail := some tail, len := list.len - 1 })
    else
      let heap ← heap.modify address fun node => { node with next := none, prev := none }
      return (some address, heap, ⟨none, none, list.len - 1⟩)

/-- `list_lpop`, with the node that it returns. -/
def listLpop (heap : Heap α) (list : Ends) : Option (Option Nat × Heap α × Ends) := do
  if list.len = 0 then return (none, heap, list)
  else
    let address ← list.head
    let node ← heap address
    if list.len - 1 ≠ 0 then
      let head ← node.next
      let heap ← heap.modify head fun node => { node with prev := none }
      let heap ← heap.modify address fun node => { node with next := none, prev := none }
      return (some address, heap, { list with head := some head, len := list.len - 1 })
    else
      let heap ← heap.modify address fun node => { node with next := none, prev := none }
      return (some address, heap, ⟨none, none, list.len - 1⟩)

/-! ## What they do -/

section Specs

variable {heap : Heap α} {list : Ends} {cells first second : List (Nat × α)} {address : Nat} {val : α}

/-- An iterator from the tail that stands at the end of `first` gives its last
cell. -/
theorem listIteratorNext_tail (represents : Represents heap list (first ++ (address, val) :: second)) :
    listIteratorNext heap ⟨some address, .tail⟩ =
      some (some address, ⟨lastOf none first, .tail⟩) := by
  simp only [listIteratorNext, represents.node, Option.map_some]

theorem listRemove_spec (represents : Represents heap list (first ++ (address, val) :: second)) :
    ∃ removed ends, listRemove heap list address = some (removed, ends) ∧
      Represents removed ends (first ++ second) := by
  obtain ⟨once, twice, turnedNext, same, turnedPrev, rest⟩ := represents.remove
  refine ⟨_, _, ?_, rest⟩
  simp only [listRemove, represents.node, Option.bind_eq_bind, Option.bind_some, turnedNext, same,
    turnedPrev]
  rfl

/-- A node that is not in the list is put at its end. -/
theorem listRpush_spec (represents : Represents heap list cells)
    (isNew : address ∉ cells.map Prod.fst) {prev next : Option Nat}
    (made : heap address = some ⟨prev, next, val⟩) :
    ∃ pushed ends, listRpush heap list address = some (pushed, ends) ∧
      Represents pushed ends (cells ++ [(address, val)]) := by
  have outside : ∀ other ∈ cells.map Prod.fst, other ≠ address := by
    rintro other among rfl
    exact isNew among
  have apart : ((cells ++ [(address, val)]).map Prod.fst).Nodup := by
    rw [List.map_append, List.map_singleton, List.nodup_append]
    refine ⟨represents.apart, List.nodup_singleton _, fun other among last isLast => ?_⟩
    rw [List.mem_singleton.mp isLast]
    exact outside other among
  let stored : Heap α := Function.update heap address (some ⟨lastOf none cells, none, val⟩)
  have kept : Chain stored none cells none :=
    represents.chain.congr fun other among => Function.update_of_ne (outside other among) ..
  obtain ⟨turned, turnedNext, chain, same⟩ :=
    turnNext_spec kept represents.apart represents.head (some address)
  have here : turned address = some ⟨lastOf none cells, none, val⟩ :=
    (same address isNew).trans (Function.update_self ..)
  rcases cells.eq_nil_or_concat with rfl | ⟨front, ⟨last, lastVal⟩, isConcat⟩
  · refine ⟨stored, ⟨some address, some address, list.len + 1⟩, ?_, apart, ?_, rfl, rfl, ?_⟩
    · simp only [listRpush, represents.len, List.length_nil, ne_eq, not_true_eq_false, if_false,
        Heap.modify, made, Option.map_some, Option.bind_eq_bind, Option.bind_some]
      rfl
    · exact ⟨Function.update_self .., trivial⟩
    · simp [represents.len]
  · rw [List.concat_eq_append] at isConcat
    have isTail : list.tail = some last := by
      rw [represents.tail, isConcat, lastOf_append]
      rfl
    have nonempty : list.len ≠ 0 := by
      rw [represents.len, isConcat]
      simp
    rw [← represents.tail, isTail] at turnedNext
    refine ⟨turned, { list with tail := some address, len := list.len + 1 }, ?_, apart, ?_, ?_,
      ?_, ?_⟩
    · simp only [turnNext, Option.map_eq_some_iff, Prod.mk.injEq] at turnedNext
      obtain ⟨after, modified, rfl, -⟩ := turnedNext
      have wrote : heap.modify address
          (fun node => { node with prev := some last, next := none }) = some stored := by
        rw [Heap.modify, made, ← isTail, represents.tail]
        rfl
      simp only [listRpush, if_pos nonempty, isTail, Option.bind_eq_bind, wrote, Option.bind_some,
        modified]
      rfl
    · exact chain_append.mpr ⟨chain, here, trivial⟩
    · rw [represents.head, isConcat, firstOf_append, firstOf_append, firstOf_append]
      rfl
    · rw [lastOf_append]
      rfl
    · simp [represents.len]

/-- A node that is not in the list is put at its start. -/
theorem listLpush_spec (represents : Represents heap list cells)
    (isNew : address ∉ cells.map Prod.fst) {prev next : Option Nat}
    (made : heap address = some ⟨prev, next, val⟩) :
    ∃ pushed ends, listLpush heap list address = some (pushed, ends) ∧
      Represents pushed ends ((address, val) :: cells) := by
  have apart : (((address, val) :: cells).map Prod.fst).Nodup :=
    List.nodup_cons.mpr ⟨isNew, represents.apart⟩
  let stored : Heap α := Function.update heap address (some ⟨none, firstOf cells none, val⟩)
  have kept : Chain stored none cells none := by
    refine represents.chain.congr fun other among => Function.update_of_ne ?_ ..
    rintro rfl
    exact isNew among
  obtain ⟨turned, turnedPrev, chain, same⟩ :=
    turnPrev_spec kept represents.apart represents.tail (some address)
  have here : turned address = some ⟨none, firstOf cells none, val⟩ :=
    (same address isNew).trans (Function.update_self ..)
  cases cells with
  | nil =>
      refine ⟨stored, ⟨some address, some address, list.len + 1⟩, ?_, apart, ?_, rfl, rfl, ?_⟩
      · simp only [listLpush, represents.len, List.length_nil, ne_eq, not_true_eq_false, if_false,
          Heap.modify, made, Option.map_some, Option.bind_eq_bind, Option.bind_some]
        rfl
      · exact ⟨Function.update_self .., trivial⟩
      · simp [represents.len]
  | cons cell cells =>
      have isHead : list.head = some cell.1 := represents.head
      have nonempty : list.len ≠ 0 := by
        rw [represents.len]
        exact Nat.succ_ne_zero _
      refine ⟨turned, { list with head := some address, len := list.len + 1 }, ?_, apart, ?_, ?_,
        ?_, ?_⟩
      · simp only [turnPrev, firstOf, Option.map_eq_some_iff, Prod.mk.injEq] at turnedPrev
        obtain ⟨after, modified, rfl, -⟩ := turnedPrev
        have wrote : heap.modify address
            (fun node => { node with next := some cell.1, prev := none }) = some stored := by
          rw [Heap.modify, made]
          rfl
        simp only [listLpush, if_pos nonempty, isHead, Option.bind_eq_bind, wrote, Option.bind_some,
          modified]
        rfl
      · exact ⟨here, chain⟩
      · rfl
      · exact represents.tail
      · simp [represents.len]

/-- A node that is taken from the list points nowhere. -/
theorem modify_alone {before : Heap α} {prev next : Option Nat}
    (here : before address = some ⟨prev, next, val⟩) :
    before.modify address (fun node => { node with next := none, prev := none }) =
      some (Function.update before address (some ⟨none, none, val⟩)) := by
  rw [Heap.modify, here]
  rfl

/-- The last node is taken out and returned. -/
theorem listRpop_spec (represents : Represents heap list (cells ++ [(address, val)])) :
    ∃ popped ends, listRpop heap list = some (some address, popped, ends) ∧
      Represents popped ends cells := by
  have apart := represents.apart
  rw [List.map_append, List.map_singleton, List.nodup_append] at apart
  obtain ⟨inFront, here, -⟩ := chain_append.mp represents.chain
  have notAmong : address ∉ cells.map Prod.fst := fun among =>
    apart.2.2 address among address (List.mem_singleton_self address) rfl
  have length : list.len = cells.length + 1 := by
    rw [represents.len, List.length_append, List.length_singleton]
  have isTail : list.tail = some address := by
    rw [represents.tail, lastOf_append]
    rfl
  have head : list.head = firstOf cells (some address) := by
    rw [represents.head, firstOf_append]
    rfl
  obtain ⟨turned, turnedNext, chain, same⟩ := turnNext_spec inFront apart.1 head none
  have hereTurned : turned address = some ⟨lastOf none cells, none, val⟩ :=
    (same address notAmong).trans here
  have kept : Chain (Function.update turned address (some ⟨none, none, val⟩)) none cells none := by
    refine chain.congr fun other among => Function.update_of_ne ?_ ..
    rintro rfl
    exact notAmong among
  rcases cells.eq_nil_or_concat with rfl | ⟨front, ⟨last, lastVal⟩, isConcat⟩
  · refine ⟨Function.update heap address (some ⟨none, none, val⟩), ⟨none, none, list.len - 1⟩, ?_,
      List.nodup_nil, trivial, rfl, rfl, ?_⟩
    · have one : ¬list.len = 0 := by omega
      have last : ¬list.len - 1 ≠ 0 := by
        rw [length]
        exact fun more => more rfl
      rw [listRpop, if_neg one, isTail, Option.bind_eq_bind, Option.bind_some, here,
        Option.bind_eq_bind, Option.bind_some, if_neg last, modify_alone here]
      rfl
    · rw [length]
      rfl
  · rw [List.concat_eq_append] at isConcat
    have isLast : lastOf none cells = some last := by
      rw [isConcat, lastOf_append]
      rfl
    have notEmpty : 0 < cells.length := by
      rw [isConcat, List.length_append]
      exact Nat.succ_pos _
    refine ⟨_, { list with tail := some last, len := list.len - 1 }, ?_, apart.1, kept, ?_, ?_, ?_⟩
    · have one : ¬list.len = 0 := by omega
      have more : list.len - 1 ≠ 0 := by omega
      rw [isLast] at here turnedNext
      simp only [turnNext, Option.map_eq_some_iff, Prod.mk.injEq] at turnedNext
      obtain ⟨after, modified, rfl, -⟩ := turnedNext
      rw [listRpop, if_neg one, isTail, Option.bind_eq_bind, Option.bind_some, here,
        Option.bind_eq_bind, Option.bind_some, if_pos more, Option.bind_eq_bind, Option.bind_some,
        modified, Option.bind_some, modify_alone hereTurned]
      rfl
    · rw [head, isConcat, firstOf_append, firstOf_append]
      rfl
    · exact isLast.symm
    · rw [length]
      rfl

/-- The first node is taken out and returned. -/
theorem listLpop_spec (represents : Represents heap list ((address, val) :: cells)) :
    ∃ popped ends, listLpop heap list = some (some address, popped, ends) ∧
      Represents popped ends cells := by
  have apart := List.nodup_cons.mp represents.apart
  obtain ⟨here, behind⟩ := represents.chain
  obtain ⟨turned, turnedPrev, chain, same⟩ := turnPrev_spec behind apart.2 represents.tail none
  have hereTurned : turned address = some ⟨none, firstOf cells none, val⟩ :=
    (same address apart.1).trans here
  have kept : Chain (Function.update turned address (some ⟨none, none, val⟩)) none cells none := by
    refine chain.congr fun other among => Function.update_of_ne ?_ ..
    rintro rfl
    exact apart.1 among
  have isHead : list.head = some address := represents.head
  have length : list.len = cells.length + 1 := represents.len
  have one : ¬list.len = 0 := by omega
  cases cells with
  | nil =>
      refine ⟨Function.update heap address (some ⟨none, none, val⟩), ⟨none, none, list.len - 1⟩, ?_,
        List.nodup_nil, trivial, rfl, rfl, ?_⟩
      · have last : ¬list.len - 1 ≠ 0 := by
          rw [length]
          exact fun more => more rfl
        rw [listLpop, if_neg one, isHead, Option.bind_eq_bind, Option.bind_some, here,
          Option.bind_eq_bind, Option.bind_some, if_neg last, modify_alone here]
        rfl
      · rw [length]
        rfl
  | cons cell cells =>
      refine ⟨_, { list with head := some cell.1, len := list.len - 1 }, ?_, apart.2, kept, rfl, ?_,
        ?_⟩
      · have more : list.len - 1 ≠ 0 := by
          rw [length]
          exact Nat.succ_ne_zero _
        simp only [turnPrev, firstOf, Option.map_eq_some_iff, Prod.mk.injEq] at turnedPrev
        obtain ⟨after, modified, rfl, -⟩ := turnedPrev
        rw [listLpop, if_neg one, isHead, Option.bind_eq_bind, Option.bind_some, here,
          Option.bind_eq_bind, Option.bind_some, if_pos more, firstOf, Option.bind_eq_bind,
          Option.bind_some, modified, Option.bind_some, modify_alone hereTurned]
        rfl
      · exact represents.tail
      · rw [length]
        rfl

end Specs

end UIoT.LinkedList
