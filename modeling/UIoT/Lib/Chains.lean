import Mathlib.Data.List.Nodup
import Mathlib.Logic.Function.Basic

/-!
# Chains of nodes on a heap

The nodes of a doubly linked list lie at addresses, and each knows the address
in front and the address behind it. A heap says what is allocated; what is not
cannot be read or written. A chain is a run of nodes that point at each other,
given by its cells: the address and the value of each node.

A chain is cut and put together like the list of its cells (`chain_append`), it
does not depend on the rest of the heap (`Chain.congr`), and the pointer at
either end can be turned elsewhere (`turnNext_spec`, `turnPrev_spec`). Taking a
node out is turning both pointers at it (`Represents.remove`).
-/

set_option autoImplicit false

namespace UIoT.Chains

variable {α : Type}

/-! ## Nodes -/

/-- A node. NULL is `none`. -/
structure Node (α : Type) where
  prev : Option Nat
  next : Option Nat
  val : α

/-- The nodes that are allocated. -/
abbrev Heap (α : Type) := Nat → Option (Node α)

/-- A node is written; its address has to be allocated. -/
def Heap.modify (heap : Heap α) (address : Nat) (change : Node α → Node α) : Option (Heap α) :=
  (heap address).map fun node => Function.update heap address (some (change node))

/-- A node is freed. -/
def Heap.free (heap : Heap α) (address : Nat) : Heap α := Function.update heap address none

/-- The two ends of a list and its length. -/
structure Ends where
  head : Option Nat
  tail : Option Nat
  len : Nat

/-! ## Chains -/

/-- The first address of a chain, or what lies behind it. -/
def firstOf : List (Nat × α) → Option Nat → Option Nat
  | [], behind => behind
  | (address, _) :: _, _ => some address

/-- The last address of a chain, or what lies in front of it. -/
def lastOf : Option Nat → List (Nat × α) → Option Nat
  | front, [] => front
  | _, (address, _) :: cells => lastOf (some address) cells

/-- The nodes with these cells point at each other, the first at `front` and the
last at `behind`. -/
def Chain (heap : Heap α) : Option Nat → List (Nat × α) → Option Nat → Prop
  | _, [], _ => True
  | front, (address, val) :: cells, behind =>
      heap address = some ⟨front, firstOf cells behind, val⟩ ∧ Chain heap (some address) cells behind

@[simp] theorem lastOf_append (front : Option Nat) (first second : List (Nat × α)) :
    lastOf front (first ++ second) = lastOf (lastOf front first) second := by
  induction first generalizing front with
  | nil => rfl
  | cons cell first inductionHypothesis => exact inductionHypothesis (some cell.1)

@[simp] theorem firstOf_append (first second : List (Nat × α)) (behind : Option Nat) :
    firstOf (first ++ second) behind = firstOf first (firstOf second behind) := by
  cases first with
  | nil => rfl
  | cons cell first => rfl

variable {heap heap' : Heap α} {front behind : Option Nat}

theorem chain_append {first second : List (Nat × α)} :
    Chain heap front (first ++ second) behind ↔
      Chain heap front first (firstOf second behind) ∧
        Chain heap (lastOf front first) second behind := by
  induction first generalizing front with
  | nil => exact ⟨fun chain => ⟨trivial, chain⟩, fun both => both.2⟩
  | cons cell first inductionHypothesis =>
      simp only [List.cons_append, Chain, inductionHypothesis, firstOf_append, lastOf, and_assoc]

/-- A chain is a matter of its own addresses. -/
theorem Chain.congr {cells : List (Nat × α)} (chain : Chain heap front cells behind)
    (same : ∀ address ∈ cells.map Prod.fst, heap' address = heap address) :
    Chain heap' front cells behind := by
  induction cells generalizing front with
  | nil => trivial
  | cons cell cells inductionHypothesis =>
      refine ⟨(same cell.1 (List.mem_cons_self ..)).trans chain.1, ?_⟩
      exact inductionHypothesis chain.2 fun address among =>
        same address (List.mem_cons_of_mem _ among)

/-- The value of a node is replaced. -/
theorem Chain.setVal {first second : List (Nat × α)} {address : Nat} {val : α}
    (chain : Chain heap front (first ++ (address, val) :: second) behind)
    (apart : ((first ++ (address, val) :: second).map Prod.fst).Nodup) (val' : α) :
    Chain (Function.update heap address
        (some ⟨lastOf front first, firstOf second behind, val'⟩)) front
      (first ++ (address, val') :: second) behind := by
  obtain ⟨inFront, here, rest⟩ := chain_append.mp chain
  rw [List.map_append, List.map_cons, List.nodup_append, List.nodup_cons] at apart
  obtain ⟨-, ⟨notBehind, -⟩, disjoint⟩ := apart
  refine chain_append.mpr ⟨inFront.congr fun other among => ?_, Function.update_self .., ?_⟩
  · exact Function.update_of_ne (disjoint other among address (List.mem_cons_self ..)) ..
  · refine rest.congr fun other among => Function.update_of_ne ?_ ..
    rintro rfl
    exact notBehind among

/-! ## Turning a pointer -/

/-- The pointer forward at the end of a chain, or the head, is turned to `target`. -/
def turnNext (heap : Heap α) (ends : Ends) (last target : Option Nat) : Option (Heap α × Ends) :=
  match last with
  | some address =>
      (heap.modify address fun node => { node with next := target }).map fun heap => (heap, ends)
  | none => some (heap, { ends with head := target })

/-- The pointer back at the start of a chain, or the tail, is turned to `target`. -/
def turnPrev (heap : Heap α) (ends : Ends) (first target : Option Nat) : Option (Heap α × Ends) :=
  match first with
  | some address =>
      (heap.modify address fun node => { node with prev := target }).map fun heap => (heap, ends)
  | none => some (heap, { ends with tail := target })

section Turn

variable {cells : List (Nat × α)} {ends : Ends}

theorem turnNext_spec (chain : Chain heap none cells behind) (apart : (cells.map Prod.fst).Nodup)
    (head : ends.head = firstOf cells behind) (target : Option Nat) :
    ∃ turned, turnNext heap ends (lastOf none cells) target =
        some (turned, { ends with head := firstOf cells target }) ∧
      Chain turned none cells target ∧
      ∀ address ∉ cells.map Prod.fst, turned address = heap address := by
  rcases cells.eq_nil_or_concat with rfl | ⟨cells, ⟨address, val⟩, rfl⟩
  · exact ⟨heap, rfl, trivial, fun _ _ => rfl⟩
  · rw [List.concat_eq_append] at *
    rw [List.map_append, List.map_singleton, List.nodup_append] at apart
    obtain ⟨inFront, here, -⟩ := chain_append.mp chain
    have notHere : ∀ other ∈ cells.map Prod.fst, other ≠ address := fun other among =>
      apart.2.2 other among address (List.mem_singleton_self address)
    have sameHead : ends.head = firstOf (cells ++ [(address, val)]) target := by
      rw [head, firstOf_append, firstOf_append]
      rfl
    refine ⟨Function.update heap address (some ⟨lastOf none cells, target, val⟩), ?_, ?_, ?_⟩
    · rw [lastOf_append, ← sameHead]
      simp only [lastOf, turnNext, Heap.modify, here, Option.map_some]
    · refine chain_append.mpr ⟨inFront.congr fun other among => ?_, ?_, trivial⟩
      · exact Function.update_of_ne (notHere other among) ..
      · exact Function.update_self ..
    · intro other outside
      refine Function.update_of_ne ?_ ..
      rintro rfl
      exact outside (by simp)

theorem turnPrev_spec (chain : Chain heap front cells none) (apart : (cells.map Prod.fst).Nodup)
    (tail : ends.tail = lastOf front cells) (target : Option Nat) :
    ∃ turned, turnPrev heap ends (firstOf cells none) target =
        some (turned, { ends with tail := lastOf target cells }) ∧
      Chain turned target cells none ∧
      ∀ address ∉ cells.map Prod.fst, turned address = heap address := by
  cases cells with
  | nil => exact ⟨heap, rfl, trivial, fun _ _ => rfl⟩
  | cons cell cells =>
      obtain ⟨address, val⟩ := cell
      obtain ⟨here, rest⟩ := chain
      rw [List.map_cons, List.nodup_cons] at apart
      have sameTail : ends.tail = lastOf target ((address, val) :: cells) := tail
      refine ⟨Function.update heap address (some ⟨target, firstOf cells none, val⟩), ?_, ?_, ?_⟩
      · rw [← sameTail]
        simp only [firstOf, turnPrev, Heap.modify, here, Option.map_some]
      · refine ⟨Function.update_self .., rest.congr fun other among => ?_⟩
        refine Function.update_of_ne ?_ ..
        rintro rfl
        exact apart.1 among
      · intro other outside
        refine Function.update_of_ne ?_ ..
        rintro rfl
        exact outside (List.mem_cons_self ..)

end Turn

/-! ## Lists -/

/-- The heap holds a list with these cells between the ends. -/
structure Represents (heap : Heap α) (ends : Ends) (cells : List (Nat × α)) : Prop where
  apart : (cells.map Prod.fst).Nodup
  chain : Chain heap none cells none
  head : ends.head = firstOf cells none
  tail : ends.tail = lastOf none cells
  len : ends.len = cells.length

/-- A heap with nothing but a chain. -/
def Heap.ofCells : Option Nat → List (Nat × α) → Option Nat → Heap α
  | _, [], _ => fun _ => none
  | front, (address, val) :: cells, behind =>
      Function.update (Heap.ofCells (some address) cells behind) address
        (some ⟨front, firstOf cells behind, val⟩)

theorem chain_ofCells {cells : List (Nat × α)} (apart : (cells.map Prod.fst).Nodup)
    (front behind : Option Nat) : Chain (Heap.ofCells front cells behind) front cells behind := by
  induction cells generalizing front with
  | nil => trivial
  | cons cell cells inductionHypothesis =>
      rw [List.map_cons, List.nodup_cons] at apart
      refine ⟨Function.update_self .., ?_⟩
      refine (inductionHypothesis apart.2 (some cell.1)).congr fun other among => ?_
      refine Function.update_of_ne ?_ ..
      rintro rfl
      exact apart.1 among

/-- Cells at different addresses make a list. -/
theorem represents_ofCells {cells : List (Nat × α)} (apart : (cells.map Prod.fst).Nodup) :
    Represents (Heap.ofCells none cells none)
      ⟨firstOf cells none, lastOf none cells, cells.length⟩ cells :=
  ⟨apart, chain_ofCells apart none none, rfl, rfl, rfl⟩

section Lists

variable {ends : Ends} {first second : List (Nat × α)} {address : Nat} {val : α}

/-- The node of a cell. -/
theorem Represents.node (represents : Represents heap ends (first ++ (address, val) :: second)) :
    heap address = some ⟨lastOf none first, firstOf second none, val⟩ :=
  (chain_append.mp represents.chain).2.1

/-- The value of a node is replaced. -/
theorem Represents.setVal (represents : Represents heap ends (first ++ (address, val) :: second))
    (val' : α) :
    Represents
      (Function.update heap address (some ⟨lastOf none first, firstOf second none, val'⟩)) ends
      (first ++ (address, val') :: second) where
  apart := by simpa using represents.apart
  chain := represents.chain.setVal represents.apart val'
  head := by
    rw [represents.head, firstOf_append, firstOf_append]
    rfl
  tail := by simpa [lastOf] using represents.tail
  len := by simpa using represents.len

/-- Turning both pointers at a node takes it out. -/
theorem Represents.remove (represents : Represents heap ends (first ++ (address, val) :: second)) :
    ∃ once twice,
      turnNext heap ends (lastOf none first) (firstOf second none) =
          some (once, { ends with head := firstOf (first ++ second) none }) ∧
        once address = heap address ∧
        turnPrev once { ends with head := firstOf (first ++ second) none } (firstOf second none)
            (lastOf none first) =
          some (twice, { ends with
            head := firstOf (first ++ second) none, tail := lastOf none (first ++ second) }) ∧
        Represents (twice.free address)
          ⟨firstOf (first ++ second) none, lastOf none (first ++ second), ends.len - 1⟩
          (first ++ second) := by
  have apart := represents.apart
  rw [List.map_append, List.map_cons, List.nodup_append, List.nodup_cons] at apart
  obtain ⟨apartFront, ⟨notBehind, apartBehind⟩, disjoint⟩ := apart
  obtain ⟨inFront, -, rest⟩ := chain_append.mp represents.chain
  have notInFront : address ∉ first.map Prod.fst := fun among =>
    disjoint address among address (List.mem_cons_self ..) rfl
  have head : ends.head = firstOf first (some address) := by
    rw [represents.head, firstOf_append]
    rfl
  have tail : ends.tail = lastOf (some address) second := by
    rw [represents.tail, lastOf_append]
    rfl
  obtain ⟨once, turnedNext, chainFront, sameOnce⟩ :=
    turnNext_spec inFront apartFront head (firstOf second none)
  have restOnce : Chain once (some address) second none := rest.congr fun other among =>
    sameOnce other fun inFirst => disjoint other inFirst other (List.mem_cons_of_mem _ among) rfl
  let shortened : Ends := { ends with head := firstOf (first ++ second) none }
  have shortenedTail : shortened.tail = lastOf (some address) second := tail
  obtain ⟨twice, turnedPrev, chainBehind, sameTwice⟩ :=
    turnPrev_spec restOnce apartBehind shortenedTail (lastOf none first)
  rw [← firstOf_append] at turnedNext
  rw [← lastOf_append] at turnedPrev
  have notBetween : address ∉ (first ++ second).map Prod.fst := by
    rw [List.map_append, List.mem_append, not_or]
    exact ⟨notInFront, notBehind⟩
  have joined : Chain twice none (first ++ second) none := by
    refine chain_append.mpr ⟨chainFront.congr fun other among => sameTwice other ?_, chainBehind⟩
    exact fun inSecond => disjoint other among other (List.mem_cons_of_mem _ inSecond) rfl
  refine ⟨once, twice, turnedNext, sameOnce address notInFront, turnedPrev, ?_, ?_, rfl, rfl, ?_⟩
  · rw [List.map_append, List.nodup_append]
    exact ⟨apartFront, apartBehind, fun one inFirst other inSecond =>
      disjoint one inFirst other (List.mem_cons_of_mem _ inSecond)⟩
  · refine joined.congr fun other among => Function.update_of_ne ?_ ..
    rintro rfl
    exact notBetween among
  · simp [represents.len]

end Lists

end UIoT.Chains
