import Mathlib.Data.List.Nodup
import Mathlib.Data.List.Perm.Basic

/-!
# Tickets with cyclic identifiers

A desk numbers the requests it takes and gives each an identifier, which is a
function of the number and so comes round again when that function is cyclic.
Open tickets are pending until they are settled; a settled ticket may stay on
the desk for a while. Requests that are taken need not be admitted.

A desk keeps its numbers apart (`Move.valid`), and its pending tickets have
distinct identifiers as long as no number is taken whose identifier a pending
ticket has (`Move.distinct`). The cyclic identifiers of period `n` are apart
when the numbers do not differ by a multiple of `n` (`cyclicId_ne_iff`).
-/

set_option autoImplicit false

namespace UIoT.Tickets

/-- A numbered request, its identifier, and whether it is still pending. -/
structure Ticket where
  issue : Nat
  id : Nat
  pending : Bool

deriving instance DecidableEq, Repr for Ticket

/-! ## Settling -/

/-- Tickets are kept, settled or dropped, in place. -/
inductive Shrinks : List Ticket → List Ticket → Prop where
  | nil : Shrinks [] []
  | keep {ticket : Ticket} {before after : List Ticket} (rest : Shrinks before after) :
      Shrinks (ticket :: before) (ticket :: after)
  | settle {ticket : Ticket} {before after : List Ticket} (rest : Shrinks before after) :
      Shrinks (ticket :: before) ({ ticket with pending := false } :: after)
  | drop {ticket : Ticket} {before after : List Ticket} (rest : Shrinks before after) :
      Shrinks (ticket :: before) after

variable {before after before' after' : List Ticket}

theorem Shrinks.refl : (tickets : List Ticket) → Shrinks tickets tickets
  | [] => .nil
  | _ :: tickets => .keep (Shrinks.refl tickets)

theorem Shrinks.append (first : Shrinks before after) (second : Shrinks before' after') :
    Shrinks (before ++ before') (after ++ after') := by
  induction first with
  | nil => exact second
  | keep _ inductionHypothesis => exact .keep inductionHypothesis
  | settle _ inductionHypothesis => exact .settle inductionHypothesis
  | drop _ inductionHypothesis => exact .drop inductionHypothesis

/-- Dropping tickets only. -/
theorem Shrinks.of_sublist (sublist : after.Sublist before) : Shrinks before after := by
  induction sublist with
  | slnil => exact .nil
  | cons _ _ inductionHypothesis => exact .drop inductionHypothesis
  | cons_cons _ _ inductionHypothesis => exact .keep inductionHypothesis

/-- Settling some tickets only. -/
theorem Shrinks.of_map (settles : Ticket → Bool) (tickets : List Ticket) :
    Shrinks tickets
      (tickets.map fun ticket => if settles ticket then { ticket with pending := false } else ticket) := by
  induction tickets with
  | nil => exact .nil
  | cons ticket tickets inductionHypothesis =>
      rw [List.map_cons]
      by_cases settled : settles ticket
      · rw [if_pos settled]
        exact .settle inductionHypothesis
      · rw [if_neg settled]
        exact .keep inductionHypothesis

theorem Shrinks.issues_sublist (shrinks : Shrinks before after) :
    (after.map Ticket.issue).Sublist (before.map Ticket.issue) := by
  induction shrinks with
  | nil => exact .slnil
  | keep _ inductionHypothesis => exact .cons_cons _ inductionHypothesis
  | settle _ inductionHypothesis => exact .cons_cons _ inductionHypothesis
  | drop _ inductionHypothesis => exact .cons _ inductionHypothesis

/-- The pending tickets left were pending before. -/
theorem Shrinks.pending_sublist (shrinks : Shrinks before after) :
    (after.filter Ticket.pending).Sublist (before.filter Ticket.pending) := by
  induction shrinks with
  | nil => exact .slnil
  | @keep ticket _ _ _ inductionHypothesis =>
      by_cases pending : ticket.pending
      · rw [List.filter_cons_of_pos pending, List.filter_cons_of_pos pending]
        exact .cons_cons _ inductionHypothesis
      · rwa [List.filter_cons_of_neg pending, List.filter_cons_of_neg pending]
  | @settle ticket _ _ _ inductionHypothesis =>
      rw [List.filter_cons_of_neg (by simp)]
      exact inductionHypothesis.trans ((List.sublist_cons_self _ _).filter _)
  | drop _ inductionHypothesis =>
      exact inductionHypothesis.trans ((List.sublist_cons_self _ _).filter _)

/-- A ticket left has the number and identifier of one that was there. -/
theorem Shrinks.exists_of_mem (shrinks : Shrinks before after) {ticket : Ticket}
    (left : ticket ∈ after) : ∃ old ∈ before, old.issue = ticket.issue ∧ old.id = ticket.id := by
  induction shrinks with
  | nil => cases left
  | keep _ inductionHypothesis =>
      rcases List.mem_cons.mp left with rfl | among
      · exact ⟨_, List.mem_cons_self .., rfl, rfl⟩
      · obtain ⟨old, was, same⟩ := inductionHypothesis among
        exact ⟨old, List.mem_cons_of_mem _ was, same⟩
  | settle _ inductionHypothesis =>
      rcases List.mem_cons.mp left with rfl | among
      · exact ⟨_, List.mem_cons_self .., rfl, rfl⟩
      · obtain ⟨old, was, same⟩ := inductionHypothesis among
        exact ⟨old, List.mem_cons_of_mem _ was, same⟩
  | drop _ inductionHypothesis =>
      obtain ⟨old, was, same⟩ := inductionHypothesis left
      exact ⟨old, List.mem_cons_of_mem _ was, same⟩

/-- The numbers of the pending tickets. -/
def pendingIssues (tickets : List Ticket) : List Nat :=
  (tickets.filter Ticket.pending).map Ticket.issue

theorem Shrinks.pendingIssues_sublist (shrinks : Shrinks before after) :
    (pendingIssues after).Sublist (pendingIssues before) :=
  shrinks.pending_sublist.map Ticket.issue

/-! ## The desk -/

/-- The count of requests taken and the tickets on the desk. -/
structure Desk where
  issued : Nat
  tickets : List Ticket

/-- What can happen at a desk. The tickets are in no particular order. -/
inductive Move (idOf : Nat → Nat) : Desk → Desk → Prop where
  | settle {issued : Nat} {before after : List Ticket} (shrinks : Shrinks before after) :
      Move idOf ⟨issued, before⟩ ⟨issued, after⟩
  | take {issued : Nat} {tickets : List Ticket} :
      Move idOf ⟨issued, tickets⟩ ⟨issued + 1, tickets⟩
  | enter {issued : Nat} {before after : List Ticket}
      (admitted : after.Perm (⟨issued + 1, idOf (issued + 1), true⟩ :: before)) :
      Move idOf ⟨issued, before⟩ ⟨issued + 1, after⟩

/-- The tickets carry numbers that were taken, each once, and the identifiers
of their numbers. -/
structure Desk.Valid (idOf : Nat → Nat) (desk : Desk) : Prop where
  ids : ∀ ticket ∈ desk.tickets, ticket.id = idOf ticket.issue
  bounds : ∀ ticket ∈ desk.tickets, 1 ≤ ticket.issue ∧ ticket.issue ≤ desk.issued
  apart : (desk.tickets.map Ticket.issue).Nodup

/-- The pending tickets have distinct identifiers. -/
def Desk.Distinct (desk : Desk) : Prop := ((desk.tickets.filter Ticket.pending).map Ticket.id).Nodup

variable {idOf : Nat → Nat} {desk desk' : Desk}

theorem Move.valid (move : Move idOf desk desk') (valid : desk.Valid idOf) : desk'.Valid idOf := by
  cases move with
  | settle shrinks =>
      refine ⟨fun ticket left => ?_, fun ticket left => ?_,
        valid.apart.sublist shrinks.issues_sublist⟩
      · obtain ⟨old, was, issue, id⟩ := shrinks.exists_of_mem left
        rw [← issue, ← id, valid.ids old was]
      · obtain ⟨old, was, issue, -⟩ := shrinks.exists_of_mem left
        rw [← issue]
        exact valid.bounds old was
  | take =>
      exact ⟨valid.ids, fun ticket left => ⟨(valid.bounds ticket left).1,
        Nat.le_succ_of_le (valid.bounds ticket left).2⟩, valid.apart⟩
  | @enter issued before after admitted =>
      refine ⟨fun ticket left => ?_, fun ticket left => ?_, ?_⟩
      · rcases List.mem_cons.mp (admitted.subset left) with rfl | was
        · rfl
        · exact valid.ids ticket was
      · rcases List.mem_cons.mp (admitted.subset left) with rfl | was
        · exact ⟨Nat.le_add_left _ _, Nat.le_refl _⟩
        · exact ⟨(valid.bounds ticket was).1, Nat.le_succ_of_le (valid.bounds ticket was).2⟩
      · rw [(admitted.map Ticket.issue).nodup_iff, List.map_cons, List.nodup_cons]
        refine ⟨fun again => ?_, valid.apart⟩
        obtain ⟨ticket, was, issue⟩ := List.mem_map.mp again
        have bound := (valid.bounds ticket was).2
        simp only at issue bound
        omega

/-- Pending identifiers stay distinct when no number is taken whose identifier
is pending. -/
theorem Move.distinct (move : Move idOf desk desk') (valid : desk.Valid idOf)
    (distinct : desk.Distinct)
    (unused : desk'.issued ≠ desk.issued →
      ∀ ticket ∈ desk.tickets, ticket.pending = true → idOf (desk.issued + 1) ≠ idOf ticket.issue) :
    desk'.Distinct := by
  cases move with
  | settle shrinks => exact distinct.sublist (shrinks.pending_sublist.map Ticket.id)
  | take => exact distinct
  | @enter issued before after admitted =>
      have sameIds := (admitted.filter Ticket.pending).map Ticket.id
      rw [Desk.Distinct, sameIds.nodup_iff, List.filter_cons_of_pos rfl, List.map_cons,
        List.nodup_cons]
      refine ⟨fun again => ?_, distinct⟩
      obtain ⟨ticket, among, id⟩ := List.mem_map.mp again
      obtain ⟨was, pending⟩ := List.mem_filter.mp among
      refine unused (Nat.succ_ne_self _) ticket was pending ?_
      rw [← valid.ids ticket was]
      exact id.symm

/-! ## Cyclic identifiers -/

/-- The identifiers `1 … period` in turn, the first number having the second. -/
def cyclicId (period number : Nat) : Nat := number % period + 1

theorem cyclicId_succ {period : Nat} (large : 1 < period) (number : Nat) :
    cyclicId period (number + 1) =
      if cyclicId period number = period then 1 else cyclicId period number + 1 := by
  have bound := Nat.mod_lt number (by omega : 0 < period)
  unfold cyclicId
  by_cases last : number % period + 1 = period
  · rw [if_pos last, Nat.add_mod, Nat.mod_eq_of_lt large, last, Nat.mod_self]
  · rw [if_neg last, Nat.add_mod, Nat.mod_eq_of_lt large, Nat.mod_eq_of_lt (by omega)]

theorem cyclicId_bounds {period : Nat} (positive : 0 < period) (number : Nat) :
    1 ≤ cyclicId period number ∧ cyclicId period number ≤ period := by
  have bound := Nat.mod_lt number positive
  unfold cyclicId
  omega

/-- Identifiers are apart unless the numbers differ by a multiple of the period. -/
theorem cyclicId_ne_iff {period earlier later : Nat} (ordered : earlier ≤ later) :
    cyclicId period later ≠ cyclicId period earlier ↔ (later - earlier) % period ≠ 0 := by
  unfold cyclicId
  have same : later % period = earlier % period ↔ (later - earlier) % period = 0 := by
    refine ⟨Nat.sub_mod_eq_zero_of_mod_eq, fun none => ?_⟩
    obtain ⟨rounds, difference⟩ := Nat.dvd_of_mod_eq_zero none
    obtain rfl : later = earlier + period * rounds := by omega
    exact Nat.add_mul_mod_self_left ..
  omega

end UIoT.Tickets
