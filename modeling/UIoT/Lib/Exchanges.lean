import Mathlib.Data.List.Basic
import Mathlib.Logic.Relation

/-!
# An exchange over two channels

One side offers items, the other one takes them and answers some of them with a note, which the first
side reports. Both channels keep the order of what is under way and may lose it. Whatever is lost, the
items are taken in the order of the offers, each at most once, and the notes are reported in the order
of the items they answer, each at most once (`Exchange.Sound`); as long as nothing is lost, nothing is
missing in between.
-/

set_option autoImplicit false

namespace UIoT.Exchanges

variable {Item Note : Type}

/-- What has been offered, taken and reported, and what is under way. -/
structure Exchange (Item Note : Type) where
  offered : List Item
  toTake : List Item
  taken : List Item
  toReport : List Note
  reported : List Note
  intact : Bool

/-- An exchange that has not begun. -/
def Exchange.start : Exchange Item Note := ⟨[], [], [], [], [], true⟩

/-- What can happen next. -/
inductive Move (noteOf : Item → Option Note) (before : Exchange Item Note) : Exchange Item Note → Prop where
  | offer (item : Item) : Move noteOf before
      { before with offered := before.offered ++ [item], toTake := before.toTake ++ [item] }
  | take {item : Item} {rest : List Item} (front : before.toTake = item :: rest) : Move noteOf before
      { before with
        toTake := rest
        taken := before.taken ++ [item]
        toReport := before.toReport ++ (noteOf item).toList }
  | report {note : Note} {rest : List Note} (front : before.toReport = note :: rest) : Move noteOf before
      { before with toReport := rest, reported := before.reported ++ [note] }
  | lose {toTake : List Item} {toReport : List Note} (items : toTake.Sublist before.toTake)
      (notes : toReport.Sublist before.toReport) : Move noteOf before
      { before with toTake := toTake, toReport := toReport, intact := false }

/-- Whatever happens next. -/
abbrev Moves (noteOf : Item → Option Note) : Exchange Item Note → Exchange Item Note → Prop :=
  Relation.ReflTransGen (Move noteOf)

/-- Nothing is out of order, and nothing is missing unless something was lost. -/
structure Exchange.Sound (noteOf : Item → Option Note) (exchange : Exchange Item Note) : Prop where
  taken : (exchange.taken ++ exchange.toTake).Sublist exchange.offered
  reported : (exchange.reported ++ exchange.toReport).Sublist (exchange.taken.filterMap noteOf)
  allTaken : exchange.intact = true → exchange.taken ++ exchange.toTake = exchange.offered
  allReported : exchange.intact = true →
    exchange.reported ++ exchange.toReport = exchange.taken.filterMap noteOf

variable {noteOf : Item → Option Note} {before after : Exchange Item Note}

theorem sound_start : (Exchange.start : Exchange Item Note).Sound noteOf :=
  ⟨List.Sublist.refl _, List.Sublist.refl _, fun _ => rfl, fun _ => rfl⟩

theorem filterMap_append_single (items : List Item) (item : Item) :
    (items ++ [item]).filterMap noteOf = items.filterMap noteOf ++ (noteOf item).toList := by
  rw [List.filterMap_append]
  cases isNote : noteOf item with
  | none => simp [isNote]
  | some note => simp [isNote]

theorem Move.sound (move : Move noteOf before after) (sound : before.Sound noteOf) :
    after.Sound noteOf := by
  cases move with
  | offer item =>
      refine ⟨?_, sound.reported, fun intact => ?_, sound.allReported⟩
      · rw [← List.append_assoc]
        exact sound.taken.append (List.Sublist.refl _)
      · rw [← sound.allTaken intact, List.append_assoc]
  | @take item rest front =>
      have items : (before.taken ++ [item]) ++ rest = before.taken ++ before.toTake := by
        rw [front, List.append_assoc, List.singleton_append]
      refine ⟨items ▸ sound.taken, ?_, fun intact => items.trans (sound.allTaken intact), fun intact => ?_⟩
      · rw [filterMap_append_single, ← List.append_assoc]
        exact sound.reported.append (List.Sublist.refl _)
      · rw [filterMap_append_single, ← sound.allReported intact, List.append_assoc]
  | @report note rest front =>
      have notes : (before.reported ++ [note]) ++ rest = before.reported ++ before.toReport := by
        rw [front, List.append_assoc, List.singleton_append]
      exact ⟨sound.taken, notes ▸ sound.reported, sound.allTaken,
        fun intact => notes.trans (sound.allReported intact)⟩
  | lose items notes =>
      refine ⟨?_, ?_, fun broken => ?_, fun broken => ?_⟩
      · exact ((List.Sublist.refl _).append items).trans sound.taken
      · exact ((List.Sublist.refl _).append notes).trans sound.reported
      · cases broken
      · cases broken

theorem Moves.sound (moves : Moves noteOf before after) (sound : before.Sound noteOf) :
    after.Sound noteOf := by
  induction moves with
  | refl => exact sound
  | tail _ move inductionHypothesis => exact move.sound inductionHypothesis

end UIoT.Exchanges
