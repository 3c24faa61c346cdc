import Mathlib.Data.List.Nodup

/-!
# A handle in a variable

A program makes handles and keeps the last one in a variable. What it releases or uses is
what the variable holds. A ledger numbers the handles as they are made and lists those that
are released. It is sound when the variable holds no released handle, none is released
twice, and nothing is done through NULL or a released handle.

Where the variable stands says which calls are allowed, and that is all there is to know of
the ledger: calls leave it sound just when each is allowed and the variable is not left
with a released handle (`Orderly.sound_iff`).
-/

set_option autoImplicit false

namespace UIoT.Handles

/-! ## Calls and the ledger -/

/-- What a program does to the variable, or through it. -/
inductive HandleCall where
  /-- A handle is made, or there is no memory for it, and stored. -/
  | make (made : Bool)
  | release
  | use
  /-- The variable itself is freed. -/
  | forget
  deriving DecidableEq, Repr

structure Ledger where
  holds : Option Nat
  made : Nat
  released : List Nat
  misused : Bool
  deriving DecidableEq, Repr

def Ledger.empty : Ledger := ⟨none, 0, [], false⟩

/-- Whether a handle cannot be used. -/
def Ledger.bad (ledger : Ledger) : Bool := ledger.holds.all (· ∈ ledger.released)

def Ledger.act (ledger : Ledger) : HandleCall → Ledger
  | .make true => { ledger with holds := some ledger.made, made := ledger.made + 1 }
  | .make false => { ledger with holds := none }
  | .release =>
      { ledger with
        released := ledger.holds.toList ++ ledger.released
        misused := ledger.misused || ledger.bad }
  | .use => { ledger with misused := ledger.misused || ledger.bad }
  | .forget => { ledger with holds := none }

def Ledger.acts (ledger : Ledger) (calls : List HandleCall) : Ledger := calls.foldl Ledger.act ledger

/-- The variable is NULL or holds a handle that is not released, none is released twice, and
nothing has been done through NULL or a released handle. -/
structure Ledger.Sound (ledger : Ledger) : Prop where
  holds : ∀ handle ∈ ledger.holds, handle ∉ ledger.released
  once : ledger.released.Nodup
  wellUsed : ledger.misused = false

/-! ## Where the variable stands -/

inductive Standing where
  | null
  | held
  | freed
  deriving DecidableEq, Repr

theorem Standing.null_ne_freed : Standing.null ≠ .freed := Standing.noConfusion

theorem Standing.held_ne_freed : Standing.held ≠ .freed := Standing.noConfusion

theorem Standing.made_ne_freed (made : Bool) : (if made then Standing.held else .null) ≠ .freed := by
  cases made with
  | false => exact null_ne_freed
  | true => exact held_ne_freed

def Standing.after : Standing → HandleCall → Standing
  | _, .make true => held
  | _, .make false => null
  | _, .release => freed
  | standing, .use => standing
  | _, .forget => null

def Standing.afterAll (standing : Standing) (calls : List HandleCall) : Standing :=
  calls.foldl Standing.after standing

def Standing.Allows (standing : Standing) : HandleCall → Prop
  | .release | .use => standing = held
  | _ => True

/-- Each call is allowed where the ones before it leave the variable. -/
def Standing.AllowsAll : Standing → List HandleCall → Prop
  | _, [] => True
  | standing, call :: calls => standing.Allows call ∧ (standing.after call).AllowsAll calls

theorem Standing.afterAll_append (standing : Standing) (first second : List HandleCall) :
    standing.afterAll (first ++ second) = (standing.afterAll first).afterAll second :=
  List.foldl_append

theorem Standing.allowsAll_append {standing : Standing} {first second : List HandleCall} :
    standing.AllowsAll (first ++ second) ↔
      standing.AllowsAll first ∧ (standing.afterAll first).AllowsAll second := by
  induction first generalizing standing with
  | nil => exact (and_iff_right trivial).symm
  | cons call first inductionHypothesis =>
      calc standing.AllowsAll (call :: first ++ second)
          ↔ standing.Allows call ∧ (standing.after call).AllowsAll (first ++ second) := Iff.rfl
        _ ↔ standing.Allows call ∧ (standing.after call).AllowsAll first ∧
              ((standing.after call).afterAll first).AllowsAll second :=
            and_congr_right fun _ => inductionHypothesis
        _ ↔ standing.AllowsAll (call :: first) ∧
              (standing.afterAll (call :: first)).AllowsAll second := and_assoc.symm

/-- A ledger in order, whose variable stands so. -/
structure Orderly (ledger : Ledger) (standing : Standing) : Prop where
  stands :
    match standing with
    | .null => ledger.holds = none
    | .held => ∃ handle, ledger.holds = some handle ∧ handle ∉ ledger.released
    | .freed => ∃ handle, ledger.holds = some handle ∧ handle ∈ ledger.released
  once : ledger.released.Nodup
  wellUsed : ledger.misused = false
  held : ∀ handle ∈ ledger.holds, handle < ledger.made
  known : ∀ handle ∈ ledger.released, handle < ledger.made

variable {ledger : Ledger} {standing : Standing} {call : HandleCall} {calls : List HandleCall}

theorem orderly_empty : Orderly .empty .null where
  stands := rfl
  once := List.nodup_nil
  wellUsed := rfl
  held := fun _ among => nomatch among
  known := fun _ among => nomatch among

/-- Only a handle that is held can be used. -/
theorem Orderly.bad_iff (orderly : Orderly ledger standing) : ledger.bad = true ↔ standing ≠ .held := by
  have stands := orderly.stands
  rw [Ledger.bad]
  cases standing with
  | null => simp [stands]
  | held =>
      obtain ⟨handle, isHeld, notReleased⟩ := stands
      simp [isHeld, notReleased]
  | freed =>
      obtain ⟨handle, isHeld, isReleased⟩ := stands
      simp [isHeld, isReleased]

/-- An allowed call leaves the ledger in order. -/
theorem Orderly.act (orderly : Orderly ledger standing) (allows : standing.Allows call) :
    Orderly (ledger.act call) (standing.after call) := by
  have stands := orderly.stands
  cases call with
  | make made =>
      cases made with
      | true =>
          refine ⟨⟨ledger.made, rfl, fun among => ?_⟩, orderly.once, orderly.wellUsed, ?_, ?_⟩
          · exact absurd (orderly.known _ among) (Nat.lt_irrefl _)
          · intro handle among
            cases among
            exact Nat.lt_succ_self _
          · exact fun handle among => Nat.lt_succ_of_lt (orderly.known handle among)
      | false =>
          exact ⟨rfl, orderly.once, orderly.wellUsed, (fun _ among => nomatch among), orderly.known⟩
  | release =>
      have isHeld : standing = .held := allows
      subst isHeld
      obtain ⟨handle, holds, notReleased⟩ := stands
      have good : ledger.bad = false := by
        rw [← Bool.not_eq_true, orderly.bad_iff]
        exact not_not.mpr rfl
      simp only [Ledger.act, holds, Option.toList_some, List.singleton_append, good, Bool.or_false]
      refine ⟨⟨handle, rfl, List.mem_cons_self⟩, ?_, orderly.wellUsed, ?_, ?_⟩
      · exact List.nodup_cons.mpr ⟨notReleased, orderly.once⟩
      · exact holds ▸ orderly.held
      · intro other among
        rcases List.mem_cons.mp among with rfl | among
        · exact orderly.held other holds
        · exact orderly.known other among
  | use =>
      have isHeld : standing = .held := allows
      subst isHeld
      have good : ledger.bad = false := by
        rw [← Bool.not_eq_true, orderly.bad_iff]
        exact not_not.mpr rfl
      simp only [Ledger.act, good, Bool.or_false]
      exact ⟨stands, orderly.once, orderly.wellUsed, orderly.held, orderly.known⟩
  | forget =>
      exact ⟨rfl, orderly.once, orderly.wellUsed, (fun _ among => nomatch among), orderly.known⟩

theorem Orderly.acts (orderly : Orderly ledger standing) (allows : standing.AllowsAll calls) :
    Orderly (ledger.acts calls) (standing.afterAll calls) := by
  induction calls generalizing ledger standing with
  | nil => exact orderly
  | cons call calls inductionHypothesis =>
      exact inductionHypothesis (orderly.act allows.1) allows.2

/-- What is misused stays so. -/
theorem misused_acts (misused : ledger.misused = true) : (ledger.acts calls).misused = true := by
  induction calls generalizing ledger with
  | nil => exact misused
  | cons call calls inductionHypothesis =>
      apply inductionHypothesis
      cases call with
      | make made => cases made <;> exact misused
      | release => simp [Ledger.act, misused]
      | use => simp [Ledger.act, misused]
      | forget => exact misused

/-- A call that is not allowed is a misuse. -/
theorem Orderly.misused (orderly : Orderly ledger standing) (forbidden : ¬standing.AllowsAll calls) :
    (ledger.acts calls).misused = true := by
  induction calls generalizing ledger standing with
  | nil => exact absurd trivial forbidden
  | cons call calls inductionHypothesis =>
      by_cases allows : standing.Allows call
      · exact inductionHypothesis (orderly.act allows) fun rest => forbidden ⟨allows, rest⟩
      · show ((ledger.act call).acts calls).misused = true
        apply misused_acts
        cases call with
        | make made => exact absurd trivial allows
        | forget => exact absurd trivial allows
        | release => simp [Ledger.act, orderly.bad_iff.mpr allows]
        | use => simp [Ledger.act, orderly.bad_iff.mpr allows]

theorem Orderly.sound (orderly : Orderly ledger standing) (notFreed : standing ≠ .freed) :
    ledger.Sound := by
  refine ⟨?_, orderly.once, orderly.wellUsed⟩
  have stands := orderly.stands
  intro handle isHeld
  cases standing with
  | null =>
      rw [stands] at isHeld
      cases isHeld
  | held =>
      obtain ⟨other, isOther, notReleased⟩ := stands
      rw [isOther] at isHeld
      cases isHeld
      exact notReleased
  | freed => exact absurd rfl notFreed

/-- **The ledger.** Calls leave a ledger sound just when each is allowed and the variable is
not left with a released handle. -/
theorem Orderly.sound_iff (orderly : Orderly ledger standing) :
    (ledger.acts calls).Sound ↔ standing.AllowsAll calls ∧ standing.afterAll calls ≠ .freed := by
  constructor
  · intro sound
    have allows : standing.AllowsAll calls := by
      by_contra forbidden
      exact Bool.noConfusion (sound.wellUsed.symm.trans (orderly.misused forbidden))
    refine ⟨allows, fun isFreed => ?_⟩
    have stands := (orderly.acts allows).stands
    rw [isFreed] at stands
    obtain ⟨handle, isHeld, isReleased⟩ := stands
    exact sound.holds handle isHeld isReleased
  · rintro ⟨allows, notFreed⟩
    exact (orderly.acts allows).sound notFreed

end UIoT.Handles
