import Mathlib.Data.List.Basic

/-!
# Machines whose steps can fail

A step of such a machine has an output and a next state, or none. A run has one only if all its steps
do. When each step of one machine that has a result is matched by a step of another one, with the same
output and states that are related again, runs are matched as well (`runSome_simulates`).
-/

set_option autoImplicit false

namespace UIoT.Simulation

variable {State Input Out Model : Type}

/-- The outputs of the steps of a run and the state behind it. -/
def runSome (step : State → Input → Option (Out × State)) :
    State → List Input → Option (List Out × State)
  | s, [] => some ([], s)
  | s, input :: inputs =>
      (step s input).bind fun (out, middle) =>
        (runSome step middle inputs).map fun (outs, last) => (out :: outs, last)

variable {step : State → Input → Option (Out × State)} {spec : Model → Input → Option (Out × Model)}

theorem runSome_cons {s middle last : State} {input : Input} {inputs : List Input} {out : Out}
    {outs : List Out} (first : step s input = some (out, middle))
    (rest : runSome step middle inputs = some (outs, last)) :
    runSome step s (input :: inputs) = some (out :: outs, last) := by
  rw [runSome, first, Option.bind_some]
  dsimp only
  rw [rest]
  rfl

theorem runSome_cons_inv {s last : State} {input : Input} {inputs : List Input} {outs : List Out}
    (runs : runSome step s (input :: inputs) = some (outs, last)) :
    ∃ out middle rest, step s input = some (out, middle) ∧
      runSome step middle inputs = some (rest, last) ∧ outs = out :: rest := by
  rw [runSome, Option.bind_eq_some_iff] at runs
  obtain ⟨⟨out, middle⟩, first, mapped⟩ := runs
  rw [Option.map_eq_some_iff] at mapped
  obtain ⟨⟨rest, last'⟩, later, same⟩ := mapped
  rw [Prod.mk.injEq] at same
  obtain ⟨rfl, rfl⟩ := same
  exact ⟨out, middle, rest, first, later, rfl⟩

/-- Where every step is matched, so is every run. -/
theorem runSome_simulates (related : State → Model → Prop)
    (matched : ∀ s model input out model', related s model → spec model input = some (out, model') →
      ∃ s', step s input = some (out, s') ∧ related s' model')
    {s : State} {model model' : Model} (start : related s model) {inputs : List Input}
    {outs : List Out} (runs : runSome spec model inputs = some (outs, model')) :
    ∃ s', runSome step s inputs = some (outs, s') ∧ related s' model' := by
  induction inputs generalizing s model outs with
  | nil =>
      rw [runSome, Option.some.injEq, Prod.mk.injEq] at runs
      obtain ⟨rfl, rfl⟩ := runs
      exact ⟨s, rfl, start⟩
  | cons input inputs inductionHypothesis =>
      obtain ⟨out, middle, rest, first, later, rfl⟩ := runSome_cons_inv runs
      obtain ⟨next, isNext, relatedNext⟩ := matched s model input out middle start first
      obtain ⟨last, isLast, relatedLast⟩ := inductionHypothesis relatedNext later
      exact ⟨last, runSome_cons isNext isLast, relatedLast⟩

end UIoT.Simulation
