import Mathlib.Data.List.Nodup

/-!
# Runs of a machine

A machine takes a state and an input to a state and outputs. A run folds it
over a list of inputs. `Along` says that every step of a run satisfies a
relation between the state before it and its input; `Along.invariant` is the
induction rule for invariants whose steps are guarded so.

A run may be logged: `logOf` collects what each step emits. When the emitted
identifiers are alive, and identifiers become alive only fresh from a counter,
no identifier is logged twice (`logOf_nodup`).
-/

set_option autoImplicit false

namespace UIoT.Runs

variable {State Input Out Id : Type} (step : State → Input → State × Out)

/-! ## Runs -/

/-- The state after a run and the outputs of its steps. -/
def run : State → List Input → State × List Out
  | s, [] => (s, [])
  | s, input :: inputs =>
      let (middle, out) := step s input
      let (last, outs) := run middle inputs
      (last, out :: outs)

@[simp] theorem run_nil (s : State) : run step s [] = (s, []) := rfl

@[simp] theorem run_cons_fst (s : State) (input : Input) (inputs : List Input) :
    (run step s (input :: inputs)).1 = (run step (step s input).1 inputs).1 := rfl

@[simp] theorem run_cons_snd (s : State) (input : Input) (inputs : List Input) :
    (run step s (input :: inputs)).2 = (step s input).2 :: (run step (step s input).1 inputs).2 :=
  rfl

theorem run_append_fst (s : State) (first second : List Input) :
    (run step s (first ++ second)).1 = (run step (run step s first).1 second).1 := by
  induction first generalizing s with
  | nil => rfl
  | cons input first inductionHypothesis => exact inductionHypothesis (step s input).1

theorem run_append_snd (s : State) (first second : List Input) :
    (run step s (first ++ second)).2 =
      (run step s first).2 ++ (run step (run step s first).1 second).2 := by
  induction first generalizing s with
  | nil => rfl
  | cons input first inductionHypothesis =>
      exact congrArg ((step s input).2 :: ·) (inductionHypothesis (step s input).1)

/-! ## What runs reach -/

section Reaches

variable {O : Type} {step : State → Input → State × List O} {first second third : State}
  {outs outs' : List O}

/-- Some run takes a state to another with these outputs. -/
def Reaches (step : State → Input → State × List O) (first second : State) (outs : List O) : Prop :=
  ∃ inputs, (run step first inputs).1 = second ∧ (run step first inputs).2.flatten = outs

theorem Reaches.refl (s : State) : Reaches step s s [] := ⟨[], rfl, rfl⟩

theorem Reaches.one (s : State) (input : Input) :
    Reaches step s (step s input).1 (step s input).2 :=
  ⟨[input], rfl, List.append_nil _⟩

theorem Reaches.trans (start : Reaches step first second outs)
    (rest : Reaches step second third outs') : Reaches step first third (outs ++ outs') := by
  obtain ⟨inputs, rfl, rfl⟩ := start
  obtain ⟨inputs', rfl, rfl⟩ := rest
  refine ⟨inputs ++ inputs', run_append_fst _ _ _ _, ?_⟩
  rw [run_append_snd, List.flatten_append]

/-- A machine reaches what a machine reaches whose inputs it has. -/
theorem Reaches.embed {Input' : Type} {step' : State → Input' → State × List O}
    (reaches : Reaches step first second outs) (embedding : Input → Input')
    (same : ∀ s input, step' s (embedding input) = step s input) :
    Reaches step' first second outs := by
  obtain ⟨inputs, rfl, rfl⟩ := reaches
  have sameRun : ∀ s, run step' s (inputs.map embedding) = run step s inputs := by
    induction inputs with
    | nil => exact fun _ => rfl
    | cons input inputs inductionHypothesis =>
        intro s
        simp only [List.map_cons, run, same, inductionHypothesis]
  exact ⟨inputs.map embedding, by rw [sameRun], by rw [sameRun]⟩

end Reaches

/-! ## What holds at every step -/

/-- Every step of a run satisfies the relation. -/
def Along (guard : State → Input → Prop) : State → List Input → Prop
  | _, [] => True
  | s, input :: inputs => guard s input ∧ Along guard (step s input).1 inputs

instance decidableAlong (guard : State → Input → Prop) [∀ s input, Decidable (guard s input)] :
    (s : State) → (inputs : List Input) → Decidable (Along step guard s inputs)
  | _, [] => inferInstanceAs (Decidable True)
  | s, input :: inputs =>
      have := decidableAlong guard (step s input).1 inputs
      inferInstanceAs (Decidable (guard s input ∧ Along step guard (step s input).1 inputs))

variable {step} {guard : State → Input → Prop} {s : State} {inputs : List Input}

theorem along_append {first second : List Input} :
    Along step guard s (first ++ second) ↔
      Along step guard s first ∧ Along step guard (run step s first).1 second := by
  induction first generalizing s with
  | nil => simp [Along]
  | cons input first inductionHypothesis =>
      simp only [List.cons_append, Along, run_cons_fst, inductionHypothesis, and_assoc]

/-- An invariant that every guarded step preserves holds at every step of a
guarded run. -/
theorem Along.invariant (along : Along step guard s inputs) (inv : State → Prop) (start : inv s)
    (preserved : ∀ s input, inv s → guard s input → inv (step s input).1) :
    Along step (fun s input => inv s ∧ guard s input) s inputs ∧ inv (run step s inputs).1 := by
  induction inputs generalizing s with
  | nil => exact ⟨trivial, start⟩
  | cons input inputs inductionHypothesis =>
      obtain ⟨rest, last⟩ :=
        inductionHypothesis along.2 (preserved s input start along.1)
      exact ⟨⟨⟨start, along.1⟩, rest⟩, last⟩

theorem Along.mono {other : State → Input → Prop} (along : Along step guard s inputs)
    (imp : ∀ s input, guard s input → other s input) : Along step other s inputs := by
  induction inputs generalizing s with
  | nil => trivial
  | cons input inputs inductionHypothesis =>
      exact ⟨imp s input along.1, inductionHypothesis along.2⟩

/-- Two relations hold along the same runs when an invariant that their steps preserve makes
them the same. -/
theorem along_iff {other : State → Input → Prop} (inv : State → Prop) (start : inv s)
    (same : ∀ s input, inv s → (guard s input ↔ other s input))
    (preserved : ∀ s input, inv s → other s input → inv (step s input).1) :
    Along step guard s inputs ↔ Along step other s inputs := by
  induction inputs generalizing s with
  | nil => exact Iff.rfl
  | cons input inputs inductionHypothesis =>
      constructor
      · rintro ⟨first, rest⟩
        have first := (same s input start).mp first
        exact ⟨first, (inductionHypothesis (preserved s input start first)).mp rest⟩
      · rintro ⟨first, rest⟩
        exact ⟨(same s input start).mpr first,
          (inductionHypothesis (preserved s input start first)).mpr rest⟩

/-- What holds along a run holds at the step behind any part of it. -/
theorem Along.at {before after : List Input} {input : Input}
    (along : Along step guard s (before ++ input :: after)) :
    guard (run step s before).1 input :=
  (along_append.mp along).2.1

/-- A relation that every input satisfies in every state holds along a run. -/
theorem along_of_forall (step : State → Input → State × Out) {guard : State → Input → Prop}
    (s : State) {inputs : List Input} (all : ∀ input ∈ inputs, ∀ s, guard s input) :
    Along step guard s inputs := by
  induction inputs generalizing s with
  | nil => trivial
  | cons input inputs inductionHypothesis =>
      exact ⟨all input List.mem_cons_self s,
        inductionHypothesis _ fun other member => all other (List.mem_cons_of_mem _ member)⟩

/-- An unguarded run satisfies the trivial guard. -/
theorem along_true (step : State → Input → State × Out) (s : State) (inputs : List Input) :
    Along step (fun _ _ => True) s inputs :=
  along_of_forall step s fun _ _ _ => trivial

/-- What a state holds and what enters is what leaves and what is held behind. -/
theorem run_conserves {Item : Type} (held : State → List Item) (entered left : Out → List Item)
    (each : ∀ s input,
      held s ++ entered (step s input).2 = left (step s input).2 ++ held (step s input).1)
    (s : State) (inputs : List Input) :
    held s ++ (run step s inputs).2.flatMap entered =
      (run step s inputs).2.flatMap left ++ held (run step s inputs).1 := by
  induction inputs generalizing s with
  | nil => exact List.append_nil _
  | cons input inputs inductionHypothesis =>
      calc held s ++ (run step s (input :: inputs)).2.flatMap entered
          = held s ++ entered (step s input).2 ++
              (run step (step s input).1 inputs).2.flatMap entered := by
            rw [run_cons_snd, List.flatMap_cons, List.append_assoc]
        _ = left (step s input).2 ++ (held (step s input).1 ++
              (run step (step s input).1 inputs).2.flatMap entered) := by
            rw [each, List.append_assoc]
        _ = (run step s (input :: inputs)).2.flatMap left ++
              held (run step s (input :: inputs)).1 := by
            rw [inductionHypothesis, run_cons_snd, run_cons_fst, List.flatMap_cons,
              List.append_assoc]

/-! ## Logs -/

/-- What the steps of a run emit, in order. -/
def logOf (step : State → Input → State × Out) (emit : State → Input → List Id) :
    State → List Input → List Id
  | _, [] => []
  | s, input :: inputs => emit s input ++ logOf step emit (step s input).1 inputs

theorem logOf_map {Id' : Type} (step : State → Input → State × Out) (emit : State → Input → List Id)
    (f : Id → Id') (s : State) (inputs : List Input) :
    (logOf step emit s inputs).map f = logOf step (fun s input => (emit s input).map f) s inputs := by
  induction inputs generalizing s with
  | nil => rfl
  | cons input inputs inductionHypothesis =>
      rw [logOf, logOf, List.map_append, inductionHypothesis]

/-- The identifiers alive in a state, and the counter above all of them. -/
structure Fresh (live : State → List Id) (emit : State → Input → List Id) (below : State → Id → Prop)
    (s : State) (input : Input) (s' : State) : Prop where
  emitsLive : ∀ i ∈ emit s input, i ∈ live s
  emitsOnce : (emit s input).Nodup
  retires : ∀ i ∈ emit s input, i ∉ live s'
  liveBelow : ∀ i ∈ live s, below s i
  belowGrows : ∀ i, below s i → below s' i
  startsFresh : ∀ i ∈ live s', below s i → i ∈ live s

/-- Identifiers are logged only while alive and are not alive again. -/
theorem logOf_nodup {live : State → List Id} {emit : State → Input → List Id}
    {below : State → Id → Prop}
    (along : Along step (fun s input => Fresh live emit below s input (step s input).1) s inputs) :
    (logOf step emit s inputs).Nodup ∧
      ∀ i ∈ logOf step emit s inputs, below s i → i ∈ live s := by
  induction inputs generalizing s with
  | nil => simp [logOf]
  | cons input inputs inductionHypothesis =>
      obtain ⟨fresh, rest⟩ := along
      obtain ⟨later, laterLive⟩ := inductionHypothesis rest
      have disjoint : ∀ i ∈ emit s input, i ∉ logOf step emit (step s input).1 inputs := by
        intro i emitted logged
        have known := fresh.belowGrows i (fresh.liveBelow i (fresh.emitsLive i emitted))
        exact fresh.retires i emitted (laterLive i logged known)
      refine ⟨List.nodup_append.mpr ⟨fresh.emitsOnce, later, ?_⟩, ?_⟩
      · rintro i emitted j logged rfl
        exact disjoint i emitted logged
      · intro i logged known
        rcases List.mem_append.mp logged with emitted | logged
        · exact fresh.emitsLive i emitted
        · exact fresh.startsFresh i (laterLive i logged (fresh.belowGrows i known)) known

end UIoT.Runs
