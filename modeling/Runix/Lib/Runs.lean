import Mathlib.Data.List.Basic

/-!
# Runs of a deterministic machine

A machine is a step function on states, driven by a list of events.  The rules
below turn facts about one step into facts about every state of a run: a plain
invariant, an invariant that holds exactly as long as every step meets a guard,
and a value that survives every step meeting a guard.
-/

namespace Runix.Lib.Runs

variable {State Event : Type*} (step : State → Event → State)

variable (guard : State → Event → Prop) (start : State) (property : State → Prop)
variable (events : List Event)

def run : State :=
  events.foldl step start

@[simp]
theorem run_nil : run step start [] = start := rfl

@[simp]
theorem run_cons (event : Event) (rest : List Event) :
    run step start (event :: rest) = run step (step start event) rest := rfl

theorem run_append (first second : List Event) :
    run step start (first ++ second) = run step (run step start first) second :=
  List.foldl_append

theorem run_snoc (event : Event) :
    run step start (events ++ [event]) = step (run step start events) event := by
  rw [run_append]
  rfl

variable {invariant : State → Prop}

theorem run_invariant (preserved : ∀ state event, invariant state → invariant (step state event))
    (events : List Event) (start : State) (initial : invariant start) :
    invariant (run step start events) := by
  induction events generalizing start with
  | nil => exact initial
  | cons event rest ih => exact ih (step start event) (preserved start event initial)

/-- The property holds in every state the run passes through, the first and the
last included. -/
def EveryState (start : State) (events : List Event) : Prop :=
  ∀ before, before <+: events → property (run step start before)

/-- Every event of the run meets the guard in the state it is applied to. -/
def EveryStep : Prop :=
  ∀ before event, before ++ [event] <+: events → guard (run step start before) event

theorem every_state_nil (start : State) : EveryState step property start [] ↔ property start := by
  constructor
  · intro holds
    exact holds [] (List.prefix_refl [])
  · intro holds before reached
    rw [List.prefix_nil.mp reached]
    exact holds

theorem every_state_cons (start : State) (event : Event) (rest : List Event) :
    EveryState step property start (event :: rest) ↔
      property start ∧ EveryState step property (step start event) rest := by
  constructor
  · intro holds
    refine ⟨holds [] (List.nil_prefix), fun before reached => ?_⟩
    exact holds (event :: before) ((List.prefix_cons_inj event).mpr reached)
  · rintro ⟨first, later⟩ before reached
    cases before with
    | nil => exact first
    | cons head tail =>
      obtain ⟨rfl, tailReached⟩ := List.cons_prefix_cons.mp reached
      exact later tail tailReached

theorem every_step_nil : EveryStep step guard start [] := by
  intro before event reached
  simp at reached

theorem every_step_cons (event : Event) (rest : List Event) :
    EveryStep step guard start (event :: rest) ↔
      guard start event ∧ EveryStep step guard (step start event) rest := by
  constructor
  · intro holds
    refine ⟨holds [] event (by simp), fun before next reached => ?_⟩
    exact holds (event :: before) next ((List.prefix_cons_inj event).mpr reached)
  · rintro ⟨first, later⟩ before next reached
    cases before with
    | nil =>
      obtain ⟨rfl, -⟩ := List.cons_prefix_cons.mp reached
      exact first
    | cons head tail =>
      obtain ⟨rfl, tailReached⟩ := List.cons_prefix_cons.mp reached
      exact later tail next tailReached

instance decidableEveryStep (guard : State → Event → Prop)
    [∀ state event, Decidable (guard state event)] (start : State) :
    (events : List Event) → Decidable (EveryStep step guard start events)
  | [] => isTrue (every_step_nil step guard start)
  | event :: rest =>
    haveI := decidableEveryStep guard (step start event) rest
    decidable_of_iff _ (every_step_cons step guard start event rest).symm

variable {guard : State → Event → Prop}

theorem run_guarded
    (preserved : ∀ state event, invariant state → guard state event → invariant (step state event))
    (events : List Event) (start : State) (initial : invariant start)
    (guarded : EveryStep step guard start events) : invariant (run step start events) := by
  induction events generalizing start with
  | nil => exact initial
  | cons event rest ih =>
    obtain ⟨met, later⟩ := (every_step_cons step guard start event rest).mp guarded
    exact ih (step start event) (preserved start event initial met) later

/-- If, in states satisfying the invariant, a step keeps the property exactly
when it meets the guard, then the property holds throughout a run exactly when
every step of the run meets the guard. -/
theorem every_state_iff_every_step {invariant property : State → Prop}
    (preserved : ∀ state event, invariant state → invariant (step state event))
    (exactStep : ∀ state event, invariant state → property state →
      (property (step state event) ↔ guard state event))
    (events : List Event) (start : State) (initial : invariant start)
    (holds : property start) :
    EveryState step property start events ↔ EveryStep step guard start events := by
  induction events generalizing start with
  | nil =>
    rw [every_state_nil]
    exact iff_of_true holds (every_step_nil step guard start)
  | cons event rest ih =>
    rw [every_state_cons, every_step_cons]
    have nextInvariant := preserved start event initial
    constructor
    · rintro ⟨-, later⟩
      have next : property (step start event) := later [] List.nil_prefix
      exact ⟨(exactStep start event initial holds).mp next,
        (ih (step start event) nextInvariant next).mp later⟩
    · rintro ⟨met, later⟩
      have next := (exactStep start event initial holds).mpr met
      exact ⟨holds, (ih (step start event) nextInvariant next).mpr later⟩

/-- A reading of the state that every guarded step leaves alone has the same
value at both ends of a run all of whose steps meet the guard. -/
theorem run_reading_unchanged {Reading : Type*} (reading : State → Reading)
    (preserved : ∀ state event, invariant state → invariant (step state event))
    (unchanged : ∀ state event, invariant state → guard state event →
      reading (step state event) = reading state)
    (events : List Event) (start : State) (initial : invariant start)
    (guarded : EveryStep step guard start events) :
    reading (run step start events) = reading start := by
  induction events generalizing start with
  | nil => rfl
  | cons event rest ih =>
    obtain ⟨met, later⟩ := (every_step_cons step guard start event rest).mp guarded
    rw [run_cons, ih (step start event) (preserved start event initial) later]
    exact unchanged start event initial met

end Runix.Lib.Runs
