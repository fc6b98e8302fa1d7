import Mathlib.Tactic.TypeStar

/-!
# Programs that question their surroundings

A program asks one question at a time and goes on with the answer; a failed index
or an overflow ends it as `panicked`.  What answers is given separately, as a
function on states.
-/

namespace Runix.Lib.Programs

inductive Program (Question : Type) (Answer : Question → Type) (Value : Type) where
  | done (value : Value)
  | panicked
  | ask (question : Question) (next : Answer question → Program Question Answer Value)

namespace Program

variable {Question : Type} {Answer : Question → Type} {Value Other State : Type}

def bind : Program Question Answer Value → (Value → Program Question Answer Other) →
    Program Question Answer Other
  | done value, rest => rest value
  | panicked, _ => panicked
  | ask question next, rest => ask question fun answer => (next answer).bind rest

instance : Monad (Program Question Answer) where
  pure := done
  bind := bind

section Runs

variable (serve : (question : Question) → State → Answer question × State)

def run : Program Question Answer Value → State → Option Value × State
  | done value, state => (some value, state)
  | panicked, state => (none, state)
  | ask question next, state =>
    (next (serve question state).1).run (serve question state).2

theorem run_bind (program : Program Question Answer Value)
    (rest : Value → Program Question Answer Other) (state : State) :
    (program >>= rest).run serve state =
      (program.run serve state).1.elim (none, (program.run serve state).2) fun value =>
        (rest value).run serve (program.run serve state).2 := by
  change (program.bind rest).run serve state = _
  induction program generalizing state with
  | done value => rfl
  | panicked => rfl
  | ask question next ih => exact ih (serve question state).1 (serve question state).2

variable {serve}

theorem run_invariant (invariant : State → Prop)
    (preserved : ∀ question state, invariant state → invariant (serve question state).2)
    (program : Program Question Answer Value) {state : State} (initial : invariant state) :
    invariant (program.run serve state).2 := by
  induction program generalizing state with
  | done value => exact initial
  | panicked => exact initial
  | ask question next ih => exact ih _ (preserved question state initial)

end Runs

section Judgement

variable {Ghost : Type} (admits : Ghost → (question : Question) → Answer question → Ghost → Prop)
variable (asks : Question → Prop)

/-- Whatever admissible answers it gets, the program does not panic, asks only what it may and
ends with a value that meets the postcondition.  A ghost value follows what was answered. -/
def Meets (post : Value → Ghost → Prop) : Program Question Answer Value → Ghost → Prop
  | done value, ghost => post value ghost
  | panicked, _ => False
  | ask question next, ghost =>
    asks question ∧ ∀ answer after, admits ghost question answer after →
      (next answer).Meets post after

variable {admits asks} {program : Program Question Answer Value} {post : Value → Ghost → Prop}

theorem Meets.bind {rest : Value → Program Question Answer Other} {last : Other → Ghost → Prop}
    {ghost : Ghost} (meets : program.Meets admits asks post ghost)
    (then' : ∀ value after, post value after → (rest value).Meets admits asks last after) :
    (program >>= rest).Meets admits asks last ghost := by
  change (program.bind rest).Meets admits asks last ghost
  induction program generalizing ghost with
  | done value => exact then' value ghost meets
  | panicked => exact meets
  | ask question next ih =>
    exact ⟨meets.1, fun answer after fine => ih answer (meets.2 answer after fine)⟩

/-- What holds of a run in surroundings that answer admissibly. -/
theorem Meets.run (serve : (question : Question) → State → Answer question × State)
    (follows : State → Ghost → Prop)
    (sound : ∀ question state ghost, follows state ghost → asks question →
      ∃ after, admits ghost question (serve question state).1 after ∧
        follows (serve question state).2 after) {ghost : Ghost}
    (meets : program.Meets admits asks post ghost) (state : State)
    (initial : follows state ghost) :
    ∃ value after, (program.run serve state).1 = some value ∧ post value after ∧
      follows (program.run serve state).2 after := by
  induction program generalizing state ghost with
  | done value => exact ⟨value, ghost, rfl, meets, initial⟩
  | panicked => exact meets.elim
  | ask question next ih =>
    obtain ⟨after, fine, kept⟩ := sound question state ghost initial meets.1
    exact ih _ (meets.2 _ after fine) _ kept

end Judgement

end Program

end Runix.Lib.Programs
