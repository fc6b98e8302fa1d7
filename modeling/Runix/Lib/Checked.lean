import Runix.Lib.Words

/-!
# Computations that return an error or panic

A function of a language with checked arithmetic ends in one of three ways: with a value, with
an error it returns, or in a panic, where an operation overflowed or an index was out of range.
`Outcome` is how such a function ends; `Action` is one that also changes a state, and keeps what it has
changed when it fails.

`Meets` is the judgement for both: there is no panic, and a value satisfies the postcondition.
Nothing is said of an error that is returned.
-/

namespace Runix.Lib.Checked

open Lib.Words

inductive Halt (Error : Type) where
  | returned (error : Error)
  | panicked
deriving DecidableEq

abbrev Outcome (Error Value : Type) : Type := Except (Halt Error) Value

abbrev Action (State Error Value : Type) : Type := ExceptT (Halt Error) (StateM State) Value

variable {State Error Value Other Item : Type}

def checked (outcome : Outcome Error Value) : Action State Error Value :=
  ExceptT.mk fun state => (outcome, state)

/-- `map_err`. -/
def Outcome.mapError {Renamed : Type} (rename : Error → Renamed) :
    Outcome Error Value → Outcome Renamed Value
  | .ok value => .ok value
  | .error (.returned error) => .error (.returned (rename error))
  | .error .panicked => .error .panicked

def Action.mapError {Renamed : Type} (rename : Error → Renamed) (action : Action State Error Value) :
    Action State Renamed Value :=
  ExceptT.mk fun state =>
    (Outcome.mapError rename (action.run.run state).1, (action.run.run state).2)

variable {items : List Item} {value : Value}

section Operations

def panicked : Outcome Error Value := .error .panicked

def fail (error : Error) : Outcome Error Value := .error (.returned error)

def failIf (condition : Prop) [Decidable condition] (error : Error) : Outcome Error Unit :=
  if condition then fail error else .ok ()

/-- `ok_or` with `?`. -/
def orFail (error : Error) : Option Value → Outcome Error Value
  | none => fail error
  | some value => .ok value

def orPanic : Option Value → Outcome Error Value
  | none => panicked
  | some value => .ok value

/-- The operators `+`, `-` and `*` on 64-bit words panic where their checked forms give `none`. -/
def addU64 (a b : Nat) : Outcome Error Nat := orPanic (checkedAdd a b)

def subU64 (a b : Nat) : Outcome Error Nat := orPanic (checkedSub a b)

def mulU64 (a b : Nat) : Outcome Error Nat := orPanic (checkedMul a b)

/-- `get` with a range. -/
def getRange (items : List Item) (start stop : Nat) : Option (List Item) :=
  if start ≤ stop ∧ stop ≤ items.length then some ((items.drop start).take (stop - start)) else none

def slice (items : List Item) (start stop : Nat) : Outcome Error (List Item) :=
  orPanic (getRange items start stop)

def nth (items : List Item) (index : Nat) : Outcome Error Item :=
  orPanic items[index]?

variable {a b : Nat}

@[simp]
theorem addU64_eq_ok (fits : a + b ≤ u64Max) : (addU64 a b : Outcome Error Nat) = .ok (a + b) := by
  unfold addU64
  rw [checked_add_eq_some_iff.mpr ⟨fits, rfl⟩]
  rfl

@[simp]
theorem subU64_eq_ok (covered : b ≤ a) : (subU64 a b : Outcome Error Nat) = .ok (a - b) := by
  unfold subU64
  rw [checked_sub_eq_some_iff.mpr (Nat.add_sub_cancel' covered).symm]
  rfl

@[simp]
theorem mulU64_eq_ok (fits : a * b ≤ u64Max) : (mulU64 a b : Outcome Error Nat) = .ok (a * b) := by
  unfold mulU64
  rw [checked_mul_eq_some_iff.mpr ⟨fits, rfl⟩]
  rfl

theorem get_range_eq_some {start stop : Nat} (order : start ≤ stop) (bound : stop ≤ items.length) :
    getRange items start stop = some ((items.drop start).take (stop - start)) :=
  if_pos ⟨order, bound⟩

theorem slice_eq_ok {start stop : Nat} (order : start ≤ stop) (bound : stop ≤ items.length) :
    (slice items start stop : Outcome Error (List Item)) =
      .ok ((items.drop start).take (stop - start)) := by
  unfold slice
  rw [get_range_eq_some order bound]
  rfl

theorem orFail_eq_ok_iff {error : Error} {found : Option Value} :
    orFail error found = .ok value ↔ found = some value := by
  cases found <;> simp [orFail, fail]

theorem orPanic_eq_ok_iff {found : Option Value} :
    (orPanic found : Outcome Error Value) = .ok value ↔ found = some value := by
  cases found <;> simp [orPanic, panicked]

@[simp]
theorem orFail_isOk (error : Error) (found : Option Value) :
    (orFail error found).isOk = found.isSome := by
  cases found <;> rfl

@[simp]
theorem orPanic_isOk (found : Option Value) :
    (orPanic found : Outcome Error Value).isOk = found.isSome := by
  cases found <;> rfl

@[simp]
theorem failIf_isOk (condition : Prop) [Decidable condition] (error : Error) :
    (failIf condition error).isOk = decide (¬ condition) := by
  unfold failIf
  by_cases holds : condition
  · simp [holds, fail, Except.isOk, Except.toBool]
  · simp [holds, Except.isOk, Except.toBool]

end Operations

section Judgement

def Meets (outcome : Outcome Error Value) (post : Value → Prop) : Prop :=
  match outcome with
  | .ok value => post value
  | .error (.returned _) => True
  | .error .panicked => False

namespace Meets

variable {outcome : Outcome Error Value} {post : Value → Prop}

theorem ok (holds : post value) : Meets (.ok value : Outcome Error Value) post :=
  holds

theorem not_panicked (meets : Meets outcome post) : outcome ≠ .error .panicked := by
  rintro rfl
  exact meets

theorem of_eq_ok (meets : Meets outcome post) (result : outcome = .ok value) : post value := by
  rw [result] at meets
  exact meets

theorem bind {next : Value → Outcome Error Other} {last : Other → Prop} (meets : Meets outcome post)
    (then' : ∀ value, post value → Meets (next value) last) : Meets (outcome >>= next) last := by
  match outcome, meets with
  | .ok value, holds => exact then' value holds
  | .error (.returned _), _ => trivial

end Meets

theorem fail_meets (error : Error) (post : Value → Prop) : Meets (fail error) post :=
  trivial

theorem failIf_meets (condition : Prop) [Decidable condition] (error : Error) :
    Meets (failIf condition error) fun _ => ¬ condition := by
  unfold failIf
  by_cases holds : condition
  · rw [if_pos holds]
    exact fail_meets error _
  · rw [if_neg holds]
    exact holds

theorem orFail_meets (error : Error) (found : Option Value) :
    Meets (orFail error found) fun value => found = some value := by
  cases found with
  | none => exact fail_meets error _
  | some value => exact Meets.ok rfl

theorem orPanic_meets {found : Option Value} (present : found ≠ none) :
    Meets (orPanic found : Outcome Error Value) fun value => found = some value := by
  cases found with
  | none => exact absurd rfl present
  | some value => exact Meets.ok rfl

theorem slice_meets {start stop : Nat} (order : start ≤ stop) (bound : stop ≤ items.length) :
    Meets (slice items start stop : Outcome Error (List Item)) fun part =>
      part = (items.drop start).take (stop - start) := by
  rw [slice_eq_ok order bound]
  exact Meets.ok rfl

theorem nth_meets {index : Nat} (bound : index < items.length) :
    Meets (nth items index : Outcome Error Item) fun item => items[index]? = some item := by
  apply orPanic_meets
  rw [List.getElem?_eq_getElem bound]
  simp

theorem foldlM_range_meets {step : Value → Nat → Outcome Error Value}
    (invariant : Nat → Value → Prop) {first : Value} (start : invariant 0 first) (count : Nat)
    (keeps : ∀ index < count, ∀ value, invariant index value →
      Meets (step value index) (invariant (index + 1))) :
    Meets ((List.range count).foldlM step first) (invariant count) := by
  induction count with
  | zero => exact Meets.ok start
  | succ count ih =>
    rw [List.range_succ, List.foldlM_append]
    apply (ih fun index bound => keeps index (Nat.lt_succ_of_lt bound)).bind
    intro value holds
    apply (keeps count (Nat.lt_succ_self count) value holds).bind
    intro last kept
    exact Meets.ok kept

end Judgement

variable {outcome : Outcome Error Value}

theorem bind_eq_ok_iff {first : Except Error Value} {next : Value → Except Error Other}
    {last : Other} :
    first >>= next = .ok last ↔ ∃ value, first = .ok value ∧ next value = .ok last := by
  cases first <;> simp [bind, Except.bind]

theorem toOption_eq_some_iff : outcome.toOption = some value ↔ outcome = .ok value := by
  cases outcome <;> simp [Except.toOption]

theorem eq_ok_of_isOk (succeeds : outcome.isOk = true) : ∃ value, outcome = .ok value := by
  cases outcome with
  | error halt => cases succeeds
  | ok value => exact ⟨value, rfl⟩

section Actions

namespace Action

/-- The rule of an action also has the state it leaves. -/
def Meets (action : Action State Error Value) (before : State)
    (post : Value → State → Prop) : Prop :=
  match action.run.run before with
  | (.ok value, after) => post value after
  | (.error (.returned _), _) => True
  | (.error .panicked, _) => False

variable {next : Value → Action State Error Other}

namespace Meets

variable {action : Action State Error Value} {before : State} {post : Value → State → Prop}

variable (meets : Meets action before post)

include meets

theorem not_panicked : (action.run.run before).1 ≠ .error .panicked := by
  unfold Meets at meets
  intro stopped
  generalize action.run.run before = result at *
  obtain ⟨outcome, after⟩ := result
  cases stopped
  exact meets

theorem of_eq_ok (result : (action.run.run before).1 = .ok value) :
    post value (action.run.run before).2 := by
  unfold Meets at meets
  generalize action.run.run before = finished at *
  obtain ⟨outcome, after⟩ := finished
  cases result
  exact meets

theorem mono {weaker : Value → State → Prop}
    (weaken : ∀ value after, post value after → weaker value after) :
    Meets action before weaker := by
  unfold Meets at *
  generalize action.run.run before = result at *
  match result, meets with
  | (.ok value, after), holds => exact weaken value after holds
  | (.error (.returned _), _), _ => trivial

theorem bind {last : Other → State → Prop}
    (then' : ∀ value after, post value after → Meets (next value) after last) :
    Meets (action >>= next) before last := by
  have unfolded : (action >>= next).run.run before =
      (ExceptT.bindCont next (action.run.run before).1).run (action.run.run before).2 := rfl
  unfold Meets at *
  rw [unfolded]
  generalize action.run.run before = result at *
  match result, meets with
  | (.ok value, after), holds => exact then' value after holds
  | (.error (.returned _), _), _ => trivial

end Meets

variable {post : Value → State → Prop} {before : State}

theorem meets_pure (holds : post value before) :
    Meets (pure value : Action State Error Value) before post :=
  holds

theorem checked_ok_bind (value : Value) (next : Value → Action State Error Other) :
    (checked (.ok value) >>= next) = next value := rfl

variable {last : Other → State → Prop} {outcome : Outcome Error Value}

theorem meets_checked_bind {post : Value → Prop} (meets : Checked.Meets outcome post)
    (then' : ∀ value, post value → Meets (next value) before last) :
    Meets (checked outcome >>= next) before last := by
  match outcome, meets with
  | .ok value, holds => exact then' value holds
  | .error (.returned _), _ => trivial

theorem foldlM_range_meets {step : Value → Nat → Action State Error Value}
    (invariant : Nat → Value → State → Prop) {first : Value}
    (start : invariant 0 first before) (count : Nat)
    (keeps : ∀ index < count, ∀ value state, invariant index value state →
      Meets (step value index) state (invariant (index + 1))) :
    Meets ((List.range count).foldlM step first) before (invariant count) := by
  induction count with
  | zero => exact meets_pure start
  | succ count ih =>
    rw [List.range_succ, List.foldlM_append]
    apply (ih fun index bound => keeps index (Nat.lt_succ_of_lt bound)).bind
    intro value after holds
    apply (keeps count (Nat.lt_succ_self count) value after holds).bind
    intro last final kept
    exact meets_pure kept

variable {action : Action State Error Value}

theorem meets_of_run
    (holds : match action.run.run before with
      | (.ok value, after) => post value after
      | (.error (.returned _), _) => True
      | (.error .panicked, _) => False) : Meets action before post :=
  holds

theorem meets_mapError {Renamed : Type} {rename : Error → Renamed}
    (meets : Meets action before post) : Meets (action.mapError rename) before post := by
  unfold Meets at meets
  apply meets_of_run
  have unfolded : (action.mapError rename).run.run before =
      (Outcome.mapError rename (action.run.run before).1, (action.run.run before).2) := rfl
  rw [unfolded]
  generalize action.run.run before = finished at *
  match finished, meets with
  | (.ok value, after), holds => exact holds
  | (.error (.returned _), _), _ => trivial

variable {change : State → State}

theorem meets_modify {post : Unit → State → Prop} (holds : post () (change before)) :
    Meets (modify change : Action State Error Unit) before post :=
  holds

attribute [irreducible] Meets

/-! For an action that is free to fail there is a second judgement: it succeeds if and only if a
condition holds, and then its value and its state satisfy the postcondition. -/

def Exactly (action : Action State Error Value) (before : State) (possible : Prop)
    (post : Value → State → Prop) : Prop :=
  match action.run.run before with
  | (.ok value, after) => possible ∧ post value after
  | (.error _, _) => ¬ possible

namespace Exactly

variable {action : Action State Error Value} {before : State} {possible : Prop}
  {post : Value → State → Prop}

variable (exact : Exactly action before possible post)

include exact

theorem of_eq_ok (result : (action.run.run before).1 = .ok value) :
    possible ∧ post value (action.run.run before).2 := by
  unfold Exactly at exact
  generalize action.run.run before = finished at *
  obtain ⟨outcome, after⟩ := finished
  cases result
  exact exact

theorem isOk (holds : possible) : (action.run.run before).1.isOk = true := by
  unfold Exactly at exact
  generalize action.run.run before = finished at *
  obtain ⟨outcome, after⟩ := finished
  cases outcome with
  | error halt => exact absurd holds exact
  | ok value => rfl

theorem mono {condition : Prop} {weaker : Value → State → Prop} (same : possible ↔ condition)
    (weaken : ∀ value after, post value after → weaker value after) :
    Exactly action before condition weaker := by
  unfold Exactly at *
  rw [← same]
  generalize action.run.run before = finished at *
  match finished, exact with
  | (.ok value, after), ⟨holds, known⟩ => exact ⟨holds, weaken value after known⟩
  | (.error _, _), fails => exact fails

theorem bind {further : Prop} {last : Other → State → Prop}
    (then' : ∀ value after, possible → post value after → Exactly (next value) after further last) :
    Exactly (action >>= next) before (possible ∧ further) last := by
  have unfolded : (action >>= next).run.run before =
      (ExceptT.bindCont next (action.run.run before).1).run (action.run.run before).2 := rfl
  unfold Exactly at *
  rw [unfolded]
  generalize action.run.run before = result at *
  match result, exact with
  | (.ok value, after), ⟨holds, known⟩ =>
    have later := then' value after holds known
    change match (next value).run.run after with
      | (.ok value, after) => (possible ∧ further) ∧ last value after
      | (.error _, _) => ¬ (possible ∧ further)
    generalize (next value).run.run after = final at *
    match final, later with
    | (.ok other, stop), ⟨more, done⟩ => exact ⟨⟨holds, more⟩, done⟩
    | (.error _, _), fails => exact fun both => fails both.2
  | (.error _, _), fails => exact fun both => fails both.1

end Exactly

variable {possible : Prop}

theorem exactly_of_run
    (holds : match action.run.run before with
      | (.ok value, after) => possible ∧ post value after
      | (.error _, _) => ¬ possible) : Exactly action before possible post :=
  holds

theorem exactly_pure (holds : post value before) :
    Exactly (pure value : Action State Error Value) before True post :=
  ⟨trivial, holds⟩

theorem exactly_modify {post : Unit → State → Prop} (holds : post () (change before)) :
    Exactly (modify change : Action State Error Unit) before True post :=
  ⟨trivial, holds⟩

theorem exactly_get_bind {next : State → Action State Error Value}
    (exact : Exactly (next before) before possible post) :
    Exactly (get >>= next) before possible post :=
  exact

theorem exactly_modify_bind {next : Unit → Action State Error Value}
    (exact : Exactly (next ()) (change before) possible post) :
    Exactly (modify change >>= next) before possible post :=
  exact

theorem exactly_checked_bind
    (then' : ∀ value, outcome = .ok value → Exactly (next value) before possible last) :
    Exactly (checked outcome >>= next) before (outcome.isOk = true ∧ possible) last := by
  cases outcome with
  | error halt => exact fun both => Bool.false_ne_true both.1
  | ok value => exact (then' value rfl).mono (by simp [Except.isOk, Except.toBool]) fun _ _ known => known

attribute [irreducible] Exactly

end Action

end Actions

end Runix.Lib.Checked
