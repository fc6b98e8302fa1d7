import Mathlib.Data.List.Lex
import Mathlib.Data.List.Sort
import Runix.Lib.Words

/-!
# Billing periods

The period arithmetic and the reset gate of `mobile/src/period.rs`, over plain
tick readings supplied by the caller.  A `BillingPeriod` carries the non-zero
length its constructor checks.
-/

namespace Runix.Mobile

open Lib List

def maxPeriods : Nat := 64

def demoEarlyResetCooldownMillis : Nat := 3600000

inductive PeriodError where
  | zeroLength
  | resetBeforeStart (startTick resetAtTick : Nat)
deriving DecidableEq, Repr

def PeriodError.display : PeriodError → String
  | .zeroLength => "billing period length must be non-zero"
  | .resetBeforeStart startTick resetAtTick =>
    "reset at tick " ++ toString resetAtTick ++ " is before the period start " ++
      toString startTick

structure BillingPeriod where
  startTick : Nat
  lengthTicks : Nat
  lengthPos : lengthTicks ≠ 0
deriving DecidableEq

def BillingPeriod.new (startTick lengthTicks : Nat) : Except PeriodError BillingPeriod :=
  if zero : lengthTicks = 0 then .error .zeroLength
  else .ok { startTick := startTick, lengthTicks := lengthTicks, lengthPos := zero }

inductive PeriodAssessment where
  | active (elapsed remaining : Nat)
  | elapsed (overdueTicks periodsMissed : Nat)
  | clockBeforeStart (startTick nowTick : Nat)
deriving DecidableEq, Repr

def assessPeriod (period : BillingPeriod) (nowTick : Nat) : PeriodAssessment :=
  match Words.checkedSub nowTick period.startTick with
  | none => .clockBeforeStart period.startTick nowTick
  | some elapsed =>
    match Words.checkedSub period.lengthTicks elapsed with
    | some (remaining + 1) => .active elapsed (remaining + 1)
    | _ => .elapsed (elapsed - period.lengthTicks) (elapsed / period.lengthTicks)

inductive PeriodRequest where
  | resetUsage
deriving DecidableEq, Repr

def periodRequest (period : BillingPeriod) (nowTick : Nat) : Option PeriodRequest :=
  match assessPeriod period nowTick with
  | .elapsed _ _ => some .resetUsage
  | .active _ _ => none
  | .clockBeforeStart _ _ => none

def nextPeriod (old : BillingPeriod) (resetAtTick : Nat) : Except PeriodError BillingPeriod :=
  if resetAtTick < old.startTick then .error (.resetBeforeStart old.startTick resetAtTick)
  else BillingPeriod.new resetAtTick old.lengthTicks

inductive ResetRefusal where
  | periodActive (remaining : Nat)
  | clockBeforeStart (startTick nowTick : Nat)
  | earlyCooldown (remaining : Nat)
deriving DecidableEq, Repr

def ResetRefusal.display : ResetRefusal → String
  | .periodActive remaining =>
    "billing period still active (" ++ toString remaining ++
      " ticks remaining); a normal reset is only allowed once it has elapsed"
  | .clockBeforeStart startTick nowTick =>
    "clock before period start (now " ++ toString nowTick ++ " < start " ++
      toString startTick ++ "); reset refused"
  | .earlyCooldown remaining =>
    "early-reset cooldown: a reset was applied recently (" ++ toString remaining ++
      " ticks remaining before another early reset is allowed)"

def resetPermitted (assessment : Option PeriodAssessment) (early : Bool) :
    Except ResetRefusal Unit :=
  match assessment with
  | none => .ok ()
  | some (.elapsed _ _) => .ok ()
  | some (.active _ remaining) => if early then .ok () else .error (.periodActive remaining)
  | some (.clockBeforeStart startTick nowTick) => .error (.clockBeforeStart startTick nowTick)

def resetPermittedAt (assessment : Option PeriodAssessment) (early : Bool)
    (lastResetTick : Option Nat) (nowTick cooldownTicks : Nat) : Except ResetRefusal Unit :=
  match resetPermitted assessment early with
  | .error refusal => .error refusal
  | .ok () =>
    if !early then .ok ()
    else
      match lastResetTick with
      | none => .ok ()
      | some last =>
        match Words.checkedSub nowTick last with
        | some elapsed =>
          if elapsed ≥ cooldownTicks then .ok ()
          else .error (.earlyCooldown (cooldownTicks - elapsed))
        | none => .error (.earlyCooldown cooldownTicks)

def installPeriod (resetAtTick lengthTicks : Nat) : Except PeriodError BillingPeriod :=
  BillingPeriod.new resetAtTick lengthTicks

/-! ## The period checker -/

structure ObservedPeriod where
  account : Nat
  period : BillingPeriod
  resetRequestedSince : Option Nat
deriving DecidableEq

inductive PeriodIncidentKind where
  | tooManyPeriods
  | duplicateAccount
  | clockBeforeStart
  | periodElapsedNoReset
deriving DecidableEq, Repr

/-- Position in the derived order. -/
def PeriodIncidentKind.rank : PeriodIncidentKind → Nat
  | .tooManyPeriods => 0
  | .duplicateAccount => 1
  | .clockBeforeStart => 2
  | .periodElapsedNoReset => 3

def PeriodIncidentKind.debug : PeriodIncidentKind → String
  | .tooManyPeriods => "TooManyPeriods"
  | .duplicateAccount => "DuplicateAccount"
  | .clockBeforeStart => "ClockBeforeStart"
  | .periodElapsedNoReset => "PeriodElapsedNoReset"

structure PeriodIncident where
  kind : PeriodIncidentKind
  account : Nat
  expected : Nat
  observed : Nat
deriving DecidableEq, Repr

/-- The derived `Ord` compares the fields in order. -/
def PeriodIncident.sortKey (incident : PeriodIncident) : List Nat :=
  [incident.kind.rank, incident.account, incident.expected, incident.observed]

def PeriodIncident.display (incident : PeriodIncident) : String :=
  match incident.kind with
  | .tooManyPeriods =>
    "too many periods: " ++ toString incident.observed ++ " given, at most " ++
      toString incident.expected ++ " accepted; nothing checked"
  | .duplicateAccount =>
    "account " ++ toString incident.account ++ ": " ++ toString incident.observed ++
      " period records share this id"
  | .clockBeforeStart =>
    "account " ++ toString incident.account ++ ": clock at tick " ++
      toString incident.observed ++ " is before period start " ++ toString incident.expected
  | .periodElapsedNoReset =>
    "account " ++ toString incident.account ++ ": period elapsed, no reset by tick " ++
      toString incident.expected ++ " (now " ++ toString incident.observed ++ ")"

def dupIncident (account copies : Nat) : PeriodIncident where
  kind := .duplicateAccount
  account := account
  expected := 1
  observed := copies

/-- The duplicated ids of a sorted list with their multiplicities, in order:
`current` and `count` describe the run being read. -/
def duplicateRuns (current count : Nat) : List Nat → List (Nat × Nat)
  | [] => if count > 1 then [(current, count)] else []
  | id :: rest =>
    if current = id then duplicateRuns current (count + 1) rest
    else if count > 1 then (current, count) :: duplicateRuns id 1 rest
    else duplicateRuns id 1 rest

variable (periods : List ObservedPeriod)

def duplicateAccounts : List (Nat × Nat) :=
  match (periods.map ObservedPeriod.account).insertionSort (· ≤ ·) with
  | [] => []
  | first :: rest => duplicateRuns first 1 rest

variable (nowTick graceTicks : Nat)

def checkPeriod (observed : ObservedPeriod) : Option PeriodIncident :=
  match assessPeriod observed.period nowTick with
  | .active _ _ => none
  | .clockBeforeStart startTick _ =>
    some { kind := .clockBeforeStart, account := observed.account,
           expected := startTick, observed := nowTick }
  | .elapsed overdueTicks _ =>
    let since := max (observed.resetRequestedSince.getD 0) (nowTick - overdueTicks)
    let deadline := Words.saturatingAdd since graceTicks
    if nowTick > deadline then
      some { kind := .periodElapsedNoReset, account := observed.account,
             expected := deadline, observed := nowTick }
    else none

def checkPeriods : List PeriodIncident :=
  if periods.length > maxPeriods then
    [{ kind := .tooManyPeriods, account := 0, expected := maxPeriods,
       observed := periods.length }]
  else
    let duplicates := duplicateAccounts periods
    let checked := periods.filter fun p => !(duplicates.map Prod.fst).contains p.account
    (duplicates.map (fun run => dupIncident run.1 run.2) ++
        checked.filterMap (checkPeriod nowTick graceTicks)).insertionSort
      fun a b => a.sortKey ≤ b.sortKey

/-! ## The report is bounded -/

theorem duplicate_runs_length_le (current count : Nat) (ids : List Nat) :
    (duplicateRuns current count ids).length ≤ ids.length + 1 := by
  induction ids generalizing current count with
  | nil =>
    unfold duplicateRuns
    split_ifs <;> simp
  | cons id rest ih =>
    have same := ih current (count + 1)
    have next := ih id 1
    unfold duplicateRuns
    split_ifs <;> simp only [length_cons] <;> omega

theorem duplicate_accounts_length_le : (duplicateAccounts periods).length ≤ periods.length := by
  have sorted : ((periods.map ObservedPeriod.account).insertionSort (· ≤ ·)).length =
      periods.length := by
    rw [length_insertionSort, length_map]
  unfold duplicateAccounts
  split
  · exact Nat.zero_le _
  rename_i first rest split
  rw [split, length_cons] at sorted
  have runs := duplicate_runs_length_le first 1 rest
  omega

theorem check_periods_length_le :
    (checkPeriods periods nowTick graceTicks).length ≤ 2 * maxPeriods := by
  unfold checkPeriods
  split_ifs with large
  · simp [maxPeriods]
  have duplicates := duplicate_accounts_length_le periods
  have checked := length_filterMap_le (checkPeriod nowTick graceTicks)
    (periods.filter fun p => !((duplicateAccounts periods).map Prod.fst).contains p.account)
  have kept := length_filter_le
    (fun p : ObservedPeriod => !((duplicateAccounts periods).map Prod.fst).contains p.account)
    periods
  simp only [length_insertionSort, length_append, length_map]
  omega

/-! ## The reset gate -/

variable {period : BillingPeriod} {nowTick : Nat}

theorem assess_elapsed_bound {overdue missed : Nat}
    (assessed : assessPeriod period nowTick = .elapsed overdue missed) :
    period.startTick + period.lengthTicks ≤ nowTick := by
  unfold assessPeriod at assessed
  cases since : Words.checkedSub nowTick period.startTick with
  | none => simp [since] at assessed
  | some elapsed =>
    rw [Words.checked_sub_eq_some_iff] at since
    cases left : Words.checkedSub period.lengthTicks elapsed with
    | none =>
      rw [Words.checked_sub_eq_none_iff] at left
      omega
    | some remaining =>
      cases remaining with
      | zero =>
        rw [Words.checked_sub_eq_some_iff] at left
        omega
      | succ remaining =>
        rw [← Words.checked_sub_eq_some_iff] at since
        simp [since, left] at assessed

theorem assess_clock_not_before
    (running : ∀ start now, assessPeriod period nowTick ≠ .clockBeforeStart start now) :
    period.startTick ≤ nowTick := by
  by_contra early
  have underflow := Words.checked_sub_eq_none_iff.mpr (not_le.mp early)
  exact running period.startTick nowTick (by simp [assessPeriod, underflow])

theorem reset_permitted_normal {last : Option Nat} {cooldown : Nat}
    (permitted : resetPermittedAt (some (assessPeriod period nowTick)) false last nowTick
      cooldown = .ok ()) : period.startTick + period.lengthTicks ≤ nowTick := by
  cases assessed : assessPeriod period nowTick with
  | elapsed overdue missed => exact assess_elapsed_bound assessed
  | active elapsed remaining => simp [assessed, resetPermittedAt, resetPermitted] at permitted
  | clockBeforeStart start now =>
    simp [assessed, resetPermittedAt, resetPermitted] at permitted

theorem reset_permitted_early {assessment : Option PeriodAssessment} {last cooldown : Nat}
    (permitted : resetPermittedAt assessment true (some last) nowTick cooldown = .ok ()) :
    last + cooldown ≤ nowTick := by
  unfold resetPermittedAt at permitted
  cases gate : resetPermitted assessment true with
  | error refusal => simp [gate] at permitted
  | ok _ =>
    cases since : Words.checkedSub nowTick last with
    | none => simp [gate, since] at permitted
    | some elapsed =>
      by_cases cooled : elapsed ≥ cooldown
      · rw [Words.checked_sub_eq_some_iff] at since
        omega
      · simp [gate, since, cooled] at permitted

theorem reset_permitted_clock {early : Bool} {last : Option Nat} {cooldown : Nat}
    (permitted : resetPermittedAt (some (assessPeriod period nowTick)) early last nowTick
      cooldown = .ok ()) : period.startTick ≤ nowTick := by
  refine assess_clock_not_before fun start now assessed => ?_
  simp [assessed, resetPermittedAt, resetPermitted] at permitted

end Runix.Mobile
