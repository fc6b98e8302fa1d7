import Runix.Arm.DataState
import Runix.Lib.Runs

/-!
# Histories of the data state

What every sequence of operations does to the four tables, and when a governed reset takes
effect as a whole: it empties the counter before it knows whether the next period starts.
-/

namespace Runix.Arm

open Lib Lib.Runs Mobile List Tables

/-- A period of the same length that starts at the tick, with nothing requested. -/
def PeriodEntry.restarted (entry : PeriodEntry) (now : Nat) : PeriodEntry :=
  ⟨entry.account, ⟨now, entry.period.lengthTicks, entry.period.lengthPos⟩, none⟩

namespace DataState

variable (state : DataState) (account now : Nat)

def entryOf : Option PeriodEntry := lookup PeriodEntry.account account state.periods

/-- Since when a reset of the account is requested. -/
def marker : Option Nat := (state.entryOf account).bind PeriodEntry.resetRequestedSince

/-! ## A reset that is refused half-way -/

structure Restarted (entry : PeriodEntry) (after : DataState) : Prop where
  counter : after.usageOf account = ⟨0⟩
  unobserved : ∀ row ∈ lookup UsageEntry.account account after.usage, row.lastUsed = none
  period : after.entryOf account = some (entry.restarted now)

structure Untouched (after : DataState) : Prop where
  counter : after.usageOf account = state.usageOf account
  period : after.entryOf account = state.entryOf account
  lastReset : after.lastResetTick account = state.lastResetTick account

theorem usage_reset :
    (state.resetUsage account).2.usageOf account = ⟨0⟩ ∧
      ∀ row ∈ lookup UsageEntry.account account (state.resetUsage account).2.usage,
        row.lastUsed = none := by
  unfold resetUsage
  split
  · rename_i row found
    dsimp only [usageOf]
    rw [lookup_update_same UsageEntry.account, found]
    · exact ⟨rfl, by simp⟩
    · exact fun _ => rfl
  · rename_i missing
    simp [usageOf, missing]

theorem entry_start_next {entry : PeriodEntry} (found : state.entryOf account = some entry)
    (installLen : Option Nat) :
    (state.startNextPeriod account now installLen).2.entryOf account =
      some (if entry.period.startTick ≤ now then entry.restarted now else entry) := by
  unfold entryOf at found ⊢
  unfold startNextPeriod
  by_cases late : entry.period.startTick ≤ now
  · simp only [found, nextPeriod, not_lt.mpr late, if_false, BillingPeriod.new,
      entry.period.lengthPos, dite_false, if_pos late]
    rw [lookup_update_same PeriodEntry.account, found]
    · rfl
    · exact fun _ => rfl
  · simp [found, nextPeriod, not_le.mp late, late]

/-- A reset of an account with a period is all or nothing unless the clock is before the start
of the period: then the counter is emptied, and the tick of the reset noted, in the old one. -/
theorem reset_all_or_nothing_iff {entry : PeriodEntry} (found : state.entryOf account = some entry)
    (installLen : Option Nat) :
    (Restarted account now entry (state.resetUsageAndPeriod account now installLen).2 ∨
        state.Untouched account (state.resetUsageAndPeriod account now installLen).2) ↔
      entry.period.startTick ≤ now ∨ state.usageOf account = ⟨0⟩ ∧
        (state.lastResetTick account = some now ∨
          state.lastResetTick account = none ∧ maxDataAccounts ≤ state.lastResets.length) := by
  obtain ⟨counter, unobserved⟩ := state.usage_reset account
  obtain ⟨rows, reset⟩ := state.reset_usage_frame account
  have next : ((state.resetUsage account).2.startNextPeriod account now installLen).2.entryOf
      account = _ := entry_start_next _ account now (by rw [reset]; exact found) installLen
  have changed := (state.resetUsage account).2.start_next_period_changed account now installLen
  unfold resetUsageAndPeriod
  dsimp only
  generalize ((state.resetUsage account).2.startNextPeriod account now installLen).2 = started at *
  obtain ⟨resets, recorded⟩ := started.record_reset_frame account now
  have tick : (started.recordReset account now).2.lastResetTick account =
      if state.lastResetTick account = none ∧ maxDataAccounts ≤ state.lastResets.length then none
      else some now := by
    have same : started.lastResets = state.lastResets := by rw [changed.frame, reset]
    rw [last_reset_tick_record_reset, lastResetTick, lastResetTick, same]
  have usage : started.usage = (state.resetUsage account).2.usage := by rw [changed.frame]
  generalize (started.recordReset account now).2 = after at recorded tick
  have emptied : after.usageOf account = ⟨0⟩ := by
    rw [recorded, usageOf, usage]
    exact counter
  have entered : after.entryOf account = started.entryOf account := by
    rw [recorded]
    rfl
  rw [next] at entered
  by_cases late : entry.period.startTick ≤ now
  · rw [if_pos late] at entered
    refine iff_of_true (.inl ⟨emptied, ?_, entered⟩) (.inl late)
    rw [recorded, usage]
    exact unobserved
  rw [if_neg late] at entered
  constructor
  · rintro (⟨-, -, period⟩ | ⟨counted, -, kept⟩)
    · have start := congrArg (·.period.startTick) (Option.some.inj (entered.symm.trans period))
      exact absurd start.le late
    · refine .inr ⟨counted.symm.trans emptied, ?_⟩
      rw [tick] at kept
      split_ifs at kept with full
      · exact .inr full
      · exact .inl kept.symm
  · rintro (started | ⟨zero, same⟩)
    · exact absurd started late
    · refine .inr ⟨emptied.trans zero.symm, entered.trans found.symm, tick.trans ?_⟩
      rcases same with same | full
      · rw [if_neg (by simp [same]), same]
      · rw [if_pos full, full.1]

/-- One account with 5 bytes used in a period of 500 ticks from tick 1000. -/
def fedState : DataState where
  usage := [⟨0, ⟨5⟩, none⟩]
  sessions := []
  periods := [⟨0, ⟨1000, 500, by decide⟩, none⟩]
  lastResets := []

theorem late_reset_restarts :
    Restarted 0 2000 ⟨0, ⟨1000, 500, by decide⟩, none⟩
        (fedState.resetUsageAndPeriod 0 2000 none).2 ∨
      fedState.Untouched 0 (fedState.resetUsageAndPeriod 0 2000 none).2 :=
  (fedState.reset_all_or_nothing_iff 0 2000 rfl none).mpr (.inl (by decide))

/-- At tick 5 the counter is emptied, and the period of tick 1000 kept. -/
theorem early_reset_empties :
    ¬ (Restarted 0 5 ⟨0, ⟨1000, 500, by decide⟩, none⟩
        (fedState.resetUsageAndPeriod 0 5 none).2 ∨
      fedState.Untouched 0 (fedState.resetUsageAndPeriod 0 5 none).2) := by
  rintro (restarted | untouched)
  · exact absurd restarted.period (by decide)
  · exact absurd untouched.counter (by decide)

/-! ## Histories -/

end DataState

def PeriodStarted.began : PeriodStarted → Bool
  | .started _ | .installed _ => true
  | _ => false

inductive DataOp where
  | feedUsage (account bytes : Nat)
  | resetUsage (account : Nat)
  | setPeriod (account : Nat) (period : BillingPeriod)
  | advisePeriod (account now : Nat)
  | startNextPeriod (account now : Nat) (installLen : Option Nat)
  | resetUsageAndPeriod (account now : Nat) (installLen : Option Nat)
  | recordReset (account now : Nat)
  | decideAndOpen (account slot profile : Nat) (roaming : Bool)
      (standing : AccountStandingForData) (lifecycle : ProfileLifecycleForData)
      (entitlement : DataEntitlement)
  | closeSession (account slot profile : Nat)
  | closeSessionsForAccount (account : Nat)
  | closeSessionsForProfile (slot profile : Nat)
  | markObserved (observed : List UsageEntry)

namespace DataOp

variable (state : DataState) (account : Nat)

def apply : DataOp → DataState
  | .feedUsage account bytes => (state.feedUsage account bytes).2
  | .resetUsage account => (state.resetUsage account).2
  | .setPeriod account period => (state.setPeriod account period).2
  | .advisePeriod account now => (state.advisePeriod account now).2
  | .startNextPeriod account now length => (state.startNextPeriod account now length).2
  | .resetUsageAndPeriod account now length => (state.resetUsageAndPeriod account now length).2
  | .recordReset account now => (state.recordReset account now).2
  | .decideAndOpen account slot profile roaming standing lifecycle entitlement =>
    (state.decideAndOpen account slot profile roaming standing lifecycle entitlement).2
  | .closeSession account slot profile => (state.closeSession account slot profile).2
  | .closeSessionsForAccount account => (state.closeSessionsForAccount account).2
  | .closeSessionsForProfile slot profile => (state.closeSessionsForProfile slot profile).2
  | .markObserved observed => state.markObserved observed

/-- The session that an allowing decision is about. -/
def admits : DataOp → Option DataSession
  | .decideAndOpen account slot profile roaming standing lifecycle entitlement =>
    match (PolicyDecisionRecord.decide
      (state.sessionRequest account roaming standing lifecycle entitlement)).decision with
    | .deny _ => none
    | _ => some ⟨account, slot, profile, roaming⟩
  | _ => none

def closes : DataOp → DataSession → Bool
  | .closeSession account slot profile, s =>
    s.account = account ∧ s.slot = slot ∧ s.profile = profile
  | .closeSessionsForAccount account, s => s.account = account
  | .closeSessionsForProfile slot profile, s => s.slot = slot ∧ s.profile = profile
  | _, _ => false

/-- An allowing decision refreshes its session, or adds it while there is room; everything else
only removes what it closes. -/
def sessionsAfter (op : DataOp) : List DataSession :=
  (op.admits state).elim (state.sessions.filter fun s => !op.closes s) fun session =>
    (upsert DataSession.key maxDataSessions session.key
      (fun row => { row with roaming := session.roaming }) session state.sessions).getD
        state.sessions

/-- The operation gives the account a new period. -/
def installs : DataOp → Bool
  | .setPeriod other period => other = account && (state.setPeriod other period).1.isOk
  | .startNextPeriod other now length =>
    other = account && (state.startNextPeriod other now length).1.began
  | .resetUsageAndPeriod other now length =>
    other = account && (state.resetUsageAndPeriod other now length).1.2.2.1.began
  | _ => false

def advice : DataOp → Option PeriodAdvice
  | .advisePeriod other now => if other = account then (state.advisePeriod other now).1 else none
  | _ => none

/-- The advice given about the account. -/
def advices : DataState → List DataOp → List PeriodAdvice
  | _, [] => []
  | state, op :: rest => (op.advice state account).toList ++ advices (op.apply state) rest

/-- The first request is reported once if a request is reported at all, and none was before. -/
def FirstOnce (ops : List DataOp) : Prop :=
  ((advices account state ops).filter (·.firstRequest)).length =
    if (state.marker account).isNone && (advices account state ops).any (·.request.isSome) then 1
    else 0

end DataOp

namespace DataState

structure Bounded (state : DataState) : Prop where
  usage : Tables.Within UsageEntry.account maxDataAccounts state.usage
  sessions : Tables.Within DataSession.key maxDataSessions state.sessions
  periods : Tables.Within PeriodEntry.account maxDataAccounts state.periods
  lastResets : Tables.Within ResetEntry.account maxDataAccounts state.lastResets

variable {state after : DataState} {account : Nat}

section

variable (bounded : state.Bounded)

include bounded

theorem Bounded.reset_usage (account : Nat) : (state.resetUsage account).2.Bounded := by
  unfold resetUsage
  split
  · refine { bounded with usage := bounded.usage.of_keys (update_keys _ ?_ _ _) }
    exact fun _ => rfl
  · exact bounded

theorem Bounded.periods_changed (changed : PeriodsChanged account state after) : after.Bounded := by
  rw [changed.frame]
  exact { bounded with
    periods := ⟨changed.unique bounded.periods.1, changed.bound bounded.periods.2⟩ }

theorem Bounded.record_reset (account now : Nat) : (state.recordReset account now).2.Bounded := by
  unfold recordReset
  split
  · rename_i done
    exact { bounded with lastResets := bounded.lastResets.upsert done (fun _ => rfl) rfl }
  · exact bounded

theorem Bounded.step (op : DataOp) : (op.apply state).Bounded := by
  have filtered : ∀ keep, { state with sessions := state.sessions.filter keep }.Bounded :=
    fun keep => { bounded with sessions := bounded.sessions.filter keep }
  cases op with
  | feedUsage account bytes =>
    dsimp only [DataOp.apply, feedUsage]
    split
    · rename_i done
      exact { bounded with usage := bounded.usage.upsert done (fun _ => rfl) rfl }
    · exact bounded
  | resetUsage account => exact bounded.reset_usage account
  | setPeriod account period => exact bounded.periods_changed (state.set_period_changed account period)
  | advisePeriod account now => exact bounded.periods_changed (state.advise_period_changed account now)
  | startNextPeriod account now length =>
    exact bounded.periods_changed (state.start_next_period_changed account now length)
  | resetUsageAndPeriod account now length =>
    exact ((bounded.reset_usage account).periods_changed
      (start_next_period_changed _ account now length)).record_reset account now
  | recordReset account now => exact bounded.record_reset account now
  | decideAndOpen account slot profile roaming standing lifecycle entitlement =>
    dsimp only [DataOp.apply, decideAndOpen]
    split
    · exact bounded
    unfold recordSession
    split
    · exact bounded
    · rename_i done
      exact { bounded with sessions := bounded.sessions.upsert done (fun _ => rfl) rfl }
  | closeSession account slot profile => exact filtered _
  | closeSessionsForAccount account => exact filtered _
  | closeSessionsForProfile slot profile => exact filtered _
  | markObserved observed =>
    obtain ⟨sessions, periods, lastResets⟩ := state.mark_observed_frame observed
    exact {
      usage := bounded.usage.of_keys (state.mark_observed_rows observed).1
      sessions := sessions ▸ bounded.sessions
      periods := periods ▸ bounded.periods
      lastResets := lastResets ▸ bounded.lastResets }

end

theorem sessions_apply (state : DataState) (op : DataOp) :
    (op.apply state).sessions = op.sessionsAfter state := by
  have kept : state.sessions = state.sessions.filter fun _ => !false := by simp
  cases op with
  | feedUsage account bytes => exact (state.feed_usage_sessions account bytes).trans kept
  | resetUsage account =>
    obtain ⟨rows, reset⟩ := state.reset_usage_frame account
    exact (congrArg sessions reset).trans kept
  | setPeriod account period => exact (state.set_period_changed account period).sessions.trans kept
  | advisePeriod account now => exact (state.advise_period_changed account now).sessions.trans kept
  | startNextPeriod account now length =>
    exact (state.start_next_period_changed account now length).sessions.trans kept
  | resetUsageAndPeriod account now length =>
    exact (state.reset_usage_and_period_sessions account now length).trans kept
  | recordReset account now =>
    obtain ⟨rows, recorded⟩ := state.record_reset_frame account now
    exact (congrArg sessions recorded).trans kept
  | decideAndOpen account slot profile roaming standing lifecycle entitlement =>
    have recorded : ∀ session : DataSession, (state.recordSession session).2.sessions =
        (upsert DataSession.key maxDataSessions session.key
          (fun row => { row with roaming := session.roaming }) session state.sessions).getD
            state.sessions := by
      intro session
      unfold recordSession
      generalize upsert DataSession.key maxDataSessions session.key _ session _ = rows
      cases rows <;> rfl
    dsimp only [DataOp.apply, DataOp.sessionsAfter, DataOp.admits, decideAndOpen]
    cases (PolicyDecisionRecord.decide
      (state.sessionRequest account roaming standing lifecycle entitlement)).decision with
    | deny reason => exact kept
    | allow => exact recorded _
    | allowThrottled => exact recorded _
  | closeSession account slot profile => rfl
  | closeSessionsForAccount account => rfl
  | closeSessionsForProfile slot profile => rfl
  | markObserved observed => exact (state.mark_observed_frame observed).1.trans kept

/-- A new period has no request. -/
def Renews (state : DataState) (account : Nat) (done : Bool) (after : DataState) : Prop :=
  done = true ∧ after.marker account = none ∨
    done = false ∧ after.marker account = state.marker account

theorem renews_set_period (state : DataState) (account : Nat) (period : BillingPeriod) :
    state.Renews account (state.setPeriod account period).1.isOk
      (state.setPeriod account period).2 := by
  unfold setPeriod
  split
  · rename_i rows done
    refine .inl ⟨rfl, ?_⟩
    unfold marker entryOf
    rw [lookup_upsert_same PeriodEntry.account done (fun _ => rfl) rfl]
    cases lookup PeriodEntry.account account state.periods <;> rfl
  · exact .inr ⟨rfl, rfl⟩

theorem renews_start_next (state : DataState) (account now : Nat) (length : Option Nat) :
    state.Renews account (state.startNextPeriod account now length).1.began
      (state.startNextPeriod account now length).2 := by
  unfold startNextPeriod
  split
  · split
    · exact .inr ⟨rfl, rfl⟩
    · split
      · exact .inr ⟨rfl, rfl⟩
      · rename_i period _
        have installed := state.renews_set_period account period
        split <;> simp_all [Renews, PeriodStarted.began, Except.isOk, Except.toBool]
  · rename_i found
    split
    · exact .inr ⟨rfl, rfl⟩
    refine .inl ⟨rfl, ?_⟩
    unfold marker entryOf
    rw [lookup_update_same PeriodEntry.account, found]
    · rfl
    · exact fun _ => rfl

/-- What happens to the request marker between two periods, with the advice given. -/
structure Steady (advice : Option PeriodAdvice) (before after : Option Nat) : Prop where
  first : advice.any (·.firstRequest) = (before.isNone && advice.any (·.request.isSome))
  pending : after.isNone = (before.isNone && !advice.any (·.request.isSome))
  kept : ∀ since, before = some since → after = some since

theorem Steady.silent {before after : Option Nat} (same : after = before) :
    Steady none before after := by
  subst same
  exact ⟨by simp, by simp, fun _ set => set⟩

theorem steady_advise (state : DataState) (account now : Nat) :
    Steady (state.advisePeriod account now).1 (state.marker account)
      ((state.advisePeriod account now).2.marker account) := by
  unfold advisePeriod
  split
  · exact .silent rfl
  rename_i row found
  have before : state.marker account = row.resetRequestedSince := by
    simp [marker, entryOf, found]
  have after : marker { state with
      periods := update PeriodEntry.account account
        (fun row => { row with resetRequestedSince := some now }) state.periods } account =
      some now := by
    unfold marker entryOf
    rw [lookup_update_same PeriodEntry.account, found]
    · rfl
    · exact fun _ => rfl
  dsimp only
  cases requested : (periodRequest row.period now).isSome with
  | false => exact ⟨by simp [requested], by simp [requested], by simp⟩
  | true =>
    cases since : row.resetRequestedSince with
    | none =>
      simp only [Option.isNone_none, Bool.and_self, if_true, after, before, since]
      exact ⟨by simp [requested], by simp [requested], by simp⟩
    | some tick => exact ⟨by simp [before, since], by simp [before, since], by simp⟩

def Marked (advice : Option PeriodAdvice) (before after : Option Nat) : Bool → Prop
  | true => after = none
  | false => Steady advice before after

theorem marker_step (state : DataState) (account : Nat) (op : DataOp) :
    Marked (op.advice state account) (state.marker account) ((op.apply state).marker account)
      (op.installs state account) := by
  have quiet : ∀ {after : DataState}, after.periods = state.periods →
      Steady none (state.marker account) (after.marker account) := by
    intro after same
    refine .silent ?_
    unfold marker entryOf
    rw [same]
  have elsewhere : ∀ {before after : DataState} {other : Nat}, PeriodsChanged other before after →
      account ≠ other → after.marker account = before.marker account := by
    intro before after other changed different
    unfold marker entryOf
    rw [changed.others account different]
  have installing : ∀ {after : DataState} {other : Nat} {done : Bool},
      state.Renews other done after → (account ≠ other → after.marker account = state.marker account) →
      Marked none (state.marker account) (after.marker account) (decide (other = account) && done) := by
    intro after other done own others
    by_cases same : other = account
    · subst same
      rcases own with ⟨rfl, cleared⟩ | ⟨rfl, kept⟩
      · simpa [Marked] using cleared
      · simpa [Marked] using Steady.silent kept
    · simpa [Marked, same] using Steady.silent (others (Ne.symm same))
  cases op with
  | feedUsage other bytes =>
    refine quiet ?_
    dsimp only [DataOp.apply, feedUsage]
    split <;> rfl
  | resetUsage other =>
    obtain ⟨rows, reset⟩ := state.reset_usage_frame other
    exact quiet (show (state.resetUsage other).2.periods = _ by rw [reset])
  | setPeriod other period =>
    exact installing (state.renews_set_period other period)
      (elsewhere (state.set_period_changed other period))
  | advisePeriod other now =>
    change Steady (if other = account then (state.advisePeriod other now).1 else none) _ _
    by_cases same : other = account
    · subst same
      rw [if_pos rfl]
      exact state.steady_advise other now
    · rw [if_neg same]
      exact .silent (elsewhere (state.advise_period_changed other now) (Ne.symm same))
  | startNextPeriod other now length =>
    exact installing (state.renews_start_next other now length)
      (elsewhere (state.start_next_period_changed other now length))
  | resetUsageAndPeriod other now length =>
    obtain ⟨rows, reset⟩ := state.reset_usage_frame other
    dsimp only [DataOp.installs, DataOp.advice, DataOp.apply, resetUsageAndPeriod]
    rw [reset]
    obtain ⟨resets, recorded⟩ := record_reset_frame
      (startNextPeriod { state with usage := rows } other now length).2 other now
    rw [recorded]
    have moved := elsewhere (start_next_period_changed { state with usage := rows } other now length)
    exact installing (renews_start_next { state with usage := rows } other now length) moved
  | recordReset other now =>
    obtain ⟨rows, recorded⟩ := state.record_reset_frame other now
    exact quiet (show (state.recordReset other now).2.periods = _ by rw [recorded])
  | decideAndOpen other slot profile roaming standing lifecycle entitlement =>
    refine quiet ?_
    dsimp only [DataOp.apply, decideAndOpen, recordSession]
    split
    · rfl
    · split <;> rfl
  | closeSession other slot profile => exact quiet rfl
  | closeSessionsForAccount other => exact quiet rfl
  | closeSessionsForProfile slot profile => exact quiet rfl
  | markObserved observed => exact quiet (state.mark_observed_frame observed).2.1

theorem first_requests (account : Nat) (ops : List DataOp) (state : DataState)
    (steady : EveryStep (fun state op => op.apply state)
      (fun state op => op.installs state account = false) state ops) :
    DataOp.FirstOnce state account ops := by
  induction ops generalizing state with
  | nil => simp [DataOp.FirstOnce, DataOp.advices]
  | cons op rest ih =>
    obtain ⟨met, later⟩ := (every_step_cons _ _ state op rest).mp steady
    have step := state.marker_step account op
    rw [met] at step
    rw [DataOp.FirstOnce, DataOp.advices, filter_append, length_append, ih _ later, any_append,
      step.pending]
    have first := step.first
    generalize op.advice state account = advice at first
    cases advice with
    | none => simp
    | some advice =>
      rw [Option.any_some, Option.any_some] at first
      generalize (state.marker account).isNone = unset at first
      cases unset <;> cases requested : advice.request.isSome <;> simp [first, requested]

/-- The laws of every history of the data state, from its start. -/
theorem data_histories (ops : List DataOp) :
    let state := run (fun state op => op.apply state) new ops
    state.Bounded ∧
    (∀ op : DataOp, (op.apply state).sessions = op.sessionsAfter state) ∧
    (∀ account (op : DataOp), op.installs state account = true →
      (op.apply state).marker account = none) ∧
    (∀ account (op : DataOp), op.installs state account = false → ∀ since,
      state.marker account = some since → (op.apply state).marker account = some since) ∧
    ∀ account later, EveryStep (fun state op => op.apply state)
        (fun state op => op.installs state account = false) state later →
      DataOp.FirstOnce state account later := by
  intro state
  refine ⟨?_, state.sessions_apply, fun account op installs => ?_,
    fun account op met => ?_, fun account later => first_requests account later state⟩
  · apply run_invariant _ (fun state op bounded => bounded.step op)
    exact ⟨⟨nodup_nil, Nat.zero_le _⟩, ⟨nodup_nil, Nat.zero_le _⟩, ⟨nodup_nil, Nat.zero_le _⟩,
      ⟨nodup_nil, Nat.zero_le _⟩⟩
  · have step := state.marker_step account op
    rw [installs] at step
    exact step
  · have step := state.marker_step account op
    rw [met] at step
    exact step.kept

end DataState

end Runix.Arm
