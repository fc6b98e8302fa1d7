import Runix.Lib.Tables
import Runix.Mobile.Period
import Runix.Mobile.Policy

/-!
# Data usage, sessions and periods

The four bounded tables of `kernel-arm/src/data_state.rs`: usage counters, open
sessions, billing periods and the tick of each account's last reset.
-/

namespace Runix.Arm

open Lib Mobile List Tables

def maxDataAccounts : Nat := 16

def maxDataSessions : Nat := 16

inductive TableFull where
  | tableFull
deriving DecidableEq, Repr

structure UsageEntry where
  account : Nat
  usage : DataUsage
  lastUsed : Option Nat
deriving DecidableEq, Repr

structure DataSession where
  account : Nat
  slot : Nat
  profile : Nat
  roaming : Bool
deriving DecidableEq, Repr

structure PeriodEntry where
  account : Nat
  period : BillingPeriod
  resetRequestedSince : Option Nat
deriving DecidableEq

structure ResetEntry where
  account : Nat
  lastResetTick : Nat
deriving DecidableEq, Repr

structure PeriodAdvice where
  assessment : PeriodAssessment
  request : Option PeriodRequest
  firstRequest : Bool
deriving DecidableEq, Repr

inductive PeriodStarted where
  | noPeriod
  | started (period : BillingPeriod)
  | installed (period : BillingPeriod)
  | rejected (error : PeriodError)
deriving DecidableEq

inductive SessionRecorded where
  | notRecorded
  | opened
  | refreshed
  | tableFull
deriving DecidableEq, Repr

structure OpenOutcome where
  record : PolicyDecisionRecord
  recorded : SessionRecorded
deriving DecidableEq

/-- A session is identified by everything but its roaming flag. -/
def DataSession.key (session : DataSession) : Nat × Nat × Nat :=
  (session.account, session.slot, session.profile)

structure DataState where
  usage : List UsageEntry
  sessions : List DataSession
  periods : List PeriodEntry
  lastResets : List ResetEntry
deriving DecidableEq

namespace DataState

def new : DataState where
  usage := []
  sessions := []
  periods := []
  lastResets := []

variable (state : DataState) (account : Nat)

def lastResetTick : Option Nat :=
  (Tables.lookup ResetEntry.account account state.lastResets).map ResetEntry.lastResetTick

def recordReset (account now : Nat) : Except TableFull Unit × DataState :=
  match Tables.upsert ResetEntry.account maxDataAccounts account
      (fun row => { row with lastResetTick := now })
      { account := account, lastResetTick := now } state.lastResets with
  | some rows => (.ok (), { state with lastResets := rows })
  | none => (.error .tableFull, state)

def usageOf : DataUsage :=
  ((Tables.lookup UsageEntry.account account state.usage).map UsageEntry.usage).getD ⟨0⟩

def feedUsage (account bytes : Nat) : Except TableFull (DataUsage × DataUsage) × DataState :=
  let before := state.usageOf account
  match Tables.upsert UsageEntry.account maxDataAccounts account
      (fun row => { row with usage := applyUsage row.usage bytes })
      { account := account, usage := applyUsage ⟨0⟩ bytes, lastUsed := none } state.usage with
  | some rows => (.ok (before, applyUsage before bytes), { state with usage := rows })
  | none => (.error .tableFull, state)

def resetUsage : (DataUsage × DataUsage) × DataState :=
  match Tables.lookup UsageEntry.account account state.usage with
  | some row =>
    ((row.usage, Mobile.resetUsage),
      { state with
        usage := Tables.update UsageEntry.account account
          (fun row => { row with usage := Mobile.resetUsage, lastUsed := none }) state.usage })
  | none => ((⟨0⟩, Mobile.resetUsage), state)

def setPeriod (period : BillingPeriod) : Except TableFull Unit × DataState :=
  match Tables.upsert PeriodEntry.account maxDataAccounts account
      (fun row => { row with period := period, resetRequestedSince := none })
      { account := account, period := period, resetRequestedSince := none } state.periods with
  | some rows => (.ok (), { state with periods := rows })
  | none => (.error .tableFull, state)

def periodOf : Option BillingPeriod :=
  (Tables.lookup PeriodEntry.account account state.periods).map PeriodEntry.period

def advisePeriod (account now : Nat) : Option PeriodAdvice × DataState :=
  match Tables.lookup PeriodEntry.account account state.periods with
  | none => (none, state)
  | some row =>
    let assessment := assessPeriod row.period now
    let request := periodRequest row.period now
    let firstRequest := request.isSome && row.resetRequestedSince.isNone
    let periods :=
      if firstRequest then
        Tables.update PeriodEntry.account account
          (fun row => { row with resetRequestedSince := some now }) state.periods
      else state.periods
    (some { assessment := assessment, request := request, firstRequest := firstRequest },
      { state with periods := periods })

def startNextPeriod (account now : Nat) (installLen : Option Nat) : PeriodStarted × DataState :=
  match Tables.lookup PeriodEntry.account account state.periods with
  | none =>
    match installLen with
    | none => (.noPeriod, state)
    | some length =>
      match installPeriod now length with
      | .error error => (.rejected error, state)
      | .ok period =>
        match state.setPeriod account period with
        | (.ok (), installed) => (.installed period, installed)
        | (.error _, unchanged) => (.noPeriod, unchanged)
  | some row =>
    match nextPeriod row.period now with
    | .error error => (.rejected error, state)
    | .ok next =>
      (.started next,
        { state with
          periods := Tables.update PeriodEntry.account account
            (fun row => { row with period := next, resetRequestedSince := none })
            state.periods })

def resetUsageAndPeriod (account now : Nat) (installLen : Option Nat) :
    (DataUsage × DataUsage × PeriodStarted × Except TableFull Unit) × DataState :=
  let reset := state.resetUsage account
  let started := reset.2.startNextPeriod account now installLen
  let recorded := started.2.recordReset account now
  ((reset.1.1, reset.1.2, started.1, recorded.1), recorded.2)

def periodSnapshot : List ObservedPeriod :=
  state.periods.map fun row =>
    { account := row.account, period := row.period,
      resetRequestedSince := row.resetRequestedSince }

def recordSession (session : DataSession) : SessionRecorded × DataState :=
  match Tables.upsert DataSession.key maxDataSessions session.key
      (fun row => { row with roaming := session.roaming }) session state.sessions with
  | none => (.tableFull, state)
  | some rows =>
    let known := (Tables.lookup DataSession.key session.key state.sessions).isSome
    (if known then .refreshed else .opened, { state with sessions := rows })

/-- The request `decide_and_open` puts to the policy. -/
def sessionRequest (roaming : Bool)
    (standing : AccountStandingForData) (lifecycle : ProfileLifecycleForData)
    (entitlement : DataEntitlement) : SessionRequest where
  standing := standing
  lifecycle := lifecycle
  entitlement := entitlement
  usage := state.usageOf account
  network := if roaming then .roaming else .home

def decideAndOpen (account slot profile : Nat) (roaming : Bool)
    (standing : AccountStandingForData) (lifecycle : ProfileLifecycleForData)
    (entitlement : DataEntitlement) : OpenOutcome × DataState :=
  let record := PolicyDecisionRecord.decide
    (state.sessionRequest account roaming standing lifecycle entitlement)
  match record.decision with
  | .deny _ => ({ record := record, recorded := .notRecorded }, state)
  | _ =>
    let recorded := state.recordSession
      { account := account, slot := slot, profile := profile, roaming := roaming }
    ({ record := record, recorded := recorded.1 }, recorded.2)

def closeSession (account slot profile : Nat) : Bool × DataState :=
  let kept := state.sessions.filter fun s =>
    !(s.account = account ∧ s.slot = slot ∧ s.profile = profile)
  (kept.length ≠ state.sessions.length, { state with sessions := kept })

def drainSessions (closing : DataSession → Bool) : List DataSession × DataState :=
  (state.sessions.filter closing,
    { state with sessions := state.sessions.filter fun s => !closing s })

def closeSessionsForAccount : List DataSession × DataState :=
  state.drainSessions fun s => s.account = account

def closeSessionsForProfile (slot profile : Nat) : List DataSession × DataState :=
  state.drainSessions fun s => s.slot = slot ∧ s.profile = profile

def snapshot : List UsageEntry × List DataSession :=
  (state.usage, state.sessions)

def markObserved (observed : List UsageEntry) : DataState :=
  observed.foldl (fun state row =>
    { state with
      usage := Tables.update UsageEntry.account row.account
        (fun entry => { entry with lastUsed := some row.usage.usedBytes }) state.usage }) state

/-! ## The tables' own invariant -/

/-- Every table is bounded and holds one row per key; a counter is a 64-bit word
that has not fallen below the value last observed. -/
structure WellFormed (state : DataState) : Prop where
  usageUnique : (state.usage.map UsageEntry.account).Nodup
  usageBound : state.usage.length ≤ maxDataAccounts
  usageWord : ∀ row ∈ state.usage, row.usage.usedBytes ≤ Words.u64Max
  usageObserved : ∀ row ∈ state.usage, ∀ last, row.lastUsed = some last →
    last ≤ row.usage.usedBytes
  sessionUnique : (state.sessions.map DataSession.key).Nodup
  sessionBound : state.sessions.length ≤ maxDataSessions
  periodUnique : (state.periods.map PeriodEntry.account).Nodup
  resetUnique : (state.lastResets.map ResetEntry.account).Nodup

theorem new_well_formed : new.WellFormed where
  usageUnique := nodup_nil
  usageBound := Nat.zero_le _
  usageWord := by simp [new]
  usageObserved := by simp [new]
  sessionUnique := nodup_nil
  sessionBound := Nat.zero_le _
  periodUnique := nodup_nil
  resetUnique := nodup_nil

variable {state : DataState}

theorem feed_usage_well_formed (good : state.WellFormed) (account bytes : Nat) :
    (state.feedUsage account bytes).2.WellFormed := by
  unfold feedUsage
  split
  · rename_i rows done
    have fed : ∀ row ∈ rows, row.usage.usedBytes ≤ Words.u64Max ∧
        ∀ last, row.lastUsed = some last → last ≤ row.usage.usedBytes := by
      intro row member
      rcases mem_upsert UsageEntry.account done member with
        old | ⟨old, oldMember, -, rfl⟩ | rfl
      · exact ⟨good.usageWord row old, good.usageObserved row old⟩
      · refine ⟨Words.saturating_add_le _ _, fun last observed => ?_⟩
        have word := good.usageWord old oldMember
        have kept := good.usageObserved old oldMember last observed
        simp only [applyUsage, Words.saturatingAdd]
        omega
      · exact ⟨Words.saturating_add_le _ _, by simp⟩
    exact { good with
      usageUnique := upsert_keys_nodup _ done (fun _ => rfl) rfl good.usageUnique
      usageBound := upsert_length_le _ done (fun _ => rfl) good.usageBound
      usageWord := fun row member => (fed row member).1
      usageObserved := fun row member => (fed row member).2 }
  · exact good

theorem feed_usage_error {account bytes : Nat} {error : TableFull} {after : DataState}
    (failed : state.feedUsage account bytes = (.error error, after)) : after = state := by
  unfold feedUsage at failed
  split at failed
  · simp at failed
  · exact (Prod.mk.inj failed).2.symm

theorem advise_period_none {account now : Nat} {after : DataState}
    (none : state.advisePeriod account now = (none, after)) : after = state := by
  unfold advisePeriod at none
  split at none
  · exact (Prod.mk.inj none).2.symm
  · simp at none

theorem reset_usage_well_formed (good : state.WellFormed) (account : Nat) :
    (state.resetUsage account).2.WellFormed := by
  unfold resetUsage
  split
  · have cleared : ∀ row ∈ Tables.update UsageEntry.account account
        (fun row => { row with usage := Mobile.resetUsage, lastUsed := none }) state.usage,
        row.usage.usedBytes ≤ Words.u64Max ∧
          ∀ last, row.lastUsed = some last → last ≤ row.usage.usedBytes := by
      intro row member
      rcases mem_update UsageEntry.account member with old | ⟨old, -, -, rfl⟩
      · exact ⟨good.usageWord row old, good.usageObserved row old⟩
      · exact ⟨Nat.zero_le _, by simp⟩
    exact { good with
      usageUnique := by
        rw [update_keys UsageEntry.account]
        · exact good.usageUnique
        · exact fun _ => rfl
      usageBound := by
        rw [update_length UsageEntry.account]
        · exact good.usageBound
        · exact fun _ => rfl
      usageWord := fun row member => (cleared row member).1
      usageObserved := fun row member => (cleared row member).2 }
  · exact good

/-- What an operation on the period of one account may do: it changes the periods only, and
of the other accounts nothing. -/
structure PeriodsChanged (account : Nat) (before after : DataState) : Prop where
  frame : after = { before with periods := after.periods }
  unique : (before.periods.map PeriodEntry.account).Nodup →
    (after.periods.map PeriodEntry.account).Nodup
  bound : before.periods.length ≤ maxDataAccounts → after.periods.length ≤ maxDataAccounts
  others : ∀ other, other ≠ account → Tables.lookup PeriodEntry.account other after.periods =
    Tables.lookup PeriodEntry.account other before.periods

namespace PeriodsChanged

variable {account : Nat} {after : DataState}

theorem refl (account : Nat) (state : DataState) : PeriodsChanged account state state :=
  ⟨rfl, id, id, fun _ _ => rfl⟩

theorem of_update (state : DataState) {change : PeriodEntry → PeriodEntry}
    (sameKey : ∀ row, (change row).account = row.account) :
    PeriodsChanged account state { state with
      periods := Tables.update PeriodEntry.account account change state.periods } := by
  refine ⟨rfl, fun unique => ?_, fun bound => ?_, fun other different => ?_⟩
  · rw [update_keys _ sameKey]
    exact unique
  · rw [update_length _ sameKey]
    exact bound
  · exact lookup_update_other _ sameKey different _

variable (changed : PeriodsChanged account state after)

include changed

theorem well_formed (good : state.WellFormed) : after.WellFormed := by
  rw [changed.frame]
  exact { good with periodUnique := changed.unique good.periodUnique }

theorem sessions : after.sessions = state.sessions := by
  rw [changed.frame]

theorem lastResetTick (other : Nat) : after.lastResetTick other = state.lastResetTick other := by
  rw [changed.frame]
  rfl

end PeriodsChanged

theorem set_period_changed (state : DataState) (account : Nat) (period : BillingPeriod) :
    PeriodsChanged account state (state.setPeriod account period).2 := by
  unfold setPeriod
  split
  · rename_i rows done
    exact ⟨rfl, upsert_keys_nodup _ done (fun _ => rfl) rfl,
      upsert_length_le _ done (fun _ => rfl),
      fun _ => lookup_upsert_other PeriodEntry.account done (fun _ => rfl) rfl⟩
  · exact .refl account state

theorem start_next_period_changed (state : DataState) (account now : Nat)
    (installLen : Option Nat) :
    PeriodsChanged account state (state.startNextPeriod account now installLen).2 := by
  unfold startNextPeriod
  split
  · split
    · exact .refl account state
    · split
      · exact .refl account state
      · rename_i period _
        have changed := state.set_period_changed account period
        split <;> simp_all
  · split
    · exact .refl account state
    · exact .of_update state fun _ => rfl

theorem advise_period_changed (state : DataState) (account now : Nat) :
    PeriodsChanged account state (state.advisePeriod account now).2 := by
  unfold advisePeriod
  split
  · exact .refl account state
  simp only
  split_ifs
  · exact .of_update state fun _ => rfl
  · exact .refl account state

section

variable (good : state.WellFormed)

include good

theorem record_reset_well_formed (account now : Nat) :
    (state.recordReset account now).2.WellFormed := by
  unfold recordReset
  split
  · rename_i rows done
    exact { good with
      resetUnique := upsert_keys_nodup _ done (fun _ => rfl) rfl good.resetUnique }
  · exact good

theorem reset_usage_and_period_well_formed (account now : Nat)
    (installLen : Option Nat) : (state.resetUsageAndPeriod account now installLen).2.WellFormed :=
  record_reset_well_formed ((start_next_period_changed _ account now installLen).well_formed
    (reset_usage_well_formed good account)) account now

theorem record_session_well_formed (session : DataSession) :
    (state.recordSession session).2.WellFormed := by
  unfold recordSession
  split
  · exact good
  rename_i rows done
  exact { good with
    sessionUnique := upsert_keys_nodup _ done (fun _ => rfl) rfl good.sessionUnique
    sessionBound := upsert_length_le _ done (fun _ => rfl) good.sessionBound }

theorem decide_and_open_well_formed (account slot profile : Nat)
    (roaming : Bool) (standing : AccountStandingForData)
    (lifecycle : ProfileLifecycleForData) (entitlement : DataEntitlement) :
    (state.decideAndOpen account slot profile roaming standing lifecycle
      entitlement).2.WellFormed := by
  unfold decideAndOpen
  simp only
  split
  · exact good
  · exact record_session_well_formed good _

theorem filter_sessions_well_formed (keep : DataSession → Bool) :
    { state with sessions := state.sessions.filter keep }.WellFormed :=
  { good with
    sessionUnique := good.sessionUnique.sublist (filter_sublist.map DataSession.key)
    sessionBound := le_trans (length_filter_le _ _) good.sessionBound }

end

theorem close_session_unchanged {account slot profile : Nat}
    (missing : (state.closeSession account slot profile).1 = false) :
    (state.closeSession account slot profile).2 = state := by
  unfold closeSession at missing ⊢
  simp only [ne_eq, decide_eq_false_iff_not, not_not] at missing
  simp only [length_filter_eq_length_iff.mp missing |> filter_eq_self.mpr]

/-- Observing only rewrites the remembered values: each row keeps its account
and counter, and remembers its old value or a value observed for its account. -/
theorem mark_observed_rows (state : DataState) (observed : List UsageEntry) :
    (state.markObserved observed).usage.map UsageEntry.account =
        state.usage.map UsageEntry.account ∧
      ∀ row ∈ (state.markObserved observed).usage, ∃ old ∈ state.usage,
        old.account = row.account ∧ old.usage = row.usage ∧
          (row.lastUsed = old.lastUsed ∨ ∃ seen ∈ observed, seen.account = row.account ∧
            row.lastUsed = some seen.usage.usedBytes) := by
  induction observed generalizing state with
  | nil => exact ⟨rfl, fun row member => ⟨row, member, rfl, rfl, .inl rfl⟩⟩
  | cons first rest ih =>
    have later := ih { state with
      usage := Tables.update UsageEntry.account first.account
        (fun entry => { entry with lastUsed := some first.usage.usedBytes }) state.usage }
    refine ⟨later.1.trans ?_, fun row member => ?_⟩
    · rw [update_keys]
      exact fun _ => rfl
    · obtain ⟨middle, middleMember, account, usage, remembered⟩ := later.2 row member
      rcases mem_update UsageEntry.account middleMember with
        old | ⟨old, oldMember, oldKey, rfl⟩
      · refine ⟨middle, old, account, usage, ?_⟩
        rcases remembered with same | ⟨seen, listed, seenAccount, value⟩
        · exact .inl same
        · exact .inr ⟨seen, mem_cons_of_mem _ listed, seenAccount, value⟩
      · refine ⟨old, oldMember, account, usage, .inr ?_⟩
        rcases remembered with same | ⟨seen, listed, seenAccount, value⟩
        · exact ⟨first, mem_cons_self, oldKey.symm.trans account, same⟩
        · exact ⟨seen, mem_cons_of_mem _ listed, seenAccount, value⟩

theorem mark_observed_frame (state : DataState) (observed : List UsageEntry) :
    (state.markObserved observed).sessions = state.sessions ∧
      (state.markObserved observed).periods = state.periods ∧
      (state.markObserved observed).lastResets = state.lastResets := by
  induction observed generalizing state with
  | nil => exact ⟨rfl, rfl, rfl⟩
  | cons first rest ih => exact ih _

/-- Marking the counters as they stand keeps every counter at or above the
value it remembers. -/
theorem mark_observed_well_formed (good : state.WellFormed) :
    (state.markObserved state.usage).WellFormed := by
  obtain ⟨accounts, rows⟩ := mark_observed_rows state state.usage
  obtain ⟨sessions, periods, lastResets⟩ := mark_observed_frame state state.usage
  refine {
    usageUnique := accounts ▸ good.usageUnique
    usageBound := ?_
    usageWord := fun row member => ?_
    usageObserved := fun row member last observed => ?_
    sessionUnique := sessions ▸ good.sessionUnique
    sessionBound := sessions ▸ good.sessionBound
    periodUnique := periods ▸ good.periodUnique
    resetUnique := lastResets ▸ good.resetUnique }
  · have length := congrArg List.length accounts
    rw [length_map, length_map] at length
    rw [length]
    exact good.usageBound
  · obtain ⟨old, oldMember, -, usage, -⟩ := rows row member
    rw [← usage]
    exact good.usageWord old oldMember
  · obtain ⟨old, oldMember, account, usage, remembered⟩ := rows row member
    rcases remembered with same | ⟨seen, listed, seenAccount, value⟩
    · rw [← usage]
      exact good.usageObserved old oldMember last (same ▸ observed)
    -- One row per account, so the observed row is the row itself.
    have sameRow : seen = old := by
      have seenFound := lookup_of_mem UsageEntry.account good.usageUnique listed
      have oldFound := lookup_of_mem UsageEntry.account good.usageUnique oldMember
      rw [seenAccount.trans account.symm, oldFound] at seenFound
      exact (Option.some.inj seenFound).symm
    rw [value, Option.some.injEq] at observed
    rw [← usage, ← observed, sameRow]

/-! ## Operations that keep the session table -/

section

variable (state : DataState) (account : Nat)

theorem feed_usage_sessions (bytes : Nat) :
    (state.feedUsage account bytes).2.sessions = state.sessions := by
  unfold feedUsage
  split <;> rfl

theorem reset_usage_frame :
    ∃ rows, (state.resetUsage account).2 = { state with usage := rows } := by
  unfold resetUsage
  split <;> exact ⟨_, rfl⟩

theorem record_reset_frame (now : Nat) :
    ∃ rows, (state.recordReset account now).2 = { state with lastResets := rows } := by
  unfold recordReset
  split <;> exact ⟨_, rfl⟩

/-- A period reset changes the usage table as the plain reset does, and otherwise the
periods and the reset ticks only. -/
theorem reset_usage_and_period_frame (now : Nat) (installLen : Option Nat) :
    ∃ periods lastResets, (state.resetUsageAndPeriod account now installLen).2 =
      { (state.resetUsage account).2 with periods := periods, lastResets := lastResets } := by
  have next := start_next_period_changed (state.resetUsage account).2 account now installLen
  simp only [resetUsageAndPeriod]
  generalize ((state.resetUsage account).2.startNextPeriod account now installLen).2 = started
    at next ⊢
  obtain ⟨lastResets, last⟩ := started.record_reset_frame account now
  refine ⟨started.periods, lastResets, last.trans ?_⟩
  rw [next.frame]

theorem reset_usage_and_period_sessions (now : Nat) (installLen : Option Nat) :
    (state.resetUsageAndPeriod account now installLen).2.sessions = state.sessions := by
  obtain ⟨periods, lastResets, changed⟩ :=
    state.reset_usage_and_period_frame account now installLen
  obtain ⟨rows, reset⟩ := state.reset_usage_frame account
  rw [changed, reset]

end

/-! ## Sessions after opening -/

theorem record_session_cases (state : DataState) (session : DataSession) :
    state.recordSession session = (.tableFull, state) ∨
      ∃ recorded rows, recorded ≠ .tableFull ∧
        state.recordSession session = (recorded, { state with sessions := rows }) ∧
        ∀ row ∈ rows, row ∈ state.sessions ∨ row = session := by
  unfold recordSession
  split
  · exact .inl rfl
  rename_i rows done
  refine .inr ⟨_, rows, ?_, rfl, fun row member => ?_⟩
  · split_ifs <;> simp
  · rcases mem_upsert DataSession.key done member with
      old | ⟨old, -, oldKey, rfl⟩ | fresh
    · exact .inl old
    · simp only [DataSession.key, Prod.mk.injEq] at oldKey
      obtain ⟨account, slot, profile⟩ := oldKey
      exact .inr (by rw [account, slot, profile])
    · exact .inr fresh

/-- Everything `decideAndOpen` can do: refuse and change nothing, or admit the
requested session and leave the other tables alone. -/
theorem decide_and_open_cases (state : DataState) (account slot profile : Nat)
    (roaming : Bool) (standing : AccountStandingForData)
    (lifecycle : ProfileLifecycleForData) (entitlement : DataEntitlement) :
    (∃ outcome : OpenOutcome,
        state.decideAndOpen account slot profile roaming standing lifecycle entitlement =
          (outcome, state) ∧
        (outcome.recorded = .tableFull ∨ ∃ reason, outcome.record.decision = .deny reason)) ∨
      ∃ (outcome : OpenOutcome) (rows : List DataSession),
        state.decideAndOpen account slot profile roaming standing lifecycle entitlement =
          (outcome, { state with sessions := rows }) ∧
        (∀ reason, outcome.record.decision ≠ .deny reason) ∧ outcome.recorded ≠ .tableFull ∧
        standing = .active ∧ lifecycle = .enabled ∧
        (roaming = true → entitlement.roamingDataAllowed = true) ∧
        ∀ row ∈ rows, row ∈ state.sessions ∨
          row = { account := account, slot := slot, profile := profile, roaming := roaming } := by
  unfold decideAndOpen
  simp only
  split
  · rename_i reason denied
    exact .inl ⟨_, rfl, .inr ⟨reason, denied⟩⟩
  rename_i admitted
  rcases record_session_cases state
      { account := account, slot := slot, profile := profile, roaming := roaming } with
    full | ⟨recorded, rows, notFull, opened, members⟩
  · rw [full]
    exact .inl ⟨_, rfl, .inl rfl⟩
  obtain ⟨active, enabled, roams⟩ := session_not_denied admitted
  rw [opened]
  refine .inr ⟨_, rows, rfl, admitted, notFull, active, enabled, ?_, members⟩
  intro isRoaming
  exact roams (by simp [sessionRequest, isRoaming])

/-! ## Periods and reset ticks -/

@[simp]
theorem period_of_record_reset (state : DataState) (account now other : Nat) :
    (state.recordReset account now).2.periodOf other = state.periodOf other := by
  obtain ⟨rows, changed⟩ := state.record_reset_frame account now
  rw [changed]
  rfl

variable {state : DataState}

theorem last_reset_tick_record_reset_other {account other : Nat}
    (different : other ≠ account) (now : Nat) :
    (state.recordReset account now).2.lastResetTick other = state.lastResetTick other := by
  unfold recordReset
  split
  · rename_i rows done
    unfold lastResetTick
    rw [lookup_upsert_other ResetEntry.account done (fun _ => rfl) rfl different]
  · rfl

theorem last_reset_tick_record_reset (state : DataState) (account now : Nat) :
    (state.recordReset account now).2.lastResetTick account =
      if state.lastResetTick account = none ∧ maxDataAccounts ≤ state.lastResets.length then none
      else some now := by
  unfold recordReset
  split
  · rename_i rows done
    rw [if_neg]
    · unfold lastResetTick
      rw [lookup_upsert_same ResetEntry.account done (fun _ => rfl) rfl]
      cases Tables.lookup ResetEntry.account account state.lastResets <;> rfl
    · rintro ⟨missing, full⟩
      simp [Tables.upsert, Option.map_eq_none_iff.mp missing, full] at done
  · rename_i full
    unfold Tables.upsert at full
    split_ifs at full with present length
    have missing : state.lastResetTick account = none := by simpa [lastResetTick] using present
    rw [if_pos ⟨missing, length⟩, missing]

theorem set_period_installs (state : DataState) (account : Nat)
    (room : state.periods.length < maxDataAccounts) (period : BillingPeriod) :
    (state.setPeriod account period).1 = .ok () ∧
      (state.setPeriod account period).2.periodOf account = some period := by
  unfold setPeriod
  split
  · rename_i rows done
    unfold periodOf
    rw [lookup_upsert_same PeriodEntry.account done (fun _ => rfl) rfl]
    cases Tables.lookup PeriodEntry.account account state.periods <;> exact ⟨rfl, rfl⟩
  · rename_i full
    unfold Tables.upsert at full
    split_ifs at full
    omega

/-- A reset at tick `now`, with room in both tables and a clock at or after the
running period's start, leaves the account with a period that starts at `now`
and remembers `now` as its last reset. -/
theorem reset_usage_and_period_same {account now installLen : Nat}
    (installable : installLen ≠ 0) (periodRoom : state.periods.length < maxDataAccounts)
    (resetRoom : state.lastResets.length < maxDataAccounts)
    (clock : ∀ period, state.periodOf account = some period → period.startTick ≤ now) :
    (∃ period, (state.resetUsageAndPeriod account now (some installLen)).2.periodOf account =
        some period ∧ period.startTick = now) ∧
      (state.resetUsageAndPeriod account now (some installLen)).2.lastResetTick account =
        some now := by
  obtain ⟨rows, reset⟩ := state.reset_usage_frame account
  unfold resetUsageAndPeriod
  simp only [period_of_record_reset, reset]
  constructor
  · unfold startNextPeriod
    cases found : Tables.lookup PeriodEntry.account account state.periods with
    | none =>
      obtain ⟨stored, installed⟩ := set_period_installs { state with usage := rows } account
        periodRoom { startTick := now, lengthTicks := installLen, lengthPos := installable }
      simp only [installPeriod, BillingPeriod.new, installable, dite_false]
      split
      · rename_i after done
        rw [done] at installed
        exact ⟨_, installed, rfl⟩
      · rename_i failed
        rw [failed] at stored
        simp at stored
    | some row =>
      have started : row.period.startTick ≤ now :=
        clock row.period (by simp [periodOf, found])
      simp only [nextPeriod, not_lt.mpr started, if_false, BillingPeriod.new,
        row.period.lengthPos, dite_false]
      unfold periodOf
      rw [lookup_update_same PeriodEntry.account, found]
      · exact ⟨_, rfl, rfl⟩
      · exact fun _ => rfl
  · rw [last_reset_tick_record_reset, if_neg]
    rw [(start_next_period_changed _ account now (some installLen)).frame]
    exact fun full => absurd full.2 (Nat.not_le.mpr resetRoom)

theorem reset_usage_and_period_other {account other : Nat}
    (different : other ≠ account) (now : Nat) (installLen : Option Nat) :
    (state.resetUsageAndPeriod account now installLen).2.periodOf other = state.periodOf other ∧
      (state.resetUsageAndPeriod account now installLen).2.lastResetTick other =
        state.lastResetTick other := by
  obtain ⟨rows, reset⟩ := state.reset_usage_frame account
  unfold resetUsageAndPeriod
  have next := start_next_period_changed (state.resetUsage account).2 account now installLen
  simp only [period_of_record_reset]
  rw [periodOf, next.others other different, last_reset_tick_record_reset_other different,
    next.lastResetTick, reset]
  exact ⟨rfl, rfl⟩

theorem period_of_advise_period (state : DataState) (account now other : Nat) :
    (state.advisePeriod account now).2.periodOf other = state.periodOf other := by
  unfold advisePeriod
  split
  · rfl
  simp only
  split_ifs
  · unfold periodOf
    by_cases same : other = account
    · subst same
      rw [lookup_update_same PeriodEntry.account, Option.map_map]
      · rfl
      · exact fun _ => rfl
    · rw [lookup_update_other PeriodEntry.account _ same]
      exact fun _ => rfl
  · rfl

end DataState

end Runix.Arm
