import Mathlib.Data.List.Perm.Subperm
import Runix.Arm.Refinement
import Runix.Lib.Sha256

/-!
# How often a usage counter can be reset

A reset is gated by the account's billing period and, when early, by the tick of
its last reset.  Both tables hold at most one row per entitled account, so they
never fill up and never lose the row the next gate needs.
-/

namespace Runix.Arm

open Lib Lib.ByteStrings Mobile DataState

def ResetApplied (sha256 : Bytes → Bytes) (freqHz : Nat) (kernel : Kernel) (event : Event)
    (account : Nat) : Prop :=
  event.syscall = some .dataReset ∧ event.arg1 = account ∧
    (dispatch sha256 freqHz event kernel).1 = resetOk

def DataState.gateReading (data : DataState) (account : Nat) :
    Option BillingPeriod × Option Nat :=
  (data.periodOf account, data.lastResetTick account)

/-! ## One syscall -/

section Step

variable {sha256 : Bytes → Bytes} {freqHz : Nat} {kernel : Kernel} {event : Event}
  {account : Nat}

theorem data_reset_code (env : Env) (account modeArg : Nat) :
    (dataReset sha256 freqHz env account modeArg kernel).1 = resetOk ∨
      (dataReset sha256 freqHz env account modeArg kernel).1 ∈ Syscall.dataReset.refusalCodes := by
  unfold dataReset
  split
  · exact .inr (by simp [Syscall.refusalCodes])
  simp only
  split
  · exact .inr (by simp [Syscall.refusalCodes])
  split
  · exact .inr (by simp [Syscall.refusalCodes])
  split
  · exact .inr (by simp [Syscall.refusalCodes])
  split
  · exact .inr (reset_refusal_refused _)
  · split
    · exact .inr (reset_blocked_refused _)
    · exact .inl rfl

theorem dispatch_data_reset_code (called : event.syscall = some .dataReset) :
    (dispatch sha256 freqHz event kernel).1 = resetOk ∨
      (dispatch sha256 freqHz event kernel).1 ∈ Syscall.dataReset.refusalCodes := by
  unfold dispatch
  rw [called]
  exact data_reset_code event.env event.arg1 event.arg2

theorem feed_usage_gate_reading (data : DataState) (fed bytes account : Nat) :
    (data.feedUsage fed bytes).2.gateReading account = data.gateReading account := by
  unfold feedUsage
  split <;> rfl

theorem reset_applied_effect (sound : kernel.Sound sha256)
    (applied : ResetApplied sha256 freqHz kernel event account) :
    (demoEntitlement account).isSome ∧
      (∃ mode, ResetMode.fromArg event.arg2 = some mode ∧
        resetPermittedAt (assessPeriodOf kernel.stores.data account event.env.gateTick)
          mode.isEarly (kernel.stores.data.lastResetTick account) event.env.gateTick
          (demoEarlyResetCooldownTicks freqHz) = .ok ()) ∧
      (step sha256 freqHz kernel event).stores.data =
        (kernel.stores.data.resetUsageAndPeriod account event.env.applyTick
          (some (demoInstallPeriodTicks freqHz))).2 := by
  obtain ⟨called, rfl, code⟩ := applied
  unfold step
  rcases (dispatch_handled sound.stores sound.audit freqHz event called).outcome with
    ⟨refused, -⟩ | ⟨-, effect⟩
  · rw [code] at refused
    simp [Syscall.refusalCodes, resetOk, resetDeniedCapability, resetDeniedMarshal,
      resetDeniedLocalFailure, resetNoEntitlement, resetNoSuchAccount, resetDeniedUnreachable,
      resetPeriodActive, resetClockBeforeStart, resetBadMode, resetEarlyCooldown,
      resetDeniedFaulty] at refused
  · generalize stores : (dispatch sha256 freqHz event kernel).2.stores = after at effect
    cases effect with
    | silent reads => simp [Syscall.readOnly] at reads
    | reset mode_eq entitled permitted => exact ⟨entitled, ⟨_, mode_eq, permitted⟩, rfl⟩

/-- Nothing but an applied reset of an account changes what its gates read. -/
theorem gate_reading_unchanged (sound : kernel.Sound sha256)
    (other : ¬ ResetApplied sha256 freqHz kernel event account) :
    (step sha256 freqHz kernel event).stores.data.gateReading account =
      kernel.stores.data.gateReading account := by
  unfold step
  cases called : event.syscall with
  | none => rw [dispatch_unknown called]
  | some call =>
    rcases (dispatch_handled sound.stores sound.audit freqHz event called).outcome with
      ⟨-, same⟩ | ⟨accepted, effect⟩
    · rw [same]
    generalize stores : (dispatch sha256 freqHz event kernel).2.stores = after at effect ⊢
    cases effect with
    | silent => rfl
    | create => rfl
    | install => rfl
    | enable => rfl
    | disable => rfl
    | delete => rfl
    | bind done =>
      obtain ⟨-, -, -, -, -, -, -, rfl⟩ := mvno_bind_accepted done
      rfl
    | suspend => rfl
    | reactivate done =>
      obtain ⟨-, rfl⟩ := mvno_reactivate_accepted done
      rfl
    | feed done =>
      have fed := congrArg Prod.snd done
      subst fed
      exact feed_usage_gate_reading _ _ _ _
    | openSession => rfl
    | closeSession => rfl
    | reconcile =>
      obtain ⟨-, periods, resets⟩ :=
        mark_observed_frame kernel.stores.data kernel.stores.data.usage
      unfold gateReading periodOf lastResetTick
      rw [periods, resets]
    | reset mode_eq entitled permitted =>
      have different : account ≠ event.arg1 := by
        rintro rfl
        exact other ⟨called, rfl, (dispatch_data_reset_code called).resolve_right accepted⟩
      obtain ⟨period, tick⟩ := reset_usage_and_period_other different
        event.env.applyTick (some (demoInstallPeriodTicks freqHz))
      exact Prod.ext period tick
    | advise done =>
      have after := congrArg Prod.snd done
      subst after
      exact Prod.ext (period_of_advise_period _ _ _ _)
        ((advise_period_changed ..).lastResetTick _)

end Step

/-! ## The tables keep a row for every entitled account -/

/-- Only entitled accounts have a period or a last reset. -/
def DataState.EntitledOnly (data : DataState) : Prop :=
  ∀ account, data.gateReading account ≠ (none, none) → (demoEntitlement account).isSome

theorem entitled_account_le {account : Nat} (entitled : (demoEntitlement account).isSome) :
    account ≤ 2 := by
  by_contra beyond
  simp [demoEntitlement, beyond] at entitled

theorem entitled_length_le {accounts : List Nat} (unique : accounts.Nodup)
    (entitled : ∀ account ∈ accounts, (demoEntitlement account).isSome) : accounts.length ≤ 3 := by
  have subset : accounts ⊆ [0, 1, 2] := by
    intro account listed
    have small := entitled_account_le (entitled account listed)
    simp only [List.mem_cons, List.not_mem_nil, or_false]
    omega
  exact (List.subperm_of_subset unique subset).length_le

/-- With at most one row per entitled account neither table can fill up. -/
theorem DataState.EntitledOnly.rooms {data : DataState} (only : data.EntitledOnly)
    (good : data.WellFormed) :
    data.periods.length < maxDataAccounts ∧ data.lastResets.length < maxDataAccounts := by
  have periods : (data.periods.map PeriodEntry.account).length ≤ 3 := by
    refine entitled_length_le good.periodUnique fun account listed => only account fun empty => ?_
    obtain ⟨row, found⟩ := (Tables.lookup_isSome_iff PeriodEntry.account).mpr listed
    simp [gateReading, periodOf, found] at empty
  have resets : (data.lastResets.map ResetEntry.account).length ≤ 3 := by
    refine entitled_length_le good.resetUnique fun account listed => only account fun empty => ?_
    obtain ⟨row, found⟩ := (Tables.lookup_isSome_iff ResetEntry.account).mpr listed
    simp [gateReading, lastResetTick, found] at empty
  rw [List.length_map] at periods resets
  unfold maxDataAccounts
  omega

theorem install_demo_period_gate_reading {freqHz account other : Nat} {data : DataState}
    (different : other ≠ account) :
    (installDemoPeriod freqHz account data).gateReading other = data.gateReading other := by
  unfold installDemoPeriod
  split
  · have changed := data.set_period_changed account
    exact Prod.ext (congrArg (Option.map PeriodEntry.period) ((changed _).others other different))
      ((changed _).lastResetTick other)
  · rfl

theorem boot_entitled_only (freqHz : Nat) : (Kernel.boot freqHz).stores.data.EntitledOnly := by
  intro account read
  by_cases entitled : account ≤ 2
  · simp only [demoEntitlement, entitled, if_true]
    rfl
  refine absurd ?_ read
  have notFirst : account ≠ 0 := by omega
  have notSecond : account ≠ 1 := by omega
  exact (install_demo_period_gate_reading notSecond).trans
    (install_demo_period_gate_reading notFirst)

/-- What a reset's gates rely on, in every reachable state. -/
structure Kernel.ResetSound (sha256 : Bytes → Bytes) (kernel : Kernel) : Prop where
  sound : kernel.Sound sha256
  entitled : kernel.stores.data.EntitledOnly

variable {sha256 : Bytes → Bytes}

theorem step_reset_sound (freqHz : Nat) (kernel : Kernel) (event : Event)
    (good : kernel.ResetSound sha256) : (step sha256 freqHz kernel event).ResetSound sha256 := by
  refine ⟨step_sound freqHz kernel event good.sound, fun account read => ?_⟩
  by_cases applied : ResetApplied sha256 freqHz kernel event account
  · exact (reset_applied_effect good.sound applied).1
  · rw [gate_reading_unchanged good.sound applied] at read
    exact good.entitled account read

theorem reached_reset_sound (sha256 : Bytes → Bytes) (freqHz : Nat) (events : List Event) :
    (reached sha256 freqHz events).ResetSound sha256 :=
  Runs.run_invariant _ (step_reset_sound freqHz) events _
    ⟨boot_sound sha256 freqHz, boot_entitled_only freqHz⟩

/-- An applied reset starts a period at the tick it was applied at and remembers
that tick. -/
theorem reset_applied_restarts {freqHz : Nat} {kernel : Kernel} {event : Event} {account : Nat}
    (good : kernel.ResetSound sha256) (ordered : event.env.gateTick ≤ event.env.applyTick)
    (applied : ResetApplied sha256 freqHz kernel event account) :
    ∃ period, (step sha256 freqHz kernel event).stores.data.gateReading account =
        (some period, some event.env.applyTick) ∧
      period.startTick = event.env.applyTick := by
  obtain ⟨-, ⟨mode, -, permitted⟩, data⟩ := reset_applied_effect good.sound applied
  obtain ⟨periodRoom, resetRoom⟩ := good.entitled.rooms good.sound.stores.data
  have installable : demoInstallPeriodTicks freqHz ≠ 0 :=
    millis_to_ticks_ne_zero (by decide)
  have clock : ∀ period, kernel.stores.data.periodOf account = some period →
      period.startTick ≤ event.env.applyTick := by
    intro period found
    rw [assessPeriodOf, found] at permitted
    exact (reset_permitted_clock permitted).trans ordered
  obtain ⟨⟨period, started, start⟩, last⟩ :=
    reset_usage_and_period_same installable periodRoom resetRoom clock
  refine ⟨period, ?_, start⟩
  rw [data]
  exact Prod.ext started last

/-! ## Runs -/

def counterReadings (events : List Event) : List Nat :=
  events.flatMap fun event => [event.env.gateTick, event.env.applyTick]

theorem counter_readings_ordered {events : List Event} {event : Event}
    (monotone : (counterReadings events).Pairwise (· ≤ ·)) (listed : event ∈ events) :
    event.env.gateTick ≤ event.env.applyTick := by
  have sublist : [event.env.gateTick, event.env.applyTick].Sublist (counterReadings events) :=
    List.sublist_flatten_of_mem (List.mem_map_of_mem listed)
  simpa using monotone.sublist sublist

/-- While the counter never decreases: an applied reset at tick `t` leaves the
account with a period that starts at `t`, and the next reset applied to the
account comes no earlier than that period's end, or, when early, than `t` plus
the cooldown. -/
theorem applied_resets_spaced (sha256 : Bytes → Bytes) (freqHz : Nat) (before : List Event)
    (first : Event) (account : Nat)
    (counter : (counterReadings (before ++ [first])).Pairwise (· ≤ ·))
    (applied : ResetApplied sha256 freqHz (reached sha256 freqHz before) first account) :
    ∃ period,
      (reached sha256 freqHz (before ++ [first])).stores.data.periodOf account = some period ∧
      period.startTick = first.env.applyTick ∧
      ∀ between second,
        (counterReadings (before ++ [first] ++ between ++ [second])).Pairwise (· ≤ ·) →
        Runs.EveryStep (step sha256 freqHz)
          (fun kernel event => ¬ ResetApplied sha256 freqHz kernel event account)
          (reached sha256 freqHz (before ++ [first])) between →
        ResetApplied sha256 freqHz (reached sha256 freqHz (before ++ [first] ++ between)) second
          account →
        (ResetMode.fromArg second.arg2 = some .normal →
          first.env.applyTick + period.lengthTicks ≤ second.env.applyTick) ∧
        (ResetMode.fromArg second.arg2 = some .early →
          first.env.applyTick + demoEarlyResetCooldownTicks freqHz ≤ second.env.applyTick) := by
  have stepped : reached sha256 freqHz (before ++ [first]) =
      step sha256 freqHz (reached sha256 freqHz before) first :=
    Runs.run_snoc _ _ _ _
  obtain ⟨period, restarted, start⟩ := reset_applied_restarts
    (reached_reset_sound sha256 freqHz before) (counter_readings_ordered counter (by simp)) applied
  rw [← stepped] at restarted
  refine ⟨period, congrArg Prod.fst restarted, start, fun between second clock quiet again => ?_⟩
  -- The two readings survive every call in between, so the second gate saw them.
  have kept : (reached sha256 freqHz (before ++ [first] ++ between)).stores.data.gateReading
      account = (some period, some first.env.applyTick) := by
    rw [reached_append, ← restarted]
    exact Runs.run_reading_unchanged (step sha256 freqHz)
      (fun kernel => kernel.stores.data.gateReading account) (step_reset_sound freqHz)
      (fun kernel event good skipped => gate_reading_unchanged good.sound skipped) between _
      (reached_reset_sound sha256 freqHz _) quiet
  have periodSeen := congrArg Prod.fst kept
  have lastSeen := congrArg Prod.snd kept
  simp only [gateReading] at periodSeen lastSeen
  obtain ⟨-, ⟨mode, chosen, permitted⟩, -⟩ := reset_applied_effect
    (reached_sound sha256 freqHz (before ++ [first] ++ between)) again
  rw [assessPeriodOf, periodSeen, lastSeen] at permitted
  have ordered : second.env.gateTick ≤ second.env.applyTick :=
    counter_readings_ordered clock (by simp)
  constructor
  · intro normal
    cases chosen.symm.trans normal
    exact start ▸ (reset_permitted_normal permitted).trans ordered
  · intro early
    cases chosen.symm.trans early
    exact (reset_permitted_early permitted).trans ordered

/-- Account 2 starts without a period: its first reset, at tick 10, installs a
day-long one, and an early reset is applied once the cooldown is over. -/
theorem first_reset_then_early :
    ∃ period,
      (reached Sha256.sha256 1000 [⟨.permissive 5 10, 23, 2, 0, 0⟩]).stores.data.periodOf 2 =
        some period ∧ period.startTick = 10 ∧
      10 + demoEarlyResetCooldownTicks 1000 ≤ 3600020 := by
  obtain ⟨period, found, start, spaced⟩ := applied_resets_spaced Sha256.sha256 1000 []
    ⟨.permissive 5 10, 23, 2, 0, 0⟩ 2 (by decide) ⟨rfl, rfl, by decide +kernel⟩
  refine ⟨period, found, start, ?_⟩
  refine (spaced [⟨.permissive 20 20, 24, 2, 0, 0⟩] ⟨.permissive 3600010 3600020, 23, 2, 1, 0⟩
    (by decide) ?_ ⟨rfl, rfl, by decide +kernel⟩).2 rfl
  rw [Runs.every_step_cons]
  refine ⟨?_, fun later event reached => by simp at reached⟩
  rintro ⟨called, -⟩
  simp [Event.syscall, Syscall.ofNumber] at called

end Runix.Arm
