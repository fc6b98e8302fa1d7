import Runix.Arm.Refinement
import Runix.Mobile.Findings
import Runix.Lib.Sha256

/-!
# The reconciler on the live tables

The structural incident kinds cannot be reported on a snapshot of a state that
syscalls reach: the tables' own invariants, the health of the subscriptions and
two facts about sessions, who owns the profile and whether roaming was allowed,
make the snapshot consistent.
-/

namespace Runix.Arm

open Lib Lib.ByteStrings Mobile Arm.Sim List

/-! ## Sessions -/

def roamingAllowedFor (account : Nat) : Bool :=
  ((demoEntitlement account).map DataEntitlement.roamingDataAllowed).getD false

/-- Sessions belong to the owner of their profile and roam only where the
account's entitlement lets them. -/
structure Stores.SessionsEntitled (stores : Stores) : Prop where
  owned : stores.view.SessionsOwned
  roaming : ∀ x ∈ stores.data.sessions, x.roaming = true → roamingAllowedFor x.account = true

section Effects

variable {freqHz : Nat} {event : Event} {stores after : Stores} {call : Syscall}

theorem Effect.sessions_from (effect : Effect freqHz event stores call after) :
    ∀ x ∈ after.data.sessions, x ∈ stores.data.sessions ∨
      (x.roaming = true → roamingAllowedFor x.account = true) := by
  intro x member
  cases effect with
  | silent => exact .inl member
  | create => exact .inl member
  | install => exact .inl member
  | enable => exact .inl member
  | disable => exact .inl (mem_filter.mp member).1
  | delete => exact .inl (mem_filter.mp member).1
  | bind done =>
    obtain ⟨-, -, -, -, -, -, -, rfl⟩ := mvno_bind_accepted done
    exact .inl member
  | suspend => exact .inl (mem_filter.mp member).1
  | reactivate done =>
    obtain ⟨-, rfl⟩ := mvno_reactivate_accepted done
    exact .inl member
  | feed done =>
    have sessions := DataState.feed_usage_sessions stores.data event.arg1 event.arg2
    rw [done] at sessions
    exact .inl (sessions ▸ member)
  | openSession entitled active owned enabled roams good members =>
    rcases members x member with old | rfl
    · exact .inl old
    · refine .inr fun roaming => ?_
      simp [roamingAllowedFor, entitled, roams roaming]
  | closeSession => exact .inl (mem_filter.mp member).1
  | reconcile =>
    have frame := (DataState.mark_observed_frame stores.data stores.data.usage).1
    exact .inl (frame ▸ member)
  | reset =>
    have sessions := DataState.reset_usage_and_period_sessions stores.data event.arg1
      event.env.applyTick (some (demoInstallPeriodTicks freqHz))
    exact .inl (sessions ▸ member)
  | advise done =>
    have changed := stores.data.advise_period_changed event.arg1 event.env.gateTick
    rw [done] at changed
    exact .inl (changed.sessions ▸ member)

theorem Effect.sessions_entitled (effect : Effect freqHz event stores call after)
    (good : stores.WellFormed) (entitled : stores.SessionsEntitled) : after.SessionsEntitled := by
  constructor
  · rcases effect.refines good with same | ⟨action, moved, -⟩
    · rw [same]
      exact entitled.owned
    · exact entitled.owned.step moved
  · intro x member
    rcases effect.sessions_from x member with old | allowed
    · exact entitled.roaming x old
    · exact allowed

end Effects

/-- Everything the snapshot's consistency rests on. -/
structure Kernel.LiveSound (sha256 : Bytes → Bytes) (kernel : Kernel) : Prop where
  sound : kernel.Sound sha256
  sessions : kernel.stores.SessionsEntitled

variable (sha256 : Bytes → Bytes)

theorem boot_live_sound (freqHz : Nat) :
    (Kernel.boot freqHz).LiveSound sha256 := by
  refine ⟨boot_sound sha256 freqHz, fun x member => ?_, fun x member => ?_⟩
  · have listed : x ∈ (Kernel.boot freqHz).stores.data.sessions := member
    simp [boot_sessions] at listed
  · simp [boot_sessions] at member

theorem step_live_sound {sha256 : Bytes → Bytes} (freqHz : Nat) (kernel : Kernel) (event : Event)
    (live : kernel.LiveSound sha256) : (step sha256 freqHz kernel event).LiveSound sha256 := by
  refine ⟨step_sound freqHz kernel event live.sound, ?_⟩
  unfold step
  rcases dispatch_stores live.sound freqHz event with same | ⟨call, -, effect⟩
  · rw [same]
    exact live.sessions
  · exact effect.sessions_entitled live.sound.stores live.sessions

theorem reached_live_sound (freqHz : Nat) (events : List Event) :
    (reached sha256 freqHz events).LiveSound sha256 :=
  Runs.run_invariant _ (step_live_sound freqHz) events _ (boot_live_sound sha256 freqHz)

/-! ## Profile rows -/

def ProfileRow.key (row : ProfileRow) : Nat × Nat := (row.slot, row.profile)

section Rows

variable {stores : Stores}

variable (good : stores.slots.WellFormed)

include good

theorem profile_rows_mem {slots : List Nat} {row : ProfileRow}
    (listed : row ∈ profileRows stores slots) :
    row.slot ∈ slots ∧ row.owner = stores.view.owner ⟨row.slot, row.profile⟩ ∧
      ∃ p, stores.view.profile ⟨row.slot, row.profile⟩ = some p ∧ p.state = row.state := by
  induction slots with
  | nil => simp [profileRows] at listed
  | cons slot rest ih =>
    have later : row ∈ profileRows stores rest → _ := fun member =>
      And.imp_left (mem_cons_of_mem slot) (ih member)
    unfold profileRows at listed
    split at listed
    · rename_i list read
      rcases mem_append.mp listed with here | there
      · obtain ⟨p, member, rfl⟩ := mem_map.mp here
        exact ⟨mem_cons_self, rfl, p, profile_at_of_mem good read member, rfl⟩
      · exact later there
    · simp at listed
    · exact later listed

theorem profile_rows_keys {slots : List Nat}
    (unique : slots.Nodup) : ((profileRows stores slots).map ProfileRow.key).Nodup := by
  induction slots with
  | nil => exact nodup_nil
  | cons slot rest ih =>
    obtain ⟨fresh, restUnique⟩ := nodup_cons.mp unique
    unfold profileRows
    split
    · rename_i list read
      have ids := (profiles_well_formed good read).unique
      rw [map_append, map_map]
      refine List.Nodup.append ?_ (ih restUnique) ?_
      · refine List.Nodup.of_map Prod.snd ?_
        rw [map_map]
        exact ids
      · -- Rows of later slots carry another slot number.
        intro key here there
        obtain ⟨p, -, rfl⟩ := mem_map.mp here
        obtain ⟨row, listed, same⟩ := mem_map.mp there
        have slotEq : row.slot = slot := congrArg Prod.fst same
        exact fresh (slotEq ▸ (profile_rows_mem good listed).1)
    · exact nodup_nil
    · exact ih restUnique

theorem profile_rows_length (slots : List Nat) :
    (profileRows stores slots).length ≤ maxProfilesPerSlot * slots.length := by
  induction slots with
  | nil => exact Nat.zero_le _
  | cons slot rest ih =>
    unfold profileRows
    rw [length_cons, Nat.mul_succ]
    split
    · rename_i list read
      have bound : list.length ≤ maxProfilesPerSlot := (profiles_well_formed good read).bound
      rw [length_append, length_map]
      omega
    · exact Nat.zero_le _
    · omega

end Rows

/-! ## The snapshot -/

theorem lifecycle_for_reconcile_enabled_iff (state : ProfileState) :
    lifecycleForReconcile state = .enabled ↔ state = .enabled := by
  cases state <;> simp [lifecycleForReconcile]

section Snapshot

variable {stores : Stores}

theorem observed_profile (good : stores.WellFormed) {p : Reconcile.ObservedProfile}
    (listed : p ∈ (snapshotForReconcile stores).1.profiles) :
    p.owner = stores.view.owner ⟨p.slot, p.profile⟩ ∧
      ∃ q, stores.view.profile ⟨p.slot, p.profile⟩ = some q ∧
        (p.lifecycle = .enabled → q.state = .enabled) := by
  obtain ⟨row, member, rfl⟩ := mem_map.mp listed
  obtain ⟨-, owner, q, found, state⟩ := profile_rows_mem good.slots member
  refine ⟨owner, q, found, fun enabled => ?_⟩
  exact state.trans ((lifecycle_for_reconcile_enabled_iff row.state).mp enabled)

theorem observed_account (good : stores.WellFormed) {a : Reconcile.ObservedAccount}
    (listed : a ∈ (snapshotForReconcile stores).1.accounts) :
    ∃ status, stores.view.standing a.id = some status ∧
      a.standing = standingForReconcile status := by
  obtain ⟨pair, member, rfl⟩ := mem_map.mp listed
  obtain ⟨row, known, rfl⟩ := mem_map.mp member
  refine ⟨row.status, ?_, rfl⟩
  have unique : (stores.registry.accounts.map Account.id).Nodup :=
    good.registry.ids ▸ nodup_range
  have found := Tables.lookup_of_mem Account.id unique known
  exact congrArg (Option.map Account.status) found

theorem account_observed {account : Nat} {status : AccountStatus}
    (known : stores.view.standing account = some status) :
    ∃ a ∈ (snapshotForReconcile stores).1.accounts, a.id = account := by
  obtain ⟨row, found, -⟩ := Option.map_eq_some_iff.mp known
  have listed := Tables.lookup_mem Account.id found
  exact ⟨_, mem_map_of_mem (mem_map_of_mem listed), Tables.lookup_key Account.id found⟩

theorem snapshot_profile_keys (good : stores.WellFormed) :
    ((snapshotForReconcile stores).1.profiles.map Reconcile.ObservedProfile.key).Nodup := by
  have keys := profile_rows_keys good.slots (nodup_range (n := maxSlotScan))
  simp only [snapshotForReconcile, buildObserved, map_map]
  exact keys

theorem snapshot_consistent (good : stores.WellFormed) (entitled : stores.SessionsEntitled) :
    (snapshotForReconcile stores).1.Consistent where
  accountBound := by
    have bound := good.registry.bound
    simp only [snapshotForReconcile, buildObserved, Mvno.accounts, length_map,
      Reconcile.maxAccounts]
    exact bound.trans (by decide)
  profileBound := by
    have bound := profile_rows_length good.slots (List.range maxSlotScan)
    simp only [snapshotForReconcile, buildObserved, length_map, Reconcile.maxProfiles]
    exact bound.trans (by decide)
  sessionBound := by
    have bound := good.data.sessionBound
    simp only [snapshotForReconcile, buildObserved, DataState.snapshot, length_map,
      Reconcile.maxSessions]
    exact bound.trans (by decide)
  accountIds := by
    have unique : (stores.registry.accounts.map Account.id).Nodup :=
      good.registry.ids ▸ nodup_range
    simp only [snapshotForReconcile, buildObserved, Mvno.accounts, map_map]
    exact unique
  profileKeys := snapshot_profile_keys good
  ownersKnown := by
    intro p listed account owned
    obtain ⟨owner, -⟩ := observed_profile good listed
    obtain ⟨status, known⟩ := good.registry.registered _ account (owner.symm.trans owned)
    exact account_observed known
  enabledOwned := by
    intro p listed enabled
    obtain ⟨owner, q, found, state⟩ := observed_profile good listed
    obtain ⟨account, held, -⟩ := good.healthy.enabledOwned _ q found (state enabled)
    exact ⟨account, owner.trans held⟩
  enabledActive := by
    intro p listed enabled a known owned
    obtain ⟨owner, q, found, state⟩ := observed_profile good listed
    obtain ⟨account, held, active⟩ := good.healthy.enabledOwned _ q found (state enabled)
    obtain rfl : a.id = account := Option.some.inj (owned.symm.trans (owner.trans held))
    obtain ⟨status, standing, observed⟩ := observed_account good known
    obtain rfl : status = .active := Option.some.inj (standing.symm.trans active)
    exact observed
  oneEnabled := by
    intro p listedP q listedQ enabledP enabledQ slot
    obtain ⟨-, r, foundP, stateP⟩ := observed_profile good listedP
    obtain ⟨-, s, foundQ, stateQ⟩ := observed_profile good listedQ
    have same := good.healthy.oneEnabled _ _ r s foundP foundQ slot (stateP enabledP)
      (stateQ enabledQ)
    have profile : p.profile = q.profile := congrArg ProfileKey.profile same
    refine inj_on_of_nodup_map (snapshot_profile_keys good) listedP listedQ ?_
    rw [Reconcile.ObservedProfile.key, Reconcile.ObservedProfile.key, slot, profile]
  usage := by
    intro a listed last remembered
    obtain ⟨pair, -, rfl⟩ := mem_map.mp listed
    obtain ⟨row, found, lastUsed⟩ := Option.bind_eq_some_iff.mp remembered
    have fed := good.data.usageObserved row (Tables.lookup_mem UsageEntry.account found) last lastUsed
    have read : Tables.lookup UsageEntry.account pair.1 stores.data.usage = some row := found
    simp only [DataState.snapshot, read]
    exact fed
  sessionOwner := by
    intro s listedS p listedP slot profile
    obtain ⟨x, member, rfl⟩ := mem_map.mp listedS
    obtain ⟨owner, -⟩ := observed_profile good listedP
    rw [owner, slot, profile]
    exact entitled.owned x member
  sessionRoaming := by
    intro s listed roaming
    obtain ⟨x, member, rfl⟩ := mem_map.mp listed
    exact entitled.roaming x member roaming

end Snapshot

/-- Reconciling the live snapshot of a reachable state never reports a structural
incident. -/
theorem live_reconcile_structural_free (sha256 : Bytes → Bytes) (freqHz : Nat)
    (events : List Event) :
    ∀ incident ∈ Reconcile.reconcile
        (snapshotForReconcile (reached sha256 freqHz events).stores).1,
      incident.kind ∉ Reconcile.structuralKinds := by
  have live := reached_live_sound sha256 freqHz events
  exact (snapshot_consistent live.sound.stores live.sessions).reconcile_kinds

def overCapRun : List Event :=
  [⟨.permissive 0 0, 5, 0, 0, 0⟩, ⟨.permissive 0 0, 6, 0, 0, 17⟩, ⟨.permissive 0 0, 16, 0, 0, 0⟩,
    ⟨.permissive 0 0, 7, 0, 0, 0⟩, ⟨.permissive 0 0, 19, 0, 5000, 0⟩]

/-- What the reconciler reports there is about usage, not about structure. -/
theorem over_cap_report_not_structural :
    Reconcile.Incident.mk .anomalousUsageNoEscalation (.account 0) (.percent 150)
        (.usageOfCap 5000 1000) ∈
      Reconcile.reconcile
        (snapshotForReconcile (reached Sha256.sha256 62500000 overCapRun).stores).1 ∧
      Reconcile.IncidentKind.anomalousUsageNoEscalation ∉ Reconcile.structuralKinds := by
  have reported : Reconcile.Incident.mk .anomalousUsageNoEscalation (.account 0) (.percent 150)
      (.usageOfCap 5000 1000) ∈ Reconcile.reconcile
        (snapshotForReconcile (reached Sha256.sha256 62500000 overCapRun).stores).1 := by
    decide +kernel
  exact ⟨reported,
    live_reconcile_structural_free Sha256.sha256 62500000 overCapRun _ reported⟩

end Runix.Arm
