import Runix.Arm.Kernel
import Runix.Arm.Subscription

/-!
# The stores as subscriptions

The slot table, the registry and the session table, read as one `Subscription`,
and what each store operation is in those terms.
-/

namespace Runix.Arm

open Lib Mobile Arm.Sim Function List AccountRegistry Mvno Subscription

def Stores.view (stores : Stores) : Subscription where
  profile := fun key => profileAt stores.slots key.slot key.profile
  owner := stores.registry.ownerOf
  standing := stores.registry.standing
  sessions := { session | session ∈ stores.data.sessions }

structure Stores.WellFormed (stores : Stores) : Prop where
  slots : stores.slots.WellFormed
  registry : stores.registry.WellFormed
  data : stores.data.WellFormed
  healthy : stores.view.Healthy

/-! ## Lifecycles -/

theorem lifecycle_view_eq (slots : SimSlots) (key : ProfileKey) :
    lifecycleView slots key =
      (profileAt slots key.slot key.profile).map fun p => adapt p.state := by
  unfold lifecycleView
  cases found : profileAt slots key.slot key.profile with
  | none =>
    cases read : profileState slots key.slot key.profile with
    | error => rfl
    | ok state =>
      rw [profile_state_ok_iff, found] at read
      simp at read
  | some p =>
    have read : profileState slots key.slot key.profile = .ok p.state :=
      profile_state_ok_iff.mpr (by rw [found]; rfl)
    rw [read]
    rfl

theorem adapt_eq_enabled_iff (state : ProfileState) :
    adapt state = .enabled ↔ state = .enabled := by
  cases state <;> simp [adapt]

theorem adapt_eq_deleted_iff (state : ProfileState) :
    adapt state = .deleted ↔ state = .deleted := by
  cases state <;> simp [adapt]

theorem lifecycle_view_enabled_iff (slots : SimSlots) (key : ProfileKey) :
    lifecycleView slots key = some .enabled ↔
      ∃ p, profileAt slots key.slot key.profile = some p ∧ p.state = .enabled := by
  rw [lifecycle_view_eq, Option.map_eq_some_iff]
  simp only [adapt_eq_enabled_iff]

theorem audit_empty {stores : Stores} (registry : stores.registry.WellFormed)
    (healthy : stores.view.Healthy) : audit stores = [] := by
  unfold Mvno.audit AccountRegistry.audit
  rw [map_eq_nil_iff, filter_eq_nil_iff]
  intro binding member reported
  simp only [decide_eq_true_eq, lifecycle_view_enabled_iff] at reported
  obtain ⟨⟨p, found, enabled⟩, inactive⟩ := reported
  obtain ⟨account, owned, active⟩ := healthy.enabledOwned binding.1 p found enabled
  have holder : stores.registry.ownerOf binding.1 = some binding.2 :=
    (mem_bindings_iff registry).mp member
  obtain rfl : binding.2 = account := Option.some.inj (holder.symm.trans owned)
  obtain ⟨row, known, status⟩ := Option.map_eq_some_iff.mp active
  simp [known, status] at inactive

/-! ## Slot operations -/

section

variable {stores : Stores} {after : SimSlots} {was : EsimProfile}

theorem view_moved {key : ProfileKey} {now : EsimProfile} {others : EsimProfile → EsimProfile}
    (moved : Moved stores.slots after key.slot key.profile was now others) (k : ProfileKey) :
    ({ stores with slots := after } : Stores).view.profile k =
      if k = key then some now
      else if k.slot = key.slot then (stores.view.profile k).map others
      else stores.view.profile k := by
  unfold Stores.view
  simp only
  split_ifs with same slot
  · rw [same]
    exact moved.moved
  · have different : k.profile ≠ key.profile := by
      intro profile
      apply same
      cases k
      cases key
      simp_all
    rw [slot]
    exact moved.siblings k.profile different
  · exact moved.elsewhere k.slot slot k.profile

theorem view_moved_alone (key : ProfileKey) {now : EsimProfile}
    (moved : Moved stores.slots after key.slot key.profile was now id) :
    ({ stores with slots := after } : Stores).view = stores.view.withProfile key now := by
  refine Subscription.ext (funext fun k => ?_) rfl rfl rfl
  rw [view_moved moved]
  unfold withProfile
  by_cases same : k = key
  · simp [same]
  · simp [same]

theorem view_enabled (key : ProfileKey)
    (moved : Moved stores.slots after key.slot key.profile was { was with state := .enabled }
      demoteEnabled) :
    ({ stores with slots := after } : Stores).view = stores.view.afterEnable key was := by
  refine Subscription.ext (funext fun k => ?_) rfl rfl rfl
  rw [view_moved moved]
  unfold afterEnable withProfile demoteWhere
  by_cases same : k = key
  · simp [same]
  · simp [same]

end

variable {slots : SimSlots}

theorem disable_enabled {key : ProfileKey} {p : EsimProfile}
    (found : profileAt slots key.slot key.profile = some p) (enabled : p.state = .enabled) :
    ∃ after, disable slots key.slot key.profile = (.ok (), after) ∧
      Moved slots after key.slot key.profile p { p with state := .disabled } id := by
  rcases on_slot_transition_cases slots key.slot key.profile .disable with
    ⟨error, failed⟩ | ⟨was, after, source, done, moved⟩
  · have accepted := (on_slot_transition_ok_iff slots key.slot key.profile .disable).mpr
      (by rw [found, Option.map_some, enabled]; rfl)
    rw [failed] at accepted
    simp at accepted
  · obtain rfl : was = p := Option.some.inj (moved.found.symm.trans found)
    exact ⟨after, done, moved⟩

def disableAll (slots : SimSlots) (keys : List ProfileKey) : SimSlots :=
  keys.foldl (fun slots key => (disable slots key.slot key.profile).2) slots

theorem disable_all_well_formed (good : slots.WellFormed)
    (keys : List ProfileKey) : (disableAll slots keys).WellFormed := by
  induction keys generalizing slots with
  | nil => exact good
  | cons key rest ih =>
    exact ih (transition_table_well_formed good key.slot key.profile
      (show Op.disable ≠ Op.install by simp))

theorem profile_at_disable_all {keys : List ProfileKey} (unique : keys.Nodup)
    (enabled : ∀ key ∈ keys,
      ∃ p, profileAt slots key.slot key.profile = some p ∧ p.state = .enabled)
    (k : ProfileKey) :
    profileAt (disableAll slots keys) k.slot k.profile =
      if k ∈ keys then (profileAt slots k.slot k.profile).map demoteEnabled
      else profileAt slots k.slot k.profile := by
  induction keys generalizing slots with
  | nil => simp [disableAll]
  | cons key rest ih =>
    obtain ⟨p, found, isEnabled⟩ := enabled key mem_cons_self
    obtain ⟨after, done, moved⟩ := disable_enabled found isEnabled
    have restUnique := nodup_cons.mp unique
    have kept : ∀ other : ProfileKey, other ≠ key →
        profileAt after other.slot other.profile = profileAt slots other.slot other.profile := by
      intro other different
      by_cases slot : other.slot = key.slot
      · have profile : other.profile ≠ key.profile := by
          intro same
          apply different
          cases other
          cases key
          simp_all
        rw [slot, moved.siblings other.profile profile, Option.map_id, id]
      · exact moved.elsewhere other.slot slot other.profile
    have restEnabled : ∀ other ∈ rest,
        ∃ q, profileAt after other.slot other.profile = some q ∧ q.state = .enabled := by
      intro other member
      have different : other ≠ key := fun same => restUnique.1 (same ▸ member)
      rw [kept other different]
      exact enabled other (mem_cons_of_mem _ member)
    have first : disableAll slots (key :: rest) = disableAll after rest := by
      simp only [disableAll, foldl_cons, done]
    rw [first, ih restUnique.2 restEnabled]
    by_cases same : k = key
    · subst same
      have demoted : demoteEnabled p = { p with state := .disabled } := by
        simp [demoteEnabled, isEnabled]
      rw [if_neg restUnique.1, if_pos mem_cons_self, moved.moved, found, Option.map_some,
        demoted]
    · simp only [mem_cons, same, false_or, kept k same]

/-! ## Registry operations -/

variable (stores : Stores)

theorem mvno_bind_cases (account slot profile : Nat) :
    (∃ error, bind stores account slot profile = (.error error, stores)) ∨
      ∃ p status, stores.view.profile (key slot profile) = some p ∧ p.state ≠ .deleted ∧
        stores.registry.ownerOf (key slot profile) = none ∧
        stores.registry.standing account = some status ∧
        (stores.registry.profilesOf account).length < maxProfilesPerAccount ∧
        bind stores account slot profile =
          (.ok (), { stores with
            registry := { stores.registry with
              bindings := stores.registry.bindings ++ [(key slot profile, account)] } }) := by
  unfold Mvno.bind
  rcases bind_cases stores.registry account (key slot profile)
      (lifecycleView stores.slots) with
    ⟨error, failed⟩ | ⟨status, state, known, -, free, read, live, -, room, done⟩
  · exact .inl ⟨error, by simp only [failed]⟩
  rw [lifecycle_view_eq] at read
  obtain ⟨p, found, adapted⟩ := Option.map_eq_some_iff.mp read
  refine .inr ⟨p, status, found, fun deleted => live ?_, free, known, room, by simp only [done]⟩
  rw [← adapted, adapt_eq_deleted_iff]
  exact deleted

theorem mvno_unbind_released (good : stores.registry.WellFormed)
    {slot profile : Nat} {p : EsimProfile}
    (found : stores.view.profile (key slot profile) = some p) (quiet : p.state ≠ .enabled) :
    (unbind stores slot profile).2.registry.WellFormed ∧
      (unbind stores slot profile).2.registry.ownerOf =
        update stores.registry.ownerOf (key slot profile) none ∧
      (unbind stores slot profile).2.registry.standing = stores.registry.standing := by
  have read : lifecycleView stores.slots (key slot profile) = some (adapt p.state) := by
    rw [lifecycle_view_eq]
    exact congrArg _ found
  unfold Mvno.unbind
  split
  · rename_i free
    refine ⟨good, ?_, rfl⟩
    rw [← free, update_eq_self]
  rename_i owner owned
  rcases unbind_cases stores.registry (key slot profile)
      (lifecycleView stores.slots) with ⟨error, -, why⟩ | ⟨-, -, done⟩
  · rw [owned, read] at why
    simp [adapt_eq_enabled_iff, quiet] at why
  simp only [done]
  refine ⟨unbound_well_formed good _, funext fun other => ?_, rfl⟩
  rw [owner_of_unbound good]
  exact (update_apply ..).symm

theorem mvno_reactivate_cases (account : Nat) :
    (∃ error, reactivate stores account = (.error error, stores)) ∨
      stores.registry.standing account = some .suspended ∧
        reactivate stores account =
          (.ok (), { stores with registry := stores.registry.withStatus account .active }) := by
  unfold Mvno.reactivate
  rcases reactivate_cases stores.registry account with
    ⟨error, failed⟩ | ⟨suspended, done⟩
  · exact .inl ⟨error, by simp only [failed]⟩
  · exact .inr ⟨suspended, by simp only [done]⟩

theorem mvno_suspend_cases (account : Nat) :
    (∃ error, suspend stores account = (.error error, stores)) ∨
      ∃ forced, stores.registry.standing account = some .active ∧
        AccountRegistry.gatherForced .suspended (lifecycleView stores.slots)
          (stores.registry.profilesOf account) = .ok forced ∧
        suspend stores account =
          (.ok forced, { stores with
            registry := stores.registry.withStatus account .suspended }) := by
  unfold Mvno.suspend
  rcases suspend_cases stores.registry account
      (lifecycleView stores.slots) with ⟨error, failed⟩ | ⟨forced, active, gathered, done⟩
  · exact .inl ⟨error, by simp only [failed]⟩
  · exact .inr ⟨forced, active, gathered, by simp only [done]⟩

section Accepted

variable {stores after : Stores} {account slot profile : Nat}

theorem mvno_bind_accepted (done : bind stores account slot profile = (.ok (), after)) :
    ∃ p status, stores.view.profile (key slot profile) = some p ∧ p.state ≠ .deleted ∧
      stores.registry.ownerOf (key slot profile) = none ∧
      stores.registry.standing account = some status ∧
      (stores.registry.profilesOf account).length < maxProfilesPerAccount ∧
      after = { stores with
        registry := { stores.registry with
          bindings := stores.registry.bindings ++ [(key slot profile, account)] } } := by
  rcases mvno_bind_cases stores account slot profile with
    ⟨error, failed⟩ | ⟨p, status, found, live, free, known, room, bound⟩
  · cases done.symm.trans failed
  · exact ⟨p, status, found, live, free, known, room, (Prod.mk.inj (done.symm.trans bound)).2⟩

theorem mvno_reactivate_accepted (done : reactivate stores account = (.ok (), after)) :
    stores.registry.standing account = some .suspended ∧
      after = { stores with registry := stores.registry.withStatus account .active } := by
  rcases mvno_reactivate_cases stores account with ⟨error, failed⟩ | ⟨suspended, active⟩
  · cases done.symm.trans failed
  · exact ⟨suspended, (Prod.mk.inj (done.symm.trans active)).2⟩

theorem mvno_suspend_accepted {forced : List ProfileKey}
    (done : suspend stores account = (.ok forced, after)) :
    stores.registry.standing account = some .active ∧
      AccountRegistry.gatherForced .suspended (lifecycleView stores.slots)
        (stores.registry.profilesOf account) = .ok forced ∧
      after = { stores with registry := stores.registry.withStatus account .suspended } := by
  rcases mvno_suspend_cases stores account with
    ⟨error, failed⟩ | ⟨keys, active, gathered, suspended⟩
  · cases done.symm.trans failed
  · obtain ⟨same, left⟩ := Prod.mk.inj (done.symm.trans suspended)
    exact ⟨active, Except.ok.inj same ▸ gathered, left⟩

theorem standing_with_status {registry : AccountRegistry} {status : AccountStatus}
    (known : registry.standing account = some status) (target : AccountStatus) :
    (registry.withStatus account target).standing =
      update registry.standing account (some target) := by
  funext other
  by_cases same : other = account
  · subst same
    rw [update_self, standing_with_status_same known]
  · rw [update_of_ne same, standing_with_status_other same]

end Accepted

/-! ## Suspension -/

section Suspension

variable {stores : Stores} {account : AccountId} {forced : List ProfileKey}

/-- The profiles a suspension forces down: those the account owns that are
Enabled, each once. -/
theorem forced_profiles (good : stores.WellFormed)
    (gathered : AccountRegistry.gatherForced .suspended (lifecycleView stores.slots)
      (stores.registry.profilesOf account) = .ok forced) :
    forced.Nodup ∧ ∀ key, key ∈ forced ↔
      stores.registry.ownerOf key = some account ∧
        ∃ p, profileAt stores.slots key.slot key.profile = some p ∧ p.state = .enabled := by
  rw [gather_forced_eq_filter gathered]
  constructor
  · apply List.Nodup.filter
    exact good.registry.unique.sublist (filter_sublist.map Prod.fst)
  · intro key
    rw [mem_filter, mem_profiles_of_iff good.registry, decide_eq_true_eq,
      lifecycle_view_enabled_iff]

theorem view_suspended (good : stores.WellFormed)
    (active : stores.registry.standing account = some .active)
    (gathered : AccountRegistry.gatherForced .suspended (lifecycleView stores.slots)
      (stores.registry.profilesOf account) = .ok forced) :
    ({ slots := disableAll stores.slots forced
       registry := stores.registry.withStatus account .suspended
       data := (stores.data.closeSessionsForAccount account).2 } : Stores).view =
      stores.view.afterSuspend account := by
  obtain ⟨unique, members⟩ := forced_profiles good gathered
  refine Subscription.ext (funext fun k => ?_) rfl (standing_with_status active _)
    (Set.ext fun x => ?_)
  · have moved := profile_at_disable_all unique (fun key member => ((members key).mp member).2) k
    simp only [Stores.view, afterSuspend, demoteWhere, moved, members]
    by_cases owned : stores.registry.ownerOf k = some account
    · cases found : profileAt stores.slots k.slot k.profile with
      | none => simp [owned]
      | some p =>
        by_cases enabled : p.state = .enabled
        · simp [owned, enabled]
        · simp [owned, enabled, demote_enabled_of_ne enabled]
    · simp [owned]
  · simp [Stores.view, afterSuspend, DataState.closeSessionsForAccount,
      DataState.drainSessions]

end Suspension

end Runix.Arm
