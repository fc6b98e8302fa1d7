import Runix.Arm.SvcEffects
import Runix.Lib.Runs

/-!
# Syscalls refine subscription steps

Every accepted syscall is a step of the abstract machine, or leaves what the
abstract machine sees alone; only `SYS_SIM_ENABLE` is ever an `enable` step.
From this the well-formedness of the stores and the soundness of the audit chain
hold in every state a run reaches.
-/

namespace Runix.Arm

open Lib Lib.ByteStrings Mobile Arm.Sim DataState AccountRegistry Subscription Mvno

def Event.profileKey (event : Event) : ProfileKey := key event.arg1 (asU8 event.arg2)

def Refines (event : Event) (call : Syscall) (before after : Subscription) : Prop :=
  after = before ∨ ∃ action, Subscription.Step before action after ∧
    ∀ key, action = .enable key → call = .simEnable ∧ key = event.profileKey

section Refinement

variable {freqHz : Nat} {event : Event} {stores after : Stores} {call : Syscall}

theorem Refines.step {before reached after : Subscription} (action : Subscription.Action)
    (step : Subscription.Step before action reached) (view : after = reached)
    (gated : ∀ key, action = .enable key → call = .simEnable ∧ key = event.profileKey) :
    Refines event call before after :=
  .inr ⟨action, view ▸ step, gated⟩

variable {changed : SimSlots}

theorem transition_moved_at {slots : SimSlots} {slot profileId : Nat} {op : Op}
    (done : onSlot slots slot (fun s => s.transition profileId op) = (.ok (), changed)) :
    ∃ was, was.state = op.sourceState ∧
      Moved slots changed slot profileId was { was with state := op.targetState } op.siblings := by
  rcases on_slot_transition_cases slots slot profileId op with
    ⟨error, failed⟩ | ⟨was, after, source, accepted, moved⟩
  · rw [done] at failed
    simp at failed
  · rw [done] at accepted
    obtain rfl := (Prod.mk.inj accepted).2
    exact ⟨was, source, moved⟩

theorem refines_create (good : stores.WellFormed) {fresh : Nat}
    (done : create stores.slots event.arg1 = (.ok fresh, changed)) :
    Refines event .simCreate stores.view ({ stores with slots := changed } : Stores).view := by
  rcases create_table_cases good.slots event.arg1 with
    ⟨error, failed⟩ | ⟨id, after, -, accepted, free, made, others, elsewhere⟩
  · rw [done] at failed
    simp at failed
  rw [done] at accepted
  obtain ⟨sameId, rfl⟩ := Prod.mk.inj accepted
  obtain rfl : fresh = id := Except.ok.inj sameId
  refine .step (.create (key event.arg1 fresh)) (.create free)
    (Subscription.ext (funext fun k => ?_) rfl rfl rfl) (by simp)
  by_cases same : k = key event.arg1 fresh
  · subst same
    rw [with_profile_same]
    exact made
  rw [with_profile_other _ same]
  by_cases slot : k.slot = event.arg1
  · have profile : k.profile ≠ fresh := by
      intro id
      apply same
      cases k
      simp_all [key]
    simp only [Stores.view, slot, others k.profile profile]
  · exact elsewhere k.slot slot k.profile

theorem refines_install
    (done : Sim.install stores.slots event.arg1 (asU8 event.arg2) event.arg3 = (.ok (), changed)) :
    Refines event .simInstall stores.view ({ stores with slots := changed } : Stores).view := by
  rcases install_table_cases stores.slots event.arg1 (asU8 event.arg2) event.arg3 with
    ⟨error, failed⟩ | ⟨was, after, created, accepted, moved⟩
  · rw [done] at failed
    simp at failed
  rw [done] at accepted
  obtain rfl := (Prod.mk.inj accepted).2
  exact .step (.install event.profileKey event.arg3) (.install moved.found created)
    (view_moved_alone event.profileKey moved) (by simp)

theorem gate_enable_ok {slot profile : Nat} (gate : gateEnable stores slot profile = .ok ()) :
    ∃ account, stores.registry.ownerOf (key slot profile) = some account ∧
      stores.registry.standing account = some .active := by
  unfold gateEnable at gate
  cases owner : stores.registry.ownerOf (key slot profile) with
  | none => simp [owner] at gate
  | some account =>
    rw [owner] at gate
    exact ⟨account, rfl, (check_enable_ok_iff.mp gate).2⟩

theorem view_after_enable
    (done : enable stores.slots event.arg1 (asU8 event.arg2) = (.ok (), changed)) :
    ∃ was, stores.view.profile event.profileKey = some was ∧ was.state = .disabled ∧
      ({ stores with slots := changed } : Stores).view =
        stores.view.afterEnable event.profileKey was := by
  obtain ⟨was, source, moved⟩ := transition_moved_at done
  exact ⟨was, moved.found, source, view_enabled event.profileKey moved⟩

theorem refines_enable (gate : gateEnable stores event.arg1 (asU8 event.arg2) = .ok ())
    (done : enable stores.slots event.arg1 (asU8 event.arg2) = (.ok (), changed)) :
    Refines event .simEnable stores.view ({ stores with slots := changed } : Stores).view := by
  obtain ⟨was, found, disabled, view⟩ := view_after_enable done
  obtain ⟨account, owned, active⟩ := gate_enable_ok gate
  exact .step (.enable event.profileKey) (.enable found disabled owned active) view
    fun key same => ⟨rfl, (Subscription.Action.enable.inj same).symm⟩

variable (data : DataState)

theorem sessions_close_for_profile (slot profile : Nat) :
    { x | x ∈ (data.closeSessionsForProfile slot profile).2.sessions } =
      { x | x ∈ { y | y ∈ data.sessions } ∧ x.place ≠ key slot profile } := by
  ext x
  simp [DataState.closeSessionsForProfile, DataState.drainSessions, DataSession.place, key,
    imp_iff_not_or]

theorem refines_disable
    (done : disable stores.slots event.arg1 (asU8 event.arg2) = (.ok (), changed)) :
    Refines event .simDisable stores.view
      ({ stores with
         slots := changed
         data := (stores.data.closeSessionsForProfile event.arg1 (asU8 event.arg2)).2 } :
        Stores).view := by
  obtain ⟨was, source, moved⟩ := transition_moved_at done
  have profiles := congrArg profile (view_moved_alone event.profileKey moved)
  exact .step (.disable event.profileKey) (.disable moved.found source)
    (Subscription.ext profiles rfl rfl (sessions_close_for_profile _ _ _)) (by simp)

theorem delete_released (good : stores.WellFormed)
    (done : delete stores.slots event.arg1 (asU8 event.arg2) = (.ok (), changed)) :
    ∃ was, stores.view.profile event.profileKey = some was ∧ was.state = .disabled ∧
      ({ stores with slots := changed } : Stores).view =
        stores.view.withProfile event.profileKey { was with state := .deleted } ∧
      (unbind { stores with slots := changed } event.arg1
        (asU8 event.arg2)).2.registry.WellFormed ∧
      (unbind { stores with slots := changed } event.arg1
        (asU8 event.arg2)).2.registry.ownerOf =
          Function.update stores.registry.ownerOf event.profileKey none ∧
      (unbind { stores with slots := changed } event.arg1
        (asU8 event.arg2)).2.registry.standing = stores.registry.standing := by
  obtain ⟨was, source, moved⟩ := transition_moved_at done
  have view := view_moved_alone event.profileKey moved
  exact ⟨was, moved.found, source, view,
    mvno_unbind_released { stores with slots := changed } good.registry moved.moved
      (by simp [Op.targetState])⟩

theorem refines_delete (good : stores.WellFormed)
    (done : delete stores.slots event.arg1 (asU8 event.arg2) = (.ok (), changed)) :
    Refines event .simDelete stores.view
      ({ slots := changed
         registry :=
          (unbind { stores with slots := changed } event.arg1 (asU8 event.arg2)).2.registry
         data := (stores.data.closeSessionsForProfile event.arg1 (asU8 event.arg2)).2 } :
        Stores).view := by
  obtain ⟨was, found, disabled, slotsView, -, owners, standings⟩ := delete_released good done
  have profiles := congrArg profile slotsView
  exact .step (.delete event.profileKey) (.delete found disabled)
    (Subscription.ext profiles owners standings (sessions_close_for_profile _ _ _)) (by simp)

theorem refines_bind (done : bind stores event.arg1 event.arg2 (asU8 event.arg3) =
      (.ok (), after)) : Refines event .mvnoBind stores.view after.view := by
  obtain ⟨p, status, found, live, free, -, -, rfl⟩ := mvno_bind_accepted done
  refine .step (.bind (key event.arg2 (asU8 event.arg3)) event.arg1) (.bind found live free)
    (Subscription.ext rfl (funext fun other => ?_) rfl rfl) (by simp)
  exact (owner_of_bound free _ other).trans (Function.update_apply ..).symm

theorem refines_suspend (good : stores.WellFormed) {forced : List ProfileKey}
    (done : suspend stores event.arg1 = (.ok forced, after)) :
    Refines event .mvnoSuspend stores.view
      ({ after with
         slots := disableAll stores.slots forced
         data := (stores.data.closeSessionsForAccount event.arg1).2 } : Stores).view := by
  obtain ⟨active, gathered, rfl⟩ := mvno_suspend_accepted done
  exact .step (.suspend event.arg1) (.suspend active) (view_suspended good active gathered)
    (by simp)

theorem refines_reactivate (done : reactivate stores event.arg1 = (.ok (), after)) :
    Refines event .mvnoReactivate stores.view after.view := by
  obtain ⟨suspended, rfl⟩ := mvno_reactivate_accepted done
  exact .step (.reactivate event.arg1) (.reactivate suspended)
    (Subscription.ext rfl rfl (standing_with_status suspended _) rfl) (by simp)

theorem refines_sessions
    (subset : ∀ x ∈ data.sessions, x ∈ stores.data.sessions) :
    Refines event call stores.view ({ stores with data := data } : Stores).view :=
  .step .closeSessions (.closeSessions fun x member => subset x member)
    (Subscription.ext rfl rfl rfl rfl) (by simp)

theorem refines_data (same : data.sessions = stores.data.sessions) :
    Refines event call stores.view ({ stores with data := data } : Stores).view := by
  refine .inl (Subscription.ext rfl rfl rfl ?_)
  simp only [Stores.view, same]

theorem Effect.refines (good : stores.WellFormed)
    (effect : Effect freqHz event stores call after) :
    Refines event call stores.view after.view := by
  cases effect with
  | silent => exact .inl rfl
  | create done => exact refines_create good done
  | install done => exact refines_install done
  | enable gate done => exact refines_enable gate done
  | disable done => exact refines_disable done
  | delete done => exact refines_delete good done
  | bind done => exact refines_bind done
  | suspend done => exact refines_suspend good done
  | reactivate done => exact refines_reactivate done
  | feed done =>
    have same := feed_usage_sessions stores.data event.arg1 event.arg2
    rw [done] at same
    exact refines_data _ same
  | @openSession profile roaming entitlement rows entitled active owned enabled roams kept members =>
    obtain ⟨p, found, state⟩ := Option.map_eq_some_iff.mp (profile_state_ok_iff.mp enabled)
    exact .step (.openSession ⟨event.arg1, event.arg2, profile, roaming⟩)
      (.openSession found state owned active members) rfl (by simp)
  | closeSession profile =>
    exact refines_sessions _ fun x member => List.mem_of_mem_filter member
  | reconcile => exact refines_data _ (mark_observed_frame _ _).1
  | reset => exact refines_data _ (reset_usage_and_period_sessions _ _ _ _)
  | advise done =>
    have changed := stores.data.advise_period_changed event.arg1 event.env.gateTick
    rw [done] at changed
    exact refines_data _ changed.sessions

theorem Effect.well_formed (good : stores.WellFormed)
    (effect : Effect freqHz event stores call after) : after.WellFormed := by
  have healthy : after.view.Healthy := by
    rcases effect.refines good with same | ⟨action, step, -⟩
    · exact same ▸ good.healthy
    · exact good.healthy.step step
  cases effect with
  | silent => exact good
  | create done =>
    have slots := create_table_well_formed good.slots event.arg1
    rw [done] at slots
    exact ⟨slots, good.registry, good.data, healthy⟩
  | install done =>
    have slots := install_table_well_formed good.slots event.arg1 (asU8 event.arg2) event.arg3
    rw [done] at slots
    exact ⟨slots, good.registry, good.data, healthy⟩
  | enable gate done =>
    have slots := transition_table_well_formed good.slots event.arg1 (asU8 event.arg2)
      (show Op.enable ≠ Op.install by simp)
    rw [show onSlot _ _ _ = _ from done] at slots
    exact ⟨slots, good.registry, good.data, healthy⟩
  | disable done =>
    have slots := transition_table_well_formed good.slots event.arg1 (asU8 event.arg2)
      (show Op.disable ≠ Op.install by simp)
    rw [show onSlot _ _ _ = _ from done] at slots
    exact ⟨slots, good.registry, filter_sessions_well_formed good.data _, healthy⟩
  | delete done =>
    have slots := transition_table_well_formed good.slots event.arg1 (asU8 event.arg2)
      (show Op.delete ≠ Op.install by simp)
    rw [show onSlot _ _ _ = _ from done] at slots
    obtain ⟨-, -, -, -, registry, -⟩ := delete_released good done
    exact ⟨slots, registry, filter_sessions_well_formed good.data _, healthy⟩
  | bind done =>
    obtain ⟨p, status, -, -, free, known, room, rfl⟩ := mvno_bind_accepted done
    exact ⟨good.slots, bound_well_formed good.registry free known room,
      good.data, healthy⟩
  | suspend done =>
    obtain ⟨-, -, rfl⟩ := mvno_suspend_accepted done
    exact ⟨disable_all_well_formed good.slots _,
      with_status_well_formed good.registry _ _,
      filter_sessions_well_formed good.data _, healthy⟩
  | reactivate done =>
    obtain ⟨-, rfl⟩ := mvno_reactivate_accepted done
    exact ⟨good.slots, with_status_well_formed good.registry _ _, good.data,
      healthy⟩
  | feed done =>
    have data := feed_usage_well_formed good.data event.arg1 event.arg2
    rw [done] at data
    exact ⟨good.slots, good.registry, data, healthy⟩
  | openSession entitled active owned enabled roams kept members =>
    exact ⟨good.slots, good.registry, kept good.data, healthy⟩
  | closeSession profile =>
    exact ⟨good.slots, good.registry, filter_sessions_well_formed good.data _, healthy⟩
  | reconcile =>
    exact ⟨good.slots, good.registry, mark_observed_well_formed good.data, healthy⟩
  | reset =>
    exact ⟨good.slots, good.registry,
      reset_usage_and_period_well_formed good.data _ _ _, healthy⟩
  | advise done =>
    have changed := stores.data.advise_period_changed event.arg1 event.env.gateTick
    rw [done] at changed
    exact ⟨good.slots, good.registry, changed.well_formed good.data, healthy⟩

end Refinement

/-! ## Reachable states -/

structure Kernel.Sound (sha256 : Bytes → Bytes) (kernel : Kernel) : Prop where
  stores : kernel.stores.WellFormed
  audit : kernel.AuditSound sha256

theorem boot_registry_well_formed : bootRegistry.WellFormed where
  ids := by decide
  bound := by decide
  unique := by decide
  registered := by
    intro profile account owned
    have none : bootRegistry.ownerOf profile = none := rfl
    simp [none] at owned
  perAccount := by
    intro account
    have empty : bootRegistry.profilesOf account = [] := rfl
    simp [empty]

theorem install_demo_period_well_formed {data : DataState} (good : data.WellFormed)
    (freqHz account : Nat) : (installDemoPeriod freqHz account data).WellFormed := by
  unfold installDemoPeriod
  split
  · exact (set_period_changed ..).well_formed good
  · exact good

@[simp]
theorem install_demo_period_sessions (freqHz account : Nat) (data : DataState) :
    (installDemoPeriod freqHz account data).sessions = data.sessions := by
  unfold installDemoPeriod
  split
  · exact (set_period_changed ..).sessions
  · rfl

theorem boot_sessions (freqHz : Nat) : (Kernel.boot freqHz).stores.data.sessions = [] :=
  (install_demo_period_sessions freqHz 1 _).trans (install_demo_period_sessions freqHz 0 _)

theorem profile_at_boot (slot profileId : Nat) : profileAt SimSlots.boot slot profileId = none := by
  unfold profileAt SimSlots.boot
  split_ifs
  · simp [SimSlot.new]
  · rfl

theorem boot_sound (sha256 : Bytes → Bytes) (freqHz : Nat) : (Kernel.boot freqHz).Sound sha256 := by
  have empty : ∀ key, (Kernel.boot freqHz).stores.view.profile key = none :=
    fun key => profile_at_boot key.slot key.profile
  have unowned : ∀ key, (Kernel.boot freqHz).stores.view.owner key = none := fun _ => rfl
  refine ⟨⟨slots_boot_well_formed, boot_registry_well_formed, ?_, ?_⟩, ?_⟩
  · exact install_demo_period_well_formed
      (install_demo_period_well_formed new_well_formed freqHz 0) freqHz 1
  · constructor <;> simp [empty, unowned]
  · intro audit written
    simp [Kernel.boot] at written

section Runs

variable {sha256 : Bytes → Bytes} {kernel : Kernel}

theorem dispatch_stores (sound : kernel.Sound sha256) (freqHz : Nat) (event : Event) :
    (dispatch sha256 freqHz event kernel).2.stores = kernel.stores ∨
      ∃ call, event.syscall = some call ∧
        Effect freqHz event kernel.stores call (dispatch sha256 freqHz event kernel).2.stores := by
  cases called : event.syscall with
  | none =>
    rw [dispatch_unknown called]
    exact .inl rfl
  | some call =>
    rcases (dispatch_handled sound.stores sound.audit freqHz event called).outcome with
      ⟨-, same⟩ | ⟨-, effect⟩
    · exact .inl same
    · exact .inr ⟨call, rfl, effect⟩

theorem step_sound (freqHz : Nat) (kernel : Kernel) (event : Event)
    (sound : kernel.Sound sha256) : (step sha256 freqHz kernel event).Sound sha256 := by
  unfold step
  cases called : event.syscall with
  | none =>
    rw [dispatch_unknown called]
    exact sound
  | some call =>
    have handled := dispatch_handled sound.stores sound.audit freqHz event called
    refine ⟨?_, handled.sound⟩
    rcases handled.outcome with ⟨-, same⟩ | ⟨-, effect⟩
    · rw [same]
      exact sound.stores
    · exact effect.well_formed sound.stores

def reached (sha256 : Bytes → Bytes) (freqHz : Nat) (events : List Event) : Kernel :=
  Runs.run (step sha256 freqHz) (Kernel.boot freqHz) events

theorem reached_sound (sha256 : Bytes → Bytes) (freqHz : Nat) (events : List Event) :
    (reached sha256 freqHz events).Sound sha256 :=
  Runs.run_invariant _ (step_sound freqHz) events _ (boot_sound sha256 freqHz)

theorem reached_append (sha256 : Bytes → Bytes) (freqHz : Nat) (events later : List Event) :
    reached sha256 freqHz (events ++ later) =
      Runs.run (step sha256 freqHz) (reached sha256 freqHz events) later :=
  Runs.run_append _ _ _ _

end Runs

end Runix.Arm
