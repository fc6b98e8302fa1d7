import Runix.Arm.Refinement
import Runix.Lib.Sha256

/-!
# What holds between syscalls

The consistency of the slot table and the registry in every reachable state, and
the all-or-nothing reading of the return codes.
-/

namespace Runix.Arm

open Lib Lib.ByteStrings Mobile Arm.Sim

section Slots

variable {slots : SimSlots}

/-- Distinct ids and one Enabled profile per slot: at most one row is Enabled. -/
theorem enabled_count_le_one (good : slots.WellFormed) {slot : Nat} {list : List EsimProfile}
    (read : profiles slots slot = .ok list) :
    (list.filter fun p => p.state = .enabled).length ≤ 1 := by
  have unique : (list.filter fun p => p.state = .enabled).Nodup :=
    (List.Nodup.of_map _ (profiles_well_formed good read).unique).filter _
  rcases few : list.filter (fun p => p.state = .enabled) with _ | ⟨p, _ | ⟨q, rest⟩⟩
  · simp [few]
  · simp [few]
  have enabledP : p ∈ list.filter fun p => p.state = .enabled := by simp [few]
  have enabledQ : q ∈ list.filter fun p => p.state = .enabled := by simp [few]
  simp only [List.mem_filter, decide_eq_true_eq] at enabledP enabledQ
  have foundP := profile_at_of_mem good read enabledP.1
  have foundQ := profile_at_of_mem good read enabledQ.1
  have same := good.one_enabled foundP foundQ enabledP.2 enabledQ.2
  rw [same, foundQ, Option.some.injEq] at foundP
  rw [few, foundP] at unique
  simp at unique

end Slots

variable {sha256 : Bytes → Bytes}

theorem step_deleted_kept (freqHz : Nat) {kernel : Kernel}
    (sound : kernel.Sound sha256) (event : Event) {key : ProfileKey} {p : EsimProfile}
    (found : kernel.stores.view.profile key = some p) (deleted : p.state = .deleted) :
    (step sha256 freqHz kernel event).stores.view.profile key = some p := by
  unfold step
  rcases dispatch_stores sound freqHz event with same | ⟨call, -, effect⟩
  · rw [same]
    exact found
  rcases effect.refines sound.stores with same | ⟨action, moved, -⟩
  · rw [same]
    exact found
  · exact moved.deleted_kept found deleted

theorem run_deleted_kept (freqHz : Nat) (later : List Event)
    {kernel : Kernel} (sound : kernel.Sound sha256) {key : ProfileKey} {p : EsimProfile}
    (found : kernel.stores.view.profile key = some p) (deleted : p.state = .deleted) :
    (Runs.run (step sha256 freqHz) kernel later).stores.view.profile key = some p := by
  induction later generalizing kernel with
  | nil => exact found
  | cons event rest ih =>
    exact ih (step_sound freqHz kernel event sound)
      (step_deleted_kept freqHz sound event found deleted)

/-- In every state between syscalls: at most one Enabled profile per slot, every
Enabled profile bound to an Active account, an identity exactly on the profiles
that have left Created, Deleted profiles unowned and final, and an empty audit. -/
theorem slots_and_registry_consistent (sha256 : Bytes → Bytes) (freqHz : Nat)
    (events : List Event) :
    (∀ slot list, profiles (reached sha256 freqHz events).stores.slots slot = .ok list →
      (list.filter fun p => p.state = .enabled).length ≤ 1 ∧
      ∀ p ∈ list,
        (p.state = .enabled → ∃ account,
          Mvno.ownerOf (reached sha256 freqHz events).stores slot p.id = some account ∧
          Mvno.standing (reached sha256 freqHz events).stores account = some .active) ∧
        (p.identity.isSome ↔ p.state ≠ .created) ∧
        (p.state = .deleted →
          Mvno.ownerOf (reached sha256 freqHz events).stores slot p.id = none ∧
          ∀ later, profileAt (reached sha256 freqHz (events ++ later)).stores.slots slot p.id =
            some p)) ∧
      Mvno.audit (reached sha256 freqHz events).stores = [] := by
  have sound := reached_sound sha256 freqHz events
  refine ⟨fun slot list read => ⟨enabled_count_le_one sound.stores.slots read, fun p listed => ?_⟩,
    audit_empty sound.stores.registry sound.stores.healthy⟩
  have found : (reached sha256 freqHz events).stores.view.profile (Mvno.key slot p.id) = some p :=
    profile_at_of_mem sound.stores.slots read listed
  have healthy := sound.stores.healthy
  refine ⟨healthy.enabledOwned _ p found, healthy.identity _ p found, fun deleted => ⟨?_, ?_⟩⟩
  · by_contra held
    obtain ⟨account, owned⟩ := Option.ne_none_iff_exists'.mp held
    obtain ⟨q, foundQ, live⟩ := healthy.ownedLive _ account owned
    rw [found, Option.some.injEq] at foundQ
    exact live (foundQ ▸ deleted)
  · intro later
    rw [reached_append]
    exact run_deleted_kept freqHz later sound found deleted

/-! ## Refusals -/

theorem mvno_suspend_code (sha256 : Bytes → Bytes) (env : Env) (account : Nat)
    (kernel : Kernel) :
    (mvnoSuspend sha256 env account kernel).1 = 0 ∨ (mvnoSuspend sha256 env account kernel).1 = 1 := by
  unfold mvnoSuspend
  split
  · split
    · exact .inr rfl
    · unfold suspendAccount
      simp only
      split
      · exact .inr rfl
      split_ifs
      · exact .inl rfl
      · exact .inr rfl
  · exact .inr rfl

/-- In every reachable state a SIM, MVNO or DATA syscall that answers with one of
its refusal codes leaves every store as it was; `SYS_MVNO_SUSPEND`, which moves
the registry before it decides its answer, answers non-zero only then. -/
theorem refused_syscall_keeps_stores (sha256 : Bytes → Bytes) (freqHz : Nat)
    (events : List Event) (event : Event) :
    (∀ call, event.syscall = some call →
      (dispatch sha256 freqHz event (reached sha256 freqHz events)).1 ∈ call.refusalCodes →
      (dispatch sha256 freqHz event (reached sha256 freqHz events)).2.stores =
        (reached sha256 freqHz events).stores) ∧
    (event.syscall = some .mvnoSuspend →
      (dispatch sha256 freqHz event (reached sha256 freqHz events)).1 ≠ 0 →
      (dispatch sha256 freqHz event (reached sha256 freqHz events)).2.stores =
        (reached sha256 freqHz events).stores) := by
  have sound := reached_sound sha256 freqHz events
  have refusal : ∀ call, event.syscall = some call →
      (dispatch sha256 freqHz event (reached sha256 freqHz events)).1 ∈ call.refusalCodes →
      (dispatch sha256 freqHz event (reached sha256 freqHz events)).2.stores =
        (reached sha256 freqHz events).stores := by
    intro call called refused
    rcases (dispatch_handled sound.stores sound.audit freqHz event called).outcome with
      ⟨-, same⟩ | ⟨accepted, -⟩
    · exact same
    · exact absurd refused accepted
  refine ⟨refusal, fun called nonzero => refusal .mvnoSuspend called ?_⟩
  have answered : dispatch sha256 freqHz event (reached sha256 freqHz events) =
      mvnoSuspend sha256 event.env event.arg1 (reached sha256 freqHz events) := by
    unfold dispatch
    rw [called]
  rw [answered] at nonzero ⊢
  rcases mvno_suspend_code sha256 event.env event.arg1 (reached sha256 freqHz events) with
    zero | one
  · exact absurd zero nonzero
  · rw [one]
    decide

def enabledProfileRun : List Event :=
  [⟨.permissive 0 0, 5, 0, 0, 0⟩, ⟨.permissive 0 0, 6, 0, 0, 17⟩, ⟨.permissive 0 0, 16, 0, 0, 0⟩,
    ⟨.permissive 0 0, 7, 0, 0, 0⟩]

/-- A second enable of an Enabled profile and a suspension of an unknown account
are both refused and change nothing. -/
theorem refusals_after_enable :
    (dispatch Sha256.sha256 62500000 ⟨.permissive 0 0, 7, 0, 0, 0⟩
        (reached Sha256.sha256 62500000 enabledProfileRun)).2.stores =
      (reached Sha256.sha256 62500000 enabledProfileRun).stores ∧
    (dispatch Sha256.sha256 62500000 ⟨.permissive 0 0, 17, 9, 0, 0⟩
        (reached Sha256.sha256 62500000 enabledProfileRun)).2.stores =
      (reached Sha256.sha256 62500000 enabledProfileRun).stores :=
  ⟨(refused_syscall_keeps_stores Sha256.sha256 62500000 enabledProfileRun
      ⟨.permissive 0 0, 7, 0, 0, 0⟩).1 .simEnable rfl (by decide +kernel),
    (refused_syscall_keeps_stores Sha256.sha256 62500000 enabledProfileRun
      ⟨.permissive 0 0, 17, 9, 0, 0⟩).2 rfl (by decide +kernel)⟩

/-! ## Open sessions and what justifies them

Every path that takes a profile out of Enabled closes the sessions on it, except
one: `SYS_SIM_ENABLE` demotes the slot's Enabled profile and leaves its sessions
open.  So every session stays justified exactly as long as no accepted enable
finds a session on another profile of its slot. -/

variable (stores : Stores)

/-- Each open session is on an Enabled profile that is bound to exactly its
account, and that account is Active. -/
def Stores.SessionsJustified : Prop :=
  ∀ session ∈ stores.data.sessions,
    profileState stores.slots session.slot session.profile = .ok .enabled ∧
      Mvno.ownerOf stores session.slot session.profile = some session.account ∧
      Mvno.standing stores session.account = some .active

theorem sessions_justified_iff : stores.SessionsJustified ↔ stores.view.Justified := by
  refine forall₂_congr fun session _ => and_congr ?_ Iff.rfl
  rw [profile_state_ok_iff, Option.map_eq_some_iff]
  rfl

def EnableAccepted (event : Event) : Prop :=
  event.syscall = some .simEnable ∧
    event.env.check (simProfileResource event.arg1 (asU8 event.arg2)) = .ok () ∧
    Mvno.gateEnable stores event.arg1 (asU8 event.arg2) = .ok () ∧
    enforce (MarshalAction.esim "enable" event.arg1 (asU8 event.arg2)).unreachablePolicy
      (event.env.evaluate (.esim "enable" event.arg1 (asU8 event.arg2))) = .ok () ∧
    profileState stores.slots event.arg1 (asU8 event.arg2) = .ok .disabled

/-- An accepted enable while a session is open on another profile of the slot. -/
def StrandsSession (event : Event) : Prop :=
  EnableAccepted stores event ∧
    ∃ session ∈ stores.data.sessions,
      session.slot = event.arg1 ∧ session.profile ≠ asU8 event.arg2

section Enable

variable {sha256 : Bytes → Bytes} {freqHz : Nat} {event : Event} {kernel : Kernel}

theorem dispatch_enable (called : event.syscall = some .simEnable) :
    dispatch sha256 freqHz event kernel =
      simEnable sha256 event.env event.arg1 (asU8 event.arg2) kernel := by
  unfold dispatch
  rw [called]

theorem enable_ok_iff (slots : SimSlots) (slot profileId : Nat) :
    (enable slots slot profileId).1 = .ok () ↔
      profileState slots slot profileId = .ok .disabled := by
  rw [profile_state_ok_iff]
  exact on_slot_transition_ok_iff slots slot profileId .enable

theorem enable_accepted_stores (sha256 : Bytes → Bytes) (freqHz : Nat)
    (accepted : EnableAccepted kernel.stores event) :
    ∃ changed, enable kernel.stores.slots event.arg1 (asU8 event.arg2) = (.ok (), changed) ∧
      (step sha256 freqHz kernel event).stores = { kernel.stores with slots := changed } := by
  obtain ⟨called, checked, gate, enforced, disabled⟩ := accepted
  have done := (enable_ok_iff kernel.stores.slots event.arg1 (asU8 event.arg2)).mpr disabled
  refine ⟨(enable kernel.stores.slots event.arg1 (asU8 event.arg2)).2, Prod.ext done rfl, ?_⟩
  rcases marshal_gate_cases sha256 event.env (.esim "enable" event.arg1 (asU8 event.arg2))
      (simProfileResource event.arg1 (asU8 event.arg2)) ProfileState.disabled.debug
      ProfileState.enabled.debug kernel with ⟨-, passed⟩ | ⟨blocked, refused, -⟩
  · unfold step
    rw [dispatch_enable called]
    unfold simEnable
    simp only [checked, gate, passed, done]
    rfl
  · rw [enforced] at refused
    simp at refused

theorem enable_declined_stores (called : event.syscall = some .simEnable)
    (declined : ¬ EnableAccepted kernel.stores event) :
    (step sha256 freqHz kernel event).stores = kernel.stores := by
  unfold step
  rw [dispatch_enable called]
  unfold simEnable
  split
  · rename_i checked
    split
    · rfl
    rename_i gate
    rcases marshal_gate_cases sha256 event.env (.esim "enable" event.arg1 (asU8 event.arg2))
        (simProfileResource event.arg1 (asU8 event.arg2)) ProfileState.disabled.debug
        ProfileState.enabled.debug kernel with ⟨enforced, passed⟩ | ⟨blocked, -, refused⟩
    · rw [passed]
      rcases enable_answer kernel.stores.slots event.arg1 (asU8 event.arg2) with
        ⟨error, failed⟩ | ⟨after, done⟩
      · simp only [failed]
        rfl
      · have accepted := (enable_ok_iff kernel.stores.slots event.arg1 (asU8 event.arg2)).mp
          (congrArg Prod.fst done)
        exact absurd ⟨called, checked, gate, enforced, accepted⟩ declined
    · rw [refused]
      rfl
  · rfl

end Enable

/-- One syscall keeps every session justified exactly when it strands none. -/
theorem step_justified_iff {sha256 : Bytes → Bytes} (freqHz : Nat) (kernel : Kernel)
    (event : Event) (sound : kernel.Sound sha256) (justified : kernel.stores.SessionsJustified) :
    (step sha256 freqHz kernel event).stores.SessionsJustified ↔
      ¬ StrandsSession kernel.stores event := by
  by_cases accepted : EnableAccepted kernel.stores event
  · obtain ⟨changed, done, stores⟩ := enable_accepted_stores sha256 freqHz accepted
    obtain ⟨was, found, disabled, view⟩ := view_after_enable done
    rw [stores, sessions_justified_iff, view,
      Subscription.justified_after_enable_iff ((sessions_justified_iff _).mp justified) found
        disabled]
    simp only [StrandsSession, accepted, true_and, not_exists, not_and, not_not]
    refine forall₂_congr fun session _ => ?_
    simp only [Event.profileKey, Mvno.key, DataSession.place, ProfileKey.mk.injEq]
    tauto
  · refine iff_of_true ?_ fun strands => accepted strands.1
    by_cases called : event.syscall = some .simEnable
    · rw [enable_declined_stores called accepted]
      exact justified
    rw [sessions_justified_iff] at justified ⊢
    unfold step
    rcases dispatch_stores sound freqHz event with same | ⟨call, made, effect⟩
    · rw [same]
      exact justified
    rcases effect.refines sound.stores with same | ⟨action, moved, only⟩
    · rw [same]
      exact justified
    · refine justified.step moved fun key enabling => called ?_
      rw [made, (only key enabling).1]

/-- Over any run from boot, every open session is justified in every state
exactly when no step of the run strands a session. -/
theorem sessions_justified_throughout_iff (sha256 : Bytes → Bytes) (freqHz : Nat)
    (events : List Event) :
    Runs.EveryState (step sha256 freqHz) (fun kernel => kernel.stores.SessionsJustified)
        (Kernel.boot freqHz) events ↔
      Runs.EveryStep (step sha256 freqHz)
        (fun kernel event => ¬ StrandsSession kernel.stores event) (Kernel.boot freqHz) events := by
  apply Runs.every_state_iff_every_step (step sha256 freqHz) (step_sound freqHz)
    (step_justified_iff freqHz) events _ (boot_sound sha256 freqHz)
  intro session listed
  simp [boot_sessions] at listed

def strandingRun : List Event :=
  [⟨.permissive 0 0, 5, 0, 0, 0⟩, ⟨.permissive 0 0, 5, 0, 0, 0⟩,
    ⟨.permissive 0 0, 6, 0, 0, 17⟩, ⟨.permissive 0 0, 6, 0, 1, 18⟩,
    ⟨.permissive 0 0, 16, 0, 0, 0⟩, ⟨.permissive 0 0, 16, 0, 0, 1⟩,
    ⟨.permissive 0 0, 7, 0, 0, 0⟩, ⟨.permissive 0 0, 20, 0, 0, 0⟩,
    ⟨.permissive 0 0, 7, 0, 1, 0⟩]

theorem stranding_run_unjustified :
    ¬ (reached Sha256.sha256 62500000 strandingRun).stores.SessionsJustified := by
  intro justified
  have opened : (⟨0, 0, 0, false⟩ : DataSession) ∈
      (reached Sha256.sha256 62500000 strandingRun).stores.data.sessions := by decide +kernel
  have demoted : profileState (reached Sha256.sha256 62500000 strandingRun).stores.slots 0 0 =
      .ok .disabled := by decide +kernel
  have enabled := (justified _ opened).1
  simp [demoted] at enabled

end Runix.Arm
