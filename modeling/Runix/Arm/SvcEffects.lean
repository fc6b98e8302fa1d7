import Runix.Arm.StoreView
import Runix.Arm.Svc

/-!
# What one syscall does to the stores

`Effect` lists, syscall by syscall, every change an accepted call can make to the
stores.  The `_handled` lemmas say that a handler either answers with one of its
refusal codes and changes nothing, or answers with another code and has that
effect, and that the audit chain stays sound: no handler writes to it except through
`auditEvent` and `auditCoalesce`, and none uses a subject the chain reserves for its
own summaries.
-/

namespace Runix.Arm

open Lib Lib.ByteStrings Mobile Arm.AuditChain List

/-- The denied, refused and failed codes of each SIM, MVNO and DATA syscall. -/
def Syscall.refusalCodes : Syscall → List Nat
  | .simCreate => [simCreateFailed]
  | .simInstall => [1]
  | .simEnable => [1]
  | .simDisable => [1]
  | .simDelete => [1]
  | .simStatus => [simStatusDenied]
  | .mvnoBind => [1]
  | .mvnoSuspend => [1]
  | .mvnoReactivate => [1]
  | .dataAccount =>
    [usageDenied, usageNoEntitlement, usageNoSuchAccount, usageTableFull, usageNotActive,
      usageNoProfile]
  | .dataSessionOpen =>
    [sessionDenyAccountSuspended, sessionDenyAccountClosed, sessionDenyProfileNotEnabled,
      sessionDenyRoamingNotAllowed, sessionDenyCapExceeded, sessionRefusedCapability,
      sessionRefusedNoEntitlement, sessionRefusedNoSuchAccount, sessionRefusedProfileNotBound,
      sessionRefusedUnknownProfile, sessionRefusedBadArgument, sessionFailedTableFull]
  | .dataSessionClose => [closeDenied, closeNotOpen, closeBadArgument]
  | .dataReconcile => [reconcileDenied]
  | .dataReset =>
    [resetDeniedCapability, resetDeniedMarshal, resetDeniedLocalFailure, resetNoEntitlement,
      resetNoSuchAccount, resetDeniedUnreachable, resetPeriodActive, resetClockBeforeStart,
      resetBadMode, resetEarlyCooldown, resetDeniedFaulty]
  | .dataPeriod => [periodNoPeriod, periodDenied]
  | _ => []

def Syscall.readOnly : List Syscall :=
  [.write, .rilAccess, .rilSend, .rilRecv, .simStatus, .ipcSend, .ipcRecv, .el0ProofDone,
    .netProofDone, .marshalProofDone]

inductive Effect (freqHz : Nat) (event : Event) (stores : Stores) : Syscall → Stores → Prop
  | silent {call : Syscall} (reads : call ∈ Syscall.readOnly) :
      Effect freqHz event stores call stores
  | create {fresh : Nat} {after : Sim.SimSlots}
      (done : Sim.create stores.slots event.arg1 = (.ok fresh, after)) :
      Effect freqHz event stores .simCreate { stores with slots := after }
  | install {after : Sim.SimSlots}
      (done : Sim.install stores.slots event.arg1 (asU8 event.arg2) event.arg3 =
        (.ok (), after)) :
      Effect freqHz event stores .simInstall { stores with slots := after }
  | enable {after : Sim.SimSlots}
      (gate : Mvno.gateEnable stores event.arg1 (asU8 event.arg2) = .ok ())
      (done : Sim.enable stores.slots event.arg1 (asU8 event.arg2) = (.ok (), after)) :
      Effect freqHz event stores .simEnable { stores with slots := after }
  | disable {after : Sim.SimSlots}
      (done : Sim.disable stores.slots event.arg1 (asU8 event.arg2) = (.ok (), after)) :
      Effect freqHz event stores .simDisable
        { stores with
          slots := after
          data := (stores.data.closeSessionsForProfile event.arg1 (asU8 event.arg2)).2 }
  | delete {after : Sim.SimSlots}
      (done : Sim.delete stores.slots event.arg1 (asU8 event.arg2) = (.ok (), after)) :
      Effect freqHz event stores .simDelete
        { slots := after
          registry :=
            (Mvno.unbind { stores with slots := after } event.arg1 (asU8 event.arg2)).2.registry
          data := (stores.data.closeSessionsForProfile event.arg1 (asU8 event.arg2)).2 }
  | bind {after : Stores}
      (done : Mvno.bind stores event.arg1 event.arg2 (asU8 event.arg3) = (.ok (), after)) :
      Effect freqHz event stores .mvnoBind after
  | suspend {forced : List ProfileKey} {after : Stores}
      (done : Mvno.suspend stores event.arg1 = (.ok forced, after)) :
      Effect freqHz event stores .mvnoSuspend
        { after with
          slots := disableAll stores.slots forced
          data := (stores.data.closeSessionsForAccount event.arg1).2 }
  | reactivate {after : Stores} (done : Mvno.reactivate stores event.arg1 = (.ok (), after)) :
      Effect freqHz event stores .mvnoReactivate after
  | feed {answer : DataUsage × DataUsage} {after : DataState}
      (done : stores.data.feedUsage event.arg1 event.arg2 = (.ok answer, after)) :
      Effect freqHz event stores .dataAccount { stores with data := after }
  | openSession {profile : Nat} {roaming : Bool} {entitlement : DataEntitlement}
      {rows : List DataSession}
      (entitled : demoEntitlement event.arg1 = some entitlement)
      (active : Mvno.standing stores event.arg1 = some .active)
      (owned : Mvno.ownerOf stores event.arg2 profile = some event.arg1)
      (enabled : Sim.profileState stores.slots event.arg2 profile = .ok .enabled)
      (roams : roaming = true → entitlement.roamingDataAllowed = true)
      (good : stores.data.WellFormed → { stores.data with sessions := rows }.WellFormed)
      (members : ∀ row ∈ rows, row ∈ stores.data.sessions ∨
        row = { account := event.arg1, slot := event.arg2, profile := profile,
                roaming := roaming }) :
      Effect freqHz event stores .dataSessionOpen
        { stores with data := { stores.data with sessions := rows } }
  | closeSession (profile : Nat) :
      Effect freqHz event stores .dataSessionClose
        { stores with data := (stores.data.closeSession event.arg1 event.arg2 profile).2 }
  | reconcile :
      Effect freqHz event stores .dataReconcile
        { stores with data := stores.data.markObserved stores.data.usage }
  | reset {mode : ResetMode} (mode_eq : ResetMode.fromArg event.arg2 = some mode)
      (entitled : (demoEntitlement event.arg1).isSome)
      (permitted : resetPermittedAt (assessPeriodOf stores.data event.arg1 event.env.gateTick)
        mode.isEarly (stores.data.lastResetTick event.arg1) event.env.gateTick
        (demoEarlyResetCooldownTicks freqHz) = .ok ()) :
      Effect freqHz event stores .dataReset
        { stores with
          data := (stores.data.resetUsageAndPeriod event.arg1 event.env.applyTick
            (some (demoInstallPeriodTicks freqHz))).2 }
  | advise {advice : PeriodAdvice} {after : DataState}
      (done : stores.data.advisePeriod event.arg1 event.env.gateTick = (some advice, after)) :
      Effect freqHz event stores .dataPeriod { stores with data := after }

def Outcome (freqHz : Nat) (event : Event) (stores : Stores) (call : Syscall)
    (result : Nat × Kernel) : Prop :=
  (result.1 ∈ call.refusalCodes ∧ result.2.stores = stores) ∨
    (result.1 ∉ call.refusalCodes ∧ Effect freqHz event stores call result.2.stores)

structure Handled (sha256 : Bytes → Bytes) (freqHz : Nat) (event : Event) (kernel : Kernel)
    (call : Syscall) (result : Nat × Kernel) : Prop where
  outcome : Outcome freqHz event kernel.stores call result
  sound : result.2.AuditSound sha256

section Exits

variable {sha256 : Bytes → Bytes} {freqHz : Nat} {event : Event} {call : Syscall} {code : Nat}
  {kernel after : Kernel}

theorem Handled.refused (listed : code ∈ call.refusalCodes) (same : after.stores = kernel.stores)
    (sound : after.AuditSound sha256) : Handled sha256 freqHz event kernel call (code, after) :=
  ⟨.inl ⟨listed, same⟩, sound⟩

theorem Handled.accepted (unlisted : code ∉ call.refusalCodes)
    (effect : Effect freqHz event kernel.stores call after.stores)
    (sound : after.AuditSound sha256) : Handled sha256 freqHz event kernel call (code, after) :=
  ⟨.inr ⟨unlisted, effect⟩, sound⟩

variable {env : Env} {action : MarshalAction} {subject source target : String}

theorem Handled.blocked (sound : kernel.AuditSound sha256) {blocked : Blocked}
    (gate : marshalGate sha256 env action subject source target kernel = (.error blocked, after))
    (ordinary : OrdinarySubject subject) (listed : code ∈ call.refusalCodes) :
    Handled sha256 freqHz event kernel call (code, after) := by
  rcases marshal_gate_cases sha256 env action subject source target kernel with
    ⟨-, passed⟩ | ⟨other, -, refused⟩
  · rw [passed] at gate
    cases (Prod.mk.inj gate).1
  · rw [refused] at gate
    obtain rfl := (Prod.mk.inj gate).2
    exact .refused listed rfl (audit_event_sound sound ordinary _ _ _ _ _)

theorem marshal_gate_passed {allowed : GateOutcome}
    (gate : marshalGate sha256 env action subject source target kernel = (.ok allowed, after)) :
    kernel = after := by
  rcases marshal_gate_cases sha256 env action subject source target kernel with
    ⟨-, passed⟩ | ⟨blocked, -, refused⟩
  · rw [passed] at gate
    exact (Prod.mk.inj gate).2
  · rw [refused] at gate
    cases (Prod.mk.inj gate).1

end Exits

/-! ## Codes -/

theorem status_code_accepted (state : Sim.ProfileState) :
    state.asStatusCode ∉ Syscall.simStatus.refusalCodes := by
  cases state <;> decide

theorem usage_feed_refusal_refused {status : AccountStatus} {bound : Bool} {code : Nat}
    (refusal : usageFeedRefusal status bound = some code) :
    code ∈ Syscall.dataAccount.refusalCodes := by
  cases status <;> cases bound <;> simp_all [usageFeedRefusal, Syscall.refusalCodes]

theorem action_request_accepted (request : Option ActionRequest) :
    actionRequestCode request ∉ Syscall.dataAccount.refusalCodes := by
  cases request with
  | none => decide
  | some action => cases action <;> decide

theorem session_deny_refused (reason : DenyReason) :
    sessionDecisionCode (.deny reason) ∈ Syscall.dataSessionOpen.refusalCodes := by
  cases reason <;> simp [sessionDecisionCode, Syscall.refusalCodes]

theorem session_decision_accepted {decision : SessionDecision}
    (admitted : ∀ reason, decision ≠ .deny reason) :
    sessionDecisionCode decision ∉ Syscall.dataSessionOpen.refusalCodes := by
  cases decision with
  | allow => decide
  | allowThrottled => decide
  | deny reason => exact absurd rfl (admitted reason)

theorem reset_refusal_refused (refusal : ResetRefusal) :
    resetRefusalCode refusal ∈ Syscall.dataReset.refusalCodes := by
  cases refusal <;> simp [resetRefusalCode, Syscall.refusalCodes]

theorem reset_blocked_refused (blocked : Blocked) :
    resetBlockedCode blocked ∈ Syscall.dataReset.refusalCodes := by
  cases blocked <;> simp [resetBlockedCode, Syscall.refusalCodes]

theorem period_assessment_accepted (assessment : PeriodAssessment) :
    periodAssessmentCode assessment ∉ Syscall.dataPeriod.refusalCodes := by
  cases assessment <;>
    simp [periodAssessmentCode, Syscall.refusalCodes, periodActive, periodResetRequested,
      periodClockBeforeStart, periodNoPeriod, periodDenied]

theorem finding_count_accepted (observed : Reconcile.Observed) (periods : List ObservedPeriod)
    (nowTick graceTicks : Nat) :
    (Reconcile.reconcile observed).length + (checkPeriods periods nowTick graceTicks).length ∉
      Syscall.dataReconcile.refusalCodes := by
  have incidents := Reconcile.reconcile_length_le observed
  have late := check_periods_length_le periods nowTick graceTicks
  simp only [maxPeriods] at late
  simp only [Syscall.refusalCodes, reconcileDenied, Words.u64Max, mem_singleton]
  omega

section Handlers

variable {sha256 : Bytes → Bytes} {kernel : Kernel}

@[simp]
theorem audit_sound_with_slots (slots : Sim.SimSlots) :
    (kernel.withSlots slots).AuditSound sha256 ↔ kernel.AuditSound sha256 := Iff.rfl

@[simp]
theorem audit_sound_with_data (data : DataState) :
    (kernel.withData data).AuditSound sha256 ↔ kernel.AuditSound sha256 := Iff.rfl

@[simp]
theorem audit_sound_with_stores (stores : Stores) :
    (kernel.withStores stores).AuditSound sha256 ↔ kernel.AuditSound sha256 := Iff.rfl

variable (freqHz : Nat) (event : Event) (sound : kernel.AuditSound sha256)

include sound

/-! ## Mailboxes touch neither the stores nor the chain -/

theorem Handled.silent {call : Syscall} {result : Nat × Kernel} (reads : call ∈ Syscall.readOnly)
    (never : call.refusalCodes = []) (stores : result.2.stores = kernel.stores)
    (worm : result.2.worm = kernel.worm) : Handled sha256 freqHz event kernel call result := by
  refine ⟨.inr ⟨by simp [never], ?_⟩, ?_⟩
  · rw [stores]
    exact Effect.silent reads
  · intro audit written
    exact sound audit (worm ▸ written)

theorem ril_access_handled :
    Handled sha256 freqHz event kernel .rilAccess (rilAccess event.env event.arg1 kernel) := by
  unfold rilAccess
  split <;> exact .silent _ _ sound (by decide) rfl rfl rfl

theorem ril_send_handled :
    Handled sha256 freqHz event kernel .rilSend
      (rilSend event.env event.arg1 (asU8 event.arg2) kernel) := by
  unfold rilSend
  split
  · split <;> exact .silent _ _ sound (by decide) rfl rfl rfl
  · exact .silent _ _ sound (by decide) rfl rfl rfl

theorem ril_recv_handled :
    Handled sha256 freqHz event kernel .rilRecv (rilRecv event.env event.arg1 kernel) := by
  unfold rilRecv
  split
  · split <;> exact .silent _ _ sound (by decide) rfl rfl rfl
  · exact .silent _ _ sound (by decide) rfl rfl rfl

theorem ipc_send_handled :
    Handled sha256 freqHz event kernel .ipcSend
      (ipcSend event.env event.arg1 (asU8 event.arg2) kernel) := by
  unfold ipcSend
  split
  · split <;> exact .silent _ _ sound (by decide) rfl rfl rfl
  · exact .silent _ _ sound (by decide) rfl rfl rfl

theorem ipc_recv_handled :
    Handled sha256 freqHz event kernel .ipcRecv (ipcRecv event.env event.arg1 kernel) := by
  unfold ipcRecv
  split
  · split <;> exact .silent _ _ sound (by decide) rfl rfl rfl
  · exact .silent _ _ sound (by decide) rfl rfl rfl

/-! ## SIM syscalls -/

theorem sim_create_handled (good : kernel.stores.slots.WellFormed) :
    Handled sha256 freqHz event kernel .simCreate
      (simCreate sha256 event.env event.arg1 kernel) := by
  unfold simCreate
  split
  · rcases Sim.create_table_cases good event.arg1 with
      ⟨error, failed⟩ | ⟨fresh, after, small, done, -⟩
    · rw [failed]
      exact .refused (by decide) rfl sound
    · rw [done]
      refine .accepted ?_ (Effect.create done) sound
      have bound : fresh < 4 := small
      simp only [Syscall.refusalCodes, simCreateFailed, mem_singleton]
      omega
  · exact .refused (by decide) rfl (by simp [sound])

theorem sim_install_handled :
    Handled sha256 freqHz event kernel .simInstall
      (simInstall sha256 event.env event.arg1 (asU8 event.arg2) event.arg3 kernel) := by
  unfold simInstall
  split
  · rcases Sim.install_table_cases kernel.stores.slots event.arg1 (asU8 event.arg2) event.arg3 with
      ⟨error, failed⟩ | ⟨was, after, -, done, -⟩
    · rw [failed]
      exact .refused (by decide) rfl (by simp [sound])
    · rw [done]
      exact .accepted (by decide) (Effect.install done) (by simp [sound])
  · exact .refused (by decide) rfl (by simp [sound])

theorem sim_enable_handled :
    Handled sha256 freqHz event kernel .simEnable
      (simEnable sha256 event.env event.arg1 (asU8 event.arg2) kernel) := by
  unfold simEnable
  split
  · split
    · exact .refused (by decide) rfl (by simp [sound])
    · rename_i gate
      split
      · exact .blocked sound ‹_› (by simp) (by decide)
      rename_i passed
      obtain rfl := marshal_gate_passed passed
      rcases Sim.enable_answer kernel.stores.slots event.arg1 (asU8 event.arg2) with
        ⟨error, failed⟩ | ⟨after, done⟩
      · simp only [failed]
        exact .refused (by decide) rfl (by simp [sound])
      · simp only [done]
        exact .accepted (by decide) (Effect.enable gate done) (by simp [sound])
  · exact .refused (by decide) rfl (by simp [sound])

omit sound in
theorem close_sessions_for_profile_stores (slot profileId : Nat) (what : String) (kernel : Kernel) :
    (closeSessionsForProfile sha256 slot profileId what kernel).stores =
      { kernel.stores with
        data := (kernel.stores.data.closeSessionsForProfile slot profileId).2 } := by
  unfold closeSessionsForProfile
  simp only [audit_closed_sessions_stores]
  rfl

@[simp]
theorem close_sessions_for_profile_sound (slot profileId : Nat) (what : String) :
    (closeSessionsForProfile sha256 slot profileId what kernel).AuditSound sha256 := by
  apply audit_closed_sessions_sound
  exact sound

theorem sim_disable_handled :
    Handled sha256 freqHz event kernel .simDisable
      (simDisable sha256 event.env event.arg1 (asU8 event.arg2) kernel) := by
  unfold simDisable
  split
  · rcases Sim.disable_answer kernel.stores.slots event.arg1 (asU8 event.arg2) with
      ⟨error, failed⟩ | ⟨after, done⟩
    · simp only [failed]
      exact .refused (by decide) rfl (by simp [sound])
    · simp only [done]
      refine .accepted (by decide) ?_ (by simp [sound])
      rw [close_sessions_for_profile_stores]
      exact Effect.disable done
  · exact .refused (by decide) rfl (by simp [sound])

omit sound in
theorem mvno_unbind_frame (stores : Stores) (slot profileId : Nat) :
    (Mvno.unbind stores slot profileId).2 =
      { stores with registry := (Mvno.unbind stores slot profileId).2.registry } := by
  unfold Mvno.unbind
  split <;> rfl

omit sound in
theorem release_binding_after_delete_stores (slot profileId : Nat) (kernel : Kernel) :
    (releaseBindingAfterDelete sha256 slot profileId kernel).stores =
      { kernel.stores with
        registry := (Mvno.unbind kernel.stores slot profileId).2.registry
        data := (kernel.stores.data.closeSessionsForProfile slot profileId).2 } := by
  unfold releaseBindingAfterDelete
  rw [close_sessions_for_profile_stores, mvno_unbind_frame]
  split <;> rfl

@[simp]
theorem release_binding_after_delete_sound (slot profileId : Nat) :
    (releaseBindingAfterDelete sha256 slot profileId kernel).AuditSound sha256 := by
  apply close_sessions_for_profile_sound
  split <;> simp [sound]

theorem sim_delete_handled :
    Handled sha256 freqHz event kernel .simDelete
      (simDelete sha256 event.env event.arg1 (asU8 event.arg2) kernel) := by
  unfold simDelete
  split
  · split
    · exact .blocked sound ‹_› (by simp) (by decide)
    · rename_i passed
      obtain rfl := marshal_gate_passed passed
      rcases Sim.delete_answer kernel.stores.slots event.arg1 (asU8 event.arg2) with
        ⟨error, failed⟩ | ⟨after, done⟩
      · simp only [failed]
        exact .refused (by decide) rfl (by simp [sound])
      simp only [done]
      refine .accepted (by decide) ?_ (by simp [sound])
      rw [release_binding_after_delete_stores]
      exact Effect.delete done
  · exact .refused (by decide) rfl (by simp [sound])

theorem sim_status_handled :
    Handled sha256 freqHz event kernel .simStatus
      (simStatus sha256 event.env event.arg1 (asU8 event.arg2) kernel) := by
  unfold simStatus
  split
  · split
    · rename_i state _
      exact .accepted (status_code_accepted state) (Effect.silent (by decide)) sound
    · exact .refused (by decide) rfl sound
  · exact .refused (by decide) rfl (by simp [sound])

/-! ## MVNO syscalls -/

theorem mvno_bind_handled :
    Handled sha256 freqHz event kernel .mvnoBind
      (mvnoBind sha256 event.env event.arg1 event.arg2 (asU8 event.arg3) kernel) := by
  unfold mvnoBind
  split
  · split
    · exact .blocked sound ‹_› (by simp) (by decide)
    · rename_i passed
      obtain rfl := marshal_gate_passed passed
      rcases mvno_bind_cases kernel.stores event.arg1 event.arg2 (asU8 event.arg3) with
        ⟨error, failed⟩ | ⟨p, status, -, -, -, -, -, done⟩
      · simp only [failed]
        exact .refused (by decide) rfl (by simp [sound])
      · simp only [done]
        exact .accepted (by decide) (Effect.bind done) (by simp [sound])
  · exact .refused (by decide) rfl (by simp [sound])

theorem mvno_reactivate_handled :
    Handled sha256 freqHz event kernel .mvnoReactivate
      (mvnoReactivate sha256 event.env event.arg1 kernel) := by
  unfold mvnoReactivate
  split
  · split
    · exact .blocked sound ‹_› (by simp) (by decide)
    · rename_i passed
      obtain rfl := marshal_gate_passed passed
      rcases mvno_reactivate_cases kernel.stores event.arg1 with ⟨error, failed⟩ | ⟨-, done⟩
      · simp only [failed]
        exact .refused (by decide) rfl (by simp [sound])
      · simp only [done]
        exact .accepted (by decide) (Effect.reactivate done) (by simp [sound])
  · exact .refused (by decide) rfl (by simp [sound])

omit sound in
theorem force_disable_stores (keys : List ProfileKey) (kernel : Kernel) :
    (forceDisable sha256 keys kernel).2.stores =
      { kernel.stores with slots := disableAll kernel.stores.slots keys } := by
  induction keys generalizing kernel with
  | nil => rfl
  | cons key rest ih =>
    unfold forceDisable
    simp only [ih]
    rfl

theorem force_disable_sound (keys : List ProfileKey) :
    (forceDisable sha256 keys kernel).2.AuditSound sha256 := by
  induction keys generalizing kernel with
  | nil => exact sound
  | cons key rest ih =>
    unfold forceDisable
    apply ih
    simp [sound]

omit sound in
theorem force_disable_succeeds (sha256 : Bytes → Bytes) {keys : List ProfileKey}
    (unique : keys.Nodup) (kernel : Kernel)
    (enabled : ∀ key ∈ keys, ∃ p, Sim.profileAt kernel.stores.slots key.slot key.profile = some p ∧
      p.state = .enabled) : (forceDisable sha256 keys kernel).1 = true := by
  induction keys generalizing kernel with
  | nil => rfl
  | cons key rest ih =>
    obtain ⟨p, found, isEnabled⟩ := enabled key mem_cons_self
    obtain ⟨after, done, -⟩ := disable_enabled found isEnabled
    have restUnique := nodup_cons.mp unique
    unfold forceDisable
    simp only [done, Bool.true_and]
    apply ih restUnique.2
    intro other member
    have different : other ≠ key := fun same => restUnique.1 (same ▸ member)
    have kept := profile_at_disable_all (nodup_singleton key)
      (fun k here => enabled k (mem_singleton.mp here ▸ mem_cons_self)) other
    have afterIs : disableAll kernel.stores.slots [key] = after := by
      simp only [disableAll, foldl_cons, foldl_nil, done]
    rw [afterIs, if_neg (fun here => different (mem_singleton.mp here))] at kept
    change ∃ q, Sim.profileAt after other.slot other.profile = some q ∧ q.state = .enabled
    rw [kept]
    exact enabled other (mem_cons_of_mem _ member)

/-- In a well-formed state a suspension that the registry accepts is carried
through: every forced disable succeeds, nothing leaks and the chain verifies. -/
theorem suspend_account_handled (good : kernel.stores.WellFormed) (verdict : String) :
    Handled sha256 freqHz event kernel .mvnoSuspend
      (suspendAccount sha256 event.arg1 verdict kernel) := by
  unfold suspendAccount
  rcases mvno_suspend_cases kernel.stores event.arg1 with
    ⟨error, failed⟩ | ⟨forced, active, gathered, done⟩
  · simp only [failed]
    exact .refused (by decide) rfl (by simp [sound])
  obtain ⟨unique, members⟩ := forced_profiles good gathered
  simp only [done]
  generalize started : auditEvent sha256 _ _ _ _ _ _ (kernel.withStores _) = audited
  have startStores : audited.stores = { kernel.stores with
      registry := kernel.stores.registry.withStatus event.arg1 .suspended } := by
    rw [← started]
    rfl
  have startSound : audited.AuditSound sha256 := by
    rw [← started]
    simp [sound]
  have disabled := force_disable_succeeds sha256 unique audited (by
    rw [startStores]
    exact fun key member => ((members key).mp member).2)
  generalize ended : auditClosedSessions sha256 "MVNO suspend" _ _ = after
  have endStores : after.stores =
      { slots := disableAll kernel.stores.slots forced
        registry := kernel.stores.registry.withStatus event.arg1 .suspended
        data := (kernel.stores.data.closeSessionsForAccount event.arg1).2 } := by
    rw [← ended, audit_closed_sessions_stores, Kernel.withData, force_disable_stores, startStores]
  have endSound : after.AuditSound sha256 := by
    rw [← ended]
    apply audit_closed_sessions_sound
    exact force_disable_sound startSound forced
  have clean : Mvno.audit after.stores = [] := by
    rw [endStores]
    apply audit_empty (AccountRegistry.with_status_well_formed good.registry _ _)
    rw [view_suspended good active gathered]
    exact good.healthy.step (Subscription.Step.suspend active)
  rw [clean, disabled, audit_chain_verified endSound]
  refine .accepted (by decide) ?_ endSound
  rw [endStores]
  exact Effect.suspend done

theorem mvno_suspend_handled (good : kernel.stores.WellFormed) :
    Handled sha256 freqHz event kernel .mvnoSuspend
      (mvnoSuspend sha256 event.env event.arg1 kernel) := by
  unfold mvnoSuspend
  split
  · split
    · exact .blocked sound ‹_› (by simp) (by decide)
    · rename_i passed
      obtain rfl := marshal_gate_passed passed
      exact suspend_account_handled freqHz event sound good _
  · exact .refused (by decide) rfl (by simp [sound])

/-! ## Data syscalls -/

@[simp]
theorem metered_refusal_sound (account : Nat) (reason : String) :
    (meteredRefusal sha256 account reason kernel).AuditSound sha256 :=
  audit_event_sound sound (data_usage_resource_ordinary account) _ _ _ _ _

theorem data_account_handled :
    Handled sha256 freqHz event kernel .dataAccount
      (dataAccount sha256 event.env event.arg1 event.arg2 kernel) := by
  unfold dataAccount
  simp only
  split
  · exact .refused (by decide) rfl (by simp [sound])
  split
  · exact .refused (by decide) rfl (by simp [sound])
  split
  · exact .refused (by decide) rfl (by simp [sound])
  split
  · rename_i code refusal
    exact .refused (usage_feed_refusal_refused refusal) rfl (by simp [sound])
  rcases fed : kernel.stores.data.feedUsage event.arg1 event.arg2 with ⟨answer, after⟩
  cases answer with
  | error error =>
    refine .refused (by decide) ?_ (by simp [sound])
    rw [DataState.feed_usage_error fed]
    rfl
  | ok answer =>
    refine .accepted (action_request_accepted _) ?_ ?_
    · split <;> exact Effect.feed fed
    · split <;> simp [sound]

theorem data_session_open_handled :
    Handled sha256 freqHz event kernel .dataSessionOpen
      (dataSessionOpen sha256 event.env event.arg1 event.arg2 event.arg3 kernel) := by
  unfold dataSessionOpen
  simp only
  split
  · exact .refused (by decide) rfl (by simp [sound])
  split
  · exact .refused (by decide) rfl (by simp [sound])
  rename_i profile roaming _
  split
  · exact .refused (by decide) rfl (by simp [sound])
  rename_i entitlement entitled
  split
  · exact .refused (by decide) rfl (by simp [sound])
  rename_i status known
  split
  · exact .refused (by decide) rfl (by simp [sound])
  rename_i owned
  split
  · exact .refused (by decide) rfl (by simp [sound])
  rename_i state read
  rcases DataState.decide_and_open_cases kernel.stores.data event.arg1 event.arg2 profile
      roaming (standingForData status) (lifecycleForData state) entitlement with
    ⟨outcome, decided, refused⟩ |
      ⟨outcome, rows, decided, admitted, recorded, active, enabled, roams, members⟩
  · rw [decided]
    split
    · rename_i reason denied
      rw [denied]
      exact .refused (session_deny_refused reason) rfl (by simp [sound])
    · exact .refused (by decide) rfl (by simp [sound])
    rename_i notDenied notFull
    rcases refused with full | ⟨reason, denied⟩
    · exact absurd full notFull
    · exact absurd denied (notDenied reason)
  · have good : kernel.stores.data.WellFormed →
        (kernel.stores.data.decideAndOpen event.arg1 event.arg2 profile roaming
          (standingForData status) (lifecycleForData state)
          entitlement).2.WellFormed :=
      fun good => DataState.decide_and_open_well_formed good _ _ _ _ _ _ _
    rw [decided] at good ⊢
    simp only
    refine .accepted (session_decision_accepted admitted) ?_ (by simp [sound])
    refine Effect.openSession entitled ?_ (not_not.mp owned) ?_ roams good members
    · rw [known]
      cases status <;> simp_all [standingForData]
    · rw [read]
      cases state <;> simp_all [lifecycleForData]

theorem data_session_close_handled :
    Handled sha256 freqHz event kernel .dataSessionClose
      (dataSessionClose sha256 event.env event.arg1 event.arg2 event.arg3 kernel) := by
  unfold dataSessionClose
  split
  · exact .refused (by decide) rfl (by simp [sound])
  split
  · rename_i profile _
    simp only
    split_ifs with closed
    · exact .accepted (by decide) (Effect.closeSession profile) (by simp [sound])
    refine .refused (by decide) ?_ (by simp [sound])
    have unchanged := DataState.close_session_unchanged
      (Bool.eq_false_iff.mpr closed)
    rw [audit_event_stores, Kernel.withData, unchanged]
  · exact .refused (by decide) rfl (by simp [sound])

omit sound in
theorem audit_incidents_stores (findings : List (Reconcile.Incident × Bool)) (kernel : Kernel) :
    (auditIncidents sha256 findings kernel).stores = kernel.stores := by
  induction findings generalizing kernel with
  | nil => rfl
  | cons finding rest ih =>
    unfold auditIncidents
    rw [ih]
    split_ifs <;> rfl

theorem audit_incidents_sound (findings : List (Reconcile.Incident × Bool)) :
    (auditIncidents sha256 findings kernel).AuditSound sha256 := by
  induction findings generalizing kernel with
  | nil => exact sound
  | cons finding rest ih =>
    unfold auditIncidents
    apply ih
    split_ifs <;> simp [sound]

omit sound in
theorem audit_period_incidents_stores (findings : List (PeriodIncident × Bool)) (kernel : Kernel) :
    (auditPeriodIncidents sha256 findings kernel).stores = kernel.stores := by
  induction findings generalizing kernel with
  | nil => rfl
  | cons finding rest ih =>
    unfold auditPeriodIncidents
    rw [ih]
    split_ifs <;> rfl

theorem audit_period_incidents_sound (findings : List (PeriodIncident × Bool)) :
    (auditPeriodIncidents sha256 findings kernel).AuditSound sha256 := by
  induction findings generalizing kernel with
  | nil => exact sound
  | cons finding rest ih =>
    unfold auditPeriodIncidents
    apply ih
    split_ifs <;> simp [sound]

omit sound in
theorem audit_clean_pass_stores (clean : Option CleanPass) (kernel : Kernel) :
    (auditCleanPass sha256 clean kernel).stores = kernel.stores := by
  unfold auditCleanPass
  split <;> rfl

theorem audit_clean_pass_sound (clean : Option CleanPass) :
    (auditCleanPass sha256 clean kernel).AuditSound sha256 := by
  unfold auditCleanPass
  split <;> simp [sound]

theorem data_reconcile_handled :
    Handled sha256 freqHz event kernel .dataReconcile
      (dataReconcile sha256 freqHz event.env kernel) := by
  unfold dataReconcile
  split
  · exact .refused (by decide) rfl (by simp [sound])
  refine .accepted (finding_count_accepted _ _ _ _) ?_ ?_
  · simp only [Kernel.withData, audit_clean_pass_stores, audit_period_incidents_stores,
      audit_incidents_stores]
    exact Effect.reconcile
  · apply audit_clean_pass_sound
    apply audit_period_incidents_sound
    apply audit_incidents_sound
    exact sound

theorem data_period_handled :
    Handled sha256 freqHz event kernel .dataPeriod
      (dataPeriod sha256 event.env event.arg1 kernel) := by
  unfold dataPeriod
  simp only
  split
  · exact .refused (by decide) rfl (by simp [sound])
  split
  · rename_i none
    refine .refused (by decide) ?_ sound
    rw [DataState.advise_period_none none]
    rfl
  · rename_i done
    refine .accepted (period_assessment_accepted _) ?_ ?_
    · split_ifs <;> exact Effect.advise done
    · split_ifs <;> simp [sound]

omit sound in
@[simp]
theorem reset_mode_resource_ordinary (mode : ResetMode) (account : Nat) :
    OrdinarySubject (mode.resource account) := by
  unfold ResetMode.resource
  split_ifs <;> simp

@[simp]
theorem reset_refused_sound {resource : String} (ordinary : OrdinarySubject resource)
    (reason : String) : (resetRefused sha256 resource reason kernel).AuditSound sha256 :=
  audit_event_sound sound ordinary _ _ _ _ _

theorem data_reset_handled :
    Handled sha256 freqHz event kernel .dataReset
      (dataReset sha256 freqHz event.env event.arg1 event.arg2 kernel) := by
  unfold dataReset
  split
  · exact .refused (by decide) rfl sound
  rename_i mode mode_eq
  simp only
  split
  · exact .refused (by decide) rfl (by simp [sound])
  split
  · exact .refused (by decide) rfl (by simp [sound])
  rename_i entitled
  split
  · exact .refused (by decide) rfl (by simp [sound])
  split
  · exact .refused (reset_refusal_refused _) rfl (by simp [sound])
  rename_i permitted
  split
  · exact .blocked sound ‹_› (by simp) (reset_blocked_refused _)
  rename_i passed
  obtain rfl := marshal_gate_passed passed
  refine .accepted (by decide) ?_ (by simp [applyReset, sound])
  exact Effect.reset mode_eq (by simpa [Option.isSome_iff_ne_none] using entitled) permitted

end Handlers

/-! ## Dispatch -/

/-- Everything one syscall can do to the stores and the chain. -/
theorem dispatch_handled {sha256 : Bytes → Bytes} {kernel : Kernel}
    (good : kernel.stores.WellFormed) (sound : kernel.AuditSound sha256) (freqHz : Nat)
    (event : Event) {call : Syscall} (called : event.syscall = some call) :
    Handled sha256 freqHz event kernel call (dispatch sha256 freqHz event kernel) := by
  unfold dispatch
  rw [called]
  cases call with
  | write => exact .silent _ _ sound (by decide) rfl rfl rfl
  | rilAccess => exact ril_access_handled freqHz event sound
  | rilSend => exact ril_send_handled freqHz event sound
  | rilRecv => exact ril_recv_handled freqHz event sound
  | simCreate => exact sim_create_handled freqHz event sound good.slots
  | simInstall => exact sim_install_handled freqHz event sound
  | simEnable => exact sim_enable_handled freqHz event sound
  | simDisable => exact sim_disable_handled freqHz event sound
  | simDelete => exact sim_delete_handled freqHz event sound
  | simStatus => exact sim_status_handled freqHz event sound
  | ipcSend => exact ipc_send_handled freqHz event sound
  | ipcRecv => exact ipc_recv_handled freqHz event sound
  | el0ProofDone => exact .silent _ _ sound (by decide) rfl rfl rfl
  | netProofDone => exact .silent _ _ sound (by decide) rfl rfl rfl
  | marshalProofDone => exact .silent _ _ sound (by decide) rfl rfl rfl
  | mvnoBind => exact mvno_bind_handled freqHz event sound
  | mvnoSuspend => exact mvno_suspend_handled freqHz event sound good
  | mvnoReactivate => exact mvno_reactivate_handled freqHz event sound
  | dataAccount => exact data_account_handled freqHz event sound
  | dataSessionOpen => exact data_session_open_handled freqHz event sound
  | dataSessionClose => exact data_session_close_handled freqHz event sound
  | dataReconcile => exact data_reconcile_handled freqHz event sound
  | dataReset => exact data_reset_handled freqHz event sound
  | dataPeriod => exact data_period_handled freqHz event sound

theorem dispatch_unknown {event : Event} (unknown : event.syscall = none)
    (sha256 : Bytes → Bytes) (freqHz : Nat) (kernel : Kernel) :
    dispatch sha256 freqHz event kernel = (Words.u64Max, kernel) := by
  unfold dispatch
  rw [unknown]

end Runix.Arm
