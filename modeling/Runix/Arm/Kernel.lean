import Runix.Arm.AuditChain
import Runix.Arm.DataCodes
import Runix.Capability.Token

/-!
# Kernel state

The statics of `kernel-arm`: the SIM slots, the MVNO registry and the data
tables (`Stores`), the audit chain, the reconciler's memory and the RIL and IPC
mailboxes.  `Env` holds what one syscall learns from outside: the capability
check, the MARSHAL evaluation and the two counter readings it may make.
-/

namespace Runix.Arm

open Lib Lib.ByteStrings Mobile Capability Arm.AuditChain

def channelCount : Nat := 4

abbrev Channels := Vector (Option Nat) channelCount

structure Stores where
  slots : Sim.SimSlots
  registry : AccountRegistry
  data : DataState
deriving DecidableEq

structure Kernel where
  stores : Stores
  worm : Option BoundedAudit
  memory : ReconcileMemory
  ril : Channels
  ipc : Channels

/-- A syscall that reads the counter twice reads `gateTick` before the MARSHAL
round trip and `applyTick` after it. -/
structure Env where
  check : String → Except CapabilityError Unit
  evaluate : MarshalAction → GateOutcome
  gateTick : Nat
  applyTick : Nat

/-- A caller that holds every capability and whose every action MARSHAL executes. -/
def Env.permissive (gateTick applyTick : Nat) : Env where
  check := fun _ => .ok ()
  evaluate := fun _ => .remote .execute
  gateTick := gateTick
  applyTick := applyTick

/-! ## Resource names -/

def rilResource (channel : Nat) : String := "ril:" ++ toString channel

def ipcResource (channel : Nat) : String := "ipc:" ++ toString channel

def simResource (slot : Nat) : String := "sim:" ++ toString slot

def simProfileResource (slot profile : Nat) : String :=
  "sim:" ++ toString slot ++ ":" ++ toString profile

def simDeleteResource (slot profile : Nat) : String :=
  "sim:delete:" ++ toString slot ++ ":" ++ toString profile

variable (account : Nat)

def mvnoAccountResource : String := "mvno:account:" ++ toString account

def mvnoSuspendResource : String := "mvno:suspend:" ++ toString account

def dataSessionResource : String := "data:session:" ++ toString account

def dataUsageResource : String := "data:usage:" ++ toString account

def dataResetResource : String := "data:reset:" ++ toString account

def dataResetEarlyResource : String := "data:reset-early:" ++ toString account

def dataReconcileResource : String := "data:reconcile"

/-! ## The MVNO layer -/

namespace Mvno

def adapt : Sim.ProfileState → ProfileLifecycle
  | .created => .created
  | .disabled => .disabled
  | .enabled => .enabled
  | .deleted => .deleted

/-- An unknown slot or profile is `none`, never "not enabled". -/
def lifecycleView (slots : Sim.SimSlots) : ProfileLifecycles := fun key =>
  match Sim.profileState slots key.slot key.profile with
  | .ok state => some (adapt state)
  | .error _ => none

variable (stores : Stores) (slot profile : Nat)

def key : ProfileKey := { slot := slot, profile := profile }

def bind (account slot profile : Nat) : Except AccountError Unit × Stores :=
  let outcome := stores.registry.bind account (key slot profile) (lifecycleView stores.slots)
  (outcome.1, { stores with registry := outcome.2 })

def unbind : Except AccountError (Option AccountId) × Stores :=
  match stores.registry.ownerOf (key slot profile) with
  | none => (.ok none, stores)
  | some owner =>
    let outcome := stores.registry.unbind (key slot profile) (lifecycleView stores.slots)
    (outcome.1.map fun _ => some owner, { stores with registry := outcome.2 })

def gateEnable : Except AccountError Unit :=
  match stores.registry.ownerOf (key slot profile) with
  | none => .error .notBound
  | some owner => stores.registry.checkEnable owner (key slot profile)

variable (account : Nat)

def suspend : Except AccountError (List ProfileKey) × Stores :=
  let outcome := stores.registry.suspend account (lifecycleView stores.slots)
  (outcome.1, { stores with registry := outcome.2 })

def reactivate : Except AccountError Unit × Stores :=
  let outcome := stores.registry.reactivate account
  (outcome.1, { stores with registry := outcome.2 })

def audit : List ProfileKey :=
  stores.registry.audit (lifecycleView stores.slots)

def standing : Option AccountStatus :=
  stores.registry.standing account

def ownerOf : Option AccountId :=
  stores.registry.ownerOf (key slot profile)

def hasBoundProfile : Bool :=
  !(stores.registry.profilesOf account).isEmpty

def accounts : List (Nat × AccountStatus) :=
  stores.registry.accounts.map fun row => (row.id, row.status)

end Mvno

/-! ## The data layer's snapshot -/

def maxSlotScan : Nat := 16

/-- The scan stops at the first slot that does not exist. -/
def profileRows (stores : Stores) : List Nat → List ProfileRow
  | [] => []
  | slot :: rest =>
    match Sim.profiles stores.slots slot with
    | .ok profiles =>
      profiles.map (fun p =>
        { slot := slot, profile := p.id, state := p.state,
          owner := Mvno.ownerOf stores slot p.id }) ++ profileRows stores rest
    | .error .noSuchSlot => []
    | .error _ => profileRows stores rest

def snapshotForReconcile (stores : Stores) : Reconcile.Observed × List UsageEntry :=
  let rows := profileRows stores (List.range maxSlotScan)
  let snapshot := stores.data.snapshot
  (buildObserved (Mvno.accounts stores) rows snapshot.1 snapshot.2 demoEntitlement, snapshot.1)

/-! ## Mailboxes -/

def Channels.send (channels : Channels) (channel byte : Nat) : Except Unit Unit × Channels :=
  if bound : channel < channelCount then (.ok (), channels.set channel (some byte))
  else (.error (), channels)

def Channels.recv (channels : Channels) (channel : Nat) : Option Nat × Channels :=
  if bound : channel < channelCount then (channels[channel], channels.set channel none)
  else (none, channels)

/-! ## Boot -/

def bootRegistry : AccountRegistry :=
  let first := AccountRegistry.new.openAccount 0xD00001 1
  let second := first.2.openAccount 0xD00002 1
  let third := second.2.openAccount 0xD00003 1
  third.2

def installDemoPeriod (freqHz account : Nat) (data : DataState) : DataState :=
  match demoPeriod account freqHz with
  | some period => (data.setPeriod account period).2
  | none => data

/-- The state after boot: three demonstration accounts, periods for the first
two, everything else empty. -/
def Kernel.boot (freqHz : Nat) : Kernel where
  stores :=
    { slots := Sim.SimSlots.boot
      registry := bootRegistry
      data := installDemoPeriod freqHz 1 (installDemoPeriod freqHz 0 DataState.new) }
  worm := none
  memory := ReconcileMemory.new
  ril := Vector.replicate channelCount none
  ipc := Vector.replicate channelCount none

/-! ## Auditing -/

section Auditing

variable (sha256 : Bytes → Bytes)

variable (auditClass : AuditClass)

def auditEvent (subject source target : String) (authorized : Bool)
    (reason : Option String) (kernel : Kernel) : Kernel :=
  let audit := kernel.worm.getD BoundedAudit.new
  { kernel with
    worm := some (audit.record sha256 auditClass subject source target authorized reason).2 }

def auditCoalesce (reason : String) (kernel : Kernel) : Kernel :=
  let audit := kernel.worm.getD BoundedAudit.new
  { kernel with worm := some (audit.noteCoalesced sha256 auditClass reason).2 }

def auditChainVerified (kernel : Kernel) : Bool :=
  match kernel.worm with
  | some audit => audit.verify sha256
  | none => true

def appliedOrRejected (authorized : Bool) : AuditClass :=
  if authorized then .applied else .rejected

def auditTransition (slot profile : Nat) (source target : Sim.ProfileState)
    (result : Except Sim.SimError Unit) (verdict : Option String) (kernel : Kernel) : Kernel :=
  let authorized := match result with
    | .ok () => true
    | .error _ => false
  let base := match result with
    | .ok () => none
    | .error error => some error.display
  let reason := match verdict with
    | some text => some (reasonWithVerdict base text)
    | none => base
  auditEvent sha256 (appliedOrRejected authorized) (simProfileResource slot profile)
    source.debug target.debug authorized reason kernel

def auditCapabilityDenial (label resource denial : String) (kernel : Kernel) : Kernel :=
  auditEvent sha256 auditClass resource "capability check" "denied" false
    (some (label ++ ": capability denied: " ++ denial)) kernel

/-- `audit_outcome`: the authorized flag and reason of a registry operation. -/
def auditOutcome {Answer : Type} (result : Except AccountError Answer) : Bool × Option String :=
  match result with
  | .ok _ => (true, none)
  | .error error => (false, some error.debug)

def auditClosedSessions (what : String) : List DataSession → Kernel → Kernel
  | [], kernel => kernel
  | session :: rest, kernel =>
    auditClosedSessions what rest
      (auditEvent sha256 .dataActivity (dataSessionResource session.account) "Open"
        ("Closed (kernel cleanup after " ++ what ++ ")") true
        (some ("slot " ++ toString session.slot ++ " profile " ++ toString session.profile))
        kernel)

def auditDataSession (account : Nat) (authorized : Bool) (target reason : String)
    (kernel : Kernel) : Kernel :=
  auditEvent sha256 (if authorized then .dataActivity else .rejected)
    (dataSessionResource account) "Closed" target authorized (some reason) kernel

def blockedClass : Blocked → AuditClass
  | .remote _ => .gateBlocked
  | .localFailure _ => .gateFailClosed
  | .unreachable => .gateFailClosed
  | .faulty => .gateFailClosed

def enforceGate (policy : UnreachablePolicy) (outcome : GateOutcome)
    (subject source target : String) (kernel : Kernel) :
    Except Blocked GateOutcome × Kernel :=
  match enforce policy outcome with
  | .ok () => (.ok outcome, kernel)
  | .error blocked =>
    (.error blocked,
      auditEvent sha256 (blockedClass blocked) subject source target false
        (some blocked.display) kernel)

def marshalGate (env : Env) (action : MarshalAction) (subject source target : String)
    (kernel : Kernel) : Except Blocked GateOutcome × Kernel :=
  enforceGate sha256 action.unreachablePolicy (env.evaluate action) subject source target kernel

/-! ## What auditing leaves alone, and that it stays balanced -/

variable (account : Nat)

section Frame

variable (kernel : Kernel)

@[simp]
theorem audit_event_stores (c : AuditClass) (subject source target : String) (authorized : Bool)
    (reason : Option String) :
    (auditEvent sha256 c subject source target authorized reason kernel).stores =
      kernel.stores := rfl

@[simp]
theorem audit_closed_sessions_stores (what : String) (closed : List DataSession) :
    (auditClosedSessions sha256 what closed kernel).stores = kernel.stores := by
  induction closed generalizing kernel with
  | nil => rfl
  | cons session rest ih =>
    rw [auditClosedSessions, ih]
    rfl

end Frame

/-! ## The MARSHAL gate -/

/-- What one passage through the gate can do: let the action through on an
enforced outcome and touch nothing, or block it and add one audit entry. -/
theorem marshal_gate_cases (env : Env) (action : MarshalAction) (subject source target : String)
    (kernel : Kernel) :
    (enforce action.unreachablePolicy (env.evaluate action) = .ok () ∧
        marshalGate sha256 env action subject source target kernel =
          (.ok (env.evaluate action), kernel)) ∨
      ∃ blocked, enforce action.unreachablePolicy (env.evaluate action) = .error blocked ∧
        marshalGate sha256 env action subject source target kernel =
          (.error blocked, auditEvent sha256 (blockedClass blocked) subject source target false
            (some blocked.display) kernel) := by
  unfold marshalGate enforceGate
  cases enforced : enforce action.unreachablePolicy (env.evaluate action) with
  | ok => exact .inl ⟨rfl, rfl⟩
  | error blocked => exact .inr ⟨blocked, rfl, rfl⟩

/-! ## Soundness of the chain -/

/-- Everything recorded so far verifies and stays inside its quotas. -/
def Kernel.AuditSound (kernel : Kernel) : Prop :=
  ∀ audit, kernel.worm = some audit → audit.Balanced sha256

/-- Not a subject the chain reserves for its own summaries. -/
def OrdinarySubject (subject : String) : Prop :=
  startsWith subject summarySubjectPrefix = false

theorem ordinary_subject_append {head : String} (rest : String)
    (clash : startsWith head summarySubjectPrefix = false ∧
      startsWith summarySubjectPrefix head = false) : OrdinarySubject (head ++ rest) := by
  unfold OrdinarySubject startsWith at *
  rw [Bool.eq_false_iff, ne_eq, List.isPrefixOf_iff_prefix] at clash ⊢
  rw [Bool.eq_false_iff, ne_eq, List.isPrefixOf_iff_prefix] at clash
  intro marked
  rw [String.toList_append] at marked
  rcases List.prefix_or_prefix_of_prefix marked (List.prefix_append _ _) with short | long
  · exact clash.1 short
  · exact clash.2 long

@[simp]
theorem sim_resource_ordinary (slot : Nat) : OrdinarySubject (simResource slot) :=
  ordinary_subject_append _ (by decide)

@[simp]
theorem sim_profile_resource_ordinary (slot profile : Nat) :
    OrdinarySubject (simProfileResource slot profile) := by
  unfold simProfileResource
  rw [String.append_assoc, String.append_assoc]
  exact ordinary_subject_append _ (by decide)

@[simp]
theorem sim_delete_resource_ordinary (slot profile : Nat) :
    OrdinarySubject (simDeleteResource slot profile) := by
  unfold simDeleteResource
  rw [String.append_assoc, String.append_assoc]
  exact ordinary_subject_append _ (by decide)

@[simp]
theorem mvno_account_resource_ordinary : OrdinarySubject (mvnoAccountResource account) :=
  ordinary_subject_append _ (by decide)

@[simp]
theorem mvno_suspend_resource_ordinary : OrdinarySubject (mvnoSuspendResource account) :=
  ordinary_subject_append _ (by decide)

@[simp]
theorem data_session_resource_ordinary : OrdinarySubject (dataSessionResource account) :=
  ordinary_subject_append _ (by decide)

@[simp]
theorem data_usage_resource_ordinary : OrdinarySubject (dataUsageResource account) :=
  ordinary_subject_append _ (by decide)

@[simp]
theorem data_reset_resource_ordinary : OrdinarySubject (dataResetResource account) :=
  ordinary_subject_append _ (by decide)

@[simp]
theorem data_reset_early_resource_ordinary : OrdinarySubject (dataResetEarlyResource account) :=
  ordinary_subject_append _ (by decide)

@[simp]
theorem data_reconcile_resource_ordinary : OrdinarySubject dataReconcileResource := by
  unfold OrdinarySubject
  decide

@[simp]
theorem data_reconcile_finding_ordinary (kind rest : String) :
    OrdinarySubject (dataReconcileResource ++ kind ++ rest) := by
  rw [String.append_assoc]
  exact ordinary_subject_append _ (by decide)

section Sound

variable {sha256} {kernel : Kernel}

variable (sound : kernel.AuditSound sha256)

include sound

theorem AuditSound.balanced : (kernel.worm.getD BoundedAudit.new).Balanced sha256 := by
  cases written : kernel.worm with
  | none => exact BoundedAudit.new_balanced
  | some audit => exact sound audit written

@[simp]
theorem audit_event_sound {subject : String} (ordinary : OrdinarySubject subject) (c : AuditClass)
    (source target : String) (authorized : Bool) (reason : Option String) :
    (auditEvent sha256 c subject source target authorized reason kernel).AuditSound sha256 := by
  intro audit written
  cases written
  exact BoundedAudit.record_balanced (AuditSound.balanced sound) c subject source target authorized
    reason ordinary

@[simp]
theorem audit_coalesce_sound (c : AuditClass) (reason : String) :
    (auditCoalesce sha256 c reason kernel).AuditSound sha256 := by
  intro audit written
  cases written
  exact BoundedAudit.coalesce_balanced (AuditSound.balanced sound) c reason

@[simp]
theorem audit_transition_sound (slot profile : Nat) (source target : Sim.ProfileState)
    (result : Except Sim.SimError Unit) (verdict : Option String) :
    (auditTransition sha256 slot profile source target result verdict kernel).AuditSound sha256 :=
  audit_event_sound sound (sim_profile_resource_ordinary slot profile) _ _ _ _ _

@[simp]
theorem audit_capability_denial_sound {resource : String} (ordinary : OrdinarySubject resource)
    (c : AuditClass) (label denial : String) :
    (auditCapabilityDenial sha256 c label resource denial kernel).AuditSound sha256 :=
  audit_event_sound sound ordinary _ _ _ _ _

@[simp]
theorem audit_data_session_sound (account : Nat) (authorized : Bool) (target reason : String) :
    (auditDataSession sha256 account authorized target reason kernel).AuditSound sha256 :=
  audit_event_sound sound (data_session_resource_ordinary account) _ _ _ _ _

@[simp]
theorem audit_closed_sessions_sound (what : String) (closed : List DataSession) :
    (auditClosedSessions sha256 what closed kernel).AuditSound sha256 := by
  induction closed generalizing kernel with
  | nil => exact sound
  | cons session rest ih =>
    exact ih (audit_event_sound sound (data_session_resource_ordinary session.account) _ _ _ _ _)

theorem audit_chain_verified : auditChainVerified sha256 kernel = true := by
  unfold auditChainVerified
  cases written : kernel.worm with
  | none => rfl
  | some audit => exact (sound audit written).verify

end Sound

end Auditing

end Runix.Arm
