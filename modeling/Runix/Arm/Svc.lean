import Runix.Arm.Kernel

/-!
# Syscall dispatch

`kernel-arm/src/svc.rs`.  Each handler takes the kernel and returns the value
that becomes the caller's `x0` together with the kernel it leaves behind; an
early `return` of the source is the end of a branch.  Serial output is not
modelled.
-/

namespace Runix.Arm

open Lib Lib.ByteStrings Mobile Capability Arm.AuditChain

inductive Syscall where
  | write
  | rilAccess
  | rilSend
  | rilRecv
  | simCreate
  | simInstall
  | simEnable
  | simDisable
  | simDelete
  | simStatus
  | ipcSend
  | ipcRecv
  | el0ProofDone
  | netProofDone
  | marshalProofDone
  | mvnoBind
  | mvnoSuspend
  | mvnoReactivate
  | dataAccount
  | dataSessionOpen
  | dataSessionClose
  | dataReconcile
  | dataReset
  | dataPeriod
deriving DecidableEq, Repr

/-- The numbers `SYS_WRITE` to `SYS_DATA_PERIOD`; the source matches on them. -/
def Syscall.ofNumber : Nat → Option Syscall
  | 1 => some .write
  | 2 => some .rilAccess
  | 3 => some .rilSend
  | 4 => some .rilRecv
  | 5 => some .simCreate
  | 6 => some .simInstall
  | 7 => some .simEnable
  | 8 => some .simDisable
  | 9 => some .simDelete
  | 10 => some .simStatus
  | 11 => some .ipcSend
  | 12 => some .ipcRecv
  | 13 => some .el0ProofDone
  | 14 => some .netProofDone
  | 15 => some .marshalProofDone
  | 16 => some .mvnoBind
  | 17 => some .mvnoSuspend
  | 18 => some .mvnoReactivate
  | 19 => some .dataAccount
  | 20 => some .dataSessionOpen
  | 21 => some .dataSessionClose
  | 22 => some .dataReconcile
  | 23 => some .dataReset
  | 24 => some .dataPeriod
  | _ => none

def recvEmpty : Nat := 256
def recvDenied : Nat := 257
def simStatusDenied : Nat := 4
def simCreateFailed : Nat := 256

/-- The `as u8` conversion of a register. -/
def asU8 (register : Nat) : Nat := register % 256

def Kernel.withSlots (kernel : Kernel) (slots : Sim.SimSlots) : Kernel :=
  { kernel with stores := { kernel.stores with slots := slots } }

def Kernel.withData (kernel : Kernel) (data : DataState) : Kernel :=
  { kernel with stores := { kernel.stores with data := data } }

def Kernel.withStores (kernel : Kernel) (stores : Stores) : Kernel :=
  { kernel with stores := stores }

/-! ## Mailboxes -/

variable (env : Env)

def rilAccess (channel : Nat) (kernel : Kernel) : Nat × Kernel :=
  match env.check (rilResource channel) with
  | .ok () => (0, kernel)
  | .error _ => (1, kernel)

def rilSend (channel byte : Nat) (kernel : Kernel) : Nat × Kernel :=
  match env.check (rilResource channel) with
  | .ok () =>
    match kernel.ril.send channel byte with
    | (.ok (), ril) => (0, { kernel with ril := ril })
    | (.error (), ril) => (1, { kernel with ril := ril })
  | .error _ => (1, kernel)

def rilRecv (channel : Nat) (kernel : Kernel) : Nat × Kernel :=
  match env.check (rilResource channel) with
  | .ok () =>
    match kernel.ril.recv channel with
    | (some byte, ril) => (byte, { kernel with ril := ril })
    | (none, ril) => (recvEmpty, { kernel with ril := ril })
  | .error _ => (recvDenied, kernel)

def ipcSend (channel byte : Nat) (kernel : Kernel) : Nat × Kernel :=
  match env.check (ipcResource channel) with
  | .ok () =>
    match kernel.ipc.send channel byte with
    | (.ok (), ipc) => (0, { kernel with ipc := ipc })
    | (.error (), ipc) => (1, { kernel with ipc := ipc })
  | .error _ => (1, kernel)

def ipcRecv (channel : Nat) (kernel : Kernel) : Nat × Kernel :=
  match env.check (ipcResource channel) with
  | .ok () =>
    match kernel.ipc.recv channel with
    | (some byte, ipc) => (byte, { kernel with ipc := ipc })
    | (none, ipc) => (recvEmpty, { kernel with ipc := ipc })
  | .error _ => (recvDenied, kernel)

section Handlers

variable (sha256 : Bytes → Bytes)

/-! ## SIM syscalls -/

/-- `SYS_SIM_… slot S profile P`, the label of a profile operation's denial. -/
def simLabel (name : String) (slot profile : Nat) : String :=
  name ++ " slot " ++ toString slot ++ " profile " ++ toString profile

variable (env : Env)

def simCreate (slot : Nat) (kernel : Kernel) : Nat × Kernel :=
  match env.check (simResource slot) with
  | .ok () =>
    match Sim.create kernel.stores.slots slot with
    | (.ok profileId, slots) => (profileId, kernel.withSlots slots)
    | (.error _, slots) => (simCreateFailed, kernel.withSlots slots)
  | .error denial =>
    (simCreateFailed,
      auditCapabilityDenial sha256 .capDenialEsim ("SYS_SIM_CREATE slot " ++ toString slot)
        (simResource slot) denial.display kernel)

def simInstall (slot profileId identity : Nat) (kernel : Kernel) : Nat × Kernel :=
  match env.check (simProfileResource slot profileId) with
  | .ok () =>
    let result := Sim.install kernel.stores.slots slot profileId identity
    let audited := auditTransition sha256 slot profileId .created .disabled result.1 none
      (kernel.withSlots result.2)
    match result.1 with
    | .ok () => (0, audited)
    | .error _ => (1, audited)
  | .error denial =>
    (1, auditCapabilityDenial sha256 .capDenialEsim (simLabel "SYS_SIM_INSTALL" slot profileId)
      (simProfileResource slot profileId) denial.display kernel)

variable (slot profileId : Nat) (kernel : Kernel)

/-- The MVNO gate is local and runs before the MARSHAL round trip.  Enabling
demotes the slot's Enabled profile inside `Sim.enable`. -/
def simEnable : Nat × Kernel :=
  match env.check (simProfileResource slot profileId) with
  | .ok () =>
    match Mvno.gateEnable kernel.stores slot profileId with
    | .error refusal =>
      (1, auditEvent sha256 .rejected (simProfileResource slot profileId)
        Sim.ProfileState.disabled.debug Sim.ProfileState.enabled.debug false
        (some ("refused by the MVNO enable gate: " ++ refusal.debug)) kernel)
    | .ok () =>
      match marshalGate sha256 env (.esim "enable" slot profileId)
          (simProfileResource slot profileId) Sim.ProfileState.disabled.debug
          Sim.ProfileState.enabled.debug kernel with
      | (.error _, blocked) => (1, blocked)
      | (.ok allowed, gated) =>
        let result := Sim.enable gated.stores.slots slot profileId
        let audited := auditTransition sha256 slot profileId .disabled .enabled result.1
          (some (verdictText allowed)) (gated.withSlots result.2)
        match result.1 with
        | .ok () => (0, audited)
        | .error _ => (1, audited)
  | .error denial =>
    (1, auditCapabilityDenial sha256 .capDenialEsim (simLabel "SYS_SIM_ENABLE" slot profileId)
      (simProfileResource slot profileId) denial.display kernel)

def closeSessionsForProfile (what : String) (kernel : Kernel) : Kernel :=
  let closed := kernel.stores.data.closeSessionsForProfile slot profileId
  auditClosedSessions sha256 what closed.1 (kernel.withData closed.2)

def simDisable : Nat × Kernel :=
  match env.check (simProfileResource slot profileId) with
  | .ok () =>
    let result := Sim.disable kernel.stores.slots slot profileId
    let audited := auditTransition sha256 slot profileId .enabled .disabled result.1 none
      (kernel.withSlots result.2)
    match result.1 with
    | .ok () =>
      (0, closeSessionsForProfile sha256 slot profileId "operator SIM disable" audited)
    | .error _ => (1, audited)
  | .error denial =>
    (1, auditCapabilityDenial sha256 .capDenialEsim (simLabel "SYS_SIM_DISABLE" slot profileId)
      (simProfileResource slot profileId) denial.display kernel)

/-- Sessions on the profile are closed whatever the unbind answered. -/
def releaseBindingAfterDelete : Kernel :=
  let outcome := Mvno.unbind kernel.stores slot profileId
  let released := kernel.withStores outcome.2
  let audited := match outcome.1 with
    | .ok none => released
    | .ok (some owner) =>
      auditEvent sha256 .applied (simProfileResource slot profileId)
        ("Bound(account " ++ toString owner ++ ")") "Unbound" true none released
    | .error error =>
      auditEvent sha256 .rejected (simProfileResource slot profileId) "Bound" "Unbound" false
        (some error.debug) released
  closeSessionsForProfile sha256 slot profileId "SIM delete" audited

/-- Checked against the delete resource; every audit entry names the profile
resource. -/
def simDelete : Nat × Kernel :=
  match env.check (simDeleteResource slot profileId) with
  | .ok () =>
    match marshalGate sha256 env (.esim "delete" slot profileId)
        (simProfileResource slot profileId) Sim.ProfileState.disabled.debug
        Sim.ProfileState.deleted.debug kernel with
    | (.error _, blocked) => (1, blocked)
    | (.ok allowed, gated) =>
      let result := Sim.delete gated.stores.slots slot profileId
      let audited := auditTransition sha256 slot profileId .disabled .deleted result.1
        (some (verdictText allowed)) (gated.withSlots result.2)
      match result.1 with
      | .ok () => (0, releaseBindingAfterDelete sha256 slot profileId audited)
      | .error _ => (1, audited)
  | .error denial =>
    (1, auditCapabilityDenial sha256 .capDenialEsim (simLabel "SYS_SIM_DELETE" slot profileId)
      (simDeleteResource slot profileId) denial.display kernel)

def simStatus : Nat × Kernel :=
  match env.check (simProfileResource slot profileId) with
  | .ok () =>
    match Sim.profileState kernel.stores.slots slot profileId with
    | .ok state => (state.asStatusCode, kernel)
    | .error _ => (simStatusDenied, kernel)
  | .error denial =>
    (simStatusDenied,
      auditCapabilityDenial sha256 .capDenialEsim (simLabel "SYS_SIM_STATUS" slot profileId)
        (simProfileResource slot profileId) denial.display kernel)

/-! ## MVNO syscalls -/

/-- Both capabilities are checked on every call. -/
def bindAuthority (account slot profileId : Nat) : Except String Unit :=
  let accountResource := mvnoAccountResource account
  let profileResource := simProfileResource slot profileId
  match env.check accountResource, env.check profileResource with
  | .ok (), .ok () => .ok ()
  | .error e, .ok () => .error ("resource " ++ accountResource ++ ": " ++ e.display)
  | .ok (), .error e => .error ("resource " ++ profileResource ++ ": " ++ e.display)
  | .error a, .error p =>
    .error ("resource " ++ accountResource ++ ": " ++ a.display ++ "; resource " ++
      profileResource ++ ": " ++ p.display)

def mvnoBind (account slot profileId : Nat) (kernel : Kernel) : Nat × Kernel :=
  match bindAuthority env account slot profileId with
  | .ok () =>
    match marshalGate sha256 env (.mvnoBind account slot profileId)
        (simProfileResource slot profileId) "Unbound"
        ("Bound(account " ++ toString account ++ ")") kernel with
    | (.error _, blocked) => (1, blocked)
    | (.ok allowed, gated) =>
      let result := Mvno.bind gated.stores account slot profileId
      let outcome := auditOutcome result.1
      let audited := auditEvent sha256 (appliedOrRejected outcome.1)
        (simProfileResource slot profileId) "Unbound"
        ("Bound(account " ++ toString account ++ ")") outcome.1
        (some (reasonWithVerdict outcome.2 (verdictText allowed)))
        (gated.withStores result.2)
      match result.1 with
      | .ok () => (0, audited)
      | .error _ => (1, audited)
  | .error denial =>
    (1, auditCapabilityDenial sha256 .capDenialMvno
      ("SYS_MVNO_BIND account " ++ toString account ++ " slot " ++ toString slot ++ " profile " ++
        toString profileId)
      (mvnoAccountResource account) denial kernel)

/-- The loop over the profiles the registry asked to disable: whether every
disable succeeded, and the kernel after the last one. -/
def forceDisable : List ProfileKey → Kernel → Bool × Kernel
  | [], kernel => (true, kernel)
  | key :: rest, kernel =>
    let disabled := Sim.disable kernel.stores.slots key.slot key.profile
    let authorized := match disabled.1 with
      | .ok () => true
      | .error _ => false
    let reason := match disabled.1 with
      | .ok () => none
      | .error error => some error.display
    let audited := auditEvent sha256 (appliedOrRejected authorized)
      (simProfileResource key.slot key.profile) "Enabled" "Disabled (forced by MVNO suspend)"
      authorized reason (kernel.withSlots disabled.2)
    let later := forceDisable rest audited
    (authorized && later.1, later.2)

variable (account : Nat)

/-- The registry moves first; the answer is decided at the end, from the forced
disables, the live audit and the evidence chain. -/
def suspendAccount (verdict : String) (kernel : Kernel) : Nat × Kernel :=
  let result := Mvno.suspend kernel.stores account
  let outcome := auditOutcome result.1
  let audited := auditEvent sha256 (appliedOrRejected outcome.1) (mvnoAccountResource account)
    "Active" "Suspended" outcome.1 (some (reasonWithVerdict outcome.2 verdict))
    (kernel.withStores result.2)
  match result.1 with
  | .error _ => (1, audited)
  | .ok forced =>
    let disabled := forceDisable sha256 forced audited
    let closed := disabled.2.stores.data.closeSessionsForAccount account
    let after := auditClosedSessions sha256 "MVNO suspend" closed.1
      (disabled.2.withData closed.2)
    let leaked := Mvno.audit after.stores
    let ok := disabled.1 && leaked.isEmpty
    (if ok && auditChainVerified sha256 after then 0 else 1, after)

def mvnoSuspend (kernel : Kernel) : Nat × Kernel :=
  match env.check (mvnoSuspendResource account) with
  | .ok () =>
    match marshalGate sha256 env (.mvnoSuspend account) (mvnoAccountResource account) "Active"
        "Suspended" kernel with
    | (.error _, blocked) => (1, blocked)
    | (.ok allowed, gated) => suspendAccount sha256 account (verdictText allowed) gated
  | .error denial =>
    (1, auditCapabilityDenial sha256 .capDenialMvno
      ("SYS_MVNO_SUSPEND account " ++ toString account) (mvnoSuspendResource account)
      denial.display kernel)

def mvnoReactivate (kernel : Kernel) : Nat × Kernel :=
  match env.check (mvnoAccountResource account) with
  | .ok () =>
    match marshalGate sha256 env (.mvnoReactivate account) (mvnoAccountResource account)
        "Suspended" "Active" kernel with
    | (.error _, blocked) => (1, blocked)
    | (.ok allowed, gated) =>
      let result := Mvno.reactivate gated.stores account
      let outcome := auditOutcome result.1
      let audited := auditEvent sha256 (appliedOrRejected outcome.1)
        (mvnoAccountResource account) "Suspended" "Active" outcome.1
        (some (reasonWithVerdict outcome.2 (verdictText allowed)))
        (gated.withStores result.2)
      match result.1 with
      | .ok () => (0, audited)
      | .error _ => (1, audited)
  | .error denial =>
    (1, auditCapabilityDenial sha256 .capDenialMvno
      ("SYS_MVNO_REACTIVATE account " ++ toString account) (mvnoAccountResource account)
      denial.display kernel)

/-! ## Data syscalls -/

def meteredRefusal (reason : String) (kernel : Kernel) : Kernel :=
  auditEvent sha256 .rejected (dataUsageResource account) "Metered" "Metered" false (some reason)
    kernel

def dataAccount (account bytes : Nat) (kernel : Kernel) : Nat × Kernel :=
  let resource := dataUsageResource account
  match env.check resource with
  | .error denial =>
    (usageDenied, auditCapabilityDenial sha256 .capDenialData
      ("SYS_DATA_ACCOUNT account " ++ toString account) resource denial.display kernel)
  | .ok () =>
    match demoEntitlement account with
    | none =>
      (usageNoEntitlement,
        meteredRefusal sha256 account "refused: no data entitlement for this account" kernel)
    | some entitlement =>
      match Mvno.standing kernel.stores account with
      | none =>
        (usageNoSuchAccount,
          meteredRefusal sha256 account "refused: no such account in the registry" kernel)
      | some status =>
        match usageFeedRefusal status (Mvno.hasBoundProfile kernel.stores account) with
        | some code =>
          let why :=
            if code = usageNotActive then "account is " ++ status.debug ++ ", not Active"
            else "account has no bound profile"
          (code, meteredRefusal sha256 account
            ("refused: " ++ why ++ "; bytes " ++ toString bytes ++ " not counted") kernel)
        | none =>
          match kernel.stores.data.feedUsage account bytes with
          | (.error _, data) =>
            (usageTableFull,
              meteredRefusal sha256 account
                "refused: usage table full, bytes not counted" (kernel.withData data))
          | (.ok (before, after), data) =>
            let assessment := evaluateUsage entitlement after
            let described := describeUsageAssessment entitlement after assessment
            let fed := auditEvent sha256 .dataActivity resource
              ("used " ++ toString before.usedBytes)
              ("used " ++ toString after.usedBytes) true
              (some ("usage fed " ++ toString bytes ++ " bytes; " ++ described))
              (kernel.withData data)
            let advised := match assessment.escalation with
              | none => fed
              | some request =>
                auditEvent sha256 .dataActivity resource
                  ("band " ++ assessment.band.debug)
                  ("REQUEST " ++ request.debug ++
                    " (advisory; nothing was performed by this syscall)") true
                  (some "policy engine request to the caller, to be carried out through the governed path")
                  fed
            (actionRequestCode assessment.escalation, advised)

def hexText (number : Nat) : String := "0x" ++ String.ofList (Nat.toDigits 16 number)

def ownerText : Option AccountId → String
  | none => "bound to no account"
  | some owner => "bound to account " ++ toString owner

/-- Everything the policy reads comes from the stores; only the network class is
the caller's. -/
def dataSessionOpen (account slot packed : Nat) (kernel : Kernel) : Nat × Kernel :=
  let refused := fun reason => auditDataSession sha256 account false "Open" reason kernel
  match env.check (dataSessionResource account) with
  | .error denial =>
    (sessionRefusedCapability, auditCapabilityDenial sha256 .capDenialData
      ("SYS_DATA_SESSION_OPEN account " ++ toString account ++ " slot " ++ toString slot)
      (dataSessionResource account) denial.display kernel)
  | .ok () =>
    match unpackProfileRoaming packed with
    | none =>
      (sessionRefusedBadArgument,
        refused ("refused: malformed packed argument " ++ hexText packed))
    | some (profile, roaming) =>
      match demoEntitlement account with
      | none =>
        (sessionRefusedNoEntitlement,
          refused ("refused: no data entitlement for account " ++ toString account))
      | some entitlement =>
        match Mvno.standing kernel.stores account with
        | none =>
          (sessionRefusedNoSuchAccount,
            refused ("refused: no such account " ++ toString account))
        | some status =>
          let owner := Mvno.ownerOf kernel.stores slot profile
          if owner ≠ some account then
            (sessionRefusedProfileNotBound,
              refused ("refused: slot " ++ toString slot ++ " profile " ++
                toString profile ++ " is " ++ ownerText owner ++ ", not account " ++
                toString account))
          else
            match Sim.profileState kernel.stores.slots slot profile with
            | .error error =>
              (sessionRefusedUnknownProfile,
                refused ("refused: no lifecycle for slot " ++ toString slot ++
                  " profile " ++ toString profile ++ " (" ++ error.display ++ ")"))
            | .ok state =>
              let outcome := kernel.stores.data.decideAndOpen account slot profile
                roaming (standingForData status) (lifecycleForData state) entitlement
              let decided := kernel.withData outcome.2
              let described := describeSessionRecord outcome.1.record
              match outcome.1.record.decision, outcome.1.recorded with
              | .deny reason, _ =>
                (sessionDecisionCode outcome.1.record.decision,
                  auditDataSession sha256 account false "Open"
                    ("denied " ++ reason.debug ++ "; " ++ described) decided)
              | _, .tableFull =>
                (sessionFailedTableFull,
                  auditDataSession sha256 account false "Open"
                    ("allowed by policy but not recorded: session table full; " ++
                      described) decided)
              | decision, _ =>
                (sessionDecisionCode decision,
                  auditDataSession sha256 account true
                    (if decision = .allowThrottled then "Open (throttled)"
                      else "Open") ("allowed; " ++ described) decided)

/-- A malformed argument is refused without an audit entry. -/
def dataSessionClose (account slot arg : Nat) (kernel : Kernel) : Nat × Kernel :=
  match env.check (dataSessionResource account) with
  | .error denial =>
    (closeDenied, auditCapabilityDenial sha256 .capDenialData
      ("SYS_DATA_SESSION_CLOSE account " ++ toString account ++ " slot " ++ toString slot)
      (dataSessionResource account) denial.display kernel)
  | .ok () =>
    match unpackProfileRoaming arg with
    | some (profile, false) =>
      let place := "slot " ++ toString slot ++ " profile " ++ toString profile
      let outcome := kernel.stores.data.closeSession account slot profile
      let after := kernel.withData outcome.2
      if outcome.1 then
        (closeOk, auditEvent sha256 .dataActivity (dataSessionResource account) "Open"
          "Closed (by caller via SYS_DATA_SESSION_CLOSE)" true (some place) after)
      else
        (closeNotOpen, auditEvent sha256 .rejected (dataSessionResource account) "Closed"
          "Closed" false (some (place ++ ": no such open session")) after)
    | _ => (closeBadArgument, kernel)

/-- A key names what was found and leaves out what changes between calls. -/
def incidentKey (incident : Reconcile.Incident) : String :=
  incident.kind.display ++ "|" ++ incident.subject.display ++ "|" ++ incident.expected.display ++
    "|" ++ incident.observed.display

def periodIncidentKey (incident : PeriodIncident) : String :=
  "period|" ++ incident.kind.debug ++ "|" ++ toString incident.account ++ "|" ++
    toString incident.expected

def evidenceText : String :=
  "RECONCILER EVIDENCE (observed drift, not a denial; nothing was corrected): "

/-- One entry for each finding the plan marks fresh. -/
def auditIncidents : List (Reconcile.Incident × Bool) → Kernel → Kernel
  | [], kernel => kernel
  | (incident, fresh) :: rest, kernel =>
    auditIncidents rest
      (if fresh then
        auditEvent sha256 .incident (dataReconcileResource ++ ":" ++ incident.subject.display)
          ("expected " ++ incident.expected.display)
          ("observed " ++ incident.observed.display) false
          (some (evidenceText ++ incident.kind.display)) kernel
      else kernel)

def auditPeriodIncidents : List (PeriodIncident × Bool) → Kernel → Kernel
  | [], kernel => kernel
  | (incident, fresh) :: rest, kernel =>
    auditPeriodIncidents rest
      (if fresh then
        auditEvent sha256 .incident
          (dataReconcileResource ++ ":period:" ++ toString incident.account)
          ("expected " ++ toString incident.expected)
          ("observed " ++ toString incident.observed) false
          (some (evidenceText ++ "billing period: " ++ incident.display)) kernel
      else kernel)

def auditCleanPass (clean : Option CleanPass) (kernel : Kernel) : Kernel :=
  match clean with
  | none => kernel
  | some (.record passes) =>
    auditEvent sha256 .cleanPass dataReconcileResource "reconcile pass: findings or none yet"
      "reconcile pass: clean" true
      (some ("RECONCILER EVIDENCE: pass ran and found no incident (clean pass #" ++
        toString passes ++ "); consecutive clean passes are counted, not appended")) kernel
  | some (.coalesce passes) =>
    auditCoalesce sha256 .cleanPass
      ("reconcile clean pass #" ++ toString passes ++
        ", unchanged since the last recorded clean pass") kernel

variable (freqHz : Nat)

/-- The only store it writes is the reconciler's memory of the usage counters. -/
def dataReconcile (env : Env) (kernel : Kernel) : Nat × Kernel :=
  match env.check dataReconcileResource with
  | .error denial =>
    (reconcileDenied, auditCapabilityDenial sha256 .capDenialData "SYS_DATA_RECONCILE"
      dataReconcileResource denial.display kernel)
  | .ok () =>
    let snapshot := snapshotForReconcile kernel.stores
    let incidents := Reconcile.reconcile snapshot.1
    let periodIncidents := checkPeriods kernel.stores.data.periodSnapshot env.gateTick
      (millisToTicks freqHz demoGraceMillis)
    let keys := incidents.map incidentKey ++ periodIncidents.map periodIncidentKey
    let plan := kernel.memory.observe keys
    let remembered := { kernel with memory := plan.2 }
    let recorded := auditIncidents sha256 (incidents.zip plan.1.fresh) remembered
    let periodsRecorded := auditPeriodIncidents sha256
      (periodIncidents.zip (plan.1.fresh.drop incidents.length)) recorded
    let cleaned := auditCleanPass sha256 plan.1.clean periodsRecorded
    (incidents.length + periodIncidents.length,
      cleaned.withData (cleaned.stores.data.markObserved snapshot.2))

/-- Advice only: the one write is the tick a reset was first requested. -/
def dataPeriod (kernel : Kernel) : Nat × Kernel :=
  let resource := dataSessionResource account
  match env.check resource with
  | .error denial =>
    (periodDenied, auditCapabilityDenial sha256 .capDenialData
      ("SYS_DATA_PERIOD account " ++ toString account) resource denial.display kernel)
  | .ok () =>
    let now := env.gateTick
    match kernel.stores.data.advisePeriod account now with
    | (none, data) => (periodNoPeriod, kernel.withData data)
    | (some advice, data) =>
      let advised := kernel.withData data
      let audited :=
        if advice.firstRequest then
          auditEvent sha256 .dataActivity resource "billing period in progress"
            "REQUEST ResetUsage (advisory; nothing was performed by this syscall)" true
            (some ("billing period elapsed; request to the caller to issue the governed SYS_DATA_RESET; first requested at tick " ++
              toString now ++ "; " ++ describePeriodAssessment advice.assessment)) advised
        else advised
      (periodAssessmentCode advice.assessment, audited)

def assessPeriodOf (data : DataState) (account now : Nat) : Option PeriodAssessment :=
  (data.periodOf account).map fun period => assessPeriod period now

def ResetMode.label (mode : ResetMode) : String :=
  if mode.isEarly then "SYS_DATA_RESET(early)" else "SYS_DATA_RESET"

def ResetMode.resource (mode : ResetMode) (account : Nat) : String :=
  if mode.isEarly then dataResetEarlyResource account else dataResetResource account

/-- An audited refusal that leaves the usage period in force. -/
def resetRefused (resource reason : String) (kernel : Kernel) : Kernel :=
  auditEvent sha256 .rejected resource "usage period in force" "usage period in force" false
    (some reason) kernel

/-- Steps 4 and 5 of a reset: the data tables, then the audit entry. -/
def applyReset (account now : Nat) (resource modeText verdict : String)
    (kernel : Kernel) : Kernel :=
  let outcome := kernel.stores.data.resetUsageAndPeriod account now
    (some (demoInstallPeriodTicks freqHz))
  auditEvent sha256 .applied resource ("used " ++ toString outcome.1.1.usedBytes)
    ("used " ++ toString outcome.1.2.1.usedBytes) true
    (some (reasonWithVerdict
      (some ("usage period reset (new period); reconciler memory cleared; no session, standing or profile changed; " ++
        modeText ++ "; " ++ describePeriodStarted outcome.1.2.2.1)) verdict))
    (kernel.withData outcome.2)

/-- The period gate reads the counter before the MARSHAL round trip, the reset
itself after it. -/
def dataReset (env : Env) (account modeArg : Nat) (kernel : Kernel) : Nat × Kernel :=
  match ResetMode.fromArg modeArg with
  | none => (resetBadMode, kernel)
  | some mode =>
    let resource := mode.resource account
    match env.check resource with
    | .error denial =>
      (resetDeniedCapability, auditCapabilityDenial sha256 .capDenialData
        (mode.label ++ " account " ++ toString account) resource denial.display kernel)
    | .ok () =>
      if (demoEntitlement account).isNone then
        (resetNoEntitlement,
          resetRefused sha256 resource "refused: no data entitlement for this account" kernel)
      else if (Mvno.standing kernel.stores account).isNone then
        (resetNoSuchAccount,
          resetRefused sha256 resource "refused: no such account in the registry" kernel)
      else
        let assessment := assessPeriodOf kernel.stores.data account env.gateTick
        let modeText := describeResetMode mode assessment
        match resetPermittedAt assessment mode.isEarly
            (kernel.stores.data.lastResetTick account) env.gateTick
            (demoEarlyResetCooldownTicks freqHz) with
        | .error refusal =>
          (resetRefusalCode refusal,
            resetRefused sha256 resource
              ("refused: " ++ refusal.display ++ "; " ++ modeText) kernel)
        | .ok () =>
          match marshalGate sha256 env (.dataResetUsage account) resource
              "usage period in force"
              (if mode.isEarly then "new usage period (counter reset; EARLY override)"
                else "new usage period (counter reset)") kernel with
          | (.error blocked, after) => (resetBlockedCode blocked, after)
          | (.ok allowed, gated) =>
            (resetOk, applyReset sha256 freqHz account env.applyTick resource modeText
              (verdictText allowed) gated)

/-! ## Dispatch -/

/-- One syscall of a run: its registers and what it learns from outside. -/
structure Event where
  env : Env
  num : Nat
  arg1 : Nat
  arg2 : Nat
  arg3 : Nat

def Event.syscall (event : Event) : Option Syscall := Syscall.ofNumber event.num

def dispatch (event : Event) (kernel : Kernel) : Nat × Kernel :=
  match event.syscall with
  | some .write => (0, kernel)
  | some .rilAccess => rilAccess event.env event.arg1 kernel
  | some .rilSend => rilSend event.env event.arg1 (asU8 event.arg2) kernel
  | some .rilRecv => rilRecv event.env event.arg1 kernel
  | some .simCreate => simCreate sha256 event.env event.arg1 kernel
  | some .simInstall =>
    simInstall sha256 event.env event.arg1 (asU8 event.arg2) event.arg3 kernel
  | some .simEnable => simEnable sha256 event.env event.arg1 (asU8 event.arg2) kernel
  | some .simDisable => simDisable sha256 event.env event.arg1 (asU8 event.arg2) kernel
  | some .simDelete => simDelete sha256 event.env event.arg1 (asU8 event.arg2) kernel
  | some .simStatus => simStatus sha256 event.env event.arg1 (asU8 event.arg2) kernel
  | some .ipcSend => ipcSend event.env event.arg1 (asU8 event.arg2) kernel
  | some .ipcRecv => ipcRecv event.env event.arg1 kernel
  | some .mvnoBind =>
    mvnoBind sha256 event.env event.arg1 event.arg2 (asU8 event.arg3) kernel
  | some .mvnoSuspend => mvnoSuspend sha256 event.env event.arg1 kernel
  | some .mvnoReactivate => mvnoReactivate sha256 event.env event.arg1 kernel
  | some .dataAccount => dataAccount sha256 event.env event.arg1 event.arg2 kernel
  | some .dataSessionOpen =>
    dataSessionOpen sha256 event.env event.arg1 event.arg2 event.arg3 kernel
  | some .dataSessionClose =>
    dataSessionClose sha256 event.env event.arg1 event.arg2 event.arg3 kernel
  | some .dataReconcile => dataReconcile sha256 freqHz event.env kernel
  | some .dataReset => dataReset sha256 freqHz event.env event.arg1 event.arg2 kernel
  | some .dataPeriod => dataPeriod sha256 event.env event.arg1 kernel
  -- With no excursion in flight these answer like an unknown syscall.
  | some .el0ProofDone => (Words.u64Max, kernel)
  | some .netProofDone => (Words.u64Max, kernel)
  | some .marshalProofDone => (Words.u64Max, kernel)
  | none => (Words.u64Max, kernel)

def step (kernel : Kernel) (event : Event) : Kernel :=
  (dispatch sha256 freqHz event kernel).2

end Handlers

end Runix.Arm
