import Runix.Arm.DataState
import Runix.Arm.MarshalAction
import Runix.Arm.Sim
import Runix.Mobile.Account
import Runix.Mobile.Reconcile

/-!
# Data syscall codes

`kernel-arm/src/data_codes.rs`: the return codes of the data syscalls, the
argument packing, the enum adapters, the demonstration plans and periods, the
texts written to the audit chain, and the snapshot handed to the reconciler.
-/

namespace Runix.Arm

open Lib Mobile

/-! ## Return codes -/

def usageNone : Nat := 0
def usageNotify : Nat := 1
def usageThrottle : Nat := 2
def usageSuspendRequested : Nat := 3
def usageDenied : Nat := 4
def usageNoEntitlement : Nat := 5
def usageNoSuchAccount : Nat := 6
def usageTableFull : Nat := 7
def usageNotActive : Nat := 8
def usageNoProfile : Nat := 9

def usageFeedRefusal (status : AccountStatus) (hasBoundProfile : Bool) : Option Nat :=
  match status with
  | .active => if hasBoundProfile then none else some usageNoProfile
  | .suspended => some usageNotActive
  | .closed => some usageNotActive

def actionRequestCode : Option ActionRequest → Nat
  | none => usageNone
  | some .notifyOnly => usageNotify
  | some .throttle => usageThrottle
  | some .suspendAccount => usageSuspendRequested

def sessionAllow : Nat := 0
def sessionAllowThrottled : Nat := 1
def sessionDenyAccountSuspended : Nat := 2
def sessionDenyAccountClosed : Nat := 3
def sessionDenyProfileNotEnabled : Nat := 4
def sessionDenyRoamingNotAllowed : Nat := 5
def sessionDenyCapExceeded : Nat := 6
def sessionRefusedCapability : Nat := 7
def sessionRefusedNoEntitlement : Nat := 8
def sessionRefusedNoSuchAccount : Nat := 9
def sessionRefusedProfileNotBound : Nat := 10
def sessionRefusedUnknownProfile : Nat := 11
def sessionRefusedBadArgument : Nat := 12
def sessionFailedTableFull : Nat := 13

def sessionDecisionCode : SessionDecision → Nat
  | .allow => sessionAllow
  | .allowThrottled => sessionAllowThrottled
  | .deny .accountSuspended => sessionDenyAccountSuspended
  | .deny .accountClosed => sessionDenyAccountClosed
  | .deny (.profileNotEnabled _) => sessionDenyProfileNotEnabled
  | .deny .roamingDataNotAllowed => sessionDenyRoamingNotAllowed
  | .deny .capExceeded => sessionDenyCapExceeded

def closeOk : Nat := 0
def closeDenied : Nat := 1
def closeNotOpen : Nat := 2
def closeBadArgument : Nat := 3

def reconcileDenied : Nat := Words.u64Max

def resetOk : Nat := 0
def resetDeniedCapability : Nat := 1
def resetDeniedMarshal : Nat := 2
def resetDeniedLocalFailure : Nat := 3
def resetNoEntitlement : Nat := 4
def resetNoSuchAccount : Nat := 5
def resetDeniedUnreachable : Nat := 6
def resetPeriodActive : Nat := 7
def resetClockBeforeStart : Nat := 8
def resetBadMode : Nat := 9
def resetEarlyCooldown : Nat := 10
def resetDeniedFaulty : Nat := 11

inductive ResetMode where
  | normal
  | early
deriving DecidableEq, Repr

def ResetMode.fromArg (arg : Nat) : Option ResetMode :=
  if arg = 0 then some .normal else if arg = 1 then some .early else none

def ResetMode.isEarly : ResetMode → Bool
  | .normal => false
  | .early => true

def resetRefusalCode : ResetRefusal → Nat
  | .periodActive _ => resetPeriodActive
  | .clockBeforeStart _ _ => resetClockBeforeStart
  | .earlyCooldown _ => resetEarlyCooldown

def resetBlockedCode : Blocked → Nat
  | .remote _ => resetDeniedMarshal
  | .localFailure _ => resetDeniedLocalFailure
  | .unreachable => resetDeniedUnreachable
  | .faulty => resetDeniedFaulty

def periodActive : Nat := 0
def periodResetRequested : Nat := 1
def periodClockBeforeStart : Nat := 2
def periodNoPeriod : Nat := 3
def periodDenied : Nat := 4

def periodAssessmentCode : PeriodAssessment → Nat
  | .active _ _ => periodActive
  | .elapsed _ _ => periodResetRequested
  | .clockBeforeStart _ _ => periodClockBeforeStart

/-- Bits 0 to 7 are the profile, bit 8 the roaming flag; anything above is
malformed. -/
def unpackProfileRoaming (arg : Nat) : Option (Nat × Bool) :=
  if arg / 512 ≠ 0 then none else some (arg % 256, arg / 256 % 2 ≠ 0)

/-! ## Adapters -/

def standingForData : AccountStatus → AccountStandingForData
  | .active => .active
  | .suspended => .suspended
  | .closed => .closed

def standingForReconcile : AccountStatus → Reconcile.Standing
  | .active => .active
  | .suspended => .suspended
  | .closed => .closed

def lifecycleForData : Sim.ProfileState → ProfileLifecycleForData
  | .created => .created
  | .disabled => .disabled
  | .enabled => .enabled
  | .deleted => .deleted

def lifecycleForReconcile : Sim.ProfileState → Reconcile.ProfileState
  | .created => .created
  | .disabled => .disabled
  | .enabled => .enabled
  | .deleted => .deleted

/-! ## Demonstration data -/

def demoEntitlement (account : Nat) : Option DataEntitlement :=
  if account ≤ 2 then (DataEntitlement.new (some 1000) 80 false 150).toOption else none

def demoPeriodMillis : Nat := 500
def demoLongPeriodMillis : Nat := 86400000
def demoGraceMillis : Nat := 20000
def demoInstallPeriodMillis : Nat := demoLongPeriodMillis

def millisToTicks (freqHz millis : Nat) : Nat :=
  let ticks := Words.saturatingMul freqHz millis / 1000
  if ticks = 0 ∧ millis ≠ 0 then 1 else ticks

def demoInstallPeriodTicks (freqHz : Nat) : Nat := millisToTicks freqHz demoInstallPeriodMillis

def demoEarlyResetCooldownTicks (freqHz : Nat) : Nat :=
  millisToTicks freqHz demoEarlyResetCooldownMillis

def demoPeriod (account freqHz : Nat) : Option BillingPeriod :=
  if account = 0 then (BillingPeriod.new 0 (millisToTicks freqHz demoPeriodMillis)).toOption
  else if account = 1 then
    (BillingPeriod.new 0 (millisToTicks freqHz demoLongPeriodMillis)).toOption
  else none

/-! ## Audit texts -/

def describePeriodAssessment : PeriodAssessment → String
  | .active elapsed remaining =>
    "active: " ++ toString elapsed ++ " ticks in, " ++ toString remaining ++
      " remaining; no reset requested"
  | .elapsed overdueTicks periodsMissed =>
    "elapsed: overdue " ++ toString overdueTicks ++ " ticks, " ++ toString periodsMissed ++
      " period(s) missed; reset REQUESTED (advisory: nothing was reset)"
  | .clockBeforeStart startTick nowTick =>
    "clock before start: now " ++ toString nowTick ++ " < period start " ++
      toString startTick ++ "; anomaly, no reset requested"

def describeResetAssessment : Option PeriodAssessment → String
  | none =>
    "no billing period for this account (this first reset is not period-gated and installs one)"
  | some (.active elapsed remaining) =>
    "period active: " ++ toString elapsed ++ " ticks in, " ++ toString remaining ++ " remaining"
  | some (.elapsed overdueTicks periodsMissed) =>
    "period elapsed: overdue " ++ toString overdueTicks ++ " ticks, " ++
      toString periodsMissed ++ " period(s) missed"
  | some (.clockBeforeStart startTick nowTick) =>
    "clock before start: now " ++ toString nowTick ++ " < period start " ++ toString startTick

def describeResetMode (mode : ResetMode) (assessment : Option PeriodAssessment) : String :=
  match mode with
  | .normal => "NORMAL reset; " ++ describeResetAssessment assessment
  | .early =>
    "EARLY (override) reset under data:reset-early, not waiting for the billing period to elapse; " ++
      describeResetAssessment assessment

def describePeriodStarted : PeriodStarted → String
  | .noPeriod => "no billing period for this account; none started"
  | .installed period =>
    "billing period INSTALLED at tick " ++ toString period.startTick ++ " (length " ++
      toString period.lengthTicks ++
      " ticks) because the account had none; DEMO DATA; later resets are period-gated"
  | .started period =>
    "next billing period started at tick " ++ toString period.startTick ++ " (length " ++
      toString period.lengthTicks ++ " ticks); reset request cleared"
  | .rejected error =>
    "next billing period NOT started (" ++ error.display ++ "); old period and request kept"

def capText (entitlement : DataEntitlement) : String :=
  match entitlement.capBytes with
  | some cap => toString cap
  | none => "unlimited"

def describeSessionRecord (record : PolicyDecisionRecord) : String :=
  "standing=" ++ record.request.standing.debug ++ " lifecycle=" ++
    record.request.lifecycle.debug ++ " network=" ++ record.request.network.debug ++ " used=" ++
    toString record.request.usage.usedBytes ++ " cap=" ++ capText record.request.entitlement ++
    " throttle=" ++ toString record.request.entitlement.throttleAtPercent ++ "% escalate=" ++
    toString record.request.entitlement.escalateAtPercent ++ "% roaming_ok=" ++
    toString record.request.entitlement.roamingDataAllowed ++ " band=" ++
    record.assessment.band.debug ++ " decision=" ++ record.decision.debug

def describeUsageAssessment (entitlement : DataEntitlement) (usage : DataUsage)
    (assessment : UsageAssessment) : String :=
  "used=" ++ toString usage.usedBytes ++ " cap=" ++ capText entitlement ++ " throttle=" ++
    toString entitlement.throttleAtPercent ++ "% escalate=" ++
    toString entitlement.escalateAtPercent ++ "% band=" ++ assessment.band.debug ++ " request=" ++
    (match assessment.escalation with
    | none => "None"
    | some request => "Some(" ++ request.debug ++ ")")

/-! ## The reconciler's snapshot -/

structure ProfileRow where
  slot : Nat
  profile : Nat
  state : Sim.ProfileState
  owner : Option Nat
deriving DecidableEq, Repr

def buildObserved (accounts : List (Nat × AccountStatus)) (profiles : List ProfileRow)
    (usage : List UsageEntry) (sessions : List DataSession)
    (entitlementOf : Nat → Option DataEntitlement) : Reconcile.Observed where
  accounts := accounts.map fun account =>
    let entitlement := entitlementOf account.1
    let row := Tables.lookup UsageEntry.account account.1 usage
    { id := account.1
      standing := standingForReconcile account.2
      dataCapBytes := entitlement.bind DataEntitlement.capBytes
      escalateAtPercent := entitlement.map DataEntitlement.escalateAtPercent
      usedBytes := (row.map fun u => u.usage.usedBytes).getD 0
      lastUsedBytes := row.bind UsageEntry.lastUsed }
  profiles := profiles.map fun p =>
    { slot := p.slot, profile := p.profile, lifecycle := lifecycleForReconcile p.state,
      owner := p.owner }
  sessions := sessions.map fun s =>
    { account := s.account, slot := s.slot, profile := s.profile, roaming := s.roaming,
      roamingAllowed :=
        ((entitlementOf s.account).map DataEntitlement.roamingDataAllowed).getD false }

theorem millis_to_ticks_ne_zero {freqHz millis : Nat} (positive : millis ≠ 0) :
    millisToTicks freqHz millis ≠ 0 := by
  unfold millisToTicks
  simp only
  split_ifs with zero
  · exact Nat.one_ne_zero
  · intro ticks
    exact zero ⟨ticks, positive⟩

end Runix.Arm
