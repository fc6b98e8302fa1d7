import Runix.Lib.Words

/-!
# Data policy

The pure policy of `mobile/src/policy.rs`: entitlements, usage bands and the
session decision.  An entitlement carries the bounds its constructor checks.
-/

namespace Runix.Mobile

open Lib

def maxEscalatePercent : Nat := 10000

inductive EntitlementError where
  | throttlePercentAbove100
  | escalatePercentBelow100
  | escalatePercentTooLarge
deriving DecidableEq, Repr

structure DataEntitlement where
  capBytes : Option Nat
  throttleAtPercent : Nat
  roamingDataAllowed : Bool
  escalateAtPercent : Nat
  throttleBound : throttleAtPercent ≤ 100
  escalateLow : 100 ≤ escalateAtPercent
  escalateHigh : escalateAtPercent ≤ maxEscalatePercent
deriving DecidableEq

def DataEntitlement.new (capBytes : Option Nat) (throttleAtPercent : Nat)
    (roamingDataAllowed : Bool) (escalateAtPercent : Nat) :
    Except EntitlementError DataEntitlement :=
  if throttle : throttleAtPercent > 100 then .error .throttlePercentAbove100
  else if low : escalateAtPercent < 100 then .error .escalatePercentBelow100
  else if high : escalateAtPercent > maxEscalatePercent then .error .escalatePercentTooLarge
  else .ok {
    capBytes := capBytes
    throttleAtPercent := throttleAtPercent
    roamingDataAllowed := roamingDataAllowed
    escalateAtPercent := escalateAtPercent
    throttleBound := Nat.not_lt.mp throttle
    escalateLow := Nat.not_lt.mp low
    escalateHigh := Nat.not_lt.mp high }

structure DataUsage where
  usedBytes : Nat
deriving DecidableEq, Repr

def applyUsage (usage : DataUsage) (bytes : Nat) : DataUsage :=
  ⟨Words.saturatingAdd usage.usedBytes bytes⟩

def resetUsage : DataUsage := ⟨0⟩

inductive AccountStandingForData where
  | active
  | suspended
  | closed
deriving DecidableEq, Repr

inductive ProfileLifecycleForData where
  | created
  | disabled
  | enabled
  | deleted
deriving DecidableEq, Repr

def ProfileLifecycleForData.debug : ProfileLifecycleForData → String
  | .created => "Created"
  | .disabled => "Disabled"
  | .enabled => "Enabled"
  | .deleted => "Deleted"

inductive NetworkClass where
  | home
  | roaming
deriving DecidableEq, Repr

structure SessionRequest where
  standing : AccountStandingForData
  lifecycle : ProfileLifecycleForData
  entitlement : DataEntitlement
  usage : DataUsage
  network : NetworkClass
deriving DecidableEq

inductive DenyReason where
  | accountSuspended
  | accountClosed
  | profileNotEnabled (lifecycle : ProfileLifecycleForData)
  | roamingDataNotAllowed
  | capExceeded
deriving DecidableEq, Repr

inductive SessionDecision where
  | allow
  | allowThrottled
  | deny (reason : DenyReason)
deriving DecidableEq, Repr

inductive UsageBand where
  | normal
  | throttled
  | capReached
  | anomalous
deriving DecidableEq, Repr

inductive ActionRequest where
  | notifyOnly
  | throttle
  | suspendAccount
deriving DecidableEq, Repr

structure UsageAssessment where
  band : UsageBand
  escalation : Option ActionRequest
deriving DecidableEq, Repr

/-- The 128-bit products cannot saturate on 64-bit operands. -/
def shareReached (used cap percent : Nat) : Bool := used * 100 ≥ cap * percent

def evaluateUsage (entitlement : DataEntitlement) (usage : DataUsage) : UsageAssessment :=
  match entitlement.capBytes with
  | none => { band := .normal, escalation := none }
  | some cap =>
    if cap = 0 then { band := .capReached, escalation := some .notifyOnly }
    else if shareReached usage.usedBytes cap entitlement.escalateAtPercent then
      { band := .anomalous, escalation := some .suspendAccount }
    else if usage.usedBytes ≥ cap then { band := .capReached, escalation := some .notifyOnly }
    else if shareReached usage.usedBytes cap entitlement.throttleAtPercent then
      { band := .throttled, escalation := some .throttle }
    else { band := .normal, escalation := none }

def evaluateSession (request : SessionRequest) : SessionDecision :=
  match request.standing with
  | .suspended => .deny .accountSuspended
  | .closed => .deny .accountClosed
  | .active =>
    if request.lifecycle ≠ .enabled then .deny (.profileNotEnabled request.lifecycle)
    else if request.network = .roaming ∧ !request.entitlement.roamingDataAllowed then
      .deny .roamingDataNotAllowed
    else
      match (evaluateUsage request.entitlement request.usage).band with
      | .normal => .allow
      | .throttled => .allowThrottled
      | .capReached => .deny .capExceeded
      | .anomalous => .deny .capExceeded

structure PolicyDecisionRecord where
  request : SessionRequest
  decision : SessionDecision
  assessment : UsageAssessment
deriving DecidableEq

def PolicyDecisionRecord.decide (request : SessionRequest) : PolicyDecisionRecord where
  request := request
  decision := evaluateSession request
  assessment := evaluateUsage request.entitlement request.usage

def PolicyDecisionRecord.replays (record : PolicyDecisionRecord) : Bool :=
  record == PolicyDecisionRecord.decide record.request

/-! ## Debug renderings -/

def AccountStandingForData.debug : AccountStandingForData → String
  | .active => "Active"
  | .suspended => "Suspended"
  | .closed => "Closed"

def NetworkClass.debug : NetworkClass → String
  | .home => "Home"
  | .roaming => "Roaming"

def DenyReason.debug : DenyReason → String
  | .accountSuspended => "AccountSuspended"
  | .accountClosed => "AccountClosed"
  | .profileNotEnabled lifecycle => "ProfileNotEnabled(" ++ lifecycle.debug ++ ")"
  | .roamingDataNotAllowed => "RoamingDataNotAllowed"
  | .capExceeded => "CapExceeded"

def SessionDecision.debug : SessionDecision → String
  | .allow => "Allow"
  | .allowThrottled => "AllowThrottled"
  | .deny reason => "Deny(" ++ reason.debug ++ ")"

def UsageBand.debug : UsageBand → String
  | .normal => "Normal"
  | .throttled => "Throttled"
  | .capReached => "CapReached"
  | .anomalous => "Anomalous"

def ActionRequest.debug : ActionRequest → String
  | .notifyOnly => "NotifyOnly"
  | .throttle => "Throttle"
  | .suspendAccount => "SuspendAccount"

/-- A request that is not denied comes from an active account with an enabled
profile, and roams only where the plan permits it. -/
theorem session_not_denied {request : SessionRequest}
    (admitted : ∀ reason, evaluateSession request ≠ .deny reason) :
    request.standing = .active ∧ request.lifecycle = .enabled ∧
      (request.network = .roaming → request.entitlement.roamingDataAllowed = true) := by
  unfold evaluateSession at admitted
  cases standing : request.standing with
  | suspended => exact absurd rfl (standing ▸ admitted .accountSuspended)
  | closed => exact absurd rfl (standing ▸ admitted .accountClosed)
  | active =>
    rw [standing] at admitted
    by_cases lifecycle : request.lifecycle = .enabled
    · refine ⟨rfl, lifecycle, fun roaming => ?_⟩
      by_contra forbidden
      have denied := admitted .roamingDataNotAllowed
      simp [lifecycle, roaming, forbidden] at denied
    · have denied := admitted (.profileNotEnabled request.lifecycle)
      simp [lifecycle] at denied

end Runix.Mobile
