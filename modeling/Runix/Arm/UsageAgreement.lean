import Runix.Arm.DataCodes
import Runix.Mobile.Findings
import Runix.Mobile.UsageBands

/-!
# Escalation and reconciliation

The policy asks for a suspension when the usage reaches the escalation share of the cap; the
reconciler, which reads the records that `buildObserved` makes of the same entitlements and
counters, reports the active account as an anomaly.
-/

namespace Runix.Arm

open Lib Mobile Reconcile

def reportsAnomaly (report : List Reconcile.Incident) (account : Nat) : Prop :=
  ∃ incident ∈ report,
    incident.kind = .anomalousUsageNoEscalation ∧ incident.subject = .account account

instance (report : List Reconcile.Incident) (account : Nat) : Decidable (reportsAnomaly report account) :=
  inferInstanceAs (Decidable (∃ incident ∈ report, _))

/-- The counter of an account that was never fed is zero. -/
def usedBytesOf (usage : List UsageEntry) (account : Nat) : Nat :=
  ((Tables.lookup UsageEntry.account account usage).map fun u => u.usage.usedBytes).getD 0

section Records

variable (accounts : List (Nat × AccountStatus)) (profiles : List ProfileRow)
  (usage : List UsageEntry) (sessions : List DataSession)
  (entitlementOf : Nat → Option DataEntitlement)

theorem buildObserved_bounded (fewAccounts : accounts.length ≤ Reconcile.maxAccounts)
    (fewProfiles : profiles.length ≤ maxProfiles) (fewSessions : sessions.length ≤ maxSessions) :
    (buildObserved accounts profiles usage sessions entitlementOf).unordered.Bounded := by
  unfold Reconcile.Snapshot.Bounded Reconcile.Observed.unordered buildObserved
  simp only [Multiset.coe_card, List.length_map]
  exact ⟨fewAccounts, fewProfiles, fewSessions⟩

theorem buildObserved_copies (id : Nat) :
    (buildObserved accounts profiles usage sessions entitlementOf).unordered.accountCopies id =
      (accounts.map Prod.fst).count id := by
  unfold Reconcile.Snapshot.accountCopies Reconcile.Observed.unordered buildObserved
  simp only [Multiset.coe_countP, List.countP_map, List.count, beq_eq_decide]
  rfl

/-- What `buildObserved` records of an account. -/
def observedAccount (id : Nat) (status : AccountStatus) : Reconcile.ObservedAccount where
  id := id
  standing := standingForReconcile status
  dataCapBytes := (entitlementOf id).bind DataEntitlement.capBytes
  escalateAtPercent := (entitlementOf id).map DataEntitlement.escalateAtPercent
  usedBytes := usedBytesOf usage id
  lastUsedBytes := (Tables.lookup UsageEntry.account id usage).bind UsageEntry.lastUsed

theorem single_record_iff {id : Nat} {status : AccountStatus} (listed : (id, status) ∈ accounts)
    (once : (accounts.map Prod.fst).count id = 1) (a : Reconcile.ObservedAccount) :
    (buildObserved accounts profiles usage sessions entitlementOf).unordered.SingleAccount a ∧
        a.id = id ↔
      a = observedAccount usage entitlementOf id status := by
  have copies := buildObserved_copies accounts profiles usage sessions entitlementOf id
  rw [once] at copies
  have recorded : observedAccount usage entitlementOf id status ∈
      (buildObserved accounts profiles usage sessions entitlementOf).unordered.accounts :=
    List.mem_map.mpr ⟨_, listed, rfl⟩
  constructor
  · rintro ⟨⟨member, -⟩, same⟩
    exact Listing.eq_of_countP_eq_one copies member recorded same rfl
  · rintro rfl
    exact ⟨⟨recorded, copies⟩, rfl⟩

/-- Within the bounds, and for a cap other than zero, an active account is reported as an anomaly
exactly when the policy asks for its suspension. -/
theorem anomaly_iff_suspension {id : Nat} (listed : (id, .active) ∈ accounts)
    (once : (accounts.map Prod.fst).count id = 1) {entitlement : DataEntitlement}
    (entitled : entitlementOf id = some entitlement) (someCap : entitlement.capBytes ≠ some 0)
    (fewAccounts : accounts.length ≤ Reconcile.maxAccounts)
    (fewProfiles : profiles.length ≤ maxProfiles)
    (fewSessions : sessions.length ≤ maxSessions) :
    reportsAnomaly
        (reconcile (buildObserved accounts profiles usage sessions entitlementOf)) id ↔
      (evaluateUsage entitlement ⟨usedBytesOf usage id⟩).escalation = some .suspendAccount := by
  have bounded := buildObserved_bounded accounts profiles usage sessions entitlementOf fewAccounts
    fewProfiles fewSessions
  have only := single_record_iff accounts profiles usage sessions entitlementOf listed once
  rw [evaluateUsage_suspends_iff]
  refine (anomaly_mem_reconcile_iff bounded id).trans ?_
  constructor
  · rintro ⟨a, single, own, -, cap, percent, capped, escalated, reached⟩
    obtain rfl := (only a).mp ⟨single, own⟩
    simp only [observedAccount, entitled, Option.bind_some, Option.map_some,
      Option.some.injEq] at capped escalated
    subst escalated
    refine ⟨cap, capped, ?_, decide_eq_true reached⟩
    rintro rfl
    exact someCap capped
  · rintro ⟨cap, capped, -, reached⟩
    obtain ⟨single, own⟩ := (only _).mpr rfl
    refine ⟨_, single, own, rfl, cap, entitlement.escalateAtPercent, ?_, ?_, of_decide_eq_true reached⟩
    · simp only [observedAccount, entitled, Option.bind_some, capped]
    · simp only [observedAccount, entitled, Option.map_some]

end Records

/-- Half again over a cap of a thousand bytes, with another account beside it. -/
theorem escalated_account_reported :
    let entitlement : DataEntitlement := ⟨some 1000, 80, true, 150, by decide, by decide, by decide⟩
    let usage : List UsageEntry := [⟨7, ⟨1500⟩, none⟩]
    (evaluateUsage entitlement ⟨usedBytesOf usage 7⟩).escalation = some .suspendAccount ∧
      reportsAnomaly (reconcile
        (buildObserved [(7, .active), (8, .closed)] [] usage [] fun _ => some entitlement)) 7 := by
  intro entitlement usage
  have suspends : (evaluateUsage entitlement ⟨usedBytesOf usage 7⟩).escalation =
      some .suspendAccount := by
    decide
  exact ⟨suspends, (anomaly_iff_suspension [(7, .active), (8, .closed)] [] usage []
    (fun _ => some entitlement) (by decide) (by decide) rfl (by decide) (by decide) (by decide)
    (by decide)).mpr suspends⟩

/-- A snapshot of one account too many reports nothing but its size, although the policy asks for
a suspension; and with a cap of zero the reconciler reports what the policy does not ask for. -/
theorem oversized_or_zero_cap_disagree : let entitlement (cap : Nat) : DataEntitlement :=
      ⟨some cap, 80, true, 150, by decide, by decide, by decide⟩
    let usage : List UsageEntry := [⟨7, ⟨1500⟩, none⟩]
    ((evaluateUsage (entitlement 1000) ⟨usedBytesOf usage 7⟩).escalation = some .suspendAccount ∧
      ¬ reportsAnomaly (reconcile
        (buildObserved ((List.range 65).map fun id => (id, .active)) [] usage []
          fun _ => some (entitlement 1000))) 7) ∧
    ((evaluateUsage (entitlement 0) ⟨usedBytesOf usage 7⟩).escalation ≠ some .suspendAccount ∧
      reportsAnomaly (reconcile
        (buildObserved [(7, .active)] [] usage [] fun _ => some (entitlement 0))) 7) := by
  decide +kernel

end Runix.Arm
