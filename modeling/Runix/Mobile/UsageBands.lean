import Mathlib.Algebra.Order.Field.Rat
import Mathlib.Algebra.Order.BigOperators.Group.List
import Mathlib.Tactic.NormNum
import Mathlib.Tactic.Tauto
import Runix.Mobile.Policy

/-!
# Usage bands over a series of feeds

The counter of an account only grows until it is reset.  Its band is the one that the shares of
the cap, as rational numbers, put it in, and so it never goes down; once a session is denied for
the cap, all later ones are denied.
-/

namespace Runix.Mobile

open Lib DataEntitlement

def UsageBand.rank : UsageBand → Nat
  | .normal => 0
  | .throttled => 1
  | .capReached => 2
  | .anomalous => 3

/-! ## Exact shares -/

variable (entitlement : DataEntitlement)

def DataEntitlement.share (percent : Nat) : Option ℚ :=
  match entitlement.capBytes with
  | none => none
  | some cap => if cap = 0 then none else some (cap * percent / 100)

def DataEntitlement.ReachesShare (percent counter : Nat) : Prop :=
  ∃ share, entitlement.share percent = some share ∧ share ≤ counter

def DataEntitlement.ReachesCap (counter : Nat) : Prop :=
  ∃ cap, entitlement.capBytes = some cap ∧ cap ≤ counter

open Classical in
/-- The strongest band whose threshold the counter has reached. -/
noncomputable def DataEntitlement.exactBand (entitlement : DataEntitlement) (counter : Nat) :
    UsageBand :=
  if entitlement.ReachesShare entitlement.escalateAtPercent counter then .anomalous
  else if entitlement.ReachesCap counter then .capReached
  else if entitlement.ReachesShare entitlement.throttleAtPercent counter then .throttled
  else .normal

variable {first later : Nat}

section Bands

variable (entitlement : DataEntitlement)

theorem reachesShare_iff {cap : Nat} (capped : entitlement.capBytes = some cap)
    (percent counter : Nat) :
    entitlement.ReachesShare percent counter ↔
      cap ≠ 0 ∧ shareReached counter cap percent = true := by
  unfold DataEntitlement.ReachesShare share shareReached
  rw [capped]
  dsimp only
  by_cases zero : cap = 0
  · simp [zero]
  rw [if_neg zero, decide_eq_true_iff]
  simp only [Option.some.injEq, exists_eq_left', zero, ne_eq, not_false_eq_true, true_and]
  rw [div_le_iff₀ (by norm_num)]
  exact_mod_cast Iff.rfl

theorem evaluateUsage_band (counter : Nat) :
    (evaluateUsage entitlement ⟨counter⟩).band = entitlement.exactBand counter := by
  classical
  unfold evaluateUsage exactBand
  cases capped : entitlement.capBytes with
  | none =>
    have noShare : ∀ percent, ¬ entitlement.ReachesShare percent counter := by
      rintro percent ⟨share, known, -⟩
      unfold DataEntitlement.share at known
      rw [capped] at known
      cases known
    have noCap : ¬ entitlement.ReachesCap counter := by
      rintro ⟨cap, known, -⟩
      rw [capped] at known
      cases known
    rw [if_neg (noShare _), if_neg noCap, if_neg (noShare _)]
  | some cap =>
    have reaches : entitlement.ReachesCap counter ↔ cap ≤ counter := by
      unfold DataEntitlement.ReachesCap
      rw [capped]
      simp
    simp only [reachesShare_iff entitlement capped, reaches]
    by_cases zero : cap = 0
    · simp [zero]
    · simp only [zero, if_false, ne_eq, not_false_eq_true, true_and, ge_iff_le]
      split_ifs <;> rfl

theorem reachesShare_mono (percent : Nat) (grown : first ≤ later)
    (reached : entitlement.ReachesShare percent first) :
    entitlement.ReachesShare percent later := by
  obtain ⟨share, known, below⟩ := reached
  exact ⟨share, known, below.trans (Nat.cast_le.mpr grown)⟩

theorem reachesCap_mono (grown : first ≤ later) (reached : entitlement.ReachesCap first) :
    entitlement.ReachesCap later := by
  obtain ⟨cap, known, below⟩ := reached
  exact ⟨cap, known, below.trans grown⟩

/-- Each threshold, once reached, stays reached, so the first one found does not weaken. -/
theorem exactBand_mono (grown : first ≤ later) :
    (entitlement.exactBand first).rank ≤ (entitlement.exactBand later).rank := by
  have escalates := reachesShare_mono entitlement entitlement.escalateAtPercent grown
  have caps := reachesCap_mono entitlement grown
  have throttles := reachesShare_mono entitlement entitlement.throttleAtPercent grown
  unfold exactBand
  split_ifs <;> first | decide | (exfalso; tauto)

theorem evaluateUsage_suspends_iff (counter : Nat) :
    (evaluateUsage entitlement ⟨counter⟩).escalation = some .suspendAccount ↔
      ∃ cap, entitlement.capBytes = some cap ∧ cap ≠ 0 ∧
        shareReached counter cap entitlement.escalateAtPercent = true := by
  unfold evaluateUsage
  cases capped : entitlement.capBytes with
  | none => simp
  | some cap =>
    by_cases zero : cap = 0
    · simp [zero]
    by_cases reached : shareReached counter cap entitlement.escalateAtPercent = true
    · simp [zero, reached]
    · simp only [zero, reached, Option.some.injEq, exists_eq_left', ite_false, and_false,
        iff_false, Bool.false_eq_true]
      split_ifs <;> simp

theorem suspension_reaches_cap {counter : Nat}
    (suspends : (evaluateUsage entitlement ⟨counter⟩).escalation = some .suspendAccount) :
    entitlement.ReachesCap counter := by
  obtain ⟨cap, capped, -, reached⟩ := (evaluateUsage_suspends_iff entitlement counter).mp suspends
  have enough : cap * entitlement.escalateAtPercent ≤ counter * 100 := of_decide_eq_true reached
  have low : cap * 100 ≤ cap * entitlement.escalateAtPercent :=
    Nat.mul_le_mul_left cap entitlement.escalateLow
  exact ⟨cap, capped, by omega⟩

end Bands

/-! ## Sessions -/

variable {request : SessionRequest}

theorem band_of_capExceeded (denied : evaluateSession request = .deny .capExceeded) :
    UsageBand.capReached.rank ≤ (evaluateUsage request.entitlement request.usage).band.rank := by
  unfold evaluateSession at denied
  cases standing : request.standing <;> rw [standing] at denied <;> dsimp only at denied
  case suspended => cases denied
  case closed => cases denied
  case active =>
      split_ifs at denied with lifecycle roaming
      · cases denied
      · cases denied
      cases band : (evaluateUsage request.entitlement request.usage).band with
      | normal => simp [band] at denied
      | throttled => simp [band] at denied
      | capReached => exact le_rfl
      | anomalous => decide

theorem denied_of_band
    (high : UsageBand.capReached.rank ≤
      (evaluateUsage request.entitlement request.usage).band.rank) :
    ∃ reason, evaluateSession request = .deny reason := by
  unfold evaluateSession
  cases request.standing with
  | suspended => exact ⟨_, rfl⟩
  | closed => exact ⟨_, rfl⟩
  | active =>
    dsimp only
    split_ifs
    · exact ⟨_, rfl⟩
    · exact ⟨_, rfl⟩
    cases band : (evaluateUsage request.entitlement request.usage).band with
    | normal => exact absurd (band ▸ high) (by decide)
    | throttled => exact absurd (band ▸ high) (by decide)
    | capReached => exact ⟨_, rfl⟩
    | anomalous => exact ⟨_, rfl⟩

/-! ## Feeds -/

def feedUsage (usage : DataUsage) (feeds : List Nat) : DataUsage := feeds.foldl applyUsage usage

theorem feedUsage_usedBytes (feeds : List Nat) {start : Nat} (word : start ≤ Words.u64Max) :
    (feedUsage ⟨start⟩ feeds).usedBytes = min (start + feeds.sum) Words.u64Max := by
  unfold feedUsage
  induction feeds generalizing start with
  | nil => exact (min_eq_left word).symm
  | cons bytes feeds ih =>
    have capped : Words.saturatingAdd start bytes ≤ Words.u64Max := min_le_right _ _
    rw [List.foldl_cons, List.sum_cons]
    refine (ih capped).trans ?_
    -- A counter that has stopped at its maximum stays there.
    unfold Words.saturatingAdd
    omega

section Feeds

variable (start : Nat) (feeds : List Nat)

/-- The counter after the first feeds, before the later ones. -/
def usageAt (point : Nat) : DataUsage := feedUsage ⟨start⟩ (feeds.take point)

theorem usageAt_mono (word : start ≤ Words.u64Max) (order : first ≤ later) :
    (usageAt start feeds first).usedBytes ≤ (usageAt start feeds later).usedBytes := by
  unfold usageAt
  rw [feedUsage_usedBytes _ word, feedUsage_usedBytes _ word]
  have grown : (feeds.take first).sum ≤ (feeds.take later).sum :=
    feeds.monotone_sum_take order
  omega

theorem bandAt_mono (entitlement : DataEntitlement) (word : start ≤ Words.u64Max)
    (order : first ≤ later) :
    (evaluateUsage entitlement (usageAt start feeds first)).band.rank ≤
      (evaluateUsage entitlement (usageAt start feeds later)).band.rank := by
  rw [evaluateUsage_band, evaluateUsage_band]
  exact exactBand_mono entitlement (usageAt_mono start feeds word order)

end Feeds

theorem usage_feeds_banded (entitlement : DataEntitlement) (start : Nat)
    (word : start ≤ Words.u64Max) (feeds : List Nat) :
    (∀ point,
      let counter := min (start + (feeds.take point).sum) Words.u64Max
      (usageAt start feeds point).usedBytes = counter ∧
        (evaluateUsage entitlement (usageAt start feeds point)).band =
          entitlement.exactBand counter) ∧
    (∀ first later, first ≤ later →
      (evaluateUsage entitlement (usageAt start feeds first)).band.rank ≤
        (evaluateUsage entitlement (usageAt start feeds later)).band.rank) ∧
    (∀ denied request : SessionRequest, ∀ first later, first ≤ later →
      denied.entitlement = entitlement → denied.usage = usageAt start feeds first →
      request.entitlement = entitlement → request.usage = usageAt start feeds later →
      evaluateSession denied = .deny .capExceeded →
        ∃ reason, evaluateSession request = .deny reason) ∧
    (∀ point,
      (evaluateUsage entitlement (usageAt start feeds point)).escalation = some .suspendAccount →
        ∃ cap, entitlement.capBytes = some cap ∧
          cap ≤ (usageAt start feeds point).usedBytes) := by
  refine ⟨?_, ?_, ?_, ?_⟩
  · intro point counter
    have used : (usageAt start feeds point).usedBytes = counter := feedUsage_usedBytes _ word
    exact ⟨used, used ▸ evaluateUsage_band entitlement _⟩
  · intro first later order
    exact bandAt_mono start feeds entitlement word order
  · intro denied request first later order same atFirst alike atLater refused
    have high := band_of_capExceeded refused
    rw [same, atFirst] at high
    apply denied_of_band
    rw [alike, atLater]
    exact high.trans (bandAt_mono start feeds entitlement word order)
  · intro point suspends
    exact suspension_reaches_cap entitlement suspends

/-- A plan of a thousand bytes is throttled by the first feed and used up by the second; the
third only adds to a counter that is already over the cap. -/
theorem three_feeds_deny :
    let entitlement : DataEntitlement := ⟨some 1000, 80, true, 150, by decide, by decide, by decide⟩
    let usage := usageAt 0 [900, 200, 18446744073709551615]
    evaluateSession ⟨.active, .enabled, entitlement, usage 1, .home⟩ = .allowThrottled ∧
      evaluateSession ⟨.active, .enabled, entitlement, usage 2, .home⟩ = .deny .capExceeded ∧
      ∃ reason, evaluateSession ⟨.active, .enabled, entitlement, usage 3, .home⟩ = .deny reason := by
  intro entitlement usage
  have denied : evaluateSession ⟨.active, .enabled, entitlement, usage 2, .home⟩ =
      .deny .capExceeded := by
    decide
  have later := (usage_feeds_banded entitlement 0 (by decide)
    [900, 200, 18446744073709551615]).2.2.1
  exact ⟨by decide, denied, later _ _ 2 3 (by decide) rfl rfl rfl rfl denied⟩

end Runix.Mobile
