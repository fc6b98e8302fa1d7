import Runix.Lib.Listing
import Runix.Mobile.Period

/-!
# What the period checker reports

`checkPeriods` finds duplicated accounts by counting runs in a sorted copy, and rebuilds the end
of a period by subtraction.  What it reports is said here without either: over the records in no
order, in unbounded integers.
-/

namespace Runix.Mobile

open Lib Lib.Listing List ObservedPeriod

def periodCopies (periods : Multiset ObservedPeriod) (account : Nat) : Nat :=
  periods.countP fun p => p.account = account

/-- The end of the period or the first request for its reset, whichever is later, and the grace;
at most the last tick there is. -/
def ObservedPeriod.deadline (p : ObservedPeriod) (graceTicks : Nat) : Nat :=
  min (max (p.period.startTick + p.period.lengthTicks) (p.resetRequestedSince.getD 0) + graceTicks)
    Words.u64Max

inductive PeriodFinding (periods : Multiset ObservedPeriod) (nowTick graceTicks : Nat) :
    PeriodIncident → Prop
  | tooMany (large : maxPeriods < periods.card) :
      PeriodFinding periods nowTick graceTicks ⟨.tooManyPeriods, 0, maxPeriods, periods.card⟩
  | duplicate (bounded : periods.card ≤ maxPeriods) (account : Nat)
      (several : 1 < periodCopies periods account) :
      PeriodFinding periods nowTick graceTicks
        ⟨.duplicateAccount, account, 1, periodCopies periods account⟩
  | clock (bounded : periods.card ≤ maxPeriods) (p : ObservedPeriod) (listed : p ∈ periods)
      (single : periodCopies periods p.account = 1) (early : nowTick < p.period.startTick) :
      PeriodFinding periods nowTick graceTicks
        ⟨.clockBeforeStart, p.account, p.period.startTick, nowTick⟩
  | elapsed (bounded : periods.card ≤ maxPeriods) (p : ObservedPeriod) (listed : p ∈ periods)
      (single : periodCopies periods p.account = 1) (late : p.deadline graceTicks < nowTick) :
      PeriodFinding periods nowTick graceTicks
        ⟨.periodElapsedNoReset, p.account, p.deadline graceTicks, nowTick⟩

/-! ## Runs of a sorted list -/

/-- The runs are the values that occur more than once, with how often they do.  The run being read
stands before the rest of the list. -/
theorem duplicateRuns_lists {current count : Nat} {ids : List Nat} (started : 0 < count)
    (sorted : (current :: ids).Pairwise (· ≤ ·)) :
    Lists (duplicateRuns current count ids) fun run =>
      1 < run.2 ∧ run.2 = (List.replicate count current ++ ids).count run.1 := by
  induction ids generalizing current count with
  | nil =>
    unfold duplicateRuns
    apply (lists_if (count > 1) (current, count)).congr
    rintro ⟨id, copies⟩
    rw [append_nil, count_replicate, Prod.mk.injEq]
    by_cases same : current = id
    · subst same
      simp only [beq_self_eq_true, if_true, true_and]
      omega
    · simp only [beq_iff_eq, same, if_false]
      omega
  | cons id rest ih =>
    have later := (pairwise_cons.mp sorted).2
    unfold duplicateRuns
    by_cases same : current = id
    · subst same
      rw [if_pos rfl]
      apply (ih (Nat.succ_pos count) later).congr
      rintro ⟨id, copies⟩
      rw [replicate_succ', append_assoc, singleton_append]
    rw [if_neg same]
    have next : current < id :=
      lt_of_le_of_ne ((pairwise_cons.mp sorted).1 id mem_cons_self) same
    have gone : current ∉ id :: rest := by
      intro member
      rcases mem_cons.mp member with here | there
      · exact same here
      · have above := (pairwise_cons.mp later).1 current there
        omega
    have parts : Lists ((if count > 1 then [(current, count)] else []) ++
        duplicateRuns id 1 rest) fun run =>
          (count > 1 ∧ run = (current, count)) ∨
            1 < run.2 ∧ run.2 = (List.replicate 1 id ++ rest).count run.1 := by
      apply (lists_if (count > 1) (current, count)).append (ih Nat.one_pos later)
      rintro run ⟨several, rfl⟩ ⟨-, counted⟩
      rw [replicate_one, singleton_append, count_eq_zero.mpr gone] at counted
      omega
    have whole : (if count > 1 then (current, count) :: duplicateRuns id 1 rest
        else duplicateRuns id 1 rest) =
        (if count > 1 then [(current, count)] else []) ++ duplicateRuns id 1 rest := by
      split_ifs <;> rfl
    rw [whole]
    apply parts.congr
    rintro ⟨other, copies⟩
    rw [replicate_one, singleton_append, count_append, count_replicate,
      Prod.mk.injEq]
    by_cases read : current = other
    · subst read
      rw [count_eq_zero.mpr gone]
      simp only [beq_self_eq_true, if_true, true_and]
      omega
    · simp only [beq_iff_eq, read, if_false, Nat.zero_add]
      constructor
      · rintro (⟨-, here, -⟩ | later)
        · exact absurd here.symm read
        · exact later
      · exact .inr

variable (periods : List ObservedPeriod)

theorem count_accounts (account : Nat) :
    (periods.map ObservedPeriod.account).count account = periodCopies periods account := by
  unfold periodCopies
  rw [count_eq_countP, countP_map, Multiset.coe_countP]
  congr 1

theorem duplicateAccounts_lists :
    Lists (duplicateAccounts periods) fun run =>
      1 < run.2 ∧ run.2 = periodCopies periods run.1 := by
  have counted : ∀ account, ((periods.map ObservedPeriod.account).insertionSort (· ≤ ·)).count
      account = periodCopies periods account := by
    intro account
    rw [(perm_insertionSort _ _).count_eq, count_accounts]
  have sorted : ((periods.map account).insertionSort (· ≤ ·)).Pairwise (· ≤ ·) :=
    pairwise_insertionSort _ _
  unfold duplicateAccounts
  split
  case h_1 empty =>
    apply lists_nil.congr
    rintro ⟨account, copies⟩
    rw [← counted, empty, count_nil]
    constructor
    · exact False.elim
    · rintro ⟨several, zero⟩
      rw [zero] at several
      exact absurd several (Nat.not_lt_zero 1)
  case h_2 first rest split =>
    rw [split] at sorted counted
    apply (duplicateRuns_lists Nat.one_pos sorted).congr
    rintro ⟨account, copies⟩
    rw [← counted]
    rfl

/-! ## One record -/

theorem assessPeriod_eq (period : BillingPeriod) (nowTick : Nat) :
    (nowTick < period.startTick ∧
        assessPeriod period nowTick = .clockBeforeStart period.startTick nowTick) ∨
      (period.startTick ≤ nowTick ∧ nowTick < period.startTick + period.lengthTicks ∧
        ∃ elapsed remaining, assessPeriod period nowTick = .active elapsed remaining) ∨
      (period.startTick + period.lengthTicks ≤ nowTick ∧
        ∃ missed, assessPeriod period nowTick =
          .elapsed (nowTick - (period.startTick + period.lengthTicks)) missed) := by
  unfold assessPeriod
  cases since : Words.checkedSub nowTick period.startTick with
  | none => exact .inl ⟨Words.checked_sub_eq_none_iff.mp since, rfl⟩
  | some elapsed =>
    rw [Words.checked_sub_eq_some_iff] at since
    right
    by_cases inside : elapsed < period.lengthTicks
    · left
      have left : Words.checkedSub period.lengthTicks elapsed =
          some (period.lengthTicks - elapsed - 1 + 1) := by
        rw [Words.checked_sub_eq_some_iff]
        omega
      refine ⟨by omega, by omega, elapsed, period.lengthTicks - elapsed - 1 + 1, ?_⟩
      dsimp only
      rw [left]
    · right
      refine ⟨by omega, elapsed / period.lengthTicks, ?_⟩
      have past : nowTick - (period.startTick + period.lengthTicks) =
          elapsed - period.lengthTicks := by
        omega
      dsimp only
      rw [past]
      cases left : Words.checkedSub period.lengthTicks elapsed with
      | none => rfl
      | some remaining =>
        rw [Words.checked_sub_eq_some_iff] at left
        obtain rfl : remaining = 0 := by omega
        rfl

variable {nowTick : Nat}

theorem checkPeriod_lists (word : nowTick ≤ Words.u64Max) (graceTicks : Nat) (p : ObservedPeriod) :
    Lists (checkPeriod nowTick graceTicks p).toList fun incident =>
      (nowTick < p.period.startTick ∧
          incident = ⟨.clockBeforeStart, p.account, p.period.startTick, nowTick⟩) ∨
        p.deadline graceTicks < nowTick ∧
          incident = ⟨.periodElapsedNoReset, p.account, p.deadline graceTicks, nowTick⟩ := by
  have inTime : nowTick < p.period.startTick + p.period.lengthTicks →
      ¬ p.deadline graceTicks < nowTick := by
    intro inside
    unfold deadline
    omega
  unfold checkPeriod
  rcases assessPeriod_eq p.period nowTick with ⟨early, assessed⟩ | ⟨begun, inside, _, _, assessed⟩ |
    ⟨past, missed, assessed⟩
  · rw [assessed]
    have notLate := inTime (Nat.lt_add_right _ early)
    apply (lists_singleton _).congr
    intro incident
    simp only [early, true_and, notLate, false_and, or_false]
  · rw [assessed]
    have notLate := inTime inside
    apply lists_nil.congr
    intro incident
    simp only [not_lt.mpr begun, false_and, notLate, or_self]
  rw [assessed]
  have begun : ¬ nowTick < p.period.startTick := by omega
  have deadline : Words.saturatingAdd (max (p.resetRequestedSince.getD 0)
      (nowTick - (nowTick - (p.period.startTick + p.period.lengthTicks)))) graceTicks =
      p.deadline graceTicks := by
    unfold Words.saturatingAdd deadline
    rw [max_comm, Nat.sub_sub_self past]
  dsimp only
  rw [deadline]
  have toList : (if nowTick > p.deadline graceTicks then
      some (⟨.periodElapsedNoReset, p.account, p.deadline graceTicks, nowTick⟩ : PeriodIncident)
      else none).toList = if nowTick > p.deadline graceTicks then
        [⟨.periodElapsedNoReset, p.account, p.deadline graceTicks, nowTick⟩] else [] := by
    split_ifs <;> rfl
  rw [toList]
  apply (lists_if _ _).congr
  intro incident
  simp only [begun, false_and, false_or, gt_iff_lt]

/-! ## The whole report -/

theorem mem_duplicated_iff {periods : List ObservedPeriod} {account : Nat} :
    account ∈ (duplicateAccounts periods).map Prod.fst ↔ 1 < periodCopies periods account := by
  rw [mem_map]
  constructor
  · rintro ⟨run, member, rfl⟩
    obtain ⟨several, counted⟩ := ((duplicateAccounts_lists periods).mem_iff run).mp member
    rwa [← counted]
  · intro several
    exact ⟨(account, _), ((duplicateAccounts_lists periods).mem_iff _).mpr ⟨several, rfl⟩, rfl⟩

def singlePeriods (periods : List ObservedPeriod) : List ObservedPeriod :=
  periods.filter fun p => !((duplicateAccounts periods).map Prod.fst).contains p.account

theorem mem_singlePeriods_iff {periods : List ObservedPeriod} {p : ObservedPeriod} :
    p ∈ singlePeriods periods ↔ p ∈ periods ∧ periodCopies periods p.account = 1 := by
  unfold singlePeriods
  rw [mem_filter, Bool.not_eq_true', contains_eq_mem, decide_eq_false_iff_not,
    mem_duplicated_iff]
  have counted : p ∈ periods → 0 < periodCopies periods p.account := by
    intro listed
    exact Multiset.countP_pos.mpr ⟨p, listed, rfl⟩
  constructor
  · rintro ⟨listed, few⟩
    have some := counted listed
    exact ⟨listed, by omega⟩
  · rintro ⟨listed, single⟩
    exact ⟨listed, by omega⟩

theorem singlePeriods_nodup : (singlePeriods periods).Nodup := by
  apply nodup_of_countP_le_one account filter_sublist
  intro p member
  have single := (mem_singlePeriods_iff.mp member).2
  unfold periodCopies at single
  exact single.le

theorem duplicate_incidents_list :
    Lists ((duplicateAccounts periods).map fun run => dupIncident run.1 run.2) fun incident =>
      ∃ account, 1 < periodCopies periods account ∧
        incident = ⟨.duplicateAccount, account, 1, periodCopies periods account⟩ := by
  have runs := duplicateAccounts_lists periods
  rw [map_eq_flatMap]
  have parts := Lists.flatMap runs.nodup (fun run _ => lists_singleton (dupIncident run.1 run.2)) (by
    rintro ⟨account, copies⟩ - ⟨another, others⟩ - incident rfl same
    cases same
    rfl)
  apply parts.congr
  intro incident
  constructor
  · rintro ⟨run, member, rfl⟩
    obtain ⟨several, counted⟩ := (runs.mem_iff run).mp member
    refine ⟨run.1, counted ▸ several, ?_⟩
    rw [← counted]
    rfl
  · rintro ⟨account, several, rfl⟩
    exact ⟨(account, _), (runs.mem_iff _).mpr ⟨several, rfl⟩, rfl⟩

def SingleFinding (periods : List ObservedPeriod) (nowTick graceTicks : Nat)
    (incident : PeriodIncident) : Prop :=
  ∃ p ∈ singlePeriods periods,
    (nowTick < p.period.startTick ∧
        incident = ⟨.clockBeforeStart, p.account, p.period.startTick, nowTick⟩) ∨
      p.deadline graceTicks < nowTick ∧
        incident = ⟨.periodElapsedNoReset, p.account, p.deadline graceTicks, nowTick⟩

theorem single_incidents_list (word : nowTick ≤ Words.u64Max) (graceTicks : Nat) :
    Lists ((singlePeriods periods).filterMap (checkPeriod nowTick graceTicks))
      (SingleFinding periods nowTick graceTicks) := by
  rw [filterMap_eq_flatMap_toList]
  apply Lists.flatMap (singlePeriods_nodup periods)
    (fun p _ => checkPeriod_lists word graceTicks p)
  intro p first q second incident one two
  have named : ∀ r : ObservedPeriod, (nowTick < r.period.startTick ∧
      incident = ⟨.clockBeforeStart, r.account, r.period.startTick, nowTick⟩) ∨
        r.deadline graceTicks < nowTick ∧
          incident = ⟨.periodElapsedNoReset, r.account, r.deadline graceTicks, nowTick⟩ →
      incident.account = r.account := by
    rintro r (⟨-, rfl⟩ | ⟨-, rfl⟩) <;> rfl
  obtain ⟨listed, single⟩ := mem_singlePeriods_iff.mp first
  exact eq_of_countP_eq_one single listed (mem_singlePeriods_iff.mp second).1 rfl
    ((named q two).symm.trans (named p one))

theorem PeriodIncident.sortKey_injective : Function.Injective PeriodIncident.sortKey := by
  intro first second same
  obtain ⟨kind, account, expected, observed⟩ := first
  obtain ⟨otherKind, otherAccount, otherExpected, otherObserved⟩ := second
  simp only [sortKey, List.cons.injEq, and_true] at same
  obtain ⟨rank, rfl, rfl, rfl⟩ := same
  have kinds : kind = otherKind := by
    cases kind <;> cases otherKind <;> first | rfl | cases rank
  rw [kinds]

theorem checkPeriods_lists (word : nowTick ≤ Words.u64Max) (graceTicks : Nat) :
    Lists (checkPeriods periods nowTick graceTicks) (PeriodFinding periods nowTick graceTicks) := by
  unfold checkPeriods
  by_cases large : periods.length > maxPeriods
  · rw [if_pos large]
    apply (lists_singleton _).congr
    intro incident
    constructor
    · rintro rfl
      exact .tooMany large
    · intro found
      cases found with
      | tooMany => rfl
      | duplicate bounded => exact absurd bounded (not_le.mpr large)
      | clock bounded => exact absurd bounded (not_le.mpr large)
      | elapsed bounded => exact absurd bounded (not_le.mpr large)
  · rw [if_neg large]
    have bounded : (periods : Multiset ObservedPeriod).card ≤ maxPeriods := not_lt.mp large
    have both := (duplicate_incidents_list periods).append
      (single_incidents_list periods word graceTicks) (by
        rintro incident ⟨account, -, rfl⟩ ⟨p, -, (⟨-, wrong⟩ | ⟨-, wrong⟩)⟩ <;> cases wrong)
    apply (both.perm (perm_insertionSort _ _).symm).congr
    intro incident
    constructor
    · rintro (⟨account, several, rfl⟩ | ⟨p, member, found⟩)
      · exact .duplicate bounded account several
      · obtain ⟨listed, single⟩ := mem_singlePeriods_iff.mp member
        rcases found with ⟨early, rfl⟩ | ⟨late, rfl⟩
        · exact .clock bounded p listed single early
        · exact .elapsed bounded p listed single late
    · intro found
      cases found with
      | tooMany past => exact absurd past large
      | duplicate _ account several => exact .inl ⟨account, several, rfl⟩
      | clock _ p listed single early =>
        exact .inr ⟨p, mem_singlePeriods_iff.mpr ⟨listed, single⟩, .inl ⟨early, rfl⟩⟩
      | elapsed _ p listed single late =>
        exact .inr ⟨p, mem_singlePeriods_iff.mpr ⟨listed, single⟩, .inr ⟨late, rfl⟩⟩

theorem checkPeriods_sorted (nowTick graceTicks : Nat) :
    (checkPeriods periods nowTick graceTicks).Pairwise fun a b => a.sortKey ≤ b.sortKey := by
  unfold checkPeriods
  split_ifs
  · exact pairwise_singleton _ _
  · exact sort_pairwise _

/-- The report is sorted, has exactly the findings, each once, and does not depend on the order of
the records. -/
theorem checkPeriods_declared (periods : List ObservedPeriod) (nowTick graceTicks : Nat)
    (word : nowTick ≤ Words.u64Max) :
    (checkPeriods periods nowTick graceTicks).Pairwise (fun a b => a.sortKey ≤ b.sortKey) ∧
      Lists (checkPeriods periods nowTick graceTicks) (PeriodFinding periods nowTick graceTicks) ∧
      ∀ other : List ObservedPeriod, other.Perm periods →
        checkPeriods other nowTick graceTicks = checkPeriods periods nowTick graceTicks := by
  refine ⟨checkPeriods_sorted periods nowTick graceTicks,
    checkPeriods_lists periods word graceTicks, ?_⟩
  intro other rearranged
  have same : (other : Multiset ObservedPeriod) = periods := Multiset.coe_eq_coe.mpr rearranged
  have first := checkPeriods_lists other word graceTicks
  rw [same] at first
  exact sorted_eq_of_perm PeriodIncident.sortKey_injective
    (first.perm_of_lists (checkPeriods_lists periods word graceTicks))
    (checkPeriods_sorted other nowTick graceTicks) (checkPeriods_sorted periods nowTick graceTicks)

def fiveRecords : List ObservedPeriod :=
  [⟨4, ⟨0, 10, by decide⟩, none⟩, ⟨7, ⟨0, 10, by decide⟩, none⟩,
    ⟨2, ⟨900, 10, by decide⟩, none⟩, ⟨7, ⟨5, 10, by decide⟩, none⟩,
    ⟨3, ⟨0, 10, by decide⟩, some 99⟩]

theorem five_records_declared :
    checkPeriods fiveRecords 100 5 =
        [⟨.duplicateAccount, 7, 1, 2⟩, ⟨.clockBeforeStart, 2, 900, 100⟩,
          ⟨.periodElapsedNoReset, 4, 15, 100⟩] ∧
      Lists (checkPeriods fiveRecords 100 5) (PeriodFinding fiveRecords 100 5) :=
  ⟨by decide +kernel, (checkPeriods_declared fiveRecords 100 5 (by decide)).2.1⟩

end Runix.Mobile
