import Runix.Arm.DataCodes
import Runix.Lib.Runs
import Runix.Mobile.Findings

/-!
# What the reconciler remembers

The reconciler copies the usage rows with `snapshot` and writes them back with
`mark_observed`, in two critical sections of `kernel-arm/src/data_state.rs`.  Here
feeds and resets may run in between.  A row written back after its account was reset
restores the memory the reset cleared.
-/

namespace Runix.Arm

open Lib Mobile List Tables UsageEntry DataState

/-- The data state and the usage rows of every snapshot taken so far. -/
structure ObservedData where
  data : DataState
  taken : List (List UsageEntry)

inductive DataOperation where
  | feedUsage (account bytes : Nat)
  | resetUsageAndPeriod (account now : Nat) (installLen : Option Nat)
  | snapshot
  | markObserved (taken : Nat)
deriving DecidableEq, Repr

namespace ObservedData

def new : ObservedData := ⟨DataState.new, []⟩

/-- A mark names one of the snapshots taken before it. -/
def step (state : ObservedData) : DataOperation → ObservedData
  | .feedUsage account bytes => { state with data := (state.data.feedUsage account bytes).2 }
  | .resetUsageAndPeriod account now installLen =>
    { state with data := (state.data.resetUsageAndPeriod account now installLen).2 }
  | .snapshot => { state with taken := state.taken ++ [state.data.snapshot.1] }
  | .markObserved index =>
    match state.taken[index]? with
    | some rows => { state with data := state.data.markObserved rows }
    | none => state

/-- No row remembers more than its counter, and no reconciliation of the state, with
whatever accounts, profiles and entitlements, reports a usage regression. -/
structure Faithful (state : ObservedData) : Prop where
  remembered : ∀ row ∈ state.data.usage, ∀ last, row.lastUsed = some last →
    last ≤ row.usage.usedBytes
  unreported : ∀ accounts profiles entitlementOf,
    ∀ incident ∈ Reconcile.reconcile (buildObserved accounts profiles state.data.usage
      state.data.sessions entitlementOf),
      incident.kind ≠ .usageRegression

/-- The rows about to be written back are not above the counters they are written to. -/
def Current (state : ObservedData) : DataOperation → Prop
  | .markObserved index => ∀ rows, state.taken[index]? = some rows → ∀ seen ∈ rows,
      ∀ row ∈ state.data.usage, row.account = seen.account →
        seen.usage.usedBytes ≤ row.usage.usedBytes
  | _ => True

/-- One row per account, in the table and in the snapshots, and every counter a word. -/
structure Tabular (state : ObservedData) : Prop where
  unique : (state.data.usage.map account).Nodup
  word : ∀ row ∈ state.data.usage, row.usage.usedBytes ≤ Words.u64Max
  taken : ∀ rows ∈ state.taken, (rows.map account).Nodup

variable {state : ObservedData}

theorem faithful_of_remembered
    (remembered : ∀ row ∈ state.data.usage, ∀ last, row.lastUsed = some last →
      last ≤ row.usage.usedBytes) : state.Faithful where
  remembered := remembered
  unreported := by
    intro accounts profiles entitlementOf incident reported regression
    obtain ⟨a, listed, last, kept, below⟩ := Reconcile.reconcile_regression reported regression
    simp only [buildObserved, mem_map] at listed
    obtain ⟨account, -, rfl⟩ := listed
    obtain ⟨row, found, stored⟩ := Option.bind_eq_some_iff.mp kept
    have bound := remembered row (lookup_mem UsageEntry.account found) last stored
    simp only [found, Option.map_some, Option.getD_some] at below
    omega

variable {data : DataState}

theorem feed_usage_rows {account bytes : Nat} {row : UsageEntry}
    (member : row ∈ (data.feedUsage account bytes).2.usage) :
    row ∈ data.usage ∨
      (∃ old ∈ data.usage, row = { old with usage := applyUsage old.usage bytes }) ∨
      row = { account := account, usage := applyUsage ⟨0⟩ bytes, lastUsed := none } := by
  unfold feedUsage at member
  split at member
  · rename_i rows done
    rcases mem_upsert UsageEntry.account done member with
      old | ⟨old, oldMember, -, rfl⟩ | rfl
    · exact .inl old
    · exact .inr (.inl ⟨old, oldMember, rfl⟩)
    · exact .inr (.inr rfl)
  · exact .inl member

theorem reset_rows {account now : Nat} {installLen : Option Nat} {row : UsageEntry}
    (member : row ∈ (data.resetUsageAndPeriod account now installLen).2.usage) :
    row ∈ data.usage ∨
      ∃ old ∈ data.usage, row = { old with usage := Mobile.resetUsage, lastUsed := none } := by
  obtain ⟨periods, lastResets, changed⟩ :=
    data.reset_usage_and_period_frame account now installLen
  rw [changed] at member
  unfold DataState.resetUsage at member
  split at member
  · rcases mem_update UsageEntry.account member with old | ⟨old, oldMember, -, rfl⟩
    · exact .inl old
    · exact .inr ⟨old, oldMember, rfl⟩
  · exact .inl member

theorem feed_usage_unique (unique : (data.usage.map account).Nodup) (account bytes : Nat) :
    ((data.feedUsage account bytes).2.usage.map UsageEntry.account).Nodup := by
  unfold feedUsage
  split
  · rename_i rows done
    exact upsert_keys_nodup _ done (fun _ => rfl) rfl unique
  · exact unique

theorem reset_accounts (data : DataState) (account now : Nat) (installLen : Option Nat) :
    (data.resetUsageAndPeriod account now installLen).2.usage.map UsageEntry.account =
      data.usage.map UsageEntry.account := by
  obtain ⟨periods, lastResets, changed⟩ :=
    data.reset_usage_and_period_frame account now installLen
  rw [changed]
  unfold DataState.resetUsage
  split
  · apply update_keys UsageEntry.account
    exact fun _ => rfl
  · rfl

theorem new_tabular : new.Tabular where
  unique := nodup_nil
  word := by simp [new, DataState.new]
  taken := by simp [new]

theorem step_tabular (tabular : state.Tabular) (operation : DataOperation) :
    (state.step operation).Tabular := by
  cases operation with
  | feedUsage account bytes =>
    refine ⟨feed_usage_unique tabular.unique account bytes, ?_, tabular.taken⟩
    intro row member
    rcases feed_usage_rows member with old | ⟨old, -, rfl⟩ | rfl
    · exact tabular.word row old
    · exact Words.saturating_add_le _ _
    · exact Words.saturating_add_le _ _
  | resetUsageAndPeriod account now installLen =>
    refine ⟨?_, ?_, tabular.taken⟩
    · simp only [step, reset_accounts]
      exact tabular.unique
    · intro row member
      rcases reset_rows member with old | ⟨old, -, rfl⟩
      · exact tabular.word row old
      · exact Nat.zero_le _
  | snapshot =>
    refine ⟨tabular.unique, tabular.word, ?_⟩
    intro rows member
    rcases mem_append.mp member with old | new
    · exact tabular.taken rows old
    · rw [mem_singleton.mp new]
      exact tabular.unique
  | markObserved index =>
    simp only [step]
    split
    · rename_i rows found
      obtain ⟨accounts, marked⟩ := mark_observed_rows state.data rows
      refine ⟨accounts ▸ tabular.unique, ?_, tabular.taken⟩
      intro row member
      obtain ⟨old, oldMember, -, usage, -⟩ := marked row member
      exact usage ▸ tabular.word old oldMember
    · exact tabular

variable {observed : List UsageEntry}

theorem mark_observed_lookup_other {account : Nat}
    (absent : ∀ seen ∈ observed, seen.account ≠ account) (data : DataState) :
    Tables.lookup UsageEntry.account account (data.markObserved observed).usage =
      Tables.lookup UsageEntry.account account data.usage := by
  induction observed generalizing data with
  | nil => rfl
  | cons first rest ih =>
    have others := fun seen later => absent seen (mem_cons_of_mem first later)
    have different : account ≠ first.account := (absent first mem_cons_self).symm
    refine (ih others _).trans ?_
    apply lookup_update_other UsageEntry.account _ different
    exact fun _ => rfl

/-- With one observed row per account, a marked row remembers exactly what was observed
for it. -/
theorem mark_observed_lookup (unique : (observed.map account).Nodup) {seen : UsageEntry}
    (listed : seen ∈ observed) (data : DataState) :
    Tables.lookup account seen.account (data.markObserved observed).usage =
      (Tables.lookup account seen.account data.usage).map
        fun row => { row with lastUsed := some seen.usage.usedBytes } := by
  induction observed generalizing data with
  | nil => simp at listed
  | cons first rest ih =>
    rw [map_cons, nodup_cons] at unique
    have later : ∀ other ∈ rest, other.account ≠ first.account := by
      intro other member same
      exact unique.1 (same ▸ mem_map_of_mem member)
    rcases mem_cons.mp listed with rfl | inRest
    · refine (mark_observed_lookup_other later _).trans ?_
      apply lookup_update_same UsageEntry.account
      exact fun _ => rfl
    · refine (ih unique.2 inRest _).trans ?_
      congr 1
      apply lookup_update_other account _ (later seen inRest)
      exact fun _ => rfl

/-- Writing rows back keeps the memory faithful exactly when none of them is above its
counter. -/
theorem mark_observed_faithful_iff (tabular : state.Tabular) (faithful : state.Faithful)
    (index : Nat) :
    (state.step (.markObserved index)).Faithful ↔ state.Current (.markObserved index) := by
  simp only [step, Current]
  cases found : state.taken[index]? with
  | none => simp [faithful]
  | some rows =>
    have observedUnique := tabular.taken rows (mem_of_getElem? found)
    constructor
    · intro marked other same seen listed row member account
      cases same
      have stored := lookup_of_mem UsageEntry.account tabular.unique member
      have written := mark_observed_lookup observedUnique listed state.data
      rw [← account, stored] at written
      exact marked.remembered _ (lookup_mem UsageEntry.account written) _ rfl
    · intro current
      apply faithful_of_remembered
      intro row member last remembered
      obtain ⟨-, marked⟩ := mark_observed_rows state.data rows
      obtain ⟨old, oldMember, account, usage, kept | ⟨seen, listed, seenAccount, value⟩⟩ :=
        marked row member
      · rw [← usage]
        exact faithful.remembered old oldMember last (kept ▸ remembered)
      · rw [value, Option.some.injEq] at remembered
        rw [← usage, ← remembered]
        exact current rows rfl seen listed old oldMember (account.trans seenAccount.symm)

theorem step_faithful_iff (tabular : state.Tabular) (faithful : state.Faithful)
    (operation : DataOperation) : (state.step operation).Faithful ↔ state.Current operation := by
  cases operation with
  | feedUsage account bytes =>
    refine iff_of_true (faithful_of_remembered ?_) trivial
    intro row member last remembered
    rcases feed_usage_rows member with old | ⟨old, oldMember, rfl⟩ | rfl
    · exact faithful.remembered row old last remembered
    · have kept := faithful.remembered old oldMember last remembered
      have word := tabular.word old oldMember
      simp only [applyUsage, Words.saturatingAdd]
      omega
    · simp at remembered
  | resetUsageAndPeriod account now installLen =>
    refine iff_of_true (faithful_of_remembered ?_) trivial
    intro row member last remembered
    rcases reset_rows member with old | ⟨old, -, rfl⟩
    · exact faithful.remembered row old last remembered
    · simp at remembered
  | snapshot => exact iff_of_true (faithful_of_remembered faithful.remembered) trivial
  | markObserved index => exact mark_observed_faithful_iff tabular faithful index

/-- In a run of feeds, resets, snapshots and marks of earlier snapshots, every state is
faithful exactly when no mark writes a row back above its counter. -/
theorem observations_faithful_iff (operations : List DataOperation) :
    Runs.EveryState step Faithful new operations ↔ Runs.EveryStep step Current new operations := by
  have preserved : ∀ (state : ObservedData) (operation : DataOperation), state.Tabular →
      (state.step operation).Tabular := fun state operation tabular =>
    step_tabular tabular operation
  have initial : new.Faithful := by
    apply faithful_of_remembered
    simp [new, DataState.new]
  apply Runs.every_state_iff_every_step step preserved _ operations new new_tabular initial
  intro state operation tabular faithful
  exact step_faithful_iff tabular faithful operation

def resetInBetween : List DataOperation :=
  [.feedUsage 7 100, .snapshot, .resetUsageAndPeriod 7 5 none, .markObserved 0]

/-- The reset counter is reported as tampered with. -/
theorem reset_reported_as_regression :
    ((Runs.run step new resetInBetween).data.usage.map fun row =>
        (row.usage.usedBytes, row.lastUsed)) = [(0, some 100)] ∧
      (Reconcile.reconcile (buildObserved [(7, .active)] []
        (Runs.run step new resetInBetween).data.usage [] fun _ => none)).map
          Reconcile.Incident.kind = [.usageRegression] := by
  decide +kernel

/-! ## Marks with no reset since their snapshot -/

end ObservedData

end Runix.Arm
