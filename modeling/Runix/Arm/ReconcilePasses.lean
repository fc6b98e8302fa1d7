import Mathlib.Algebra.Order.BigOperators.Group.Finset
import Mathlib.Data.Set.Card
import Runix.Arm.AuditChain

/-!
# The passes of the reconciler

`ReconcileMemory::observe` over any sequence of passes.  A key is marked fresh once for each
stretch of passes that report it, and a clean pass is recorded once for each stretch of clean
passes.
-/

namespace Runix.Arm.AuditChain

open List

/-! ## Stretches of a predicate -/

section Stretches

variable {p : Nat → Prop}

/-- The numbers from `s.1` up to `s.2` have the property, and no longer stretch around them. -/
structure Stretch (p : Nat → Prop) (s : Nat × Nat) : Prop where
  proper : s.1 < s.2
  all : ∀ i, s.1 ≤ i → i < s.2 → p i
  stops : ¬ p s.2
  begins : ∀ before, s.1 = before + 1 → ¬ p before

/-- There are as many stretches as numbers that begin one. -/
theorem stretches_ncard [DecidablePred p] {bound : Nat} (bounded : ∀ i, p i → i < bound) :
    {s | Stretch p s}.ncard =
      ((Finset.range bound).filter fun i =>
        p i ∧ ∀ before < i, i = before + 1 → ¬ p before).card := by
  rw [← Set.ncard_coe_finset]
  refine Set.ncard_congr (fun s _ => s.1) ?_ ?_ ?_
  · intro s stretch
    have first := stretch.all s.1 le_rfl stretch.proper
    simp only [Finset.coe_filter, Finset.mem_range, Set.mem_ofPred_eq]
    exact ⟨bounded _ first, first, fun before _ => stretch.begins before⟩
  · rintro ⟨a, b⟩ ⟨a', b'⟩ one two (rfl : a = a')
    rcases lt_trichotomy b b' with less | rfl | more
    · exact absurd (two.all b one.proper.le less) one.stops
    · rfl
    · exact absurd (one.all b' two.proper.le more) two.stops
  · intro a start
    simp only [Finset.coe_filter, Finset.mem_range, Set.mem_ofPred_eq] at start
    obtain ⟨-, first, begins⟩ := start
    classical
    have ends : ∃ b, a < b ∧ ¬ p b :=
      ⟨a + bound + 1, by omega, fun holds => absurd (bounded _ holds) (by omega)⟩
    refine ⟨(a, Nat.find ends), ⟨(Nat.find_spec ends).1, ?_, (Nat.find_spec ends).2, ?_⟩, rfl⟩
    · intro i above below
      rcases above.eq_or_lt with rfl | later
      · exact first
      · by_contra holds
        exact Nat.find_min ends below ⟨later, holds⟩
    · rintro before rfl
      exact begins before (Nat.lt_succ_self _) rfl

end Stretches

namespace ReconcileMemory

variable (passes : Nat → List String) (n : Nat)

def after : Nat → ReconcileMemory
  | 0 => new
  | n + 1 => ((after n).observe (passes n)).2

/-- What `observe` returns for the pass. -/
def plan : PassPlan := ((after passes n).observe (passes n)).1

theorem after_previous (key : String) :
    key ∉ (after passes n).previous ↔ ∀ before, n = before + 1 → key ∉ passes before := by
  cases n with
  | zero => simp [after, new]
  | succ n => simp [after, observe]

theorem after_last_clean :
    (after passes n).lastClean = false ↔ ∀ before, n = before + 1 → passes before ≠ [] := by
  cases n with
  | zero => simp [after, new]
  | succ n => simp [after, observe]

variable (previous current keys : List String)

theorem fresh_flags_get {i : Nat} {key : String}
    (found : keys[i]? = some key) :
    (freshFlags previous current keys)[i]? = some true ↔
      key ∉ previous ∧ key ∉ current ∧ key ∉ keys.take i := by
  induction keys generalizing current i with
  | nil => simp at found
  | cons first rest ih =>
    cases i with
    | zero =>
      obtain rfl : first = key := by simpa using found
      simp [freshFlags]
    | succ i =>
      have tail := ih (first :: current) (by simpa using found)
      simp only [freshFlags, getElem?_cons_succ, tail, take_succ_cons, mem_cons, not_or]
      tauto

theorem fresh_flags_count (key : String) :
    (keys.zip (freshFlags previous current keys)).count (key, true) =
      if key ∈ keys ∧ key ∉ previous ∧ key ∉ current then 1 else 0 := by
  induction keys generalizing current with
  | nil => simp
  | cons first rest ih =>
    rw [freshFlags, zip_cons_cons, count_cons, ih]
    by_cases same : first = key
    · subst same
      by_cases known : first ∈ previous ∨ first ∈ current
      · rcases known with known | known <;> simp [known]
      · rw [not_or] at known
        simp [known]
    · have differ : key ≠ first := Ne.symm same
      simp [same, differ]

/-- A key is fresh where it is first reported and the pass before did not report it, so it is
marked once for each stretch of passes; and a clean pass is recorded if the one before was not
clean. -/
theorem reconcile_passes (passes : Nat → List String) :
    (∀ n i key, (passes n)[i]? = some key →
      ((plan passes n).fresh[i]? = some true ↔
        key ∉ (passes n).take i ∧ ∀ before, n = before + 1 → key ∉ passes before)) ∧
    (∀ key bound, ∑ n ∈ Finset.range bound,
        ((passes n).zip (plan passes n).fresh).count (key, true) =
      {s | Stretch (fun n => n < bound ∧ key ∈ passes n) s}.ncard) ∧
    ∀ n, passes n = [] → ((∃ total, (plan passes n).clean = some (.record total)) ↔
      ∀ before, n = before + 1 → passes before ≠ []) := by
  refine ⟨fun n i key found => ?_, fun key bound => ?_, fun n clean => ?_⟩
  · rw [← after_previous]
    refine (fresh_flags_get (after passes n).previous [] (passes n) found).trans ?_
    simp [and_comm]
  · rw [stretches_ncard fun _ => And.left, Finset.card_filter]
    apply Finset.sum_congr rfl
    intro n inside
    have small := Finset.mem_range.mp inside
    refine (fresh_flags_count (after passes n).previous [] (passes n) key).trans
      (if_congr ?_ rfl rfl)
    rw [after_previous]
    constructor
    · rintro ⟨listed, absent, -⟩
      exact ⟨⟨small, listed⟩, fun before _ next held => absent before next held.2⟩
    · rintro ⟨⟨-, listed⟩, begins⟩
      refine ⟨listed, fun before next held => ?_, not_mem_nil⟩
      exact begins before (by omega) next ⟨by omega, held⟩
  · rw [← after_last_clean]
    cases last : (after passes n).lastClean <;> simp [plan, observe, clean, last]

end ReconcileMemory

end Runix.Arm.AuditChain
