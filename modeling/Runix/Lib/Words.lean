import Mathlib.Order.Basic

/-!
# Machine words as natural numbers

Unsigned words are natural numbers below a power of two.  Saturating operations
clamp at the largest 64-bit word; truncating casts are written with `%` where
they occur.
-/

namespace Runix.Lib.Words

def u64Max : Nat := 18446744073709551615

variable (a b : Nat)

def saturatingAdd : Nat := min (a + b) u64Max

def saturatingMul : Nat := min (a * b) u64Max

/-- `checked_sub`: `none` on underflow. -/
def checkedSub : Option Nat := if b ≤ a then some (a - b) else none

/-- `checked_add`: `none` past the largest 64-bit word. -/
def checkedAdd : Option Nat := if a + b ≤ u64Max then some (a + b) else none

/-- `checked_mul`: `none` past the largest 64-bit word. -/
def checkedMul : Option Nat := if a * b ≤ u64Max then some (a * b) else none

theorem saturating_add_le : saturatingAdd a b ≤ u64Max :=
  Nat.min_le_right _ _

variable {a b c : Nat}

theorem checked_sub_eq_some_iff : checkedSub a b = some c ↔ a = b + c := by
  unfold checkedSub
  split_ifs with covered
  · rw [Option.some.injEq]
    omega
  · simp only [false_iff]
    omega

theorem checked_sub_eq_none_iff {a b : Nat} : checkedSub a b = none ↔ a < b := by
  unfold checkedSub
  split_ifs with covered
  · simp only [false_iff]
    omega
  · simp only [true_iff]
    omega

theorem checked_add_eq_some_iff : checkedAdd a b = some c ↔ a + b ≤ u64Max ∧ a + b = c := by
  unfold checkedAdd
  split_ifs with fits
  · rw [Option.some.injEq]
    exact (and_iff_right fits).symm
  · simp [fits]

theorem checked_mul_eq_some_iff : checkedMul a b = some c ↔ a * b ≤ u64Max ∧ a * b = c := by
  unfold checkedMul
  split_ifs with fits
  · rw [Option.some.injEq]
    exact (and_iff_right fits).symm
  · simp [fits]

end Runix.Lib.Words
