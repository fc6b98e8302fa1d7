import Mathlib.Data.List.Infix

/-!
# Following links

A walk follows the links of a partial function for a number of steps, and stops early
where a link is missing.
-/

namespace Runix.Lib.Chains

open List

variable {Node : Type*} (next : Node → Option Node)

def walk : Nat → Option Node → List Node
  | 0, _ => []
  | _ + 1, none => []
  | count + 1, some node => node :: walk count (next node)

theorem walk_none (count : Nat) : walk next count none = [] := by
  cases count <;> rfl

theorem walk_extends (count more : Nat) (node : Option Node) :
    walk next count node <+: walk next (count + more) node := by
  induction count generalizing node with
  | zero => exact nil_prefix
  | succ count ih =>
    rw [Nat.add_right_comm]
    cases node with
    | none => exact prefix_rfl
    | some node => exact (prefix_cons_inj node).mpr (ih (next node))

/-- A walk that ends before its last step has nowhere to go. -/
theorem walk_of_short {count : Nat} (more : Nat) {node : Option Node}
    (short : (walk next count node).length < count) :
    walk next (count + more) node = walk next count node := by
  induction count generalizing node with
  | zero => cases short
  | succ count ih =>
    rw [Nat.add_right_comm]
    cases node with
    | none => rfl
    | some node => exact congrArg (node :: ·) (ih (Nat.lt_of_succ_lt_succ short))

end Runix.Lib.Chains
