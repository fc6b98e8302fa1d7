import Mathlib.Data.List.Pairwise
import Mathlib.Logic.Function.Basic

/-!
# Extents of memory

An extent is a run of addresses.  Memory is a function of the address; a store, or a fill of
one extent, leaves what lies apart from it as it was.  Extents that are pairwise apart can be
listed in any order, and in a list sorted by address it is enough to look at neighbours.
-/

namespace Runix.Lib.Extents

theorem update_eq_some {Place Value : Type} [DecidableEq Place] {values : Place → Option Value}
    {place other : Place} {value found : Value}
    (known : Function.update values place (some value) other = some found) :
    other = place ∧ value = found ∨ other ≠ place ∧ values other = some found := by
  by_cases same : other = place
  · rw [same, Function.update_self] at known
    exact .inl ⟨same, Option.some.inj known⟩
  · rw [Function.update_of_ne same] at known
    exact .inr ⟨same, known⟩

structure Extent where
  addr : Nat
  bytes : Nat
deriving DecidableEq, Repr

variable {extent : Extent} {address : Nat}

namespace Extent

def Holds (extent : Extent) (address : Nat) : Prop :=
  extent.addr ≤ address ∧ address < extent.addr + extent.bytes

instance (extent : Extent) (address : Nat) : Decidable (extent.Holds address) := by
  unfold Holds
  infer_instance

def Apart (first second : Extent) : Prop :=
  first.addr + first.bytes ≤ second.addr ∨ second.addr + second.bytes ≤ first.addr

instance (first second : Extent) : Decidable (first.Apart second) := by
  unfold Apart
  infer_instance

variable {first second : Extent}

theorem Apart.symm (apart : first.Apart second) : second.Apart first :=
  Or.symm apart

instance : Std.Symm Apart where
  symm _ _ := Apart.symm

theorem Apart.not_holds (apart : first.Apart second)
    (held : first.Holds address) : ¬ second.Holds address := by
  unfold Apart Holds at *
  omega

theorem not_apart_self (some : 0 < extent.bytes) : ¬ extent.Apart extent := by
  unfold Apart
  omega

end Extent

def Separate (extents : List Extent) : Prop :=
  extents.Pairwise Extent.Apart

instance (extents : List Extent) : Decidable (Separate extents) := by
  unfold Separate
  infer_instance

variable {first second : List Extent}

theorem Separate.perm (separate : Separate first) (same : first.Perm second) : Separate second :=
  List.Pairwise.perm separate same Extent.Apart.symm

theorem Separate.sublist (separate : Separate second)
    (part : first.Sublist second) : Separate first :=
  List.Pairwise.sublist part separate

theorem separate_append : Separate (first ++ second) ↔
      Separate first ∧ Separate second ∧ ∀ a ∈ first, ∀ b ∈ second, a.Apart b :=
  List.pairwise_append

variable {extents : List Extent}

theorem separate_cons :
    Separate (extent :: extents) ↔ (∀ other ∈ extents, extent.Apart other) ∧ Separate extents :=
  List.pairwise_cons

theorem Separate.apart (separate : Separate extents) {a b : Extent}
    (first : a ∈ extents) (second : b ∈ extents) (different : a ≠ b) : a.Apart b :=
  List.Pairwise.forall separate first second different

/-- The first extent that begins before its predecessor ends. -/
def firstOverlap : List Extent → Option Extent
  | first :: second :: rest =>
    if second.addr < first.addr + first.bytes then some second
    else firstOverlap (second :: rest)
  | _ => none

/-- In the order of the addresses it is enough to look at neighbours. -/
theorem firstOverlap_eq_none_iff
    (sorted : extents.Pairwise fun first second => first.addr ≤ second.addr)
    (nonempty : ∀ extent ∈ extents, 0 < extent.bytes) :
    firstOverlap extents = none ↔ Separate extents := by
  induction extents with
  | nil => exact iff_of_true rfl List.Pairwise.nil
  | cons first rest ih =>
    cases rest with
    | nil => exact iff_of_true rfl (List.pairwise_singleton _ _)
    | cons second rest =>
      obtain ⟨before, ordered⟩ := List.pairwise_cons.mp sorted
      have order : first.addr ≤ second.addr := before second List.mem_cons_self
      have some : 0 < second.bytes := nonempty second (by simp)
      have later := ih ordered fun extent listed => nonempty extent (List.mem_cons_of_mem _ listed)
      rw [firstOverlap, separate_cons]
      by_cases overlap : second.addr < first.addr + first.bytes
      · rw [if_pos overlap]
        refine iff_of_false nofun fun separate => ?_
        have gap := separate.1 second List.mem_cons_self
        unfold Extent.Apart at gap
        omega
      · rw [if_neg overlap, later]
        refine ⟨fun separate => ⟨fun other listed => .inl ?_, separate⟩, And.right⟩
        have after : second.addr ≤ other.addr := by
          rcases List.mem_cons.mp listed with rfl | inRest
          · exact Nat.le_refl _
          · exact (List.pairwise_cons.mp ordered).1 other inRest
        omega

section Memory

variable {Word : Type*}

abbrev Memory (Word : Type*) : Type _ := Nat → Word

def fill (memory : Memory Word) (extent : Extent) (word : Word) : Memory Word :=
  fun address => if extent.Holds address then word else memory address

variable (memory : Memory Word)

theorem fill_held (word : Word) (held : extent.Holds address) :
    fill memory extent word address = word :=
  if_pos held

theorem fill_elsewhere (word : Word) (away : ¬ extent.Holds address) :
    fill memory extent word address = memory address :=
  if_neg away

def copy (memory : Memory Word) (source : Nat) (target : Extent) : Memory Word :=
  fun address => if target.Holds address then memory (source + (address - target.addr))
    else memory address

theorem copy_held (source : Nat) {target : Extent} (held : target.Holds address) :
    copy memory source target address = memory (source + (address - target.addr)) :=
  if_pos held

theorem copy_elsewhere (source : Nat) {target : Extent} (away : ¬ target.Holds address) :
    copy memory source target address = memory address :=
  if_neg away

end Memory

end Runix.Lib.Extents
