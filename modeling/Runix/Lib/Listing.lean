import Mathlib.Data.List.Nodup
import Mathlib.Data.List.Sort
import Mathlib.Data.Multiset.Filter

/-!
# Lists that list a property

A report is a list that has exactly the items with some property, each of them once.  Such lists
are put together from parts: what one record adds, and the parts of different records, which have
nothing in common.  Sorted by a key that tells the items apart, the list is determined by the
property.
-/

namespace Runix.Lib.Listing

open List

variable {Item Source : Type} {items first second : List Item} {listed other : Item → Prop}

structure Lists (items : List Item) (listed : Item → Prop) : Prop where
  nodup : items.Nodup
  mem_iff : ∀ item, item ∈ items ↔ listed item

namespace Lists

theorem congr (lists : Lists items listed) (same : ∀ item, listed item ↔ other item) :
    Lists items other where
  nodup := lists.nodup
  mem_iff := fun item => (lists.mem_iff item).trans (same item)

theorem perm (lists : Lists first listed) (rearranged : first.Perm second) :
    Lists second listed where
  nodup := rearranged.nodup_iff.mp lists.nodup
  mem_iff := fun item => rearranged.mem_iff.symm.trans (lists.mem_iff item)

theorem count (lists : Lists items listed) [DecidableEq Item] [DecidablePred listed] (item : Item) :
    items.count item = if listed item then 1 else 0 := by
  by_cases there : listed item
  · rw [if_pos there]
    exact count_eq_one_of_mem lists.nodup ((lists.mem_iff item).mpr there)
  · rw [if_neg there, count_eq_zero, lists.mem_iff item]
    exact there

theorem perm_of_lists (one : Lists first listed) (two : Lists second listed) :
    first.Perm second := by
  rw [perm_ext_iff_of_nodup one.nodup two.nodup]
  intro item
  rw [one.mem_iff, two.mem_iff]

theorem append (left : Lists first listed) (right : Lists second other)
    (apart : ∀ item, listed item → ¬ other item) :
    Lists (first ++ second) fun item => listed item ∨ other item where
  nodup := by
    apply left.nodup.append right.nodup
    intro item here there
    exact apart item ((left.mem_iff item).mp here) ((right.mem_iff item).mp there)
  mem_iff := by
    intro item
    rw [mem_append, left.mem_iff, right.mem_iff]

theorem cons (lists : Lists items listed) (only : Item) (fresh : ¬ listed only) :
    Lists (only :: items) fun item => item = only ∨ listed item where
  nodup := nodup_cons.mpr ⟨fun there => fresh ((lists.mem_iff only).mp there), lists.nodup⟩
  mem_iff := by
    intro item
    rw [mem_cons, lists.mem_iff]

theorem tail {head : Item} (lists : Lists (head :: items) listed) :
    Lists items fun item => listed item ∧ item ≠ head where
  nodup := (nodup_cons.mp lists.nodup).2
  mem_iff := by
    intro item
    have fresh := (nodup_cons.mp lists.nodup).1
    rw [← lists.mem_iff, mem_cons]
    constructor
    · exact fun member => ⟨.inr member, fun same => fresh (same ▸ member)⟩
    · rintro ⟨rfl | member, different⟩
      · exact absurd rfl different
      · exact member

/-- What each source adds, if no item comes from two of them. -/
theorem flatMap {sources : List Source} {part : Source → List Item}
    {adds : Source → Item → Prop} (nodup : sources.Nodup)
    (parts : ∀ source ∈ sources, Lists (part source) (adds source))
    (apart : ∀ source ∈ sources, ∀ another ∈ sources, ∀ item,
      adds source item → adds another item → source = another) :
    Lists (sources.flatMap part) fun item => ∃ source ∈ sources, adds source item where
  nodup := by
    rw [nodup_flatMap]
    refine ⟨fun source member => (parts source member).nodup, ?_⟩
    apply nodup.imp_of_mem
    intro source another one two different item here there
    exact different (apart source one another two item
      (((parts source one).mem_iff item).mp here) (((parts another two).mem_iff item).mp there))
  mem_iff := by
    intro item
    rw [mem_flatMap]
    constructor
    · rintro ⟨source, member, found⟩
      exact ⟨source, member, ((parts source member).mem_iff item).mp found⟩
    · rintro ⟨source, member, holds⟩
      exact ⟨source, member, ((parts source member).mem_iff item).mpr holds⟩

end Lists

theorem lists_nil : Lists ([] : List Item) fun _ => False where
  nodup := nodup_nil
  mem_iff := fun _ => by simp

theorem lists_singleton (only : Item) : Lists [only] fun item => item = only where
  nodup := nodup_singleton only
  mem_iff := fun _ => mem_singleton

theorem lists_if (condition : Prop) [Decidable condition] (only : Item) :
    Lists (if condition then [only] else []) fun item => condition ∧ item = only := by
  by_cases holds : condition
  · rw [if_pos holds]
    exact (lists_singleton only).congr fun item => (and_iff_right holds).symm
  · rw [if_neg holds]
    exact lists_nil.congr fun item => (iff_of_false not_false fun both => holds both.1)

/-! ## Counting -/

/-- Where one item has a property, two items that have it are the same. -/
theorem eq_of_countP_eq_one {bag : Multiset Item} {property : Item → Prop} [DecidablePred property]
    (single : bag.countP property = 1) {item another : Item} (first : item ∈ bag)
    (second : another ∈ bag) (one : property item) (two : property another) : item = another := by
  rw [Multiset.countP_eq_card_filter, Multiset.card_eq_one] at single
  obtain ⟨only, alone⟩ := single
  have here := Multiset.mem_filter.mpr ⟨first, one⟩
  have there := Multiset.mem_filter.mpr ⟨second, two⟩
  rw [alone, Multiset.mem_singleton] at here there
  rw [here, there]

theorem nodup_of_countP_le_one {Key : Type} [DecidableEq Key] (key : Item → Key)
    (part : first.Sublist second)
    (single : ∀ item ∈ first, second.countP (fun other => key other = key item) ≤ 1) :
    first.Nodup := by
  classical
  rw [nodup_iff_count_le_one]
  intro item
  by_cases member : item ∈ first
  · calc first.count item ≤ second.count item := part.count_le item
      _ ≤ second.countP fun other => key other = key item := by
        apply countP_mono_left
        intro other _ same
        rw [beq_iff_eq.mp same]
        exact decide_eq_true rfl
      _ ≤ 1 := single item member
  · rw [count_eq_zero.mpr member]
    exact Nat.zero_le 1

theorem count_flatMap_lists [DecidableEq Item] {sources : List Source} {part : Source → List Item}
    {adds : Source → Item → Prop} [∀ item, DecidablePred fun source => adds source item]
    (parts : ∀ source, Lists (part source) (adds source)) (item : Item) :
    (sources.flatMap part).count item = sources.countP fun source => adds source item := by
  induction sources with
  | nil => rfl
  | cons source rest ih =>
    have : DecidablePred (adds source) := fun item =>
      (inferInstance : DecidablePred fun source => adds source item) source
    rw [flatMap_cons, count_append, ih, (parts source).count, countP_cons,
      Nat.add_comm]
    simp only [decide_eq_true_eq]

/-! ## Sorting -/

section Sorted

variable {Key : Type} [LinearOrder Key] {key : Item → Key}

theorem sort_pairwise (items : List Item) :
    (items.insertionSort fun a b => key a ≤ key b).Pairwise fun a b => key a ≤ key b := by
  exact pairwise_insertionSort _ items

theorem sorted_eq_of_perm (injective : Function.Injective key) (rearranged : first.Perm second)
    (firstSorted : first.Pairwise fun a b => key a ≤ key b)
    (secondSorted : second.Pairwise fun a b => key a ≤ key b) : first = second := by
  have : Std.Antisymm fun a b : Item => key a ≤ key b :=
    ⟨fun a b below above => injective (le_antisymm below above)⟩
  exact List.Perm.eq_of_pairwise' firstSorted secondSorted rearranged

end Sorted

end Runix.Lib.Listing
