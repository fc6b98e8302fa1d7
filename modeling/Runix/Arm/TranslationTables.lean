import Runix.Lib.Extents
import Mathlib.Data.Nat.Bitwise

/-!
# Translation tables of kernel-arm

The descriptors of `mmu.rs` and `vm.rs`, and the walk the machine makes: three levels of 512
words, from the table `TTBR0_EL1` points at, for addresses of 39 bits.  Words are natural
numbers; memory gives the word at the address of its first byte.
-/

namespace Runix.Arm

open Lib.Extents

def granule4Kib : Nat := 4096

def granule1Gib : Nat := 2 ^ 30

def uxn : Nat := 2 ^ 54

def pxn : Nat := 2 ^ 53

/-- `AP[2:1] = 0b01`: EL0 may read and write. -/
def apEl0Rw : Nat := 0b01 <<< 6

/-- `AP[2:1] = 0b11`: EL0 may read. -/
def apEl0Ro : Nat := 0b11 <<< 6

def privateRegionBase : Nat := 2 * granule1Gib

def privateRegionEnd : Nat := privateRegionBase + granule1Gib

def descTableOrPage : Nat := 0b11

def descBlock : Nat := 0b01

def accessFlag : Nat := 1 <<< 10

def attrindxNormal : Nat := 1

def shInner : Nat := 0b11 <<< 8

def descAddrMask : Nat := 0x0000FFFFFFFFF000

def tableEntries : Nat := 512

def tableDescriptor (nextLevelTable : Nat) : Nat :=
  nextLevelTable ||| descTableOrPage

def normal4KibPageDescriptor (outputAddr extra : Nat) : Nat :=
  outputAddr ||| descTableOrPage ||| accessFlag ||| (attrindxNormal <<< 2) ||| shInner ||| extra

abbrev PhysMemory : Type := Memory Nat

def entryPtr (table index : Nat) : Nat :=
  table + 8 * index

def tableIndex (va shift : Nat) : Nat :=
  (va >>> shift) &&& 0x1ff

variable (descriptor : Nat)

def descKind : Nat :=
  descriptor &&& 0b11

def descAddr : Nat :=
  descriptor &&& descAddrMask

def walk (memory : PhysMemory) (root va : Nat) : Option (Nat × Nat) :=
  let first := memory (entryPtr root (tableIndex va 30))
  if descKind first = descBlock then some (1, first)
  else if descKind first ≠ descTableOrPage then none
  else
    let second := memory (entryPtr (descAddr first) (tableIndex va 21))
    if descKind second = descBlock then some (2, second)
    else if descKind second ≠ descTableOrPage then none
    else
      let third := memory (entryPtr (descAddr second) (tableIndex va 12))
      if descKind third = descTableOrPage then some (3, third) else none

def visited (memory : PhysMemory) (root va : Nat) : List Nat :=
  let first := entryPtr root (tableIndex va 30)
  if descKind (memory first) ≠ descTableOrPage then [first]
  else
    let second := entryPtr (descAddr (memory first)) (tableIndex va 21)
    if descKind (memory second) ≠ descTableOrPage then [first, second]
    else [first, second, entryPtr (descAddr (memory second)) (tableIndex va 12)]

theorem walk_congr {memory after : PhysMemory} {root va : Nat}
    (same : ∀ address ∈ visited memory root va, after address = memory address) :
    walk after root va = walk memory root va := by
  unfold visited at same
  unfold walk
  by_cases first : descKind (memory (entryPtr root (tableIndex va 30))) ≠ descTableOrPage
  · rw [if_pos first] at same
    dsimp only
    rw [same _ (by simp), if_pos first, if_pos first]
  rw [if_neg first] at same
  by_cases second : descKind (memory (entryPtr
      (descAddr (memory (entryPtr root (tableIndex va 30)))) (tableIndex va 21))) ≠ descTableOrPage
  · rw [if_pos second] at same
    dsimp only
    rw [same _ (by simp), same _ (by simp), if_pos second, if_pos second]
  · rw [if_neg second] at same
    dsimp only
    rw [same _ (by simp), same _ (by simp), same _ (by simp)]

theorem walk_root {memory : PhysMemory} {first second va : Nat}
    (same : memory (entryPtr first (tableIndex va 30)) = memory (entryPtr second (tableIndex va 30))) :
    walk memory first va = walk memory second va := by
  unfold walk
  rw [same]

theorem tableIndex_eq (va shift : Nat) : tableIndex va shift = va / 2 ^ shift % tableEntries := by
  unfold tableIndex tableEntries
  rw [Nat.shiftRight_eq_div_pow, show 0x1ff = 2 ^ 9 - 1 from rfl, Nat.and_two_pow_sub_one_eq_mod]

theorem tableIndex_lt (va shift : Nat) : tableIndex va shift < tableEntries := by
  rw [tableIndex_eq]
  exact Nat.mod_lt _ (by decide)

@[simp]
theorem descKind_zero : descKind 0 = 0 := rfl

theorem descKind_or : descKind (descriptor ||| descTableOrPage) = 3 := by
  unfold descKind descTableOrPage
  rw [Nat.and_or_distrib_right, Nat.and_self, show 0b11 = 2 ^ 2 - 1 from rfl,
    Nat.and_two_pow_sub_one_eq_mod]
  have low : descriptor % 2 ^ 2 < 4 := Nat.mod_lt _ (by decide)
  generalize descriptor % 2 ^ 2 = bits at low
  have either : bits = 0 ∨ bits = 1 ∨ bits = 2 ∨ bits = 3 := by omega
  rcases either with rfl | rfl | rfl | rfl <;> rfl

@[simp]
theorem descKind_tableDescriptor (table : Nat) :
    descKind (tableDescriptor table) = descTableOrPage :=
  descKind_or table

@[simp]
theorem descKind_pageDescriptor (outputAddr extra : Nat) :
    descKind (normal4KibPageDescriptor outputAddr extra) = descTableOrPage := by
  have moved : normal4KibPageDescriptor outputAddr extra =
      (outputAddr ||| accessFlag ||| (attrindxNormal <<< 2) ||| shInner ||| extra) |||
        descTableOrPage := by
    unfold normal4KibPageDescriptor
    ac_rfl
  rw [moved]
  exact descKind_or _

theorem descAddr_of_aligned {page : Nat} (aligned : page % granule4Kib = 0)
    (bounded : page < 2 ^ 48) : page &&& descAddrMask = page := by
  have shifted : page = (page / granule4Kib) <<< 12 := by
    unfold granule4Kib at *
    omega
  have mask : descAddrMask = (2 ^ 36 - 1) <<< 12 := by decide
  have small : page / granule4Kib < 2 ^ 36 := by
    omega
  rw [shifted, mask, ← Nat.shiftLeft_and_distrib, Nat.and_two_pow_sub_one_eq_mod,
    Nat.mod_eq_of_lt small]

theorem descAddr_tableDescriptor {table : Nat} (aligned : table % granule4Kib = 0)
    (bounded : table < 2 ^ 48) : descAddr (tableDescriptor table) = table := by
  unfold descAddr tableDescriptor
  rw [Nat.and_or_distrib_right, descAddr_of_aligned aligned bounded]
  exact Nat.or_zero table

theorem descAddr_pageDescriptor {page extra : Nat} (aligned : page % granule4Kib = 0)
    (bounded : page < 2 ^ 48) (apart : extra &&& descAddrMask = 0) :
    descAddr (normal4KibPageDescriptor page extra) = page := by
  unfold descAddr normal4KibPageDescriptor
  simp only [Nat.and_or_distrib_right, descAddr_of_aligned aligned bounded, apart, Nat.or_zero]
  rw [show descTableOrPage &&& descAddrMask = 0 by decide,
    show accessFlag &&& descAddrMask = 0 by decide,
    show (attrindxNormal <<< 2) &&& descAddrMask = 0 by decide,
    show shInner &&& descAddrMask = 0 by decide]
  simp only [Nat.or_zero]

/-- The address of a descriptor is never below the page, whatever the other bits are. -/
theorem le_descAddr_pageDescriptor {page : Nat} (extra : Nat) (aligned : page % granule4Kib = 0)
    (bounded : page < 2 ^ 48) : page ≤ descAddr (normal4KibPageDescriptor page extra) := by
  unfold descAddr normal4KibPageDescriptor
  simp only [Nat.and_or_distrib_right, descAddr_of_aligned aligned bounded, Nat.or_assoc]
  exact Nat.left_le_or

/-! ## What a page descriptor allows -/

/-- `AP[1]`: EL0 has access. -/
def el0Accessible : Bool := descriptor.testBit 6

def el0Writable : Bool := descriptor.testBit 6 && !descriptor.testBit 7

def el0Executable : Bool := !descriptor.testBit 54

theorem testBit_frame {frame bit : Nat} (aligned : frame % granule4Kib = 0)
    (bounded : frame < 2 ^ 48) (outside : bit < 12 ∨ 48 ≤ bit) : frame.testBit bit = false := by
  rcases outside with low | high
  · have shifted : frame = (frame / granule4Kib) <<< 12 := by
      unfold granule4Kib at *
      omega
    rw [shifted, Nat.testBit_shiftLeft]
    simp [Nat.not_le.mpr low]
  · apply Nat.testBit_lt_two_pow
    exact Nat.lt_of_lt_of_le bounded (Nat.pow_le_pow_right (by decide) high)

theorem testBit_pageDescriptor {frame bit : Nat} (permissions : Nat)
    (aligned : frame % granule4Kib = 0) (bounded : frame < 2 ^ 48)
    (permission : bit = 6 ∨ bit = 7 ∨ bit = 54) :
    (normal4KibPageDescriptor frame permissions).testBit bit = permissions.testBit bit := by
  have bare : frame.testBit bit = false := testBit_frame aligned bounded (by omega)
  have fixed : (descTableOrPage.testBit bit || accessFlag.testBit bit ||
      (attrindxNormal <<< 2).testBit bit || shInner.testBit bit) = false := by
    rcases permission with rfl | rfl | rfl <;> decide
  unfold normal4KibPageDescriptor
  rw [Nat.testBit_or, Nat.testBit_or, Nat.testBit_or, Nat.testBit_or, Nat.testBit_or, bare,
    Bool.false_or, fixed, Bool.false_or]

def frameAt (addr : Nat) : Extent := ⟨addr, granule4Kib⟩

theorem frameAt_ne_of_apart {first second : Nat} (apart : (frameAt first).Apart (frameAt second)) :
    first ≠ second := by
  rintro rfl
  exact Extent.not_apart_self (Nat.succ_pos 4095) apart

/-- Pages that a table descriptor can point at, pairwise apart. -/
structure PageSet (pages : List Nat) : Prop where
  usable : ∀ page ∈ pages, page % granule4Kib = 0 ∧ page < 2 ^ 48
  separate : Separate (pages.map frameAt)

namespace PageSet

variable {pages : List Nat}

theorem apart (set : PageSet pages) {first second : Nat} (a : first ∈ pages) (b : second ∈ pages)
    (different : first ≠ second) : (frameAt first).Apart (frameAt second) := by
  apply set.separate.apart (List.mem_map_of_mem a) (List.mem_map_of_mem b)
  intro same
  exact different (congrArg Extent.addr same)

theorem add (set : PageSet pages) {fresh : Nat} (aligned : fresh % granule4Kib = 0)
    (bounded : fresh < 2 ^ 48) (away : ∀ page ∈ pages, (frameAt fresh).Apart (frameAt page)) :
    PageSet (pages ++ [fresh]) where
  usable := by
    intro page listed
    rcases List.mem_append.mp listed with old | new
    · exact set.usable page old
    · rw [List.mem_singleton.mp new]
      exact ⟨aligned, bounded⟩
  separate := by
    rw [List.map_append, separate_append]
    refine ⟨set.separate, by simp [Separate], ?_⟩
    intro old listed new single
    obtain ⟨page, owned, rfl⟩ := List.mem_map.mp listed
    rw [List.map_singleton, List.mem_singleton] at single
    rw [single]
    exact (away page owned).symm

end PageSet

theorem entryPtr_held (table : Nat) {index : Nat} (bound : index < tableEntries) :
    (frameAt table).Holds (entryPtr table index) := by
  unfold frameAt Extent.Holds entryPtr granule4Kib tableEntries at *
  dsimp only
  omega

theorem entryPtr_ne_of_index {table first second : Nat} (different : first ≠ second) :
    entryPtr table first ≠ entryPtr table second := by
  unfold entryPtr
  omega

theorem entryPtr_ne_of_apart {first second : Nat} (apart : (frameAt first).Apart (frameAt second))
    {i j : Nat} (bound : i < tableEntries) (other : j < tableEntries) :
    entryPtr first i ≠ entryPtr second j := by
  intro same
  have held := entryPtr_held first bound
  rw [same] at held
  exact apart.not_holds held (entryPtr_held second other)

/-- The page of an address among the pages of the 39 bits that are translated. -/
def pageOf (va : Nat) : Nat :=
  va % 2 ^ 39 / granule4Kib

theorem pageOf_eq (va : Nat) :
    pageOf va = tableIndex va 30 * 2 ^ 18 + tableIndex va 21 * 2 ^ 9 + tableIndex va 12 := by
  simp only [tableIndex_eq, pageOf, granule4Kib, tableEntries]
  omega

def windowIndex : Nat := 2

theorem tableIndex_private {va : Nat} (low : privateRegionBase ≤ va) (high : va < privateRegionEnd) :
    tableIndex va 30 = windowIndex := by
  simp only [privateRegionEnd, privateRegionBase, granule1Gib] at low high
  simp only [tableIndex_eq, tableEntries, windowIndex]
  omega

end Runix.Arm
