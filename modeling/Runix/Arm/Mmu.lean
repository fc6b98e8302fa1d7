import Runix.Arm.AddressSpaces

/-!
# The kernel's own tables

`mmu.rs` maps the devices as one block of the first gigabyte, closed to EL0, and memory in the
second gigabyte, where one granule of 2 MiB is mapped page by page for the demonstration code and
stack of EL0.  Every space is seeded with these tables, so what they give to EL0 is given to every
process: no device address is among it.
-/

namespace Runix.Arm

open Lib.Extents List

def granule2Mib : Nat := 2 ^ 21

def normalBase : Nat := granule1Gib

def attrindxDevice : Nat := 0

def shOuter : Nat := 0b10 <<< 8

def el0StackSize : Nat := 4096 * 4

def deviceBlockDescriptor (outputAddr : Nat) : Nat :=
  outputAddr ||| descBlock ||| accessFlag ||| (attrindxDevice <<< 2) ||| shOuter ||| uxn ||| pxn

def normal2MibBlockDescriptor (outputAddr : Nat) : Nat :=
  outputAddr ||| descBlock ||| accessFlag ||| (attrindxNormal <<< 2) ||| shInner

/-- Where the linker has put the tables and the demonstration code and stack of EL0.  `split` is
the assertion of `normal_split_index`. -/
structure KernelLayout where
  level1 : Nat
  level2 : Nat
  level3 : Nat
  el0Demo : Nat
  el0Stack : Nat
  tables : PageSet [level1, level2, level3]
  outside : ∀ table ∈ [level1, level2, level3], (frameAt table).Apart heap
  demo : normalBase ≤ el0Demo ∧ el0Demo < normalBase + granule1Gib
  stack : normalBase ≤ el0Stack
  split : (el0Demo - normalBase) / granule2Mib = (el0Stack - normalBase) / granule2Mib

namespace KernelLayout

variable (layout : KernelLayout)

def normalSplitIndex : Nat := (layout.el0Demo - normalBase) / granule2Mib

def level1Entry (index : Nat) : Nat :=
  if index = 0 then deviceBlockDescriptor 0
  else if index = 1 then tableDescriptor layout.level2
  else 0

def level2Entry (index : Nat) : Nat :=
  if index = layout.normalSplitIndex then tableDescriptor layout.level3
  else normal2MibBlockDescriptor (normalBase + index * granule2Mib)

def granuleBase : Nat := normalBase + layout.normalSplitIndex * granule2Mib

def level3Entry (index : Nat) : Nat :=
  let demoPage := (layout.el0Demo - normalBase - layout.normalSplitIndex * granule2Mib) / granule4Kib
  let stackFirstPage :=
    (layout.el0Stack - normalBase - layout.normalSplitIndex * granule2Mib) / granule4Kib
  let stackPageCount := (el0StackSize + granule4Kib - 1) / granule4Kib
  let pageAddr := layout.granuleBase + index * granule4Kib
  if index = demoPage then normal4KibPageDescriptor pageAddr apEl0Rw
  else if stackFirstPage ≤ index ∧ index < stackFirstPage + stackPageCount then
    normal4KibPageDescriptor pageAddr (apEl0Rw ||| uxn)
  else normal4KibPageDescriptor pageAddr 0

end KernelLayout

def writeTable (memory : PhysMemory) (table : Nat) (entry : Nat → Nat) : PhysMemory :=
  fun address =>
    if (frameAt table).Holds address then entry ((address - table) / 8) else memory address

/-- The tables `install` writes; the tables are static and begin as zeros. -/
def install (layout : KernelLayout) (memory : PhysMemory) : PhysMemory :=
  writeTable (writeTable (writeTable memory layout.level1 layout.level1Entry) layout.level2
    layout.level2Entry) layout.level3 layout.level3Entry

def levelBits : Nat → Nat
  | 1 => 30
  | 2 => 21
  | _ => 12

def outputAddr (level descriptor va : Nat) : Nat :=
  descAddr descriptor / 2 ^ levelBits level * 2 ^ levelBits level + va % 2 ^ levelBits level

def El0Reaches (memory : PhysMemory) (root va pa : Nat) : Prop :=
  va < 2 ^ 39 ∧ ∃ level descriptor, walk memory root va = some (level, descriptor) ∧
    el0Accessible descriptor = true ∧ pa = outputAddr level descriptor va

section Install

variable (layout : KernelLayout) (memory : PhysMemory)

variable {index : Nat}

theorem writeTable_held (table : Nat) (entry : Nat → Nat) (bound : index < tableEntries) :
    writeTable memory table entry (entryPtr table index) = entry index := by
  unfold writeTable
  rw [if_pos (entryPtr_held table bound)]
  unfold entryPtr
  rw [Nat.add_sub_cancel_left, Nat.mul_div_cancel_left index (by decide)]

theorem writeTable_elsewhere {table : Nat} (entry : Nat → Nat) {address : Nat}
    (away : ¬ (frameAt table).Holds address) :
    writeTable memory table entry address = memory address :=
  if_neg away

variable {layout}

theorem install_level3 (bound : index < tableEntries) :
    install layout memory (entryPtr layout.level3 index) = layout.level3Entry index :=
  writeTable_held _ _ _ bound

theorem KernelLayout.level_ne :
    layout.level1 ≠ layout.level2 ∧ layout.level1 ≠ layout.level3 ∧
      layout.level2 ≠ layout.level3 := by
  have separate := layout.tables.separate
  simp only [map_cons, map_nil, separate_cons, mem_cons, not_mem_nil, or_false,
    forall_eq_or_imp, forall_eq] at separate
  obtain ⟨⟨one, two⟩, three, -⟩ := separate
  exact ⟨frameAt_ne_of_apart one, frameAt_ne_of_apart two, frameAt_ne_of_apart three⟩

theorem install_level2 (bound : index < tableEntries) :
    install layout memory (entryPtr layout.level2 index) = layout.level2Entry index := by
  have apart := layout.tables.apart (by simp) (by simp) layout.level_ne.2.2
  unfold install
  rw [writeTable_elsewhere _ _ (apart.not_holds (entryPtr_held _ bound))]
  exact writeTable_held _ _ _ bound

theorem install_level1 (bound : index < tableEntries) :
    install layout memory (entryPtr layout.level1 index) = layout.level1Entry index := by
  have first := layout.tables.apart (by simp) (by simp) layout.level_ne.1
  have second := layout.tables.apart (by simp) (by simp) layout.level_ne.2.1
  unfold install
  rw [writeTable_elsewhere _ _ (second.not_holds (entryPtr_held _ bound)),
    writeTable_elsewhere _ _ (first.not_holds (entryPtr_held _ bound))]
  exact writeTable_held _ _ _ bound

theorem descAddr_block {outputAddr : Nat} (aligned : outputAddr % granule4Kib = 0)
    (bounded : outputAddr < 2 ^ 48) : descAddr (normal2MibBlockDescriptor outputAddr) = outputAddr := by
  unfold descAddr normal2MibBlockDescriptor
  simp only [Nat.and_or_distrib_right, descAddr_of_aligned aligned bounded]
  rw [show descBlock &&& descAddrMask = 0 by decide,
    show accessFlag &&& descAddrMask = 0 by decide,
    show (attrindxNormal <<< 2) &&& descAddrMask = 0 by decide,
    show shInner &&& descAddrMask = 0 by decide]
  simp only [Nat.or_zero]

theorem descKind_block {outputAddr : Nat} (aligned : outputAddr % 4 = 0) :
    descKind (normal2MibBlockDescriptor outputAddr) = descBlock := by
  have low : outputAddr &&& 0b11 = 0 := by
    rw [show 0b11 = 2 ^ 2 - 1 from rfl, Nat.and_two_pow_sub_one_eq_mod]
    exact aligned
  unfold descKind normal2MibBlockDescriptor
  simp only [Nat.and_or_distrib_right, low]
  rfl

theorem KernelLayout.normalSplitIndex_lt : layout.normalSplitIndex < 512 := by
  have demo := layout.demo
  unfold normalSplitIndex
  unfold normalBase granule1Gib granule2Mib at *
  omega

theorem KernelLayout.descAddr_level3Entry (bound : index < tableEntries) :
    normalBase ≤ descAddr (layout.level3Entry index) := by
  have split := layout.normalSplitIndex_lt
  have aligned : (layout.granuleBase + index * granule4Kib) % granule4Kib = 0 := by
    unfold granuleBase normalBase granule1Gib granule2Mib granule4Kib
    omega
  have bounded : layout.granuleBase + index * granule4Kib < 2 ^ 48 := by
    unfold granuleBase normalBase granule1Gib granule2Mib granule4Kib
    unfold tableEntries at bound
    omega
  have low : normalBase ≤ layout.granuleBase + index * granule4Kib := by
    unfold granuleBase
    omega
  unfold level3Entry
  dsimp only
  split_ifs
  · rw [descAddr_pageDescriptor aligned bounded (by decide)]
    exact low
  · rw [descAddr_pageDescriptor aligned bounded (by decide)]
    exact low
  · rw [descAddr_pageDescriptor aligned bounded (by decide)]
    exact low

theorem outputAddr_page {descriptor : Nat} (aligned : descAddr descriptor % granule4Kib = 0)
    (va : Nat) : outputAddr 3 descriptor va = descAddr descriptor + va % granule4Kib := by
  have bits : 2 ^ levelBits 3 = granule4Kib := rfl
  unfold outputAddr
  rw [bits]
  unfold granule4Kib at *
  omega

theorem normalBase_le_outputAddr {descriptor : Nat} (memory : normalBase ≤ descAddr descriptor)
    (level va : Nat) : normalBase ≤ outputAddr level descriptor va := by
  have bits : levelBits level = 30 ∨ levelBits level = 21 ∨ levelBits level = 12 := by
    unfold levelBits
    split <;> simp
  unfold outputAddr
  unfold normalBase granule1Gib at *
  rcases bits with same | same | same <;> rw [same] <;> omega

/-- The kernel's tables give EL0 no device address. -/
theorem install_closed {va level descriptor : Nat}
    (found : walk (install layout memory) layout.level1 va = some (level, descriptor))
    (accessible : el0Accessible descriptor = true) :
    normalBase ≤ outputAddr level descriptor va := by
  unfold walk at found
  dsimp only at found
  rw [install_level1 memory (tableIndex_lt va 30)] at found
  by_cases device : tableIndex va 30 = 0
  · -- the block of the devices is closed to EL0
    rw [device] at found
    have closed : el0Accessible (deviceBlockDescriptor 0) = false := by decide
    have block : descKind (layout.level1Entry 0) = descBlock := by
      change descKind (deviceBlockDescriptor 0) = descBlock
      decide
    rw [if_pos block] at found
    cases found
    rw [show layout.level1Entry 0 = deviceBlockDescriptor 0 from rfl, closed] at accessible
    cases accessible
  by_cases normal : tableIndex va 30 = 1
  swap
  · have empty : layout.level1Entry (tableIndex va 30) = 0 := by
      unfold KernelLayout.level1Entry
      rw [if_neg device, if_neg normal]
    rw [empty] at found
    cases found
  obtain ⟨aligned, bounded⟩ := layout.tables.usable layout.level2 (by simp)
  rw [normal, show layout.level1Entry 1 = tableDescriptor layout.level2 from rfl,
    descKind_tableDescriptor, descAddr_tableDescriptor aligned bounded, if_neg (by decide),
    if_neg (not_not.mpr rfl), install_level2 memory (tableIndex_lt va 21)] at found
  have small := tableIndex_lt va 21
  unfold tableEntries at small
  by_cases split : tableIndex va 21 = layout.normalSplitIndex
  · obtain ⟨aligned, bounded⟩ := layout.tables.usable layout.level3 (by simp)
    have entry : layout.level2Entry (tableIndex va 21) = tableDescriptor layout.level3 := if_pos split
    rw [entry, descKind_tableDescriptor, descAddr_tableDescriptor aligned bounded,
      if_neg (by decide), if_neg (not_not.mpr rfl), install_level3 memory (tableIndex_lt va 12)]
      at found
    split_ifs at found
    cases found
    exact normalBase_le_outputAddr (layout.descAddr_level3Entry (tableIndex_lt va 12)) 3 va
  · have entry : layout.level2Entry (tableIndex va 21) =
        normal2MibBlockDescriptor (normalBase + tableIndex va 21 * granule2Mib) := if_neg split
    have block : descKind (layout.level2Entry (tableIndex va 21)) = descBlock := by
      rw [entry]
      apply descKind_block
      unfold normalBase granule1Gib granule2Mib
      omega
    have output : descAddr (layout.level2Entry (tableIndex va 21)) =
        normalBase + tableIndex va 21 * granule2Mib := by
      rw [entry]
      apply descAddr_block
      · unfold normalBase granule1Gib granule2Mib granule4Kib
        omega
      · unfold normalBase granule1Gib granule2Mib
        omega
    rw [if_pos block] at found
    cases found
    apply normalBase_le_outputAddr
    rw [output]
    exact Nat.le_add_right _ _

theorem KernelLayout.level1Entry_kind (other : index ≠ 1) :
    descKind (layout.level1Entry index) ≠ descTableOrPage := by
  unfold level1Entry
  by_cases device : index = 0
  · rw [if_pos device]
    decide
  · rw [if_neg device, if_neg other]
    decide

theorem KernelLayout.level2Entry_kind (other : index ≠ layout.normalSplitIndex) :
    descKind (layout.level2Entry index) ≠ descTableOrPage := by
  unfold level2Entry
  rw [if_neg other, descKind_block]
  · decide
  · unfold normalBase granule1Gib granule2Mib
    omega

theorem install_visited {va address : Nat}
    (read : address ∈ visited (install layout memory) layout.level1 va) :
    ∃ table ∈ [layout.level1, layout.level2, layout.level3], (frameAt table).Holds address := by
  have first : (frameAt layout.level1).Holds (entryPtr layout.level1 (tableIndex va 30)) :=
    entryPtr_held _ (tableIndex_lt va 30)
  unfold visited at read
  dsimp only at read
  rw [install_level1 memory (tableIndex_lt va 30)] at read
  by_cases normal : tableIndex va 30 = 1
  swap
  · rw [if_pos (layout.level1Entry_kind normal), mem_singleton] at read
    exact ⟨layout.level1, by simp, read ▸ first⟩
  obtain ⟨aligned, bounded⟩ := layout.tables.usable layout.level2 (by simp)
  have entry : layout.level1Entry (tableIndex va 30) = tableDescriptor layout.level2 := by
    rw [normal]
    rfl
  have second : (frameAt layout.level2).Holds (entryPtr layout.level2 (tableIndex va 21)) :=
    entryPtr_held _ (tableIndex_lt va 21)
  rw [entry, descKind_tableDescriptor, descAddr_tableDescriptor aligned bounded,
    if_neg (not_not.mpr rfl), install_level2 memory (tableIndex_lt va 21)] at read
  by_cases split : tableIndex va 21 = layout.normalSplitIndex
  swap
  · rw [if_pos (layout.level2Entry_kind split), mem_cons, mem_singleton] at read
    rcases read with rfl | rfl
    · exact ⟨layout.level1, by simp, first⟩
    · exact ⟨layout.level2, by simp, second⟩
  obtain ⟨aligned, bounded⟩ := layout.tables.usable layout.level3 (by simp)
  have deeper : layout.level2Entry (tableIndex va 21) = tableDescriptor layout.level3 := if_pos split
  rw [deeper, descKind_tableDescriptor, descAddr_tableDescriptor aligned bounded,
    if_neg (not_not.mpr rfl), mem_cons, mem_cons, mem_singleton] at read
  rcases read with rfl | rfl | rfl
  · exact ⟨layout.level1, by simp, first⟩
  · exact ⟨layout.level2, by simp, second⟩
  · exact ⟨layout.level3, by simp, entryPtr_held _ (tableIndex_lt va 12)⟩

theorem install_kernelTables (layout : KernelLayout) (memory : PhysMemory) :
    KernelTables (install layout memory) layout.level1 where
  window := install_level1 memory (by decide)
  outside := by
    intro va address read held
    obtain ⟨table, listed, own⟩ := install_visited memory read
    exact (layout.outside table listed).not_holds own held

end Install

end Runix.Arm
