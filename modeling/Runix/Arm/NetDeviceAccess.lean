import Runix.Arm.NetSpaces

/-!
# The registers a network driver reaches

The device addresses a driver reaches are the 4096 bytes of one page, if the image does not
replace it.  The token that `setup` checks covers 512 of them.
-/

namespace Runix.Arm

open Lib Lib.ByteStrings Lib.Checked Lib.Words Lib.Extents
open Capability Loader

section Reach

variable {layout : KernelLayout} {raw : PhysMemory} {mapped : Nat → Option Nat}
  {space : SuppliedSpace} {device : NetDevice} {va pa : Nat}

/-- Outside the private window no device is reached; inside, what is mapped. -/
theorem Building.reaches (building : Building (install layout raw) layout.level1 mapped space)
    (reaches : El0Reaches space.map.memory space.map.space.root va pa) (low : pa < normalBase) :
    ∃ descriptor, privateRegionBase ≤ va ∧ va < privateRegionEnd ∧
      mapped (pageOf va) = some descriptor ∧ pa = outputAddr 3 descriptor va := by
  obtain ⟨bound, level, descriptor, found, accessible, rfl⟩ := reaches
  by_cases window : tableIndex va 30 = windowIndex
  swap
  · rw [building.walk_outside (install_kernelTables layout raw) window] at found
    exact absurd (install_closed raw found accessible) (Nat.not_le.mpr low)
  obtain ⟨directory, tables⟩ := building.tables
  rw [tables.walk_private window] at found
  obtain ⟨same, known, pair⟩ := Option.map_eq_some_iff.mp found
  cases pair
  refine ⟨descriptor, ?_, ?_, known, rfl⟩
  · rw [tableIndex_eq] at window
    unfold windowIndex tableEntries privateRegionBase granule1Gib at *
    omega
  · rw [tableIndex_eq] at window
    unfold windowIndex tableEntries privateRegionEnd privateRegionBase granule1Gib at *
    omega

theorem NoDevice.not_reaches (none : NoDevice mapped)
    (building : Building (install layout raw) layout.level1 mapped space)
    (reaches : El0Reaches space.map.memory space.map.space.root va pa) : normalBase ≤ pa := by
  by_contra low
  obtain ⟨descriptor, -, -, known, rfl⟩ := building.reaches reaches (Nat.lt_of_not_le low)
  exact low (normalBase_le_outputAddr (none _ descriptor known) 3 va)

theorem NetDevice.descAddr_page (device : NetDevice) :
    descAddr (MapState.mmioDescriptor device.page true) = device.page := by
  have high := device.page_lt
  apply descAddr_pageDescriptor device.page_aligned _ (by decide)
  unfold normalBase granule1Gib granule4Kib at high
  omega

/-- The device addresses that are reached are the page of the device, byte for byte. -/
theorem OneDevice.reaches_iff (one : OneDevice device mapped)
    (building : Building (install layout raw) layout.level1 mapped space) :
    (El0Reaches space.map.memory space.map.space.root va pa ∧ pa < normalBase) ↔
      netMmioVa ≤ va ∧ va < netMmioVa + granule4Kib ∧ pa = device.page + (va - netMmioVa) := by
  have high := device.page_lt
  have aligned := device.page_aligned
  have output : ∀ address, outputAddr 3 (MapState.mmioDescriptor device.page true) address =
      device.page + address % granule4Kib := by
    intro address
    rw [outputAddr_page (by rw [device.descAddr_page]; exact aligned), device.descAddr_page]
  constructor
  · rintro ⟨reaches, low⟩
    obtain ⟨descriptor, -, top, known, rfl⟩ := building.reaches reaches low
    by_cases same : pageOf va = pageOf netMmioVa
    · rw [same, one.window] at known
      cases known
      rw [output]
      rw [pageOf_private top, pageOf_private (by decide)] at same
      unfold netMmioVa granule4Kib at *
      omega
    · have memory := normalBase_le_outputAddr (one.memory _ same descriptor known) 3 va
      exact absurd low (Nat.not_lt.mpr memory)
  · rintro ⟨low, top, place⟩
    have inside : va < privateRegionEnd := top.trans (by decide)
    have same : pageOf va = pageOf netMmioVa := by
      rw [pageOf_private inside, pageOf_private (by decide)]
      unfold netMmioVa granule4Kib at *
      omega
    obtain ⟨directory, tables⟩ := building.tables
    refine ⟨⟨inside.trans (by decide), 3, MapState.mmioDescriptor device.page true, ?_, ?_, ?_⟩, ?_⟩
    · rw [tables.walk_private (tableIndex_private (Nat.le_trans (by decide) low) inside), same,
        one.window]
      rfl
    · have usable : device.page < 2 ^ 48 := by
        unfold normalBase granule1Gib granule4Kib at high
        omega
      unfold el0Accessible MapState.mmioDescriptor
      rw [testBit_pageDescriptor _ aligned usable (.inl rfl)]
      decide
    · rw [output, place]
      unfold netMmioVa granule4Kib at *
      omega
    · unfold granule4Kib at *
      omega

end Reach

/-! ## The claim of the token -/

variable (device : NetDevice)

def NetDevice.neighbour : Nat :=
  if device.slot % 8 = 0 then device.slot + 1 else device.slot - 1

theorem NetDevice.neighbour_slot :
    device.neighbour < slotCount ∧ device.neighbour ≠ device.slot := by
  have bound := device.bound
  unfold neighbour slotCount at *
  split <;> omega

theorem NetDevice.neighbour_page :
    device.page ≤ slotBase device.neighbour ∧ slotBase device.neighbour < device.page + granule4Kib := by
  unfold neighbour page base slotBase virtioMmioBase virtioMmioSlotStride granule4Kib
  split <;> omega

section Ed25519

variable {SigningKey VerifyingKey : Type} (ed25519 : Signatures.Scheme SigningKey VerifyingKey)

/-- The address lies in the window of the token that was accepted for the device. -/
def WindowCovers (signingKey : SigningKey) (ticksPerSec now : Nat) (device : NetDevice)
    (pa : Nat) : Prop :=
  let token := NetProcess.slotToken ed25519 signingKey ticksPerSec now device
  checkMmioWindow ed25519 (ed25519.verifyingKey signingKey) token device.base netMmioSlotStride now =
      .ok () ∧
    ∃ base len, parseMmioWindow token.resource = some (base, len) ∧ base ≤ pa ∧ pa < base + len

def SlotClosed (space : SuppliedSpace) (slot : Nat) : Prop :=
  ∀ offset < virtioMmioSlotStride, ∀ va,
    ¬ El0Reaches space.map.memory space.map.space.root va (slotBase slot + offset)

/-- A driver reaches only the registers its token is for, and those of no other slot, if and only
if its image is mapped over the page of the device. -/
theorem driver_confined_iff (layout : KernelLayout) (raw words : PhysMemory)
    (memory : Memory UInt8) (signingKey : SigningKey) (ticksPerSec now : Nat) (image : Image)
    (device : NetDevice) (info : NetBootInfo) (requestBytes : Option Bytes) (answers : NetAnswers)
    (outside : ∀ address, ¬ heap.Holds address → words address = install layout raw address)
    (fromHeap : answers.FromHeap) (process : NetProcess)
    (finished : NetProcess.setup ed25519 signingKey ticksPerSec now layout.level1 words memory image
      device info requestBytes answers = .ok process) :
    ((∀ va pa, El0Reaches process.state.space.map.memory process.state.space.map.space.root va pa →
        pa < normalBase → WindowCovers ed25519 signingKey ticksPerSec now device pa) ∧
      ∀ slot < slotCount, slot ≠ device.slot → SlotClosed process.state.space slot) ↔
      (Elf64.ofHeader image).CoversDevice := by
  obtain ⟨mapped, building, maps⟩ :=
    NetProcess.setup_meets (install_kernelTables layout raw) outside fromHeap finished
  rcases maps with ⟨covers, none⟩ | ⟨uncovered, one⟩
  · refine iff_of_true ⟨?_, ?_⟩ covers
    · intro va pa reaches low
      exact absurd low (Nat.not_lt.mpr (none.not_reaches building reaches))
    · intro slot bound _ offset small va reaches
      have high := none.not_reaches building reaches
      unfold normalBase granule1Gib slotBase virtioMmioBase virtioMmioSlotStride at *
      unfold slotCount at bound
      omega
  · refine iff_of_false ?_ uncovered
    rintro ⟨-, closed⟩
    -- the registers of a neighbour lie in the page that was mapped
    obtain ⟨bound, other⟩ := device.neighbour_slot
    obtain ⟨low, high⟩ := device.neighbour_page
    apply closed device.neighbour bound other 0 (by decide)
      (netMmioVa + (slotBase device.neighbour - device.page))
    refine ((one.reaches_iff building).mpr ⟨Nat.le_add_right _ _, ?_, ?_⟩).1
    · omega
    · omega

end Ed25519

/-! ## A driver for slot 31 -/

def bootLayout : KernelLayout where
  level1 := 0x40080000
  level2 := 0x40081000
  level3 := 0x40082000
  el0Demo := 0x40090000
  el0Stack := 0x40091000
  tables := ⟨by decide, by decide⟩
  outside := by decide
  demo := by decide
  stack := by decide
  split := by decide

def suppliesFor (table frame count : Nat) : List Supply :=
  (List.range count).map fun i =>
    ⟨none, if i = 0 then some table else none, some (frame + i * granule4Kib), true⟩

def slotAnswers : NetAnswers where
  root := some 0x41000000
  supplies := ⟨some 0x41001000, some 0x41002000, none, true⟩ ::
    (suppliesFor 0x41003000 0x41100000 65 ++ suppliesFor 0x41004000 0x41180000 6 ++
      suppliesFor 0x41005000 0x41200000 12 ++ suppliesFor 0x41006000 0x41280000 1 ++
      suppliesFor 0x41007000 0x41300000 4)
  rxQueue := ⟨some 0x41380000, true⟩
  txQueue := ⟨some 0x413A0000, true⟩
  request := ⟨none, false⟩
  response := ⟨none, false⟩

theorem slotAnswers_fromHeap : slotAnswers.FromHeap := ⟨by decide +kernel, by decide +kernel⟩

/-- `DEMO_SEED`. -/
def demoSeed : Bytes := (List.range 32).map fun i => UInt8.ofNat (0x30 + i)

def slot31 : NetDevice := ⟨31, by decide⟩

def slotCall : IssueCall where
  subject := "el0:arm-demo"
  resource := virtioMmioSlotResource 31
  issuedAt := 1000000000
  expiresAt := 1000000000 + 60 * 62500000
  keyId := "demo-key"

def slotScheme : Signatures.Scheme Bytes Bytes :=
  .tabulated demoSeed
    (Base16.bytesOf "8bb04e1c1b83dddf311f5bcddf7c50ede3c0802f47ec796e2a131cf41298d9f3")
    [(slotCall.message,
      Base16.bytesOf "f355992e74d91deacc618efab8142ab6d4eaa1ce6469822c602c4a5c27456413486f439ef986e93d4e6c491f648a6b32ec7aa89203f9ac77dea6b948f6a2f60c")]

def tcpProofInfo : NetBootInfo := ⟨0, 0, 0, [], [], netModeTcpProof, [10, 0, 2, 2], 0, 0, 0⟩

def slotSetup (image : Image) : Outcome String NetProcess :=
  NetProcess.setup slotScheme demoSeed 62500000 1000000000 bootLayout.level1
    (install bootLayout fun _ => 0) (fun _ => 0) image slot31 tcpProofInfo none slotAnswers

def coveringImage : Image := ⟨oneSegment 0x89000078, by decide +kernel⟩

theorem slotSetup_isOk :
    (slotSetup smallImage).isOk = true ∧ (slotSetup coveringImage).isOk = true := by decide +kernel

/-- The driver of slot 31 reaches the registers of slot 30, for which it has no token. -/
theorem slot_31_driver_reaches_slot_30 :
    ∃ process, slotSetup smallImage = .ok process ∧
      El0Reaches process.state.space.map.memory process.state.space.map.space.root
        (netMmioVa + 0xC00) (slotBase 30) ∧
      ¬ WindowCovers slotScheme demoSeed 62500000 1000000000 slot31 (slotBase 30) := by
  have uncovered : ¬ (Elf64.ofHeader smallImage).CoversDevice := by
    unfold Elf64.CoversDevice
    decide +kernel
  obtain ⟨process, finished⟩ := eq_ok_of_isOk slotSetup_isOk.1
  obtain ⟨mapped, building, maps⟩ := NetProcess.setup_meets
    (install_kernelTables bootLayout fun _ => 0) (fun _ _ => rfl) slotAnswers_fromHeap finished
  refine ⟨process, finished, ?_, ?_⟩
  · rcases maps with ⟨covers, -⟩ | ⟨-, one⟩
    · exact absurd covers uncovered
    · exact ((one.reaches_iff building).mpr ⟨by decide, by decide, by decide⟩).1
  · rintro ⟨-, base, len, window, low, -⟩
    have named : parseMmioWindow (virtioMmioSlotResource 31) = some (base, len) := window
    cases named
    exact absurd low (by decide)

theorem slot_31_covering_driver_confined :
    ∃ process, slotSetup coveringImage = .ok process ∧
      ∀ slot < slotCount, slot ≠ slot31.slot → SlotClosed process.state.space slot := by
  have covers : (Elf64.ofHeader coveringImage).CoversDevice := by
    unfold Elf64.CoversDevice
    decide +kernel
  obtain ⟨process, finished⟩ := eq_ok_of_isOk slotSetup_isOk.2
  have confined := driver_confined_iff slotScheme bootLayout (fun _ => 0)
    (install bootLayout fun _ => 0) (fun _ => 0) demoSeed 62500000 1000000000 coveringImage slot31
    tcpProofInfo none slotAnswers (fun _ _ => rfl) slotAnswers_fromHeap process finished
  exact ⟨process, finished, (confined.mpr covers).2⟩

end Runix.Arm
