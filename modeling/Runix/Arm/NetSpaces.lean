import Runix.Arm.NetProcess

/-!
# What a network driver reaches

While `setup` builds the space of a driver its tables stay as the walk expects them, and outside
the heap no word changes, so the kernel's part of the space is what `install` has written.  One
page of the private window leads to devices: the page that holds the registers of the slot.  All
the others lead to memory, unless the image of the driver is mapped over that page too.

The token that is checked covers the registers of one slot, 512 bytes, and the page has eight
slots.
-/

namespace Runix.Arm

open Lib Lib.ByteStrings Lib.Checked Lib.Words Lib.Extents Function List Action SuppliedSpace
open Capability Loader

/-- A space that is being built: its tables, the pages it has or may be given, and the memory
outside the heap as it was at boot. -/
structure Building (boot : PhysMemory) (kernelRoot : Nat) (mapped : Nat → Option Nat)
    (space : SuppliedSpace) : Prop where
  tables : ∃ directory, Tables (fun index => boot (entryPtr kernelRoot index)) space.map.memory
    space.map.space directory mapped
  free : PageSet (space.answers ++ (space.map.space.ownedTables ++ space.map.space.ownedPages))
  inHeap : ∀ page ∈ space.answers ++ (space.map.space.ownedTables ++ space.map.space.ownedPages),
    InHeap (frameAt page)
  outside : ∀ address, ¬ heap.Holds address → space.map.memory address = boot address

namespace Building

variable {boot : PhysMemory} {kernelRoot : Nat} {mapped later : Nat → Option Nat}
  {space : SuppliedSpace}

variable (building : Building boot kernelRoot mapped space)

include building

theorem extend {map : MapState}
    (extended : Extends space.map map space.supply.pages)
    (tables : ∃ directory, Tables (fun index => boot (entryPtr kernelRoot index)) map.memory
      map.space directory later) :
    Building boot kernelRoot later ⟨map, space.supplies.tail⟩ where
  tables := tables
  free := building.free.subperm (pages_subperm extended)
  inHeap := fun page listed =>
    building.inHeap page ((pages_subperm extended).subset listed)
  outside := by
    intro address away
    rw [← building.outside address away]
    apply extended.frame address
    · intro table owned held
      apply away
      apply (building.inHeap table _).held held
      exact mem_append_right _ (mem_append_left _ owned)
    · intro page given held
      apply away
      apply (building.inHeap page _).held held
      rw [answers_eq]
      exact mem_append_left _ (mem_append_left _ given)

theorem mapPage {va permissions frame : Nat} {after : SuppliedSpace}
    (result : SuppliedSpace.mapPage space va permissions = (.ok frame, after)) :
    Building boot kernelRoot
      (update mapped (pageOf va) (some (normal4KibPageDescriptor frame permissions)))
      after ∧
      InHeap (frameAt frame) ∧
      va % granule4Kib = 0 ∧ privateRegionBase ≤ va ∧ va < privateRegionEnd := by
  obtain ⟨directory, tables⟩ := building.tables
  obtain ⟨supplies, extended, grown, place, ledger⟩ :=
    mapPage_ok tables building.free result
  obtain ⟨map, rest⟩ := after
  subst supplies
  have next := building.extend extended grown
  refine ⟨next, next.inHeap frame ?_, place⟩
  apply mem_append_right
  apply mem_append_right
  rw [ledger]
  simp

theorem walk_outside
    (kernel : KernelTables boot kernelRoot) {va : Nat} (other : tableIndex va 30 ≠ windowIndex) :
    walk space.map.memory space.map.space.root va = walk boot kernelRoot va := by
  obtain ⟨directory, tables⟩ := building.tables
  have bound := tableIndex_lt va 30
  have entry : space.map.memory (entryPtr space.map.space.root (tableIndex va 30)) =
      space.map.memory (entryPtr kernelRoot (tableIndex va 30)) := by
    rw [tables.shared _ bound other, building.outside _ (kernel.entry_outside bound)]
  rw [walk_root entry]
  apply walk_congr
  intro address read
  exact building.outside address (kernel.outside va address read)

end Building

/-! ## The pages of the space -/

variable (device : NetDevice)

def NetDevice.page : Nat := device.base - device.base % granule4Kib

/-- The address where the driver finds the registers of its device is mapped to their page, and
every other page of the space is memory. -/
structure OneDevice (device : NetDevice) (mapped : Nat → Option Nat) : Prop where
  window : mapped (pageOf netMmioVa) = some (MapState.mmioDescriptor device.page true)
  memory : ∀ number ≠ pageOf netMmioVa, ∀ descriptor, mapped number = some descriptor →
    normalBase ≤ descAddr descriptor

def NoDevice (mapped : Nat → Option Nat) : Prop :=
  ∀ number descriptor, mapped number = some descriptor → normalBase ≤ descAddr descriptor

theorem NetDevice.page_aligned : device.page % granule4Kib = 0 := by
  unfold page granule4Kib
  omega

theorem NetDevice.page_lt : device.page + granule4Kib ≤ normalBase := by
  have bound := device.bound
  unfold page base slotBase virtioMmioBase virtioMmioSlotStride normalBase granule1Gib granule4Kib
  unfold slotCount at bound
  omega

theorem InHeap.normalBase_le {extent : Extent} (inside : InHeap extent) : normalBase ≤ extent.addr :=
  Nat.le_trans (by decide) inside.low

theorem InHeap.descriptor {page : Nat} (inside : InHeap (frameAt page)) (permissions : Nat) :
    normalBase ≤ descAddr (normal4KibPageDescriptor page permissions) :=
  inside.normalBase_le.trans
    (le_descAddr_pageDescriptor permissions inside.usable.1 inside.usable.2)

theorem InHeap.nth_page {pa pages index : Nat} (inside : InHeap ⟨pa, pages * granule4Kib⟩)
    (bound : index < pages) : InHeap (frameAt (pa + index * granule4Kib)) := by
  obtain ⟨aligned, -, low, high⟩ := inside
  unfold granule4Kib frameAt at *
  dsimp only at *
  exact {
    aligned := by
      dsimp only
      unfold granule4Kib
      omega
    nonempty := Nat.succ_pos 4095
    low := Nat.le_add_right_of_le low
    high := by
      dsimp only
      unfold granule4Kib
      omega }

theorem OneDevice.add {device : NetDevice} {mapped : Nat → Option Nat}
    (one : OneDevice device mapped) {number : Nat} (other : number ≠ pageOf netMmioVa)
    {descriptor : Nat} (memory : normalBase ≤ descAddr descriptor) :
    OneDevice device (update mapped number (some descriptor)) where
  window := by rw [update_of_ne other.symm, one.window]
  memory := by
    intro page different found known
    rcases update_eq_some known with ⟨-, rfl⟩ | ⟨-, known⟩
    · exact memory
    · exact one.memory page different found known

theorem pageOf_ne {va : Nat} (high : va < privateRegionEnd)
    (away : va < netMmioVa ∨ netMmioVa + granule4Kib ≤ va) : pageOf va ≠ pageOf netMmioVa := by
  rw [pageOf_private high, pageOf_private (by decide)]
  unfold netMmioVa granule4Kib at *
  omega

theorem pageOf_ne_below {vaBase count index : Nat}
    (below : vaBase + count * granule4Kib ≤ netMmioVa) (bound : index < count) :
    pageOf (vaBase + index * granule4Kib) ≠ pageOf netMmioVa := by
  have low : vaBase + index * granule4Kib < netMmioVa := by
    unfold granule4Kib at *
    omega
  exact pageOf_ne (low.trans (by decide)) (.inl low)

/-! ## The answers of the allocator -/

def BlockAnswer.extents (answer : BlockAnswer) (pages : Nat) : List Extent :=
  answer.block.toList.map fun pa => ⟨pa, pages * granule4Kib⟩

namespace NetAnswers

def extents (answers : NetAnswers) : List Extent :=
  (answers.supplies.flatMap Supply.pages ++ answers.root.toList).map frameAt ++
    (answers.rxQueue.extents queueRegionPages ++ answers.txQueue.extents queueRegionPages ++
      answers.request.extents marshalBufferPages ++ answers.response.extents marshalBufferPages)

structure FromHeap (answers : NetAnswers) : Prop where
  inHeap : ∀ extent ∈ answers.extents, InHeap extent
  separate : Separate answers.extents

namespace FromHeap

variable {answers : NetAnswers}

theorem page (fromHeap : answers.FromHeap) {page : Nat}
    (listed : page ∈ answers.supplies.flatMap Supply.pages ++ answers.root.toList) :
    InHeap (frameAt page) :=
  fromHeap.inHeap _ (mem_append_left _ (mem_map_of_mem listed))

variable (fromHeap : answers.FromHeap)

include fromHeap

theorem pages : PageSet (answers.supplies.flatMap Supply.pages ++ answers.root.toList) where
  usable := fun _ listed => (fromHeap.page listed).usable
  separate := fromHeap.separate.sublist (sublist_append_left _ _)

theorem rxQueue (pa : Nat) (block : answers.rxQueue.block = some pa) :
    InHeap ⟨pa, queueRegionPages * granule4Kib⟩ := by
  apply fromHeap.inHeap
  simp [extents, BlockAnswer.extents, block]

theorem txQueue (pa : Nat) (block : answers.txQueue.block = some pa) :
    InHeap ⟨pa, queueRegionPages * granule4Kib⟩ := by
  apply fromHeap.inHeap
  simp [extents, BlockAnswer.extents, block]

theorem request (pa : Nat) (block : answers.request.block = some pa) :
    InHeap ⟨pa, marshalBufferPages * granule4Kib⟩ := by
  apply fromHeap.inHeap
  simp [extents, BlockAnswer.extents, block]

theorem response (pa : Nat) (block : answers.response.block = some pa) :
    InHeap ⟨pa, marshalBufferPages * granule4Kib⟩ := by
  apply fromHeap.inHeap
  simp [extents, BlockAnswer.extents, block]

end FromHeap

end NetAnswers

/-! ## The steps of `setup` -/

def Driving (boot : PhysMemory) (kernelRoot : Nat) (device : NetDevice)
    (space : SuppliedSpace) : Prop :=
  ∃ mapped, Building boot kernelRoot mapped space ∧ OneDevice device mapped

namespace NetProcess

variable {boot : PhysMemory} {kernelRoot : Nat} {mapped : Nat → Option Nat} {device : NetDevice}
  {state : LoadState SuppliedSpace}

theorem mapMmioPage_meets (building : Building boot kernelRoot mapped state.space) (va pa : Nat)
    (writable : Bool) :
    Action.Meets (mapMmioPage va pa writable) state fun _ after =>
      Building boot kernelRoot
        (update mapped (pageOf va) (some (MapState.mmioDescriptor pa writable))) after.space := by
  obtain ⟨directory, tables⟩ := building.tables
  obtain ⟨extended, grown⟩ := MapState.mapMmioPage_spec state.space.map tables va pa writable
    (call_free building.free)
  apply meets_of_run
  unfold mapMmioPage call
  dsimp only [ExceptT.run_mk, StateT.run]
  generalize state.space.map.mapMmioPage va pa writable state.space.supply = result at *
  obtain ⟨outcome, map⟩ := result
  cases outcome with
  | error error => trivial
  | ok value => exact building.extend extended grown

section

variable (driving : Driving boot kernelRoot device state.space)

include driving

theorem modify_meets (change : LoadState SuppliedSpace → Memory UInt8) :
    Action.Meets (modify fun state => { state with memory := change state } : Setup Unit) state
      fun _ after => Driving boot kernelRoot device after.space :=
  meets_modify driving

theorem mapPrivatePage_meets {va : Nat} (other : pageOf va ≠ pageOf netMmioVa) :
    Action.Meets (mapPrivatePage va) state fun _ after => Driving boot kernelRoot device after.space := by
  obtain ⟨mapped, building, one⟩ := driving
  have call_meets : Action.Meets (call fun map supply => map.mapPrivatePage va supply) state
      fun _ after => Driving boot kernelRoot device after.space := by
    have step := @Building.mapPage _ _ _ _ building va (apEl0Rw ||| uxn ||| pxn)
    apply meets_of_run
    unfold call
    dsimp only [ExceptT.run_mk, StateT.run, MapState.mapPrivatePage]
    unfold SuppliedSpace.mapPage at step
    generalize state.space.map.mapPrivatePageWith va (apEl0Rw ||| uxn ||| pxn) state.space.supply =
      result at *
    obtain ⟨outcome, map⟩ := result
    cases outcome with
    | error error => trivial
    | ok frame =>
      obtain ⟨next, inHeap, -⟩ := step rfl
      exact ⟨_, next, one.add other (inHeap.descriptor _)⟩
  apply call_meets.bind
  intro frame middle later
  apply (modify_meets later _).bind
  intro _ after kept
  exact meets_pure kept

theorem mapBlockPage_meets {va pa : Nat} (other : pageOf va ≠ pageOf netMmioVa)
    (inHeap : InHeap (frameAt pa)) :
    Action.Meets (mapMmioPage va pa true) state fun _ after =>
      Driving boot kernelRoot device after.space := by
  obtain ⟨mapped, building, one⟩ := driving
  apply (mapMmioPage_meets building va pa true).mono
  intro _ after next
  exact ⟨_, next, one.add other (inHeap.descriptor _)⟩

/-- A region of memory in the heap, at addresses below the window of the device. -/
theorem mapContiguousRegion_meets {vaBase pages : Nat}
    (below : vaBase + pages * granule4Kib ≤ netMmioVa) {answer : BlockAnswer}
    (inHeap : ∀ pa, answer.block = some pa → InHeap ⟨pa, pages * granule4Kib⟩) :
    Action.Meets (mapContiguousRegion vaBase pages answer) state fun _ after =>
      Driving boot kernelRoot device after.space := by
  apply meets_checked_bind (orFail_meets _ _)
  intro paBase block
  have inside := inHeap paBase block
  apply (modify_meets driving _).bind
  intro _ middle kept
  have adopted : Action.Meets (adoptBlock paBase pages answer.reserve) middle fun _ after =>
      Driving boot kernelRoot device after.space := by
    apply meets_of_run
    cases answer.reserve with
    | false => trivial
    | true =>
      obtain ⟨mapped, ⟨⟨directory, tables⟩, free, heaped, outside⟩, one⟩ := kept
      exact ⟨mapped, ⟨⟨directory, { tables with }⟩, free, heaped, outside⟩, one⟩
  apply adopted.bind
  intro _ after recorded
  apply Action.Meets.bind
    (foldlM_range_meets (fun _ _ after => Driving boot kernelRoot device after.space) recorded
      pages _)
  · intro _ final done
    exact meets_pure done
  · intro index bound _ before holds
    exact mapBlockPage_meets holds (pageOf_ne_below below bound) (inside.nth_page bound)

theorem mapBuffers_meets {vaBase count : Nat} (below : vaBase + count * granule4Kib ≤ netMmioVa) :
    Action.Meets (mapBuffers vaBase count) state fun _ after =>
      Driving boot kernelRoot device after.space := by
  apply foldlM_range_meets
    (fun _ _ (after : LoadState SuppliedSpace) => Driving boot kernelRoot device after.space) driving
  intro index bound frames before holds
  apply (mapPrivatePage_meets holds (pageOf_ne_below below bound)).bind
  intro frame after later
  exact meets_pure later

theorem mapHeap_meets :
    Action.Meets ((List.range netHeapPages).foldlM (fun _ i => do
      let _ ← mapPrivatePage (netHeapStart + i * granule4Kib)) () : Setup Unit) state fun _ after =>
        Driving boot kernelRoot device after.space := by
  apply foldlM_range_meets
    (fun _ _ (after : LoadState SuppliedSpace) => Driving boot kernelRoot device after.space) driving
  intro index bound _ before holds
  apply (mapPrivatePage_meets holds (pageOf_ne_below (by decide) bound)).bind
  intro frame after later
  exact meets_pure later

theorem mapRequest_meets (requestBytes : Option Bytes) {answers : NetAnswers}
    (fromHeap : answers.FromHeap) :
    Action.Meets (mapRequest requestBytes answers) state fun _ after =>
      Driving boot kernelRoot device after.space := by
  cases requestBytes with
  | none => exact meets_pure driving
  | some bytes =>
    apply (mapContiguousRegion_meets driving (by decide) fromHeap.request).bind
    intro requestPhys middle kept
    apply (mapContiguousRegion_meets kept (by decide) fromHeap.response).bind
    intro responsePhys next held
    apply (modify_meets held _).bind
    intro _ after later
    exact meets_pure later

end

section Ed25519

variable {SigningKey VerifyingKey : Type} (ed25519 : Signatures.Scheme SigningKey VerifyingKey)
  (signingKey : SigningKey) (ticksPerSec now : Nat)

theorem mapDeviceWindow_meets
    (building : Building boot kernelRoot (fun _ => none) state.space) (device : NetDevice) :
    Action.Meets (mapDeviceWindow ed25519 signingKey ticksPerSec now device) state fun _ after =>
      Driving boot kernelRoot device after.space := by
  apply meets_checked_bind (orFail_meets _ _)
  intro _ accepted
  apply (mapMmioPage_meets building _ _ _).mono
  intro _ after next
  refine ⟨_, next, update_self _ _ _, ?_⟩
  intro number other descriptor found
  rw [update_of_ne other] at found
  cases found

theorem buildNetBootInfo_meets (building : Building boot kernelRoot (fun _ => none) state.space)
    (device : NetDevice) (info : NetBootInfo) (requestBytes : Option Bytes) {answers : NetAnswers}
    (fromHeap : answers.FromHeap) :
    Action.Meets
      (buildNetBootInfo ed25519 signingKey ticksPerSec now device info requestBytes answers) state
      fun _ after => Driving boot kernelRoot device after.space := by
  apply (mapDeviceWindow_meets ed25519 signingKey ticksPerSec now building device).bind
  intro _ opened one
  apply (mapHeap_meets one).bind
  intro _ heaped two
  apply (mapPrivatePage_meets two (pageOf_ne (by decide) (by decide))).bind
  intro infoPage informed three
  apply (mapContiguousRegion_meets three (by decide) fromHeap.rxQueue).bind
  intro rxQueuePhys received four
  apply (mapContiguousRegion_meets four (by decide) fromHeap.txQueue).bind
  intro txQueuePhys sent five
  apply (mapBuffers_meets five (by decide)).bind
  intro rxBufferPhys filled six
  apply (mapBuffers_meets six (by decide)).bind
  intro txBufferPhys buffered seven
  apply (mapRequest_meets seven requestBytes fromHeap).bind
  intro response answered eight
  apply (modify_meets eight _).bind
  intro _ after later
  exact meets_pure later

end Ed25519

end NetProcess

/-! ## The image over the space -/

def Imaged (boot : PhysMemory) (kernelRoot : Nat) (base : Nat → Option Nat) (space : SuppliedSpace)
    (pages : List LoadedPage) : Prop :=
  Building boot kernelRoot (mappedBy base pages) space ∧
    ∀ page ∈ pages, InHeap (frameAt page.frame) ∧ page.va % granule4Kib = 0 ∧
      page.va < privateRegionEnd

theorem imaged_tracks (boot : PhysMemory) (kernelRoot : Nat) (base : Nat → Option Nat) :
    Tracks SuppliedSpace.mapPage (Imaged boot kernelRoot base) := by
  intro space pages va permissions frame after imaged result
  obtain ⟨next, inHeap, aligned, -, high⟩ := imaged.1.mapPage result
  refine ⟨?_, ?_⟩
  · rw [mappedBy_append]
    exact next
  · intro page listed
    rcases mem_append.mp listed with old | new
    · exact imaged.2 page old
    · rw [mem_singleton.mp new]
      exact ⟨inHeap, aligned, high⟩

def Elf64.CoversDevice (elf : Elf64) : Prop :=
  ∃ segment ∈ elf.segments, segment.Touches netMmioVa

section Image

variable {base : Nat → Option Nat} {pages : List LoadedPage} {device : NetDevice}

theorem OneDevice.image (one : OneDevice device base)
    (frames : ∀ page ∈ pages, InHeap (frameAt page.frame))
    (absent : ∀ page ∈ pages, pageOf page.va ≠ pageOf netMmioVa) :
    OneDevice device (mappedBy base pages) where
  window := (mappedBy_of_not_mem absent).trans one.window
  memory := by
    intro number other descriptor known
    rcases mappedBy_cases pages number with ⟨page, listed, -, found⟩ | ⟨-, found⟩
    · rw [found] at known
      cases known
      exact (frames page listed).descriptor _
    · exact one.memory number other descriptor (found.symm.trans known)

theorem OneDevice.covered (one : OneDevice device base)
    (frames : ∀ page ∈ pages, InHeap (frameAt page.frame)) {page : LoadedPage}
    (listed : page ∈ pages) (covers : pageOf page.va = pageOf netMmioVa) :
    NoDevice (mappedBy base pages) := by
  intro number descriptor known
  rcases mappedBy_cases pages number with ⟨early, member, -, found⟩ | ⟨absent, found⟩
  · rw [found] at known
    cases known
    exact (frames early member).descriptor _
  · apply one.memory number _ descriptor (found.symm.trans known)
    rintro rfl
    exact absent page listed covers

theorem Loader.Complete.covers_iff {elf : Elf64} {memory : Memory UInt8} {loaded : LoadedImage}
    (complete : Complete elf pages memory loaded) :
    netMmioVa ∈ pages.map LoadedPage.va ↔ elf.CoversDevice := by
  rw [complete.loaded.claimed, laidOut_iff]
  constructor
  · rintro ⟨-, touched | ⟨low, -⟩⟩
    · exact touched
    · exact absurd low (by decide)
  · intro touched
    exact ⟨by decide, .inl touched⟩

end Image

def DriverMaps (elf : Elf64) (device : NetDevice) (mapped : Nat → Option Nat) : Prop :=
  (elf.CoversDevice ∧ NoDevice mapped) ∨ (¬ elf.CoversDevice ∧ OneDevice device mapped)

theorem Driving.load {boot : PhysMemory} {kernelRoot : Nat} {device : NetDevice}
    {state : LoadState SuppliedSpace} (driving : Driving boot kernelRoot device state.space)
    {elf : Elf64} (valid : elf.Valid) :
    Action.Meets (load SuppliedSpace.mapPage elf) state fun _ after =>
      ∃ mapped, Building boot kernelRoot mapped after.space ∧ DriverMaps elf device mapped := by
  obtain ⟨base, building, one⟩ := driving
  have start : Imaged boot kernelRoot base state.space [] := by
    refine ⟨building, ?_⟩
    intro page listed
    cases listed
  apply (load_meets (imaged_tracks boot kernelRoot base) valid start).mono
  rintro loaded after ⟨pages, ⟨built, placed⟩, complete⟩
  have frames : ∀ page ∈ pages, InHeap (frameAt page.frame) := fun page listed =>
    (placed page listed).1
  refine ⟨_, built, ?_⟩
  by_cases covers : elf.CoversDevice
  · obtain ⟨page, listed, place⟩ := mem_map.mp (complete.covers_iff.mpr covers)
    exact .inl ⟨covers, one.covered frames listed (by rw [place])⟩
  refine .inr ⟨covers, one.image frames ?_⟩
  intro page listed same
  obtain ⟨-, aligned, high⟩ := placed page listed
  have equal : page.va = netMmioVa := by
    rw [pageOf_private high, pageOf_private (by decide)] at same
    unfold netMmioVa granule4Kib at *
    omega
  exact covers (complete.covers_iff.mp (mem_map.mpr ⟨page, listed, equal⟩))

namespace NetProcess

section Setup

variable {SigningKey VerifyingKey : Type} {ed25519 : Signatures.Scheme SigningKey VerifyingKey}
  {signingKey : SigningKey} {ticksPerSec now activeRoot : Nat} {words : PhysMemory}
  {memory : Memory UInt8} {image : Image} {device : NetDevice} {info : NetBootInfo}
  {requestBytes : Option Bytes} {answers : NetAnswers} {process : NetProcess}

theorem setup_ok
    (finished : setup ed25519 signingKey ticksPerSec now activeRoot words memory image device info
      requestBytes answers = .ok process) :
    ∃ elf root, Elf64.parse image = .ok elf ∧ answers.root = some root ∧
      (buildAndLoad ed25519 signingKey ticksPerSec now elf device info requestBytes
        answers).run.run
        ⟨⟨⟨copy (fill words (frameAt root) 0) activeRoot (frameAt root),
          ⟨root, [root], activeRoot, [], []⟩, []⟩, answers.supplies⟩, memory⟩ =
        (.ok (process.responsePhys, process.loaded), process.state) := by
  unfold setup at finished
  generalize checkNetMode info.mode requestBytes.isSome = agreed at finished
  cases agreed with
  | error halt => cases finished
  | ok _ =>
  cases parsed : Elf64.parse image with
  | error halt =>
    rw [parsed] at finished
    cases halt <;> cases finished
  | ok elf =>
  rw [parsed] at finished
  cases given : answers.root with
  | none =>
    rw [given] at finished
    cases finished
  | some root =>
  rw [given] at finished
  dsimp only [Outcome.mapError, AddressSpace.new, Bind.bind, Except.bind] at finished
  refine ⟨elf, root, rfl, rfl, ?_⟩
  generalize (buildAndLoad ed25519 signingKey ticksPerSec now elf device info requestBytes
    answers).run.run _ = built at *
  obtain ⟨outcome, state⟩ := built
  cases outcome with
  | error halt => cases finished
  | ok value =>
    cases finished
    rfl

variable {boot : PhysMemory} (kernel : KernelTables boot activeRoot)
  (outside : ∀ address, ¬ heap.Holds address → words address = boot address)
  (fromHeap : answers.FromHeap)

include kernel outside fromHeap

theorem new_building {root : Nat} (given : answers.root = some root) :
    Building boot activeRoot (fun _ => none)
      ⟨⟨copy (fill words (frameAt root) 0) activeRoot (frameAt root),
        ⟨root, [root], activeRoot, [], []⟩, []⟩, answers.supplies⟩ := by
  have pages := fromHeap.pages
  have inHeap := @NetAnswers.FromHeap.page answers fromHeap
  rw [given] at pages inHeap
  have rootHeap : InHeap (frameAt root) := inHeap (by simp)
  refine ⟨⟨_, kernel.new_tables outside rootHeap⟩, pages, fun page => inHeap, ?_⟩
  intro address away
  have apart : ¬ (frameAt root).Holds address := fun held => away (rootHeap.held held)
  dsimp only
  rw [copy_elsewhere _ _ apart, fill_elsewhere _ _ apart]
  exact outside address away

theorem setup_meets
    (finished : setup ed25519 signingKey ticksPerSec now activeRoot words memory image device info
      requestBytes answers = .ok process) :
    ∃ mapped, Building boot activeRoot mapped process.state.space ∧
      DriverMaps (Elf64.ofHeader image) device mapped := by
  obtain ⟨elf, root, parsed, given, run⟩ := setup_ok finished
  obtain ⟨rfl, valid⟩ := (Elf64.parse_meets image).of_eq_ok parsed
  have start := new_building kernel outside fromHeap given
  have built : Action.Meets
      (buildAndLoad ed25519 signingKey ticksPerSec now (Elf64.ofHeader image) device info
        requestBytes answers)
      ⟨⟨⟨copy (fill words (frameAt root) 0) activeRoot (frameAt root),
        ⟨root, [root], activeRoot, [], []⟩, []⟩, answers.supplies⟩, memory⟩
      fun _ after => ∃ mapped, Building boot activeRoot mapped after.space ∧
        DriverMaps (Elf64.ofHeader image) device mapped := by
    apply (buildNetBootInfo_meets ed25519 signingKey ticksPerSec now start device info requestBytes
      fromHeap).bind
    intro responsePhys middle driving
    apply (meets_mapError (driving.load valid)).bind
    intro loaded after maps
    exact meets_pure maps
  have last := built.of_eq_ok (congrArg Prod.fst run)
  rw [run] at last
  exact last

end Setup

end NetProcess

end Runix.Arm
