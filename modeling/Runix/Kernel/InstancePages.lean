import Runix.Kernel.InstanceLoad
import Runix.Lib.Runs

/-!
# What an instance finds in its pages

Two histories of the kernel may leave any bytes in the frames the allocator will hand out.  An
instance that is spawned after each of them has the same pages at the same addresses, and every
page that is written before it starts has the same bytes.  The stack is not written: there the
instance reads what the frames held before.
-/

namespace Runix.Kernel

open Lib Lib.ByteStrings Lib.Checked Lib.Runs List GridInstance KernelFrames Elf64 AddressSpace
open Citadel NetDriver

def userContents (memory : Nat → PageBytes) : Option Mapping → Option PageBytes
  | none => none
  | some mapping =>
    if mapping.flags.userAccessible then some (memory mapping.frame) else none

def LoadState.userPage (state : LoadState) (page : Nat) : Option PageBytes :=
  userContents state.memory (state.space.translate page)

def KernelFrames.userPage (kernel : KernelFrames) (page : Nat) : Option PageBytes :=
  userContents kernel.memory (kernel.active page)

/-! ## Histories -/

/-- What the kernel does with frames.  To load an instance, or to fail to, is a series of
allocations and stores. -/
inductive FrameEvent
  | allocate
  | deallocate (frame : Nat)
  | store (frame : Nat) (bytes : PageBytes)
  /-- The active table maps other pages: by a mapping, an unmapping or a switch. -/
  | remap (active : Nat → Option Mapping)

namespace KernelFrames

variable (kernel : KernelFrames)

def step : FrameEvent → KernelFrames
  | .allocate => { kernel with allocator := kernel.allocator.allocateFrame.2 }
  | .deallocate frame => { kernel with allocator := kernel.allocator.deallocateFrame frame }
  | .store frame bytes => { kernel with memory := Function.update kernel.memory frame bytes }
  | .remap active => { kernel with active := active }

/-- No page that user code can reach lies in a free frame. -/
def Unshared (active : Nat → Option Mapping) (free : List Nat) : Prop :=
  ∀ page mapping, active page = some mapping → mapping.flags.userAccessible = true →
    mapping.frame ∉ free

/-- The contract of the allocator's callers: a frame is given back once, by who has it, and when
no page leads to it any more. -/
def Allowed : FrameEvent → Prop
  | .deallocate frame => frame ∉ kernel.supply ∧ Unshared kernel.active [frame]
  | .remap active => Unshared active kernel.supply
  | _ => True

structure Lawful : Prop where
  nodup : kernel.supply.Nodup
  unshared : Unshared kernel.active kernel.supply

variable {kernel}

theorem Unshared.sublist {active : Nat → Option Mapping} {first second : List Nat}
    (unshared : Unshared active second) (part : first.Sublist second) : Unshared active first :=
  fun page mapping found user listed => unshared page mapping found user (part.subset listed)

theorem step_lawful (lawful : kernel.Lawful) {event : FrameEvent} (allowed : kernel.Allowed event) :
    (kernel.step event).Lawful := by
  cases event with
  | allocate =>
    have fewer : (kernel.step .allocate).supply.Sublist kernel.supply := by
      unfold step supply
      rw [kernel.allocator.allocateFrame_supply]
      exact tail_sublist _
    exact ⟨lawful.nodup.sublist fewer, lawful.unshared.sublist fewer⟩
  | deallocate frame =>
    obtain ⟨out, unshared⟩ := allowed
    refine ⟨nodup_cons.mpr ⟨out, lawful.nodup⟩, ?_⟩
    intro page mapping found user listed
    rcases mem_cons.mp listed with here | there
    · exact unshared page mapping found user (mem_singleton.mpr here)
    · exact lawful.unshared page mapping found user there
  | store frame bytes => exact ⟨lawful.nodup, lawful.unshared⟩
  | remap active => exact ⟨lawful.nodup, allowed⟩

end KernelFrames

structure KernelHistory where
  memoryRegions : MemoryRegions
  memory : Nat → PageBytes
  active : Nat → Option Mapping
  events : List FrameEvent
  unshared : KernelFrames.Unshared active memoryRegions.usableFrames
  allowed : EveryStep step KernelFrames.Allowed
    ⟨.init memoryRegions, memory, active⟩ events

namespace KernelHistory

variable (history : KernelHistory)

def boot : KernelFrames := ⟨.init history.memoryRegions, history.memory, history.active⟩

def last : KernelFrames := run step history.boot history.events

theorem boot_lawful : history.boot.Lawful where
  nodup := history.memoryRegions.usableFrames_nodup
  unshared := history.unshared

theorem last_lawful : history.last.Lawful := by
  apply run_guarded step _ history.events history.boot history.boot_lawful
    history.allowed
  intro kernel event lawful allowed
  exact step_lawful lawful allowed

end KernelHistory

/-! ## What is found at a page -/

variable {page : LaidPage}

namespace Laid

variable {kernel : KernelFrames} {state : LoadState} {laid : List LaidPage}

variable (held : Laid kernel state laid)

include held

theorem userPage_placed {before : List LaidPage}
    (listed : before ++ [page] <+: laid) (user : page.flags.userAccessible = true) :
    ∃ frame, kernel.supply[1 + framesDrawn (before.map LaidPage.page)]? = some frame ∧
      state.userPage page.page = some (page.bytes.getD (kernel.memory frame)) := by
  obtain ⟨frame, place, found, -, bytes⟩ := held.placed before page listed
  have own : p4Index page.page ∈ state.space.detachedP4Slots :=
    (held.slots _).mpr ⟨page, listed.subset (by simp), rfl⟩
  refine ⟨frame, place, ?_⟩
  unfold LoadState.userPage AddressSpace.translate
  rw [if_pos own, found, ← bytes]
  exact if_pos user

theorem userPage_absent {page : Nat} (own : ∃ other ∈ laid, p4Index other.page = p4Index page)
    (absent : page ∉ laid.map LaidPage.page) : state.userPage page = none := by
  have unmapped : state.space.mapped.lookup page = none := by
    rw [lookup_eq_none_iff_keys, held.keys]
    exact absent
  unfold LoadState.userPage AddressSpace.translate
  rw [if_pos ((held.slots _).mpr own), unmapped]
  rfl

theorem userPage_inherited (unshared : KernelFrames.Unshared kernel.active kernel.supply)
    {page : Nat} (other : ¬ ∃ own ∈ laid, p4Index own.page = p4Index page) :
    state.userPage page = kernel.userPage page := by
  unfold LoadState.userPage userPage AddressSpace.translate
  rw [if_neg fun own => other ((held.slots _).mp own), held.seeded]
  cases found : kernel.active page with
  | none => rfl
  | some mapping =>
    unfold userContents
    dsimp only
    by_cases user : mapping.flags.userAccessible = true
    · rw [if_pos user, if_pos user,
        held.untouched _ (.inl (unshared page mapping found user))]
    · rw [if_neg user, if_neg user]

end Laid

def KernelFrames.bytesAt (kernel : KernelFrames) (place : Nat) : Option PageBytes :=
  kernel.supply[place]?.map kernel.memory

theorem prefix_concat_iff_getElem {Item : Type} {items before : List Item} {item : Item} :
    before ++ [item] <+: items ↔
      ∃ place, items[place]? = some item ∧ before = items.take place := by
  constructor
  · rintro ⟨rest, rfl⟩
    refine ⟨before.length, ?_, ?_⟩ <;> simp
  · rintro ⟨place, found, rfl⟩
    obtain ⟨bound, rfl⟩ := List.getElem?_eq_some_iff.mp found
    rw [← take_succ_eq_append_getElem bound]
    exact take_prefix _ _

theorem Laid.userPage_getElem {kernel : KernelFrames} {state : LoadState} {laid : List LaidPage}
    (held : Laid kernel state laid) {place : Nat} (found : laid[place]? = some page)
    (user : page.flags.userAccessible = true) :
    state.userPage page.page =
      page.bytes.or (kernel.bytesAt (1 + framesDrawn ((laid.take place).map LaidPage.page))) := by
  obtain ⟨frame, known, contents⟩ :=
    held.userPage_placed (prefix_concat_iff_getElem.mpr ⟨place, found, rfl⟩) user
  unfold bytesAt
  rw [contents, known]
  cases page.bytes <;> rfl

section TwoRuns

variable {firstKernel secondKernel : KernelFrames} {first second : LoadState}
  {laid : List LaidPage}

/-- The kernels have the same bytes where the pages are that nothing is written to. -/
def SameUnwritten (firstKernel secondKernel : KernelFrames) (laid : List LaidPage) : Prop :=
  ∀ place page, laid[place]? = some page → page.bytes = none →
    firstKernel.bytesAt (1 + framesDrawn ((laid.take place).map LaidPage.page)) =
      secondKernel.bytesAt (1 + framesDrawn ((laid.take place).map LaidPage.page))

/-- The kernels show user code the same pages behind the entries that stay shared. -/
def SameInherited (firstKernel secondKernel : KernelFrames) (laid : List LaidPage) : Prop :=
  ∀ page, (¬ ∃ own ∈ laid, p4Index own.page = p4Index page) →
    firstKernel.userPage page = secondKernel.userPage page

theorem userPages_eq_iff (one : Laid firstKernel first laid) (two : Laid secondKernel second laid)
    (firstLawful : firstKernel.Lawful) (secondLawful : secondKernel.Lawful)
    (user : ∀ page ∈ laid, page.flags.userAccessible = true) :
    (∀ page, first.userPage page = second.userPage page) ↔
      SameUnwritten firstKernel secondKernel laid ∧
        SameInherited firstKernel secondKernel laid := by
  constructor
  · intro same
    constructor
    · intro place page found unwritten
      have known := same page.page
      rw [one.userPage_getElem found (user page (mem_of_getElem? found)),
        two.userPage_getElem found (user page (mem_of_getElem? found)), unwritten] at known
      exact known
    · intro page other
      have known := same page
      rw [one.userPage_inherited firstLawful.unshared other,
        two.userPage_inherited secondLawful.unshared other] at known
      exact known
  · rintro ⟨unwritten, inherited⟩ page
    by_cases listed : page ∈ laid.map LaidPage.page
    · obtain ⟨entry, member, rfl⟩ := mem_map.mp listed
      obtain ⟨place, found⟩ := mem_iff_getElem?.mp member
      rw [one.userPage_getElem found (user entry member),
        two.userPage_getElem found (user entry member)]
      cases bytes : entry.bytes with
      | none => exact unwritten place entry found bytes
      | some written => rfl
    · by_cases own : ∃ other ∈ laid, p4Index other.page = p4Index page
      · rw [one.userPage_absent own listed, two.userPage_absent own listed]
      · rw [one.userPage_inherited firstLawful.unshared own,
          two.userPage_inherited secondLawful.unshared own]
        exact inherited page own

end TwoRuns

/-! ## The pages of a spawned instance -/

variable {elf : Elf64}

theorem Elf64.parse_ok {bytes : Bytes} (result : parse bytes = .ok elf) : elf = ⟨bytes⟩ := by
  iterate 15 obtain ⟨_, -, result⟩ := bind_eq_ok_iff.mp result
  exact (Except.ok.inj result).symm

namespace GridHost

variable {SigningKey VerifyingKey : Type} {host : GridHost SigningKey VerifyingKey}
  {network : Network} {instanceId : String} {tier granted : SandboxTier} {sandbox : Sandbox}

theorem demo_authorize_granted {moduleId : String} {moduleBytes : Bytes}
    (passed : host.demoAuthorizeInstance moduleId instanceId moduleBytes tier = .ok granted) :
    granted = tier := by
  obtain ⟨entry, found, rfl, -⟩ := (evaluate_instance_load_ok_iff _ _ _ _ _ _ _).mp passed
  have only := mem_singleton.mp (mem_of_find?_eq_some found)
  rw [only]
  rfl

theorem spawn_granted
    (passed : (host.spawnInstance network instanceId tier sandbox).1 = .ok granted) :
    granted = tier := by
  unfold spawnInstance at passed
  cases gate : host.demoAuthorizeInstance gridModule instanceId host.elf tier with
  | error cause =>
    rw [gate] at passed
    cases passed
  | ok allowed =>
    have same := demo_authorize_granted gate
    rw [gate] at passed
    dsimp only at passed
    split at passed
    · cases passed
    · exact (Except.ok.inj passed).symm.trans same

end GridHost

section Spawned

variable {SigningKey VerifyingKey : Type} {host : GridHost SigningKey VerifyingKey}
  {network : Network} {instanceId : String} {tier : SandboxTier} {sandbox : Sandbox}
  {kernel : KernelFrames} {built : LoadState}

theorem spawnInstance_laid (nodup : kernel.supply.Nodup)
    (spawned : spawnInstance host network instanceId tier sandbox kernel = .ok built) :
    Laid kernel built (GridInstance.pages ⟨host.elf⟩ tier) := by
  unfold spawnInstance at spawned
  cases passed : (host.spawnInstance network instanceId tier sandbox).1 with
  | error cause =>
    rw [passed] at spawned
    cases spawned
  | ok granted =>
    obtain rfl := GridHost.spawn_granted passed
    rw [passed] at spawned
    obtain ⟨elf, parsed, spawned⟩ := bind_eq_ok_iff.mp spawned
    obtain ⟨start, made, spawned⟩ := bind_eq_ok_iff.mp spawned
    have known : parse host.elf = .ok elf :=
      toOption_eq_some_iff.mp (orPanic_eq_ok_iff.mp parsed)
    obtain rfl := parse_ok known
    obtain ⟨value, loaded, rfl⟩ := Option.map_eq_some_iff.mp (orPanic_eq_ok_iff.mp spawned)
    have lays := load_lays nodup ⟨host.elf⟩ granted start []
      (new_laid (orPanic_eq_ok_iff.mp made))
    exact (lays.of_eq_ok (toOption_eq_some_iff.mp loaded)).2

theorem spawnInstance_isOk (nodup : kernel.supply.Nodup)
    (passed : (host.spawnInstance network instanceId tier sandbox).1 = .ok tier)
    (parsed : parse host.elf = .ok ⟨host.elf⟩) (loadable : Elf64.Loadable ⟨host.elf⟩)
    (fits : Fits kernel (GridInstance.pages ⟨host.elf⟩ tier)) :
    ∃ built, spawnInstance host network instanceId tier sandbox kernel = .ok built := by
  have next : ∃ frame, kernel.supply.head? = some frame := by
    cases supplied : kernel.supply with
    | nil =>
      have enough := fits.2
      rw [supplied, length_nil] at enough
      omega
    | cons frame rest => exact ⟨frame, rfl⟩
  obtain ⟨frame, first⟩ := next
  have made : ∃ start, new kernel = some start := by
    unfold new
    rw [kernel.allocator.allocateFrame_fst]
    exact ⟨_, Option.map_eq_some_iff.mpr ⟨frame, first, rfl⟩⟩
  obtain ⟨start, made⟩ := made
  have lays := load_lays nodup ⟨host.elf⟩ tier start [] (new_laid made)
  obtain ⟨value, loaded⟩ := eq_ok_of_isOk (lays.isOk ⟨loadable, fits⟩)
  refine ⟨((GridInstance.load ⟨host.elf⟩ tier).run.run start).2, ?_⟩
  unfold spawnInstance
  rw [passed]
  rw [parsed, made]
  change orPanic (((GridInstance.load ⟨host.elf⟩ tier).run.run start).1.toOption.map _) = _
  rw [loaded]
  rfl

end Spawned

theorem Elf64.mem_imagePages (listed : page ∈ elf.imagePages) :
    ∃ segment number, elf.segmentPage segment number = page := by
  obtain ⟨index, -, found⟩ := mem_flatMap.mp listed
  unfold entryPages at found
  split at found
  case h_1 segment _ =>
    obtain ⟨number, -, known⟩ := mem_map.mp found
    exact ⟨segment, number, known⟩
  case h_2 => cases found

namespace GridInstance

theorem mem_regionPages {start size : Nat} {bytes : Option PageBytes}
    (listed : page ∈ regionPages start size bytes) :
    page.flags = runtimeFlags ∧ page.bytes = bytes := by
  obtain ⟨number, -, rfl⟩ := mem_map.mp listed
  exact ⟨rfl, rfl⟩

variable {tier : SandboxTier}

theorem pages_userAccessible : ∀ page ∈ pages elf tier, page.flags.userAccessible = true := by
  intro page listed
  rcases mem_append.mp listed with image | listed
  · obtain ⟨segment, number, rfl⟩ := mem_imagePages image
    rfl
  rcases mem_append.mp listed with heap | listed
  · rw [(mem_regionPages heap).1]
    rfl
  rcases mem_append.mp listed with stack | info
  · rw [(mem_regionPages stack).1]
    rfl
  · rw [mem_singleton.mp info]
    rfl

theorem written_before_stack : ∀ page ∈ elf.imagePages ++ heapPages, page.bytes ≠ none := by
  intro page listed unwritten
  rcases mem_append.mp listed with image | heap
  · obtain ⟨segment, number, rfl⟩ := mem_imagePages image
    cases unwritten
  · rw [(mem_regionPages heap).2] at unwritten
    cases unwritten

def stackPlace (elf : Elf64) (i : Nat) : Nat :=
  1 + framesDrawn ((elf.imagePages ++ (heapPages ++ stackPages.take i)).map LaidPage.page)

def SameStack (first second : KernelFrames) (elf : Elf64) : Prop :=
  ∀ i < stackSize / frameSize,
    first.bytesAt (stackPlace elf i) = second.bytesAt (stackPlace elf i)

theorem stackPages_length : stackPages.length = stackSize / frameSize := by decide

variable {i : Nat}

theorem getElem_stackPages (bound : i < stackSize / frameSize) :
    stackPages[i]? = some ⟨stackVa / frameSize + i, runtimeFlags, none⟩ := by
  have short : i < (stackVa + stackSize - 1) / frameSize + 1 - stackVa / frameSize := bound
  unfold stackPages regionPages pageRange
  rw [List.getElem?_map, List.getElem?_map, List.getElem?_range short]
  rfl

theorem getElem_pages (bound : i < stackSize / frameSize) :
    (pages elf tier)[(elf.imagePages ++ heapPages).length + i]? =
      some ⟨stackVa / frameSize + i, runtimeFlags, none⟩ := by
  unfold pages
  rw [← append_assoc, List.getElem?_append_right (Nat.le_add_right _ _),
    Nat.add_sub_cancel_left, List.getElem?_append_left (by rw [stackPages_length]; exact bound)]
  exact getElem_stackPages bound

theorem place_of_unwritten {place : Nat}
    (found : (pages elf tier)[place]? = some page) (unwritten : page.bytes = none) :
    ∃ i < stackSize / frameSize, place = (elf.imagePages ++ heapPages).length + i := by
  unfold pages at found
  rw [← append_assoc] at found
  by_cases before : place < (elf.imagePages ++ heapPages).length
  · rw [List.getElem?_append_left before] at found
    exact absurd unwritten (written_before_stack page (mem_of_getElem? found))
  obtain ⟨i, rfl⟩ := Nat.exists_eq_add_of_le (Nat.not_lt.mp before)
  rw [List.getElem?_append_right (Nat.le_add_right _ _), Nat.add_sub_cancel_left] at found
  refine ⟨i, ?_, rfl⟩
  by_contra after
  rw [List.getElem?_append_right (by rw [stackPages_length]; omega)] at found
  rw [mem_singleton.mp (mem_of_getElem? found)] at unwritten
  cases unwritten

theorem take_stackPlace (bound : i < stackSize / frameSize) :
    1 + framesDrawn (((pages elf tier).take ((elf.imagePages ++ heapPages).length + i)).map
      LaidPage.page) = stackPlace elf i := by
  unfold pages stackPlace
  rw [← append_assoc, take_length_add_append, append_assoc,
    take_append_of_le_length (by rw [stackPages_length]; omega)]

theorem userPage_stack {kernel : KernelFrames} {state : LoadState} {tier : SandboxTier}
    (held : Laid kernel state (pages elf tier)) (bound : i < stackSize / frameSize) :
    state.userPage (stackVa / frameSize + i) = kernel.bytesAt (stackPlace elf i) := by
  have known := held.userPage_getElem (getElem_pages bound) rfl
  rw [take_stackPlace bound] at known
  exact known

theorem sameUnwritten_iff {first second : KernelFrames} {tier : SandboxTier} :
    SameUnwritten first second (pages elf tier) ↔ SameStack first second elf := by
  constructor
  · intro same i bound
    have known := same _ _ (getElem_pages bound) rfl
    rw [take_stackPlace bound] at known
    exact known
  · intro same place page found unwritten
    obtain ⟨i, bound, rfl⟩ := place_of_unwritten found unwritten
    rw [take_stackPlace bound]
    exact same i bound

end GridInstance

/-! ## A small image after a boot -/

theorem missingTables_length_le (pages : List Nat) (page : Nat) :
    (missingTables pages page).length ≤ 3 :=
  length_filter_le _ _

theorem drawnAfter_le (pages more : List Nat) : drawnAfter pages more ≤ 4 * more.length := by
  induction more generalizing pages with
  | nil => exact Nat.le_refl 0
  | cons page rest ih =>
    have tables := missingTables_length_le pages page
    have later := ih (pages ++ [page])
    rw [drawnAfter, length_cons]
    omega

theorem framesDrawn_le (pages : List Nat) : framesDrawn pages ≤ 4 * pages.length :=
  drawnAfter_le [] pages

theorem pageRange_nodup (first last : Nat) : (pageRange first last).Nodup :=
  List.Nodup.map (fun _ _ => Nat.add_left_cancel) nodup_range

theorem mem_pageRange_iff {first last page : Nat} :
    page ∈ pageRange first last ↔ first ≤ page ∧ page ≤ last := by
  unfold pageRange
  rw [mem_map]
  constructor
  · rintro ⟨i, listed, rfl⟩
    have := mem_range.mp listed
    omega
  · rintro ⟨low, high⟩
    exact ⟨page - first, mem_range.mpr (by omega), by omega⟩

def oneSegmentImage : Bytes :=
  elfMagic ++ [2, 1, 1, 0] ++ List.replicate 8 0 ++ leBytes 2 2 ++ leBytes 2 0x3e ++ leBytes 4 1 ++
    leBytes 8 0x400000 ++ leBytes 8 64 ++ leBytes 8 0 ++ leBytes 4 0 ++ leBytes 2 64 ++
    leBytes 2 56 ++ leBytes 2 1 ++ List.replicate 6 0 ++ leBytes 4 1 ++ leBytes 4 5 ++
    leBytes 8 120 ++ leBytes 8 0x400000 ++ leBytes 8 0 ++ leBytes 8 0 ++ leBytes 8 8 ++
    leBytes 8 4096

theorem oneSegmentImage_header :
    programHeader ⟨oneSegmentImage⟩ 0 = .ok (some ⟨5, 120, 0x400000, 0, 8⟩) := by
  decide +kernel

theorem oneSegmentImage_phnum : phnum ⟨oneSegmentImage⟩ = 1 := by decide +kernel

theorem oneSegmentImage_parsed : parse oneSegmentImage = .ok ⟨oneSegmentImage⟩ := by
  cases parsed : parse oneSegmentImage with
  | ok elf => rw [parse_ok parsed]
  | error halt =>
    have succeeds : (parse oneSegmentImage).isOk = true := by decide +kernel
    rw [parsed] at succeeds
    cases succeeds

theorem oneSegmentImage_loadable : Elf64.Loadable ⟨oneSegmentImage⟩ := by
  refine ⟨by decide +kernel, ?_, 0x400000, by decide +kernel, by decide⟩
  intro index listed
  rw [oneSegmentImage_phnum, mem_range, Nat.lt_one_iff] at listed
  subst listed
  unfold Elf64.EntryOk
  rw [oneSegmentImage_header]
  refine ⟨by decide, by decide, by decide, by decide, by decide, ?_⟩
  unfold Elf64.PageOk
  decide

theorem oneSegmentImage_pages : (imagePages ⟨oneSegmentImage⟩).map LaidPage.page = [0x400] := by
  unfold imagePages entryPages
  rw [oneSegmentImage_phnum]
  simp only [range_one, flatMap_cons, flatMap_nil, append_nil,
    oneSegmentImage_header]
  rfl

namespace GridInstance

theorem region_numbers (start size : Nat) (bytes : Option PageBytes) :
    (regionPages start size bytes).map LaidPage.page =
      pageRange (start / frameSize) ((start + size - 1) / frameSize) := by
  unfold regionPages
  rw [map_map]
  exact map_id _

variable (tier : SandboxTier)

theorem numbers_oneSegment : (pages ⟨oneSegmentImage⟩ tier).map LaidPage.page =
      0x400 :: (pageRange 0x222222220 0x222222a1f ++ (pageRange 0x222233330 0x222233333 ++
        [0x222244440])) := by
  unfold pages heapPages stackPages
  rw [map_append, map_append, map_append, region_numbers, region_numbers,
    oneSegmentImage_pages]
  simp [infoPage, heapStart, heapSize, stackVa, stackSize, infoVa, frameSize]

theorem pages_oneSegment_nodup : ((pages ⟨oneSegmentImage⟩ tier).map LaidPage.page).Nodup := by
  rw [numbers_oneSegment]
  rw [nodup_cons, nodup_append, nodup_append]
  refine ⟨?_, pageRange_nodup _ _, ⟨pageRange_nodup _ _, nodup_singleton _, ?_⟩, ?_⟩
  · simp only [mem_append, mem_singleton, mem_pageRange_iff]
    omega
  · intro stack inStack info inInfo
    rw [mem_pageRange_iff] at inStack
    rw [mem_singleton] at inInfo
    omega
  · intro heap inHeap other inRest
    rw [mem_pageRange_iff] at inHeap
    rw [mem_append, mem_pageRange_iff, mem_singleton] at inRest
    omega

theorem pages_oneSegment_length : (pages ⟨oneSegmentImage⟩ tier).length = 2054 := by
  have length := congrArg List.length (numbers_oneSegment tier)
  rw [length_map] at length
  rw [length]
  simp [pageRange]

end GridInstance

def imageHost : GridHost Bytes Bytes := { demoHost with elf := oneSegmentImage, proxy := none }

theorem imageHost_passed (network : Network) (instanceId : String) (tier : SandboxTier)
    (sandbox : Sandbox) :
    (imageHost.spawnInstance network instanceId tier sandbox).1 = .ok tier := by
  have gate : imageHost.demoAuthorizeInstance gridModule instanceId imageHost.elf tier =
      .ok tier := by
    refine GridHost.demo_authorize_instance_ok ?_ ?_ rfl
    · exact length_replicate
    · simp [imageHost, demoHost]
  unfold GridHost.spawnInstance
  rw [gate]
  rfl

theorem stackPlace_oneSegment_lt {i : Nat} (bound : i < GridInstance.stackSize / frameSize) :
    GridInstance.stackPlace ⟨oneSegmentImage⟩ i < 9000 := by
  rw [← @GridInstance.take_stackPlace _ .t2Trusted i bound]
  have drawn := framesDrawn_le (((GridInstance.pages ⟨oneSegmentImage⟩ .t2Trusted).take
    ((imagePages ⟨oneSegmentImage⟩ ++ GridInstance.heapPages).length + i)).map LaidPage.page)
  have whole := pages_oneSegment_length .t2Trusted
  rw [length_map, length_take] at drawn
  omega

def filledBoot (first count : Nat) (byte : UInt8) : KernelHistory where
  memoryRegions :=
    { regions := [⟨first * frameSize, (first + count) * frameSize, .usable⟩]
      aligned := by simp
      apart := pairwise_singleton _ _ }
  memory := fun _ _ => byte
  active := fun _ => none
  events := []
  unshared := fun _ _ found => nomatch found
  allowed := every_step_nil _ _ _

section FilledBoot

variable {first count : Nat} {byte : UInt8}

theorem filledBoot_supply_length : (filledBoot first count byte).last.supply.length = count := by
  change (MemoryRegion.frames ⟨first * frameSize, (first + count) * frameSize, .usable⟩ ++
    []).length = count
  unfold MemoryRegion.frames frameSize
  rw [append_nil, length_map, length_range]
  dsimp only
  omega

theorem filledBoot_bytesAt {place : Nat} (bound : place < count) :
    (filledBoot first count byte).last.bytesAt place = some fun _ => byte := by
  unfold bytesAt
  rw [List.getElem?_eq_getElem (by rw [filledBoot_supply_length]; exact bound)]
  rfl

variable (enough : 9000 ≤ count)

include enough

theorem filledBoot_fits (tier : SandboxTier) :
    Fits (filledBoot first count byte).last (GridInstance.pages ⟨oneSegmentImage⟩ tier) := by
  have drawn := framesDrawn_le ((GridInstance.pages ⟨oneSegmentImage⟩ tier).map LaidPage.page)
  rw [length_map, pages_oneSegment_length] at drawn
  refine ⟨pages_oneSegment_nodup tier, ?_⟩
  rw [filledBoot_supply_length]
  omega

theorem filledBoot_spawned :
    ∃ built, spawnInstance imageHost (promptNetwork []) "instance-a" .t2Trusted idleSandbox
      (filledBoot first count byte).last = .ok built :=
  spawnInstance_isOk (filledBoot first count byte).last_lawful.nodup (imageHost_passed _ _ _ _)
    oneSegmentImage_parsed oneSegmentImage_loadable (filledBoot_fits enough .t2Trusted)

theorem filledBoot_stack {built : LoadState}
    (spawned : spawnInstance imageHost (promptNetwork []) "instance-a" .t2Trusted idleSandbox
      (filledBoot first count byte).last = .ok built) {i : Nat}
    (bound : i < GridInstance.stackSize / frameSize) :
    built.userPage (GridInstance.stackVa / frameSize + i) = some fun _ => byte := by
  have laid := spawnInstance_laid (filledBoot first count byte).last_lawful.nodup spawned
  rw [userPage_stack laid bound]
  exact filledBoot_bytesAt ((stackPlace_oneSegment_lt bound).trans_le enough)

end FilledBoot

/-! ## Two histories -/

/-- Two histories, and a call after each that spawns the same image at the same tier: the
instances have the same pages with the same bytes exactly if the frames that become their stacks
held the same, and the pages they share with the kernel's table show the same. -/
theorem spawned_pages_eq_iff {SigningKey VerifyingKey : Type}
    (firstHost secondHost : GridHost SigningKey VerifyingKey)
    (sameImage : firstHost.elf = secondHost.elf)
    (firstNetwork secondNetwork : Network) (firstId secondId : String) (tier : SandboxTier)
    (firstSandbox secondSandbox : Sandbox) (firstHistory secondHistory : KernelHistory)
    {first second : LoadState}
    (firstSpawned : spawnInstance firstHost firstNetwork firstId tier firstSandbox
      firstHistory.last = .ok first)
    (secondSpawned : spawnInstance secondHost secondNetwork secondId tier secondSandbox
      secondHistory.last = .ok second) :
    (∀ page, first.userPage page = second.userPage page) ↔
      GridInstance.SameStack firstHistory.last secondHistory.last ⟨firstHost.elf⟩ ∧
        SameInherited firstHistory.last secondHistory.last
          (GridInstance.pages ⟨firstHost.elf⟩ tier) := by
  have one := spawnInstance_laid firstHistory.last_lawful.nodup firstSpawned
  have two := spawnInstance_laid secondHistory.last_lawful.nodup secondSpawned
  rw [← sameImage] at two
  rw [userPages_eq_iff one two firstHistory.last_lawful secondHistory.last_lawful
    pages_userAccessible, sameUnwritten_iff]

/-- The stack shows whatever the frames held. -/
theorem filled_frames_show_in_stack :
    ∃ first second,
      spawnInstance imageHost (promptNetwork []) "instance-a" .t2Trusted idleSandbox
          (filledBoot 256 9000 0).last = .ok first ∧
        spawnInstance imageHost (promptNetwork []) "instance-a" .t2Trusted idleSandbox
          (filledBoot 256 9000 0xaa).last = .ok second ∧
        first.userPage 0x222233330 = some (fun _ => 0) ∧
        second.userPage 0x222233330 = some (fun _ => 0xaa) := by
  have enough : 9000 ≤ 9000 := Nat.le_refl _
  obtain ⟨first, one⟩ := @filledBoot_spawned 256 9000 0 enough
  obtain ⟨second, two⟩ := @filledBoot_spawned 256 9000 0xaa enough
  exact ⟨first, second, one, two, filledBoot_stack enough one (by decide : 0 < 4),
    filledBoot_stack enough two (by decide : 0 < 4)⟩

/-- Other frames with the same contents. -/
theorem moved_frames_same_pages :
    ∃ first second,
      spawnInstance imageHost (promptNetwork []) "instance-a" .t2Trusted idleSandbox
          (filledBoot 256 9000 0).last = .ok first ∧
        spawnInstance imageHost (promptNetwork []) "instance-a" .t2Trusted idleSandbox
          (filledBoot 512 9000 0).last = .ok second ∧
        ∀ page, first.userPage page = second.userPage page := by
  have enough : 9000 ≤ 9000 := Nat.le_refl _
  obtain ⟨first, one⟩ := @filledBoot_spawned 256 9000 0 enough
  obtain ⟨second, two⟩ := @filledBoot_spawned 512 9000 0 enough
  refine ⟨first, second, one, two, (spawned_pages_eq_iff imageHost imageHost rfl _ _ _ _ _ _ _
    (filledBoot 256 9000 0) (filledBoot 512 9000 0) one two).mpr ⟨?_, fun _ _ => rfl⟩⟩
  intro i bound
  have place := stackPlace_oneSegment_lt bound
  exact (filledBoot_bytesAt place).trans (filledBoot_bytesAt place).symm

end Runix.Kernel
