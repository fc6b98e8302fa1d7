import Runix.Arm.Elf
import Runix.Arm.TranslationTables

/-!
# The ELF loader of kernel-arm

`loader.rs`: the loadable segments of a parsed image are put into a space page by page, each
page zeroed and then given the file content that falls into it, and four stack pages are mapped
at the top of the private window.

The loader is generic in the space, as the source is.  A page is handed to it as the address of
its frame, and memory is a function of the address that it writes to.
-/

namespace Runix.Arm.Loader

open Lib.ByteStrings Lib.Checked Lib.Words Lib.Extents

def stackTop : Nat := privateRegionEnd

def stackSize : Nat := 4 * granule4Kib

def stackBase : Nat := stackTop - stackSize

def stackGuardSize : Nat := 16 * granule4Kib

def segmentWindowBase : Nat := privateRegionBase

def segmentWindowEnd : Nat := stackBase - stackGuardSize

inductive LoaderError
  | segmentNotReadable
  | segmentWritableAndExecutable
  | segmentOutsideWindow (vaddr stop : Nat)
  | overlappingSegments (page : Nat)
  | entryPointNotExecutable (entry : Nat)
  | mapFailed (va : Nat) (reason : String)
deriving DecidableEq

structure LoadedImage where
  entry : Nat
  stackTop : Nat
  stackBase : Nat
  segmentPages : Nat
  stackPages : Nat
deriving DecidableEq

def pagePermissions (flags : Nat) : Outcome LoaderError Nat :=
  let readable : Bool := flags &&& pfR ≠ 0
  let writable : Bool := flags &&& pfW ≠ 0
  let executable : Bool := flags &&& pfX ≠ 0
  match readable, writable, executable with
  | false, _, _ => fail .segmentNotReadable
  | true, true, true => fail .segmentWritableAndExecutable
  | true, false, false => .ok (apEl0Ro ||| uxn ||| pxn)
  | true, false, true => .ok (apEl0Ro ||| pxn)
  | true, true, false => .ok (apEl0Rw ||| uxn ||| pxn)

def alignDown (va : Nat) : Nat :=
  va &&& (u64Max - (granule4Kib - 1))

/-- `map_page`: the frame behind the new page. -/
abbrev PrivatePageMapper (Space : Type) : Type :=
  Space → Nat → Nat → Except LoaderError Nat × Space

structure LoadState (Space : Type) where
  space : Space
  memory : Memory UInt8

abbrev Load (Space Value : Type) : Type := Action (LoadState Space) LoaderError Value

def store (memory : Memory UInt8) (address : Nat) (bytes : Bytes) : Memory UInt8 :=
  fun place =>
    if address ≤ place ∧ place < address + bytes.length then bytes.getD (place - address) 0
    else memory place

variable {Space : Type}

/-- `page.fill(0)`. -/
def fillPage (frame : Nat) : Load Space Unit :=
  modify fun state => { state with memory := fill state.memory (frameAt frame) 0 }

/-- `page[start..stop].copy_from_slice(bytes)`: the range has to be in the page, and as long as
what is copied. -/
def copyFromSlice (frame start stop : Nat) (bytes : Bytes) : Load Space Unit :=
  if start ≤ stop ∧ stop ≤ granule4Kib ∧ stop - start = bytes.length then
    modify fun state => { state with memory := store state.memory (frame + start) bytes }
  else checked panicked

variable (mapper : PrivatePageMapper Space) (elf : Elf64)

def mapPage (va permissions : Nat) : Load Space Nat :=
  ExceptT.mk fun state =>
    match mapper state.space va permissions with
    | (.error error, space) => (.error (.returned error), { state with space := space })
    | (.ok frame, space) => (.ok frame, { state with space := space })

/-- The part of the file content that falls into a page. -/
def copyContent (segment : LoadSegment) (content : Bytes) (fileEnd pageVa frame : Nat) :
    Load Space Unit := do
  let copyStart := max pageVa segment.vaddr
  let pageEnd ← checked (addU64 pageVa granule4Kib)
  let copyEnd := min pageEnd fileEnd
  if copyStart < copyEnd then
    let into ← checked (subU64 copyStart pageVa)
    let start ← checked (subU64 copyStart segment.vaddr)
    let len ← checked (subU64 copyEnd copyStart)
    let intoEnd ← checked (addU64 into len)
    let stop ← checked (addU64 start len)
    let bytes ← checked (slice content start stop)
    copyFromSlice frame into intoEnd bytes
  else pure ()

/-- A page of a segment: everything that is not file content stays zero. -/
def loadPage (segment : LoadSegment) (permissions : Nat) (content : Bytes) (fileEnd pageVa : Nat) :
    Load Space Unit := do
  let frame ← mapPage mapper pageVa permissions
  fillPage frame
  copyContent segment content fileEnd pageVa frame

/-- The `while` loop over the pages of a segment.  The fuel stands for its iterations; to run
out of it is a panic. -/
def loadPages (segment : LoadSegment) (permissions : Nat) (content : Bytes) (fileEnd lastPage : Nat) :
    Nat → Nat → List Nat → Load Space (List Nat)
  | 0, _, _ => checked panicked
  | fuel + 1, pageVa, mapped =>
    if lastPage < pageVa then pure mapped
    else do
      checked (failIf (pageVa ∈ mapped) (.overlappingSegments pageVa))
      loadPage mapper segment permissions content fileEnd pageVa
      let next ← checked (addU64 pageVa granule4Kib)
      loadPages segment permissions content fileEnd lastPage fuel next (mapped ++ [pageVa])

/-- The variables of `load` that the loop over the segments changes. -/
structure Progress where
  mapped : List Nat
  entryIsExecutable : Bool

def loadSegment (progress : Progress) (segment : LoadSegment) : Load Space Progress :=
  if segment.memsz = 0 then pure progress
  else do
    let permissions ← checked (pagePermissions segment.flags)
    let stop ← checked (orFail (.segmentOutsideWindow segment.vaddr u64Max)
      (checkedAdd segment.vaddr segment.memsz))
    checked (failIf (segment.vaddr < segmentWindowBase ∨ segmentWindowEnd < stop)
      (.segmentOutsideWindow segment.vaddr stop))
    let entryHere := segment.isExecutable && decide (segment.vaddr ≤ elf.entry ∧ elf.entry < stop)
    let content := elf.segmentBytes segment
    let fileEnd ← checked (addU64 segment.vaddr content.length)
    let firstPage := alignDown segment.vaddr
    let last ← checked (subU64 stop 1)
    let lastPage := alignDown last
    let mapped ← loadPages mapper segment permissions content fileEnd lastPage
      ((lastPage - firstPage) / granule4Kib + 2) firstPage progress.mapped
    return ⟨mapped, progress.entryIsExecutable || entryHere⟩

def loadEntry (progress : Progress) (index : Nat) : Load Space Progress := do
  match ← checked (elf.segmentAt index).run with
  | none => pure progress
  | some segment => loadSegment mapper elf progress segment

def mapStackPage (index : Nat) : Load Space Unit := do
  let offset ← checked (mulU64 index granule4Kib)
  let va ← checked (addU64 stackBase offset)
  let frame ← mapPage mapper va (apEl0Rw ||| uxn ||| pxn)
  fillPage frame

def load : Load Space LoadedImage := do
  let progress ← (List.range elf.phnum).foldlM (loadEntry mapper elf) ⟨[], false⟩
  checked (failIf (progress.entryIsExecutable = false) (.entryPointNotExecutable elf.entry))
  let stackPages := stackSize / granule4Kib
  (List.range stackPages).foldlM (fun _ index => mapStackPage mapper index) ()
  return {
    entry := elf.entry
    stackTop := stackTop
    stackBase := stackBase
    segmentPages := progress.mapped.length
    stackPages := stackPages }

end Runix.Arm.Loader

/-! ## What the loader puts into the pages

The pages a segment claims are the aligned pages that touch it.  The loop over the pages of a
segment claims them one after the other: a page that was claimed before ends the load, so every
page that is there has one owner, and holds the file content of that segment and zeros. -/

namespace Runix.Arm

open Lib.ByteStrings Lib.Checked Lib.Words Lib.Extents List Action

namespace Loader

theorem pagePermissions_meets (flags : Nat) :
    Meets (pagePermissions flags) fun permissions =>
      pagePermissions flags = .ok permissions := by
  unfold pagePermissions
  cases decide (flags &&& pfR ≠ 0) <;> cases decide (flags &&& pfW ≠ 0) <;>
    cases decide (flags &&& pfX ≠ 0) <;> first | exact trivial | exact Meets.ok rfl

theorem alignDown_eq {va : Nat} (bounded : va ≤ u64Max) :
    alignDown va = va / granule4Kib * granule4Kib := by
  have shifted : va / granule4Kib * granule4Kib = (va / granule4Kib) <<< 12 := by
    rw [Nat.shiftLeft_eq]
    rfl
  have mask : u64Max - (granule4Kib - 1) = (2 ^ 52 - 1) <<< 12 := by decide
  have small : va / granule4Kib < 2 ^ 52 := by
    unfold granule4Kib
    unfold u64Max at bounded
    omega
  unfold alignDown
  rw [shifted, mask]
  apply Nat.eq_of_testBit_eq
  intro bit
  have quotient : va / granule4Kib = va >>> 12 := by
    rw [Nat.shiftRight_eq_div_pow]
    rfl
  rw [quotient] at small ⊢
  rw [Nat.testBit_and, Nat.testBit_shiftLeft, Nat.testBit_shiftLeft, Nat.testBit_shiftRight,
    Nat.testBit_two_pow_sub_one]
  by_cases low : 12 ≤ bit
  · rw [Nat.add_sub_cancel' low]
    by_cases high : bit - 12 < 52
    · simp [low, high]
    have zero : va.testBit bit = false := by
      apply Nat.testBit_lt_two_pow
      calc va ≤ u64Max := bounded
        _ < 2 ^ 64 := by decide
        _ ≤ 2 ^ bit := Nat.pow_le_pow_right (by decide) (by omega)
    simp [zero]
  · simp [low]

section Bytes

variable (memory : Memory UInt8)

theorem store_held (address : Nat) (bytes : Bytes) {place : Nat} (low : address ≤ place)
    (high : place < address + bytes.length) :
    store memory address bytes place = bytes.getD (place - address) 0 :=
  if_pos ⟨low, high⟩

theorem store_elsewhere (address : Nat) (bytes : Bytes) {place : Nat}
    (away : ¬ (address ≤ place ∧ place < address + bytes.length)) :
    store memory address bytes place = memory place :=
  if_neg away

end Bytes

variable {Space : Type}

theorem fillPage_meets (frame : Nat) (before : LoadState Space) :
    Action.Meets (fillPage frame) before fun _ after =>
      after = { before with memory := fill before.memory (frameAt frame) 0 } :=
  meets_modify rfl

theorem copyContent_meets (segment : LoadSegment) (content : Bytes) (pageVa frame : Nat)
    (page : pageVa + granule4Kib ≤ u64Max) (file : segment.vaddr + content.length ≤ u64Max)
    (before : LoadState Space) :
    Action.Meets (copyContent segment content (segment.vaddr + content.length) pageVa frame) before
      fun _ after => after.space = before.space ∧
        (∀ i < granule4Kib, after.memory (frame + i) =
          if segment.vaddr ≤ pageVa + i ∧ pageVa + i < segment.vaddr + content.length then
            content.getD (pageVa + i - segment.vaddr) 0
          else before.memory (frame + i)) ∧
        ∀ place, ¬ (frameAt frame).Holds place → after.memory place = before.memory place := by
  unfold copyContent
  rw [addU64_eq_ok page, checked_ok_bind]
  generalize startEq : max pageVa segment.vaddr = copyStart
  generalize stopEq : min (pageVa + granule4Kib) (segment.vaddr + content.length) = copyEnd
  by_cases meet : copyStart < copyEnd
  swap
  · rw [if_neg meet]
    refine meets_pure ⟨rfl, ?_, fun _ _ => rfl⟩
    intro i bound
    rw [if_neg]
    omega
  rw [if_pos meet, subU64_eq_ok (by omega), checked_ok_bind, subU64_eq_ok (by omega),
    checked_ok_bind, subU64_eq_ok (by omega), checked_ok_bind,
    addU64_eq_ok (by omega), checked_ok_bind, addU64_eq_ok (by omega),
    checked_ok_bind, slice_eq_ok (by omega) (by omega), checked_ok_bind,
    Nat.add_sub_cancel_left]
  generalize copied : (content.drop (copyStart - segment.vaddr)).take (copyEnd - copyStart) = bytes
  have length : bytes.length = copyEnd - copyStart := by
    rw [← copied, length_take, length_drop]
    omega
  unfold copyFromSlice
  rw [if_pos (by omega)]
  refine meets_modify ⟨rfl, ?_, ?_⟩
  · intro i bound
    dsimp only
    by_cases inside : segment.vaddr ≤ pageVa + i ∧ pageVa + i < segment.vaddr + content.length
    · rw [if_pos inside, store_held _ _ _ (by omega) (by omega), ← copied,
        getD_eq_getElem?_getD, getD_eq_getElem?_getD, List.getElem?_take_of_lt (by omega),
        List.getElem?_drop]
      congr 2
      omega
    · rw [if_neg inside]
      exact store_elsewhere _ _ _ (by omega)
  · intro place away
    apply store_elsewhere
    unfold frameAt Extent.Holds at away
    dsimp only at away
    omega

/-! ## Owners of pages -/

end Loader

open Loader

namespace LoadSegment

def Touches (segment : LoadSegment) (va : Nat) : Prop :=
  0 < segment.memsz ∧ va < segment.vaddr + segment.memsz ∧ segment.vaddr < va + granule4Kib

instance (segment : LoadSegment) (va : Nat) : Decidable (segment.Touches va) := by
  unfold Touches
  infer_instance

def InWindow (segment : LoadSegment) : Prop :=
  segmentWindowBase ≤ segment.vaddr ∧ segment.vaddr + segment.memsz ≤ segmentWindowEnd

end LoadSegment

/-- The byte a segment has at an address: the image gives the first `filesz`. -/
def Elf64.byteAt (elf : Elf64) (segment : LoadSegment) (address : Nat) : UInt8 :=
  if segment.vaddr ≤ address ∧ address < segment.vaddr + segment.filesz then
    elf.image.bytes.getD (segment.offset + (address - segment.vaddr)) 0
  else 0

section

variable {elf : Elf64} {segment : LoadSegment} (inBounds : elf.InBounds segment)

include inBounds

theorem Elf64.segmentBytes_eq :
    elf.segmentBytes segment = (elf.image.bytes.drop segment.offset).take segment.filesz := by
  have bounded := elf.image.bounded
  have file := inBounds.file
  have sum : saturatingAdd segment.offset segment.filesz = segment.offset + segment.filesz := by
    apply Nat.min_eq_left
    unfold u64Max
    omega
  unfold segmentBytes
  rw [sum, get_range_eq_some (Nat.le_add_right _ _) file, Nat.add_sub_cancel_left]
  rfl

theorem Elf64.segmentBytes_length : (elf.segmentBytes segment).length = segment.filesz := by
  have file := inBounds.file
  rw [segmentBytes_eq inBounds, length_take, length_drop]
  omega

theorem Elf64.byteAt_eq (address : Nat) :
    elf.byteAt segment address =
      if segment.vaddr ≤ address ∧ address < segment.vaddr + (elf.segmentBytes segment).length then
        (elf.segmentBytes segment).getD (address - segment.vaddr) 0
      else 0 := by
  rw [segmentBytes_length inBounds]
  unfold byteAt
  by_cases inside : segment.vaddr ≤ address ∧ address < segment.vaddr + segment.filesz
  · rw [if_pos inside, if_pos inside, segmentBytes_eq inBounds, getD_eq_getElem?_getD,
      getD_eq_getElem?_getD, List.getElem?_take_of_lt (by omega), List.getElem?_drop]
  · rw [if_neg inside, if_neg inside]

end

namespace Loader

abbrev Owner : Type := Option LoadSegment

def Owner.permissions : Owner → Outcome LoaderError Nat
  | none => .ok (apEl0Rw ||| uxn ||| pxn)
  | some segment => pagePermissions segment.flags

def Owner.byteAt (elf : Elf64) : Owner → Nat → UInt8
  | none, _ => 0
  | some segment, address => elf.byteAt segment address

structure LoadedPage where
  va : Nat
  permissions : Nat
  frame : Nat
deriving DecidableEq

variable {Space : Type}

def frames (pages : List LoadedPage) : List Extent :=
  pages.map fun page => frameAt page.frame

/-- The relation follows the mapper: what it maps is added to the pages. -/
def Tracks (mapper : PrivatePageMapper Space) (Pages : Space → List LoadedPage → Prop) : Prop :=
  ∀ space pages va permissions frame after, Pages space pages →
    mapper space va permissions = (.ok frame, after) →
      Pages after (pages ++ [⟨va, permissions, frame⟩])

theorem mapPage_meets {mapper : PrivatePageMapper Space} {Pages : Space → List LoadedPage → Prop}
    (tracks : Tracks mapper Pages) {before : LoadState Space} {pages : List LoadedPage}
    (listed : Pages before.space pages) (va permissions : Nat) :
    Action.Meets (mapPage mapper va permissions) before fun frame after =>
      Pages after.space (pages ++ [⟨va, permissions, frame⟩]) ∧ after.memory = before.memory := by
  have follow := tracks before.space pages va permissions
  apply meets_of_run
  unfold mapPage
  dsimp only [ExceptT.run_mk, StateT.run]
  generalize mapper before.space va permissions = result at *
  obtain ⟨outcome, space⟩ := result
  cases outcome with
  | error error => trivial
  | ok frame => exact ⟨follow frame space listed rfl, rfl⟩

/-- The pages are exactly those that are claimed, each once, with the permissions of its owner
and, where no two frames overlap, with the bytes of its owner. -/
structure Loaded (elf : Elf64) (claims : Owner → Nat → Prop) (pages : List LoadedPage)
    (memory : Memory UInt8) : Prop where
  nodup : (pages.map LoadedPage.va).Nodup
  claimed : ∀ va, va ∈ pages.map LoadedPage.va ↔ ∃ owner, claims owner va
  permissions : ∀ page ∈ pages, ∀ owner, claims owner page.va →
    Owner.permissions owner = .ok page.permissions
  bytes : Separate (frames pages) → ∀ page ∈ pages, ∀ owner, claims owner page.va →
    ∀ i < granule4Kib, memory (page.frame + i) = Owner.byteAt elf owner (page.va + i)

namespace Loaded

variable {elf : Elf64} {claims more : Owner → Nat → Prop} {pages : List LoadedPage}
  {before after : Memory UInt8}

theorem congr (loaded : Loaded elf claims pages before)
    (same : ∀ owner va, more owner va ↔ claims owner va) : Loaded elf more pages before := by
  have equal : more = claims := funext fun owner => funext fun va => propext (same owner va)
  rw [equal]
  exact loaded

theorem nil (none : ∀ owner va, ¬ claims owner va) : Loaded elf claims [] before where
  nodup := nodup_nil
  claimed := by
    intro va
    constructor
    · nofun
    · rintro ⟨owner, claim⟩
      exact absurd claim (none owner va)
  permissions := nofun
  bytes := nofun

theorem add (loaded : Loaded elf claims pages before) (owner : Owner) (page : LoadedPage)
    (fresh : page.va ∉ pages.map LoadedPage.va)
    (permissions : Owner.permissions owner = .ok page.permissions)
    (bytes : ∀ i < granule4Kib, after (page.frame + i) = Owner.byteAt elf owner (page.va + i))
    (elsewhere : ∀ place, ¬ (frameAt page.frame).Holds place → after place = before place)
    (grown : ∀ other va, more other va ↔ claims other va ∨ other = owner ∧ va = page.va) :
    Loaded elf more (pages ++ [page]) after := by
  -- the new page has no owner but the one it is mapped for, and no old page gets a new one
  have unclaimed : ∀ other, ¬ claims other page.va := by
    intro other claim
    exact fresh ((loaded.claimed page.va).mpr ⟨other, claim⟩)
  have newOwner : ∀ other, more other page.va → other = owner := by
    intro other claim
    rcases (grown other page.va).mp claim with old | ⟨rfl, -⟩
    · exact absurd old (unclaimed other)
    · rfl
  have oldOwner : ∀ old ∈ pages, ∀ other, more other old.va → claims other old.va := by
    intro old listed other claim
    rcases (grown other old.va).mp claim with same | ⟨-, same⟩
    · exact same
    · rw [← same] at fresh
      exact absurd (mem_map_of_mem listed) fresh
  refine ⟨?_, ?_, ?_, ?_⟩
  · rw [map_append, map_singleton]
    rw [nodup_append]
    refine ⟨loaded.nodup, pairwise_singleton _ _, ?_⟩
    intro va old other new same
    rw [mem_singleton] at new
    rw [same, new] at old
    exact fresh old
  · intro va
    rw [map_append, map_singleton, mem_append, mem_singleton, loaded.claimed]
    constructor
    · rintro (⟨other, claim⟩ | same)
      · exact ⟨other, (grown other va).mpr (.inl claim)⟩
      · exact ⟨owner, (grown owner va).mpr (.inr ⟨rfl, same⟩)⟩
    · rintro ⟨other, claim⟩
      rcases (grown other va).mp claim with old | ⟨-, same⟩
      · exact .inl ⟨other, old⟩
      · exact .inr same
  · intro any listed other claim
    rcases mem_append.mp listed with old | new
    · exact loaded.permissions any old other (oldOwner any old other claim)
    rw [mem_singleton] at new
    rw [new] at claim ⊢
    rw [newOwner other claim]
    exact permissions
  · intro separate any listed other claim i bound
    unfold frames at separate
    rw [map_append, separate_append] at separate
    obtain ⟨oldSeparate, -, apart⟩ := separate
    rcases mem_append.mp listed with old | new
    · have away : ¬ (frameAt page.frame).Holds (any.frame + i) := by
        apply Extent.Apart.not_holds (apart _ (mem_map_of_mem old) _ (by simp))
        unfold frameAt Extent.Holds
        dsimp only
        omega
      rw [elsewhere _ away]
      exact loaded.bytes oldSeparate any old other (oldOwner any old other claim) i bound
    · rw [mem_singleton] at new
      rw [new] at claim ⊢
      rw [newOwner other claim]
      exact bytes i bound

end Loaded

/-! ## The pages of one segment -/

def claimed (done : List LoadSegment) : Owner → Nat → Prop
  | none, _ => False
  | some segment, va => segment ∈ done ∧ va % granule4Kib = 0 ∧ segment.Touches va

def claimedBelow (done : List LoadSegment) (segment : LoadSegment) (limit : Nat) (owner : Owner)
    (va : Nat) : Prop :=
  claimed done owner va ∨
    owner = some segment ∧ va % granule4Kib = 0 ∧ segment.Touches va ∧ va < limit

section Segment

variable {elf : Elf64} {mapper : PrivatePageMapper Space}
  {Pages : Space → List LoadedPage → Prop} {done : List LoadSegment} {segment : LoadSegment}
  {permissions : Nat}

theorem loadPage_meets (tracks : Tracks mapper Pages) (inBounds : elf.InBounds segment)
    {pageVa : Nat} (room : pageVa + granule4Kib ≤ u64Max) {pages : List LoadedPage}
    {before : LoadState Space} (listed : Pages before.space pages) :
    Action.Meets (loadPage mapper segment permissions (elf.segmentBytes segment)
        (segment.vaddr + (elf.segmentBytes segment).length) pageVa) before
      fun _ after => ∃ frame, Pages after.space (pages ++ [⟨pageVa, permissions, frame⟩]) ∧
        (∀ i < granule4Kib, after.memory (frame + i) = elf.byteAt segment (pageVa + i)) ∧
        ∀ place, ¬ (frameAt frame).Holds place → after.memory place = before.memory place := by
  have file : segment.vaddr + (elf.segmentBytes segment).length ≤ u64Max := by
    have content := inBounds.content
    have address := inBounds.address
    rw [Elf64.segmentBytes_length inBounds]
    omega
  apply (mapPage_meets tracks listed pageVa permissions).bind
  rintro frame mapped ⟨more, kept⟩
  apply (fillPage_meets frame mapped).bind
  rintro _ filled rfl
  apply (copyContent_meets segment _ pageVa frame room file _).mono
  rintro _ after ⟨space, inside, outside⟩
  refine ⟨frame, ?_, ?_, ?_⟩
  · rw [space]
    exact more
  · intro i bound
    have held : (frameAt frame).Holds (frame + i) := by
      unfold frameAt Extent.Holds
      dsimp only
      omega
    rw [inside i bound, Elf64.byteAt_eq inBounds]
    exact if_congr Iff.rfl rfl (fill_held _ _ held)
  · intro place away
    rw [outside place away, ← kept]
    exact fill_elsewhere _ _ away

theorem claimed_append (owner : Owner) (va : Nat) :
    claimed (done ++ [segment]) owner va ↔ claimed done owner va ∨
      owner = some segment ∧ va % granule4Kib = 0 ∧ segment.Touches va := by
  cases owner with
  | none => simp [claimed]
  | some other =>
    simp only [claimed, mem_append, mem_singleton, Option.some.injEq]
    constructor
    · rintro ⟨old | rfl, aligned, touches⟩
      · exact .inl ⟨old, aligned, touches⟩
      · exact .inr ⟨rfl, aligned, touches⟩
    · rintro (⟨old, aligned, touches⟩ | ⟨rfl, aligned, touches⟩)
      · exact ⟨.inl old, aligned, touches⟩
      · exact ⟨.inr rfl, aligned, touches⟩

variable {limit : Nat}

theorem claimedBelow_first (first : limit ≤ segment.vaddr)
    (aligned : limit % granule4Kib = 0) (owner : Owner) (va : Nat) :
    claimedBelow done segment limit owner va ↔ claimed done owner va := by
  unfold claimedBelow
  rw [or_iff_left]
  rintro ⟨-, whole, ⟨-, -, above⟩, below⟩
  unfold granule4Kib at *
  omega

theorem claimedBelow_next (aligned : limit % granule4Kib = 0)
    (touches : segment.Touches limit) (owner : Owner) (va : Nat) :
    claimedBelow done segment (limit + granule4Kib) owner va ↔
      claimedBelow done segment limit owner va ∨ owner = some segment ∧ va = limit := by
  unfold claimedBelow
  rw [or_assoc]
  apply or_congr_right
  constructor
  · rintro ⟨own, whole, touched, below⟩
    by_cases same : va = limit
    · exact .inr ⟨own, same⟩
    · refine .inl ⟨own, whole, touched, ?_⟩
      unfold granule4Kib at *
      omega
  · rintro (⟨own, whole, touched, below⟩ | ⟨own, rfl⟩)
    · exact ⟨own, whole, touched, Nat.lt_add_right _ below⟩
    · exact ⟨own, aligned, touches, Nat.lt_add_of_pos_right (by decide)⟩

theorem claimedBelow_last
    (last : (segment.vaddr + segment.memsz - 1) / granule4Kib * granule4Kib < limit)
    (owner : Owner) (va : Nat) :
    claimed (done ++ [segment]) owner va ↔ claimedBelow done segment limit owner va := by
  rw [claimed_append]
  apply or_congr_right
  constructor
  · rintro ⟨own, whole, touched⟩
    refine ⟨own, whole, touched, ?_⟩
    have inside := touched.2.1
    unfold granule4Kib at *
    omega
  · rintro ⟨own, whole, touched, -⟩
    exact ⟨own, whole, touched⟩

theorem segmentWindowEnd_eq : segmentWindowEnd = 0xBFFEC000 := by decide

theorem loadPages_meets (tracks : Tracks mapper Pages) (inBounds : elf.InBounds segment)
    (window : segment.InWindow) (nonempty : 0 < segment.memsz)
    (allowed : pagePermissions segment.flags = .ok permissions) {lastPage : Nat}
    (last : lastPage = (segment.vaddr + segment.memsz - 1) / granule4Kib * granule4Kib) :
    ∀ fuel pageVa pages (state : LoadState Space), pageVa % granule4Kib = 0 →
      segment.vaddr < pageVa + granule4Kib → pageVa ≤ lastPage + granule4Kib →
      (lastPage + granule4Kib - pageVa) / granule4Kib < fuel → Pages state.space pages →
      Loaded elf (claimedBelow done segment pageVa) pages state.memory →
      Action.Meets (loadPages mapper segment permissions (elf.segmentBytes segment)
          (segment.vaddr + (elf.segmentBytes segment).length) lastPage fuel pageVa
          (pages.map LoadedPage.va)) state
        fun mapped after => ∃ pages, Pages after.space pages ∧
          mapped = pages.map LoadedPage.va ∧
          Loaded elf (claimed (done ++ [segment])) pages after.memory := by
  intro fuel
  induction fuel with
  | zero =>
    intro pageVa pages state _ _ _ enough
    exact absurd enough (Nat.not_lt_zero _)
  | succ fuel ih =>
    intro pageVa pages state aligned reached within enough listed loaded
    rw [loadPages]
    by_cases finished : lastPage < pageVa
    · rw [if_pos finished]
      apply meets_pure
      rw [last] at finished
      exact ⟨pages, listed, rfl, loaded.congr (claimedBelow_last finished)⟩
    rw [if_neg finished]
    have touches : segment.Touches pageVa := by
      refine ⟨nonempty, ?_, reached⟩
      unfold granule4Kib at last
      omega
    have room : pageVa + granule4Kib ≤ u64Max := by
      have inside := touches.2.1
      have upper := window.2
      rw [segmentWindowEnd_eq] at upper
      unfold granule4Kib u64Max
      omega
    apply meets_checked_bind (failIf_meets _ _)
    intro _ fresh
    apply (loadPage_meets tracks inBounds room listed).bind
    rintro _ after ⟨frame, more, inside, outside⟩
    rw [addU64_eq_ok room, checked_ok_bind]
    have grown := loaded.add (some segment) ⟨pageVa, permissions, frame⟩
      fresh allowed inside outside (claimedBelow_next aligned touches)
    have vas : pages.map LoadedPage.va ++ [pageVa] =
        (pages ++ [(⟨pageVa, permissions, frame⟩ : LoadedPage)]).map LoadedPage.va := by
      rw [map_append]
      rfl
    rw [vas]
    apply ih (pageVa + granule4Kib) _ after _ _ _ _ more grown
    · unfold granule4Kib at *
      omega
    · omega
    · omega
    · unfold granule4Kib at *
      omega

end Segment

end Loader

end Runix.Arm
