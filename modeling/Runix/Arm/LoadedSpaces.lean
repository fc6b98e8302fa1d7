import Runix.Arm.LoadedImages
import Runix.Arm.Mappings
import Mathlib.Data.List.Nodup

/-!
# An image in an address space

The mapper of an `AddressSpace` is `map_private_page_with`.  What the loader maps is what the
machine finds when it walks the tables of the space, and the frames are new pages that lie apart,
so the bytes behind an address are the ones the loader has put there.
-/

namespace Runix.Arm

open Lib.ByteStrings Lib.Checked Lib.Words Lib.Extents Loader Function List

/-- A space with the answers the allocator will give to the calls to come. -/
structure SuppliedSpace where
  map : MapState
  supplies : List Supply

namespace SuppliedSpace

variable (state : SuppliedSpace)

/-- Past the last answer there is no memory. -/
def supply : Supply :=
  state.supplies.headD ⟨none, none, none, false⟩

/-- `map_page` of an `AddressSpace`. -/
def mapPage : PrivatePageMapper SuppliedSpace := fun state va permissions =>
  match state.map.mapPrivatePageWith va permissions state.supply with
  | (.error error, map) => (.error (.mapFailed va error.message), ⟨map, state.supplies.tail⟩)
  | (.ok frame, map) => (.ok frame, ⟨map, state.supplies.tail⟩)

def answers : List Nat :=
  state.supplies.flatMap Supply.pages

theorem answers_eq :
    state.answers = state.supply.pages ++ state.supplies.tail.flatMap Supply.pages := by
  unfold answers supply
  cases state.supplies with
  | nil => rfl
  | cons first rest => rfl

end SuppliedSpace

def Loader.LoadedPage.descriptor (page : LoadedPage) : Nat :=
  normal4KibPageDescriptor page.frame page.permissions

def mappedBy (base : Nat → Option Nat) (pages : List LoadedPage) : Nat → Option Nat :=
  pages.foldl (fun mapped page => update mapped (pageOf page.va) (some page.descriptor))
    base

section Mapped

variable {base : Nat → Option Nat}

theorem mappedBy_append (pages : List LoadedPage) (page : LoadedPage) :
    mappedBy base (pages ++ [page]) =
      update (mappedBy base pages) (pageOf page.va) (some page.descriptor) := by
  unfold mappedBy
  rw [foldl_append]
  rfl

theorem mappedBy_cases (pages : List LoadedPage) (number : Nat) :
    (∃ page ∈ pages, pageOf page.va = number ∧
      mappedBy base pages number = some page.descriptor) ∨
    ((∀ page ∈ pages, pageOf page.va ≠ number) ∧ mappedBy base pages number = base number) := by
  induction pages generalizing base with
  | nil =>
    refine .inr ⟨?_, rfl⟩
    intro page listed
    cases listed
  | cons first rest ih =>
    have later : mappedBy base (first :: rest) =
        mappedBy (update base (pageOf first.va) (some first.descriptor)) rest := rfl
    rw [later]
    rcases @ih (update base (pageOf first.va) (some first.descriptor)) with
      ⟨page, listed, same, found⟩ | ⟨absent, found⟩
    · exact .inl ⟨page, mem_cons_of_mem _ listed, same, found⟩
    rw [found]
    by_cases here : pageOf first.va = number
    · rw [← here, update_self]
      exact .inl ⟨first, mem_cons_self, rfl, rfl⟩
    refine .inr ⟨?_, update_of_ne (Ne.symm here) _ _⟩
    intro page listed
    rcases mem_cons.mp listed with rfl | there
    · exact here
    · exact absent page there

variable {pages : List LoadedPage}

theorem mappedBy_of_not_mem {number : Nat}
    (absent : ∀ page ∈ pages, pageOf page.va ≠ number) : mappedBy base pages number = base number := by
  rcases mappedBy_cases pages number with ⟨page, listed, same, -⟩ | ⟨-, found⟩
  · exact absurd same (absent page listed)
  · exact found

theorem mappedBy_of_mem (nodup : (pages.map fun page => pageOf page.va).Nodup) {page : LoadedPage}
    (listed : page ∈ pages) : mappedBy base pages (pageOf page.va) = some page.descriptor := by
  rcases mappedBy_cases pages (pageOf page.va) with ⟨other, known, same, found⟩ | ⟨absent, -⟩
  · rw [found, inj_on_of_nodup_map nodup known listed same]
  · exact absurd rfl (absent page listed)

end Mapped

/-- The space holds what the loader mapped on top of what was there. -/
structure Holding (kernel : Nat → Nat) (base : Nat → Option Nat) (owned : List Nat)
    (state : SuppliedSpace) (pages : List LoadedPage) : Prop where
  tables : ∃ directory,
    Tables kernel state.map.memory state.map.space directory (mappedBy base pages)
  ledger : state.map.space.ownedPages = owned ++ pages.map LoadedPage.frame
  free : PageSet (state.answers ++ (state.map.space.ownedTables ++ state.map.space.ownedPages))
  inside : ∀ page ∈ pages, page.va % granule4Kib = 0 ∧
    privateRegionBase ≤ page.va ∧ page.va < privateRegionEnd

namespace SuppliedSpace

variable {state after : SuppliedSpace}

/-- After a call everything that is owned or can still be handed out was so before. -/
theorem pages_subperm {map : MapState} (extended : Extends state.map map state.supply.pages) :
    (SuppliedSpace.answers ⟨map, state.supplies.tail⟩ ++
        (map.space.ownedTables ++ map.space.ownedPages)).Subperm
      (state.answers ++ (state.map.space.ownedTables ++ state.map.space.ownedPages)) := by
  obtain ⟨used, part, -, perm⟩ := extended.ledger
  have swapped := (perm.append_left (state.supplies.tail.flatMap Supply.pages)).trans
    (perm_append_comm_assoc _ _ _)
  apply swapped.subperm.trans
  rw [answers_eq, append_assoc]
  exact (part.append (List.Sublist.refl _)).subperm

theorem call_free
    (free : PageSet (state.answers ++
      (state.map.space.ownedTables ++ state.map.space.ownedPages))) :
    PageSet (state.supply.pages ++ state.map.space.ownedTables) := by
  apply free.subperm
  rw [answers_eq]
  exact ((sublist_append_left _ _).append (sublist_append_left _ _)).subperm

theorem mapPage_ok {kernel : Nat → Nat} {directory : Directory} {mapped : Nat → Option Nat}
    (tables : Tables kernel state.map.memory state.map.space directory mapped)
    (free : PageSet (state.answers ++ (state.map.space.ownedTables ++ state.map.space.ownedPages)))
    {va permissions frame : Nat} (result : mapPage state va permissions = (.ok frame, after)) :
    after.supplies = state.supplies.tail ∧
      Extends state.map after.map state.supply.pages ∧
      (∃ grown, Tables kernel after.map.memory after.map.space grown
        (update mapped (pageOf va)
          (some (normal4KibPageDescriptor frame permissions)))) ∧
      (va % granule4Kib = 0 ∧ privateRegionBase ≤ va ∧ va < privateRegionEnd) ∧
      after.map.space.ownedPages = state.map.space.ownedPages ++ [frame] := by
  obtain ⟨extended, grown, later⟩ :=
    MapState.mapPrivatePageWith_spec state.map tables va permissions (call_free free)
  unfold mapPage at result
  generalize call : state.map.mapPrivatePageWith va permissions state.supply = outcome at *
  obtain ⟨outcome, map⟩ := outcome
  cases outcome with
  | error error => cases result
  | ok page =>
    cases result
    obtain ⟨aligned, inside, ledger⟩ := MapState.mapPrivatePageWith_ok call
    exact ⟨rfl, extended, ⟨grown, later⟩, ⟨aligned, inside⟩, ledger⟩

end SuppliedSpace

theorem holding_tracks (kernel : Nat → Nat) (base : Nat → Option Nat) (owned : List Nat) :
    Tracks SuppliedSpace.mapPage (Holding kernel base owned) := by
  intro state pages va permissions frame after holding result
  obtain ⟨directory, tables⟩ := holding.tables
  obtain ⟨supplies, extended, ⟨grown, later⟩, place, ledger⟩ :=
    SuppliedSpace.mapPage_ok tables holding.free result
  obtain ⟨map, rest⟩ := after
  subst supplies
  refine ⟨⟨grown, ?_⟩, ?_, holding.free.subperm (SuppliedSpace.pages_subperm extended), ?_⟩
  · rw [mappedBy_append]
    exact later
  · rw [ledger, holding.ledger, map_append, append_assoc]
    rfl
  · intro other listed
    rcases mem_append.mp listed with old | new
    · exact holding.inside other old
    · rw [mem_singleton.mp new]
      exact place

/-! ## The memory after a load -/

theorem pageOf_private {va : Nat} (high : va < privateRegionEnd) : pageOf va = va / granule4Kib := by
  unfold pageOf
  rw [Nat.mod_eq_of_lt]
  exact Nat.lt_of_lt_of_le high (by decide)

namespace Holding

variable {kernel : Nat → Nat} {base : Nat → Option Nat} {owned : List Nat} {state : SuppliedSpace}
  {pages : List LoadedPage}

variable (holding : Holding kernel base owned state pages)

include holding

theorem frames : PageSet (pages.map LoadedPage.frame) := by
  have free := holding.free
  rw [holding.ledger] at free
  apply free.subperm
  apply List.Sublist.subperm
  apply sublist_append_of_sublist_right
  apply sublist_append_of_sublist_right
  exact sublist_append_right _ _

theorem separate : Separate (Loader.frames pages) := by
  have separate := holding.frames.separate
  rw [map_map] at separate
  exact separate

theorem numbers_nodup
    (nodup : (pages.map LoadedPage.va).Nodup) : (pages.map fun page => pageOf page.va).Nodup := by
  unfold List.Nodup at nodup ⊢
  rw [pairwise_map] at nodup ⊢
  apply nodup.imp_of_mem
  intro first second one two different same
  obtain ⟨aligned, -, high⟩ := holding.inside first one
  obtain ⟨other, -, upper⟩ := holding.inside second two
  rw [pageOf_private high, pageOf_private upper] at same
  unfold granule4Kib at *
  omega

theorem walk_page (nodup : (pages.map LoadedPage.va).Nodup) {page : LoadedPage}
    (listed : page ∈ pages) {i : Nat} (bound : i < granule4Kib) :
    walk state.map.memory state.map.space.root (page.va + i) = some (3, page.descriptor) := by
  obtain ⟨directory, tables⟩ := holding.tables
  obtain ⟨aligned, low, high⟩ := holding.inside page listed
  have top : page.va + i < privateRegionEnd := by
    have whole : privateRegionEnd = 0xC0000000 := by decide
    unfold granule4Kib at *
    omega
  have number : pageOf (page.va + i) = pageOf page.va := by
    rw [pageOf_private top, pageOf_private high]
    unfold granule4Kib at *
    omega
  rw [tables.walk_private (tableIndex_private (Nat.le_add_right_of_le low) top), number,
    mappedBy_of_mem (holding.numbers_nodup nodup) listed]
  rfl

theorem walk_other {va : Nat} (low : privateRegionBase ≤ va) (high : va < privateRegionEnd)
    (absent : va - va % granule4Kib ∉ pages.map LoadedPage.va) :
    walk state.map.memory state.map.space.root va =
      (base (pageOf va)).map fun descriptor => (3, descriptor) := by
  obtain ⟨directory, tables⟩ := holding.tables
  rw [tables.walk_private (tableIndex_private low high), mappedBy_of_not_mem]
  intro page listed same
  apply absent
  obtain ⟨aligned, -, upper⟩ := holding.inside page listed
  rw [pageOf_private high, pageOf_private upper] at same
  have equal : page.va = va - va % granule4Kib := by
    unfold granule4Kib at *
    omega
  rw [← equal]
  exact mem_map_of_mem listed

end Holding

structure ExactImage (elf : Elf64) (pages : List LoadedPage) (before after : MapState)
    (memory : Memory UInt8) (loaded : LoadedImage) : Prop where
  mapped : ∀ page ∈ pages, ∀ i < granule4Kib,
    walk after.memory after.space.root (page.va + i) = some (3, page.descriptor)
  unmapped : ∀ va, privateRegionBase ≤ va → va < privateRegionEnd →
    va - va % granule4Kib ∉ pages.map LoadedPage.va → walk after.memory after.space.root va = none
  once : (pages.map LoadedPage.va).Nodup
  frames : after.space.ownedPages = before.space.ownedPages ++ pages.map LoadedPage.frame
  apart : Separate (Loader.frames pages)
  exactly : ∀ va, va ∈ pages.map LoadedPage.va ↔ va % granule4Kib = 0 ∧
    ((∃ segment ∈ elf.segments, segment.Touches va) ∨ stackBase ≤ va ∧ va < stackTop)
  segments : ∀ page ∈ pages, ∀ segment ∈ elf.segments, segment.Touches page.va →
    pagePermissions segment.flags = .ok page.permissions ∧
      segmentWindowBase ≤ page.va ∧ page.va + granule4Kib ≤ segmentWindowEnd
  stack : ∀ page ∈ pages, stackBase ≤ page.va → page.permissions = apEl0Rw ||| uxn ||| pxn
  content : ∀ page ∈ pages, ∀ segment ∈ elf.segments, ∀ i < granule4Kib,
    segment.vaddr ≤ page.va + i → page.va + i < segment.vaddr + segment.filesz →
      elf.image.bytes[segment.offset + (page.va + i - segment.vaddr)]? =
        some (memory (page.frame + i))
  zero : ∀ page ∈ pages, ∀ i < granule4Kib,
    (∀ segment ∈ elf.segments,
      ¬ (segment.vaddr ≤ page.va + i ∧ page.va + i < segment.vaddr + segment.filesz)) →
      memory (page.frame + i) = 0
  oneOf : ∀ page ∈ pages,
    ¬ (el0Writable page.descriptor = true ∧ el0Executable page.descriptor = true)
  entry : ∃ segment ∈ elf.segments, segment.isExecutable = true ∧
    segment.vaddr ≤ elf.entry ∧ elf.entry < segment.vaddr + segment.memsz
  guard : ∀ va, segmentWindowEnd ≤ va → va < stackBase →
    walk after.memory after.space.root va = none
  image : loaded = ⟨elf.entry, stackTop, stackBase, pages.length - 4, 4⟩

theorem owner_permissions_one_of {owner : Owner} {permissions : Nat}
    (allowed : Owner.permissions owner = .ok permissions) :
    ¬ (el0Writable permissions = true ∧ el0Executable permissions = true) := by
  cases owner with
  | none =>
    cases allowed
    decide
  | some segment =>
    unfold Owner.permissions pagePermissions at allowed
    dsimp only at allowed
    revert allowed
    cases decide (segment.flags &&& pfR ≠ 0) <;> cases decide (segment.flags &&& pfW ≠ 0) <;>
      cases decide (segment.flags &&& pfX ≠ 0) <;> intro allowed <;> cases allowed <;> decide

theorem laidOut_iff (segments : List LoadSegment) (va : Nat) :
    (∃ owner, laidOut segments 4 owner va) ↔ va % granule4Kib = 0 ∧
      ((∃ segment ∈ segments, segment.Touches va) ∨ stackBase ≤ va ∧ va < stackTop) := by
  have base : stackBase = 0xBFFFC000 := stackBase_eq
  have top : stackTop = 0xC0000000 := by decide
  constructor
  · rintro ⟨owner, claim | ⟨rfl, index, bound, rfl⟩⟩
    · cases owner with
      | none => exact absurd claim not_false
      | some segment =>
        obtain ⟨known, aligned, touches⟩ := claim
        exact ⟨aligned, .inl ⟨segment, known, touches⟩⟩
    · rw [base, top]
      unfold granule4Kib
      omega
  · rintro ⟨aligned, ⟨segment, known, touches⟩ | ⟨low, high⟩⟩
    · exact ⟨some segment, .inl ⟨known, aligned, touches⟩⟩
    · refine ⟨none, .inr ⟨rfl, (va - stackBase) / granule4Kib, ?_⟩⟩
      unfold granule4Kib at *
      omega

theorem LoadSegment.InWindow.page {segment : LoadSegment} (window : segment.InWindow) {va : Nat}
    (aligned : va % granule4Kib = 0) (touches : segment.Touches va) :
    segmentWindowBase ≤ va ∧ va + granule4Kib ≤ segmentWindowEnd := by
  obtain ⟨low, high⟩ := window
  obtain ⟨-, below, above⟩ := touches
  have base : segmentWindowBase = 0x80000000 := by decide
  rw [segmentWindowEnd_eq] at high ⊢
  unfold granule4Kib at *
  omega

section Exact

variable {elf : Elf64} {pages : List LoadedPage} {memory : Memory UInt8} {loaded : LoadedImage}

theorem touches_of_content {segment : LoadSegment} (inBounds : elf.InBounds segment) {va i : Nat}
    (bound : i < granule4Kib) (low : segment.vaddr ≤ va + i)
    (high : va + i < segment.vaddr + segment.filesz) : segment.Touches va := by
  have content := inBounds.content
  unfold LoadSegment.Touches
  omega

section

variable (complete : Complete elf pages memory loaded) {page : LoadedPage}

include complete

theorem Loader.Complete.content (valid : elf.Valid) (separate : Separate (Loader.frames pages))
    (listed : page ∈ pages) {segment : LoadSegment} (known : segment ∈ elf.segments) {i : Nat}
    (bound : i < granule4Kib) (low : segment.vaddr ≤ page.va + i)
    (high : page.va + i < segment.vaddr + segment.filesz) :
    elf.image.bytes[segment.offset + (page.va + i - segment.vaddr)]? =
      some (memory (page.frame + i)) := by
  have inBounds := valid.segments segment known
  have file := inBounds.file
  have touches := touches_of_content inBounds bound low high
  obtain ⟨aligned, -⟩ := (laidOut_iff _ _).mp
    ((complete.loaded.claimed page.va).mp (mem_map_of_mem listed))
  have claim : laidOut elf.segments 4 (some segment) page.va := .inl ⟨known, aligned, touches⟩
  have byte := complete.loaded.bytes separate page listed _ claim i bound
  have inside : segment.offset + (page.va + i - segment.vaddr) < elf.image.bytes.length := by omega
  rw [byte, Owner.byteAt, Elf64.byteAt, if_pos ⟨low, high⟩, getD_eq_getElem?_getD,
    List.getElem?_eq_getElem inside]
  rfl

theorem Loader.Complete.zero (separate : Separate (Loader.frames pages)) (listed : page ∈ pages)
    {i : Nat} (bound : i < granule4Kib) (outside : ∀ segment ∈ elf.segments,
      ¬ (segment.vaddr ≤ page.va + i ∧ page.va + i < segment.vaddr + segment.filesz)) :
    memory (page.frame + i) = 0 := by
  obtain ⟨owner, claim⟩ := (complete.loaded.claimed page.va).mp (mem_map_of_mem listed)
  rw [complete.loaded.bytes separate page listed owner claim i bound]
  cases owner with
  | none => rfl
  | some segment =>
    rcases claim with claim | ⟨wrong, -⟩
    · exact if_neg (outside segment claim.1)
    · cases wrong

theorem Loader.Complete.stack (listed : page ∈ pages) (high : stackBase ≤ page.va) :
    page.permissions = apEl0Rw ||| uxn ||| pxn := by
  obtain ⟨owner, claim⟩ := (complete.loaded.claimed page.va).mp (mem_map_of_mem listed)
  have allowed := complete.loaded.permissions page listed owner claim
  rcases claim with claim | ⟨rfl, -⟩
  · have below := claimed_lt_guard complete.window claim
    rw [segmentWindowEnd_eq] at below
    rw [stackBase_eq] at high
    omega
  · exact (Except.ok.inj allowed).symm

theorem Loader.Complete.oneOf (usable : PageSet (pages.map LoadedPage.frame))
    (listed : page ∈ pages) :
    ¬ (el0Writable page.descriptor = true ∧ el0Executable page.descriptor = true) := by
  obtain ⟨owner, claim⟩ := (complete.loaded.claimed page.va).mp (mem_map_of_mem listed)
  have allowed := owner_permissions_one_of (complete.loaded.permissions page listed owner claim)
  obtain ⟨aligned, bounded⟩ := usable.usable page.frame (mem_map_of_mem listed)
  unfold el0Writable el0Executable LoadedPage.descriptor at *
  rw [testBit_pageDescriptor _ aligned bounded (by decide),
    testBit_pageDescriptor _ aligned bounded (by decide),
    testBit_pageDescriptor _ aligned bounded (by decide)]
  exact allowed

end

theorem Loader.Complete.gap (complete : Complete elf pages memory loaded) {va : Nat}
    (low : segmentWindowEnd ≤ va) (high : va < stackBase) :
    va - va % granule4Kib ∉ pages.map LoadedPage.va := by
  intro listed
  obtain ⟨owner, claim⟩ := (complete.loaded.claimed _).mp listed
  rw [stackBase_eq] at high
  rcases claim with claim | ⟨rfl, index, -, place⟩
  · have below := claimed_lt_guard complete.window claim
    rw [segmentWindowEnd_eq] at low below
    unfold granule4Kib at below
    omega
  · rw [stackBase_eq] at place
    omega

theorem Loader.Complete.exact (complete : Complete elf pages memory loaded) (valid : elf.Valid)
    {kernel : Nat → Nat} {before : MapState} {state : SuppliedSpace}
    (holding : Holding kernel (fun _ => none) before.space.ownedPages state pages) :
    ExactImage elf pages before state.map memory loaded := by
  have separate := holding.separate
  have nodup := complete.loaded.nodup
  have exactly : ∀ va, va ∈ pages.map LoadedPage.va ↔ va % granule4Kib = 0 ∧
      ((∃ segment ∈ elf.segments, segment.Touches va) ∨ stackBase ≤ va ∧ va < stackTop) :=
    fun va => (complete.loaded.claimed va).trans (laidOut_iff elf.segments va)
  refine {
    mapped := fun page listed i bound => holding.walk_page nodup listed bound
    unmapped := fun va low high absent => holding.walk_other low high absent
    once := nodup
    frames := holding.ledger
    apart := separate
    exactly := exactly
    segments := ?_
    stack := fun page listed high => complete.stack listed high
    content := fun page listed segment known i bound low high =>
      complete.content valid separate listed known bound low high
    zero := fun page listed i bound outside => complete.zero separate listed bound outside
    oneOf := fun page listed => complete.oneOf holding.frames listed
    entry := complete.entry
    guard := ?_
    image := complete.image }
  · intro page listed segment known touches
    have aligned := (holding.inside page listed).1
    have window := complete.window segment known touches.1
    exact ⟨complete.loaded.permissions page listed (some segment) (.inl ⟨known, aligned, touches⟩),
      window.page aligned touches⟩
  · intro va low high
    apply holding.walk_other _ _ (complete.gap low high)
    · exact Nat.le_trans (by decide) low
    · exact Nat.lt_trans high (by decide)

end Exact

/-- For every image neither the parser nor, whatever the mapper does, the loader panics; and a
load into a space with no private page leaves exactly the image and the stack. -/
theorem parsed_image_loads_exactly (image : Image) :
    Elf64.parse image ≠ .error .panicked ∧
    ∀ elf, Elf64.parse image = .ok elf →
      elf = Elf64.ofHeader image ∧
      (∀ (Space : Type) (mapper : PrivatePageMapper Space) (state : LoadState Space),
        ((load mapper elf).run.run state).1 ≠ .error .panicked) ∧
      ∀ (kernel : Nat → Nat) (directory : Directory) (map : MapState) (supplies : List Supply)
        (memory : Memory UInt8),
        Tables kernel map.memory map.space directory (fun _ => none) →
        PageSet (supplies.flatMap Supply.pages ++
          (map.space.ownedTables ++ map.space.ownedPages)) →
        ∀ loaded,
          ((load SuppliedSpace.mapPage elf).run.run ⟨⟨map, supplies⟩, memory⟩).1 = .ok loaded →
          ∃ pages, ExactImage elf pages map
            ((load SuppliedSpace.mapPage elf).run.run ⟨⟨map, supplies⟩, memory⟩).2.space.map
            ((load SuppliedSpace.mapPage elf).run.run ⟨⟨map, supplies⟩, memory⟩).2.memory
            loaded := by
  have parsed := Elf64.parse_meets image
  refine ⟨parsed.not_panicked, ?_⟩
  intro elf result
  obtain ⟨header, valid⟩ := parsed.of_eq_ok result
  refine ⟨header, ?_, ?_⟩
  · intro Space mapper state
    -- nothing is asked of the mapper, so nothing is followed
    have follows : Tracks mapper (fun _ _ => True) := fun _ _ _ _ _ _ _ _ => trivial
    exact (load_meets follows valid trivial).not_panicked
  · intro kernel directory map supplies memory tables free loaded success
    have start : Holding kernel (fun _ => none) map.space.ownedPages ⟨map, supplies⟩ [] := by
      refine ⟨⟨directory, tables⟩, (append_nil _).symm, free, ?_⟩
      intro page listed
      cases listed
    obtain ⟨pages, holding, complete⟩ :=
      (load_meets (holding_tracks kernel _ _) valid start).of_eq_ok success
    exact ⟨pages, complete.exact valid holding⟩

def oneSegment (vaddr : Nat) : Bytes :=
  elfMagic ++ [2, 1, 1, 0] ++ List.replicate 8 0 ++ leBytes 2 2 ++ leBytes 2 183 ++ leBytes 4 1 ++
    leBytes 8 vaddr ++ leBytes 8 64 ++ leBytes 8 0 ++ leBytes 4 0 ++ leBytes 2 64 ++ leBytes 2 56 ++
    leBytes 2 1 ++ List.replicate 6 0 ++ leBytes 4 1 ++ leBytes 4 5 ++ leBytes 8 120 ++
    leBytes 8 vaddr ++ leBytes 8 0 ++ leBytes 8 4 ++ leBytes 8 8 ++ leBytes 8 4096 ++ [1, 2, 3, 4]

def smallImage : Image := ⟨oneSegment 0x80000078, by decide +kernel⟩

def emptySpace : MapState :=
  ⟨fun _ => 0, ⟨0x41000000, [0x41000000], 0x40080000, [], []⟩, []⟩

def smallSupplies : List Supply :=
  [⟨some 0x41001000, some 0x41002000, some 0x41003000, true⟩,
    ⟨none, some 0x41004000, some 0x41005000, true⟩, ⟨none, none, some 0x41006000, true⟩,
    ⟨none, none, some 0x41007000, true⟩, ⟨none, none, some 0x41008000, true⟩]

theorem emptySpace_tables :
    Tables (fun _ => 0) emptySpace.memory emptySpace.space ⟨none, fun _ => none⟩ (fun _ => none) where
  owned := ⟨by decide, by decide⟩
  root := by decide
  second := by simp
  third := by simp
  single := by simp
  linked := by simp
  window := rfl
  shared := fun _ _ _ => rfl
  middle := by simp
  leaves := by simp
  kinds := by simp
  reached := by simp

theorem small_image_loads :
    ∃ elf loaded pages, Elf64.parse smallImage = .ok elf ∧
      ((load SuppliedSpace.mapPage elf).run.run
        ⟨⟨emptySpace, smallSupplies⟩, fun _ => 0xAA⟩).1 = .ok loaded ∧
      ExactImage elf pages emptySpace
        ((load SuppliedSpace.mapPage elf).run.run
          ⟨⟨emptySpace, smallSupplies⟩, fun _ => 0xAA⟩).2.space.map
        ((load SuppliedSpace.mapPage elf).run.run
          ⟨⟨emptySpace, smallSupplies⟩, fun _ => 0xAA⟩).2.memory loaded := by
  obtain ⟨elf, parsed⟩ := eq_ok_of_isOk
    (show (Elf64.parse smallImage).isOk = true by decide +kernel)
  obtain ⟨rfl, -, loads⟩ := (parsed_image_loads_exactly smallImage).2 elf parsed
  obtain ⟨loaded, finished⟩ := eq_ok_of_isOk
    (show ((load SuppliedSpace.mapPage (Elf64.ofHeader smallImage)).run.run
      ⟨⟨emptySpace, smallSupplies⟩, fun _ => 0xAA⟩).1.isOk = true by decide +kernel)
  obtain ⟨pages, image⟩ := loads _ _ emptySpace smallSupplies (fun _ => 0xAA)
    emptySpace_tables ⟨by decide, by decide⟩ loaded finished
  exact ⟨_, loaded, pages, parsed, finished, image⟩

end Runix.Arm
