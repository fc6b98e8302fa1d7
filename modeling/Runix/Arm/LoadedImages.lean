import Runix.Arm.Loader

/-!
# What a load leaves behind

The loop over the program headers claims the pages of the segments, and the stack is mapped
above the guard gap, where no segment reaches.  For every mapper a load of a parsed image does
not panic; when it succeeds, the pages are those of the segments and the stack.
-/

namespace Runix.Arm.Loader

open Lib.ByteStrings Lib.Checked Lib.Words Lib.Extents List Action

variable {Space : Type} {elf : Elf64} {mapper : PrivatePageMapper Space}
  {Pages : Space → List LoadedPage → Prop} {done : List LoadSegment} {segment : LoadSegment}
  {progress : Progress} {pages : List LoadedPage}

def EntryIn (elf : Elf64) (segment : LoadSegment) : Prop :=
  segment.isExecutable = true ∧ segment.vaddr ≤ elf.entry ∧
    elf.entry < segment.vaddr + segment.memsz

structure Prepared (elf : Elf64) (done : List LoadSegment) (progress : Progress)
    (pages : List LoadedPage) (memory : Memory UInt8) : Prop where
  loaded : Loaded elf (claimed done) pages memory
  mapped : progress.mapped = pages.map LoadedPage.va
  window : ∀ segment ∈ done, 0 < segment.memsz → segment.InWindow
  entry : progress.entryIsExecutable = true ↔ ∃ segment ∈ done, EntryIn elf segment

theorem Prepared.skip {memory : Memory UInt8} (prepared : Prepared elf done progress pages memory)
    (empty : segment.memsz = 0) : Prepared elf (done ++ [segment]) progress pages memory where
  loaded := by
    apply prepared.loaded.congr
    intro owner va
    rw [claimed_append, or_iff_left]
    rintro ⟨-, -, some, -⟩
    omega
  mapped := prepared.mapped
  window := by
    intro other listed some
    rcases mem_append.mp listed with old | new
    · exact prepared.window other old some
    · rw [mem_singleton.mp new] at some
      omega
  entry := by
    rw [prepared.entry]
    constructor
    · rintro ⟨other, old, here⟩
      exact ⟨other, mem_append_left _ old, here⟩
    · rintro ⟨other, listed, here⟩
      rcases mem_append.mp listed with old | new
      · exact ⟨other, old, here⟩
      · rw [mem_singleton.mp new] at here
        unfold EntryIn at here
        omega

variable {state : LoadState Space}

theorem loadSegment_meets (tracks : Tracks mapper Pages) (inBounds : elf.InBounds segment)
    (listed : Pages state.space pages) (prepared : Prepared elf done progress pages state.memory) :
    Action.Meets (loadSegment mapper elf progress segment) state fun progress after =>
      ∃ pages, Pages after.space pages ∧
        Prepared elf (done ++ [segment]) progress pages after.memory := by
  unfold loadSegment
  by_cases empty : segment.memsz = 0
  · rw [if_pos empty]
    exact meets_pure ⟨pages, listed, prepared.skip empty⟩
  rw [if_neg empty]
  have content := inBounds.content
  have address := inBounds.address
  have length := Elf64.segmentBytes_length inBounds
  apply meets_checked_bind (pagePermissions_meets segment.flags)
  intro permissions allowed
  apply meets_checked_bind (orFail_meets _ _)
  intro stop sum
  obtain ⟨-, rfl⟩ := checked_add_eq_some_iff.mp sum
  apply meets_checked_bind (failIf_meets _ _)
  intro _ inside
  have window : segment.InWindow := by
    unfold LoadSegment.InWindow
    omega
  dsimp only
  rw [addU64_eq_ok (by omega), checked_ok_bind, subU64_eq_ok (by omega),
    checked_ok_bind, alignDown_eq (by omega), alignDown_eq (by omega), prepared.mapped]
  have first : segment.vaddr / granule4Kib * granule4Kib ≤ segment.vaddr := Nat.div_mul_le_self _ _
  have aligned : segment.vaddr / granule4Kib * granule4Kib % granule4Kib = 0 :=
    Nat.mul_mod_left _ _
  have start := prepared.loaded.congr (claimedBelow_first first aligned)
  apply Action.Meets.bind (loadPages_meets tracks inBounds window (Nat.pos_of_ne_zero empty)
    allowed rfl _ _ pages state aligned _ _ _ listed start)
  · rintro mapped after ⟨more, held, rfl, grown⟩
    apply meets_pure
    refine ⟨more, held, grown, rfl, ?_, ?_⟩
    · intro other known some
      rcases mem_append.mp known with old | new
      · exact prepared.window other old some
      · rw [mem_singleton.mp new]
        exact window
    · dsimp only
      rw [Bool.or_eq_true, prepared.entry, Bool.and_eq_true, decide_eq_true_eq]
      constructor
      · rintro (⟨other, old, here⟩ | here)
        · exact ⟨other, mem_append_left _ old, here⟩
        · exact ⟨segment, by simp, here⟩
      · rintro ⟨other, known, here⟩
        rcases mem_append.mp known with old | new
        · exact .inl ⟨other, old, here⟩
        · rw [mem_singleton.mp new] at here
          exact .inr here
  · unfold granule4Kib
    omega
  · unfold granule4Kib
    omega
  · unfold granule4Kib
    omega

theorem loadEntry_meets (tracks : Tracks mapper Pages) (valid : elf.Valid) {index : Nat}
    (bound : index < elf.phnum) (listed : Pages state.space pages)
    (prepared : Prepared elf (elf.segmentsBefore index) progress pages state.memory) :
    Action.Meets (loadEntry mapper elf progress index) state fun progress after =>
      ∃ pages, Pages after.space pages ∧
        Prepared elf (elf.segmentsBefore (index + 1)) progress pages after.memory := by
  have next := elf.segmentsBefore_succ index
  unfold loadEntry
  rw [Elf64.segmentAt_eq valid.table bound, checked_ok_bind]
  cases found : elf.segmentOf (elf.phoff + index * phdrSize) with
  | none =>
    rw [found, Option.toList_none, append_nil] at next
    rw [next]
    exact meets_pure ⟨pages, listed, prepared⟩
  | some segment =>
    rw [found, Option.toList_some] at next
    have known : segment ∈ elf.segments := by
      apply mem_filterMap.mpr
      exact ⟨index, mem_range.mpr bound, found⟩
    rw [next]
    exact loadSegment_meets tracks (valid.segments segment known) listed prepared

/-! ## The stack -/

def laidOut (segments : List LoadSegment) (count : Nat) (owner : Owner) (va : Nat) : Prop :=
  claimed segments owner va ∨
    owner = none ∧ ∃ index < count, va = stackBase + index * granule4Kib

theorem laidOut_succ (segments : List LoadSegment) (count : Nat) (owner : Owner) (va : Nat) :
    laidOut segments (count + 1) owner va ↔ laidOut segments count owner va ∨
      owner = none ∧ va = stackBase + count * granule4Kib := by
  unfold laidOut
  rw [or_assoc]
  apply or_congr_right
  constructor
  · rintro ⟨own, index, bound, place⟩
    rcases Nat.lt_succ_iff_lt_or_eq.mp bound with less | rfl
    · exact .inl ⟨own, index, less, place⟩
    · exact .inr ⟨own, place⟩
  · rintro (⟨own, index, bound, place⟩ | ⟨own, place⟩)
    · exact ⟨own, index, Nat.lt_succ_of_lt bound, place⟩
    · exact ⟨own, count, Nat.lt_succ_self count, place⟩

variable {segments : List LoadSegment}

theorem claimed_lt_guard (window : ∀ segment ∈ segments, 0 < segment.memsz → segment.InWindow)
    {owner : Owner} {va : Nat} (claim : claimed segments owner va) : va < segmentWindowEnd := by
  cases owner with
  | none => exact absurd claim not_false
  | some segment =>
    obtain ⟨known, -, some, below, -⟩ := claim
    exact Nat.lt_of_lt_of_le below (window segment known some).2

theorem stackBase_eq : stackBase = 0xBFFFC000 := by decide

theorem mapStackPage_meets (tracks : Tracks mapper Pages)
    (window : ∀ segment ∈ segments, 0 < segment.memsz → segment.InWindow) {index : Nat}
    (bound : index < 4) (listed : Pages state.space pages)
    (loaded : Loaded elf (laidOut segments index) pages state.memory) :
    Action.Meets (mapStackPage mapper index) state fun _ after => ∃ page,
      Pages after.space (pages ++ [page]) ∧
        Loaded elf (laidOut segments (index + 1)) (pages ++ [page]) after.memory := by
  have base := stackBase_eq
  have offset : index * granule4Kib ≤ 0x3000 := Nat.mul_le_mul_right 4096 (Nat.le_of_lt_succ bound)
  have fresh : stackBase + index * granule4Kib ∉ pages.map LoadedPage.va := by
    intro old
    obtain ⟨owner, claim | ⟨-, other, less, same⟩⟩ := (loaded.claimed _).mp old
    · have below := claimed_lt_guard window claim
      rw [segmentWindowEnd_eq] at below
      omega
    · unfold granule4Kib at same
      omega
  unfold mapStackPage
  rw [mulU64_eq_ok (by unfold u64Max; omega), checked_ok_bind,
    addU64_eq_ok (by unfold u64Max; omega), checked_ok_bind]
  apply (mapPage_meets tracks listed _ _).bind
  rintro frame mapped ⟨more, kept⟩
  apply (fillPage_meets frame mapped).mono
  rintro _ after rfl
  refine ⟨_, more, loaded.add none _ fresh rfl ?_ ?_ (laidOut_succ segments index)⟩
  · intro i small
    apply fill_held
    unfold frameAt Extent.Holds
    dsimp only
    omega
  · intro place away
    rw [← kept]
    exact fill_elsewhere _ _ away

/-! ## The whole load -/

structure Complete (elf : Elf64) (pages : List LoadedPage) (memory : Memory UInt8)
    (image : LoadedImage) : Prop where
  loaded : Loaded elf (laidOut elf.segments 4) pages memory
  window : ∀ segment ∈ elf.segments, 0 < segment.memsz → segment.InWindow
  entry : ∃ segment ∈ elf.segments, EntryIn elf segment
  image : image = ⟨elf.entry, stackTop, stackBase, pages.length - 4, 4⟩

theorem loadEntries_meets (tracks : Tracks mapper Pages) (valid : elf.Valid)
    (listed : Pages state.space []) :
    Action.Meets ((List.range elf.phnum).foldlM (loadEntry mapper elf) ⟨[], false⟩) state
      fun progress after => ∃ pages, Pages after.space pages ∧
        Prepared elf elf.segments progress pages after.memory := by
  apply foldlM_range_meets fun index progress (after : LoadState Space) =>
    ∃ pages, Pages after.space pages ∧
      Prepared elf (elf.segmentsBefore index) progress pages after.memory
  · refine ⟨[], listed, Loaded.nil ?_, rfl, ?_, ?_⟩
    · intro owner va claim
      cases owner with
      | none => exact claim
      | some segment => cases claim.1
    · nofun
    · constructor
      · nofun
      · rintro ⟨segment, known, -⟩
        cases known
  · rintro index bound progress after ⟨pages, held, prepared⟩
    exact loadEntry_meets tracks valid bound held prepared

theorem mapStack_meets (tracks : Tracks mapper Pages)
    (window : ∀ segment ∈ segments, 0 < segment.memsz → segment.InWindow)
    (listed : Pages state.space pages) (loaded : Loaded elf (claimed segments) pages state.memory) :
    Action.Meets ((List.range 4).foldlM (fun _ index => mapStackPage mapper index) ()) state
      fun _ after => ∃ all, Pages after.space all ∧
        Loaded elf (laidOut segments 4) all after.memory ∧ all.length = pages.length + 4 := by
  apply foldlM_range_meets fun count _ (after : LoadState Space) =>
    ∃ all, Pages after.space all ∧
      Loaded elf (laidOut segments count) all after.memory ∧ all.length = pages.length + count
  · refine ⟨pages, listed, loaded.congr ?_, rfl⟩
    intro owner va
    apply or_iff_left
    rintro ⟨-, index, none, -⟩
    exact absurd none (Nat.not_lt_zero index)
  · rintro index bound _ after ⟨all, held, laid, length⟩
    apply (mapStackPage_meets tracks window bound held laid).mono
    rintro _ final ⟨page, more, next⟩
    refine ⟨all ++ [page], more, next, ?_⟩
    rw [length_append, length]
    rfl

theorem load_meets (tracks : Tracks mapper Pages) (valid : elf.Valid)
    (listed : Pages state.space []) :
    Action.Meets (load mapper elf) state fun image after =>
      ∃ pages, Pages after.space pages ∧ Complete elf pages after.memory image := by
  apply (loadEntries_meets tracks valid listed).bind
  rintro progress middle ⟨pages, held, prepared⟩
  apply meets_checked_bind (failIf_meets _ _)
  intro _ executable
  apply (mapStack_meets tracks prepared.window held prepared.loaded).bind
  rintro _ after ⟨all, more, loaded, length⟩
  apply meets_pure
  refine ⟨all, more, loaded, prepared.window, ?_, ?_⟩
  · apply prepared.entry.mp
    simpa using executable
  · rw [prepared.mapped, length_map, length]
    rfl

end Runix.Arm.Loader
