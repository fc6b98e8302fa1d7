import Runix.Kernel.InstancePages

/-!
# What the loader leaves in memory

The loader maps the pages from `vaddr` to `vaddr + memsz` and copies whatever part of the file
range `vaddr` to `vaddr + filesz` lies in them.  It compares the two sizes nowhere, and it maps a
segment that is to be written and executed as it stands.
-/

namespace Runix.Kernel

open Lib Lib.ByteStrings Lib.Checked List

namespace LoadSegment

variable (segment : LoadSegment) (address : Nat)

abbrev InFile : Prop :=
  segment.vaddr ≤ address ∧ address < segment.vaddr + segment.filesz

/-- The page of the address is one that is mapped for the segment. -/
def Spans : Prop :=
  segment.vaddr / frameSize ≤ address / frameSize ∧
    address / frameSize ≤ segment.lastAddr / frameSize

theorem beyond_of_not_spans {segment : LoadSegment} {address : Nat} (filed : segment.InFile address)
    (away : ¬ segment.Spans address) : segment.vaddr + segment.memsz ≤ address := by
  have low := Nat.div_le_div_right (c := frameSize) filed.1
  by_contra near
  have high : address ≤ segment.lastAddr := by
    unfold lastAddr
    omega
  exact away ⟨low, Nat.div_le_div_right high⟩

end LoadSegment

/-- The byte at an address of a page that has been mapped. -/
def LoadState.byteAt (state : LoadState) (address : Nat) : Option UInt8 :=
  (state.space.mapped.lookup (address / frameSize)).map fun found =>
    state.memory found.frame ⟨address % frameSize, Nat.mod_lt _ (Nat.succ_pos 4095)⟩

namespace Elf64

variable (elf : Elf64)

def segments : List LoadSegment :=
  (List.range elf.phnum).filterMap fun index => (elf.programHeader index).toOption.join

/-- The byte of the image that belongs at the address, and zero outside the file range. -/
def byteOf (segment : LoadSegment) (address : Nat) : UInt8 :=
  if segment.InFile address then elf.bytes.getD (segment.offset + (address - segment.vaddr)) 0
  else 0

structure Exact (state : LoadState) : Prop where
  filled : ∀ segment ∈ elf.segments, ∀ address, segment.InFile address →
    state.byteAt address = some (elf.byteOf segment address)
  cleared : ∀ address byte, state.byteAt address = some byte →
    (∀ segment ∈ elf.segments, ¬ segment.InFile address) → byte = 0
  /-- What is copied for a segment is the part of its file range that lies in its pages. -/
  inside : ∀ segment ∈ elf.segments, ∀ address, segment.InFile address → segment.Spans address →
    address < segment.vaddr + segment.memsz
  guarded : ∀ page mapping, state.space.mapped.lookup page = some mapping →
    ¬ (mapping.flags.writable = true ∧ mapping.flags.noExecute = false)

/-- No segment is both to be written and to be executed, and a file range goes beyond its memory
range only outside the segment's own pages, where another segment has the same bytes. -/
def Fitting : Prop :=
  ∀ segment ∈ elf.segments, ¬ (segment.flags &&& pfW ≠ 0 ∧ segment.flags &&& pfX ≠ 0) ∧
    ∀ address, segment.InFile address → segment.vaddr + segment.memsz ≤ address →
      ¬ segment.Spans address ∧ ∃ other ∈ elf.segments, other.Spans address ∧
        elf.byteOf other address = elf.byteOf segment address

theorem pageContent_eq (segment : LoadSegment) (address : Nat) :
    elf.pageContent segment (address / frameSize * frameSize)
      (address / frameSize * frameSize + frameSize) (segment.vaddr + segment.filesz)
      ⟨address % frameSize, Nat.mod_lt _ (Nat.succ_pos 4095)⟩ = elf.byteOf segment address := by
  have whole := Nat.div_add_mod' address frameSize
  have bound : address % frameSize < frameSize := Nat.mod_lt _ (by decide)
  unfold pageContent byteOf
  dsimp only
  by_cases filed : segment.InFile address
  · rw [if_pos (by omega), if_pos filed]
    congr 1
    omega
  · rw [if_neg (by omega), if_neg filed]

theorem mem_imagePages_iff {page : LaidPage} :
    page ∈ elf.imagePages ↔ ∃ segment ∈ elf.segments, ∃ number,
      (segment.vaddr / frameSize ≤ number ∧ number ≤ segment.lastAddr / frameSize) ∧
        elf.segmentPage segment number = page := by
  unfold imagePages segments
  simp only [mem_flatMap, mem_filterMap]
  constructor
  · rintro ⟨index, listed, member⟩
    unfold entryPages at member
    split at member
    · rename_i segment header
      obtain ⟨number, range, same⟩ := mem_map.mp member
      exact ⟨segment, ⟨index, listed, by rw [header]; rfl⟩, number, mem_pageRange_iff.mp range, same⟩
    · cases member
  · rintro ⟨segment, ⟨index, listed, header⟩, number, range, same⟩
    refine ⟨index, listed, ?_⟩
    unfold entryPages
    cases found : elf.programHeader index with
    | error halt => simp [found, Except.toOption] at header
    | ok known =>
      obtain rfl : known = some segment := by simpa [found, Except.toOption] using header
      exact mem_map.mpr ⟨number, mem_pageRange_iff.mpr range, same⟩

variable {elf} {kernel : KernelFrames} {state : LoadState}

section Loaded

variable (held : Laid kernel state elf.imagePages)

include held

variable {segment : LoadSegment}

theorem lookup_page (listed : segment ∈ elf.segments) {number : Nat}
    (range : segment.vaddr / frameSize ≤ number ∧ number ≤ segment.lastAddr / frameSize) :
    ∃ frame, state.space.mapped.lookup number = some ⟨frame, translateFlags segment.flags⟩ ∧
      some (state.memory frame) = (elf.segmentPage segment number).bytes := by
  have member := elf.mem_imagePages_iff.mpr ⟨segment, listed, number, range, rfl⟩
  obtain ⟨before, later, split⟩ := append_of_mem member
  obtain ⟨frame, -, found, -, bytes⟩ := held.placed before (elf.segmentPage segment number)
    ⟨later, by rw [split, append_assoc, singleton_append]⟩
  exact ⟨frame, found, congrArg some bytes⟩

theorem byteAt_of_spans (listed : segment ∈ elf.segments) {address : Nat}
    (spans : segment.Spans address) : state.byteAt address = some (elf.byteOf segment address) := by
  obtain ⟨frame, found, bytes⟩ := lookup_page held listed spans
  unfold LoadState.byteAt
  rw [found, Option.map_some, Option.some.inj bytes, pageContent_eq]

theorem segment_of_lookup {number : Nat} {mapping : Mapping}
    (found : state.space.mapped.lookup number = some mapping) :
    ∃ segment ∈ elf.segments,
      (segment.vaddr / frameSize ≤ number ∧ number ≤ segment.lastAddr / frameSize) ∧
        mapping.flags = translateFlags segment.flags := by
  have member : number ∈ state.space.mapped.map Prod.fst := by
    by_contra absent
    rw [lookup_eq_none_iff_keys.mpr absent] at found
    cases found
  rw [held.keys, mem_map] at member
  obtain ⟨page, listed, rfl⟩ := member
  obtain ⟨segment, known, number, range, rfl⟩ := elf.mem_imagePages_iff.mp listed
  obtain ⟨frame, same, -⟩ := lookup_page held known range
  refine ⟨segment, known, range, ?_⟩
  rw [Option.some.inj (found.symm.trans same)]

theorem spans_of_byteAt {address : Nat} {byte : UInt8} (found : state.byteAt address = some byte) :
    ∃ segment ∈ elf.segments, segment.Spans address ∧ elf.byteOf segment address = byte := by
  obtain ⟨mapping, mapped, -⟩ := Option.map_eq_some_iff.mp found
  obtain ⟨segment, listed, spans, -⟩ := segment_of_lookup held mapped
  rw [byteAt_of_spans held listed spans] at found
  exact ⟨segment, listed, spans, Option.some.inj found⟩

theorem exact_iff_fitting : elf.Exact state ↔ elf.Fitting := by
  constructor
  · intro exact segment listed
    constructor
    · rintro ⟨writable, executable⟩
      have first : segment.vaddr / frameSize ≤ segment.lastAddr / frameSize :=
        Nat.div_le_div_right (Nat.le_add_right _ _)
      obtain ⟨frame, found, -⟩ := lookup_page held listed ⟨Nat.le_refl _, first⟩
      exact exact.guarded _ _ found
        ⟨decide_eq_true writable, decide_eq_false executable⟩
    · intro address filed beyond
      refine ⟨fun spans => ?_, spans_of_byteAt held (exact.filled segment listed address filed)⟩
      exact absurd beyond (Nat.not_le_of_lt (exact.inside segment listed address filed spans))
  · intro fitting
    refine ⟨?_, ?_, ?_, ?_⟩
    · intro segment listed address filed
      by_cases spans : segment.Spans address
      · exact byteAt_of_spans held listed spans
      · obtain ⟨-, other, known, shown, same⟩ :=
          (fitting segment listed).2 address filed (LoadSegment.beyond_of_not_spans filed spans)
        rw [byteAt_of_spans held known shown, same]
    · intro address byte found outside
      obtain ⟨segment, listed, -, rfl⟩ := spans_of_byteAt held found
      exact if_neg (outside segment listed)
    · intro segment listed address filed spans
      by_contra beyond
      exact ((fitting segment listed).2 address filed (Nat.le_of_not_lt beyond)).1 spans
    · rintro page mapping found ⟨writable, executable⟩
      obtain ⟨segment, listed, -, flags⟩ := segment_of_lookup held found
      rw [flags] at writable executable
      exact (fitting segment listed).1 ⟨of_decide_eq_true writable, of_decide_eq_false executable⟩

end Loaded

/-- Of an image that parses and loads, the memory is exact if and only if the segments are. -/
theorem loaded_exactly_iff (nodup : kernel.supply.Nodup) {bytes : Bytes}
    (parsed : parse bytes = .ok elf) {start : LoadState} (made : AddressSpace.new kernel = some start)
    {entry : Nat} (loaded : (elf.loadSegments.run.run start).1 = .ok entry) :
    elf.bytes = bytes ∧ (elf.Exact (elf.loadSegments.run.run start).2 ↔ elf.Fitting) := by
  have whole := elf.loadSegments_lays nodup start [] (AddressSpace.new_laid made)
  exact ⟨congrArg Elf64.bytes (parse_ok parsed), exact_iff_fitting (whole.of_eq_ok loaded).2⟩

theorem one_segment_exact :
    let start := (AddressSpace.new (filledBoot 256 8 0).last).get (by decide +kernel)
    Exact ⟨oneSegmentImage⟩ ((loadSegments ⟨oneSegmentImage⟩).run.run start).2 := by
  intro start
  have loaded : ((loadSegments ⟨oneSegmentImage⟩).run.run start).1 = .ok 0x400000 := by
    decide +kernel
  refine (loaded_exactly_iff (filledBoot 256 8 0).last_lawful.nodup oneSegmentImage_parsed
    (Option.some_get _).symm loaded).2.mpr fun segment listed => ?_
  have known : segments ⟨oneSegmentImage⟩ = [⟨5, 120, 0x400000, 0, 8⟩] := by decide +kernel
  rw [known, mem_singleton] at listed
  subst listed
  exact ⟨by decide, fun address filed _ => absurd filed.1 (Nat.not_le_of_lt filed.2)⟩

/-- A segment with all three permissions is loaded, and its page can be written and executed. -/
theorem writable_code_mapped : let elf : Elf64 := ⟨oneSegmentImage.set 68 7⟩
    let start := (AddressSpace.new (filledBoot 256 8 0).last).get (by decide +kernel)
    (parse elf.bytes).isOk = true ∧ (elf.loadSegments.run.run start).1 = .ok 0x400000 ∧
      ¬ elf.Exact (elf.loadSegments.run.run start).2 := by
  intro elf start
  refine ⟨by decide +kernel, by decide +kernel, fun exact => ?_⟩
  exact exact.guarded 0x400 ⟨257, ⟨true, true, false⟩⟩ (by decide +kernel) ⟨rfl, rfl⟩

end Elf64

end Runix.Kernel
