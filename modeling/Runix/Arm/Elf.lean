import Runix.Lib.Checked
import Runix.Lib.ByteStrings

/-!
# The ELF parser of kernel-arm

`elf.rs`: the header of an image, its program header table and the range of every loadable
segment are checked once, by `Elf64::parse`.  An image is at most as long as a slice can be.
Words are read in little-endian order; every operator of the source that could overflow, and
every index, is one that can panic here.
-/

namespace Runix.Arm

open Lib.ByteStrings Lib.Checked Lib.Words

structure Image where
  bytes : Bytes
  bounded : bytes.length < 2 ^ 63

inductive ElfError
  | tooShort
  | badMagic
  | not64Bit
  | notLittleEndian
  | notAarch64
  | notExecutable
  | unexpectedProgramHeaderSize
  | programHeadersOutOfBounds
  | segmentOutOfBounds
  | segmentSmallerThanFileContent
  | noLoadableSegments
deriving DecidableEq, Repr

def elfMagic : Bytes := [0x7f, 0x45, 0x4c, 0x46]

def eiClass : Nat := 4

def elfclass64 : UInt8 := 2

def eiData : Nat := 5

def elfdata2lsb : UInt8 := 1

def eTypeOffset : Nat := 16

def etExec : Nat := 2

def eMachineOffset : Nat := 18

def emAarch64 : Nat := 183

def eEntryOffset : Nat := 24

def ePhoffOffset : Nat := 32

def ePhentsizeOffset : Nat := 54

def ePhnumOffset : Nat := 56

def elfHeaderSize : Nat := 64

def phdrSize : Nat := 56

def phTypeOffset : Nat := 0

def phFlagsOffset : Nat := 4

def phOffsetOffset : Nat := 8

def phVaddrOffset : Nat := 16

def phFileszOffset : Nat := 32

def phMemszOffset : Nat := 40

def ptLoad : Nat := 1

def pfX : Nat := 1

def pfW : Nat := 2

def pfR : Nat := 4

structure LoadSegment where
  flags : Nat
  offset : Nat
  vaddr : Nat
  filesz : Nat
  memsz : Nat
deriving DecidableEq, Repr

namespace LoadSegment

variable (segment : LoadSegment)

def isReadable : Bool := segment.flags &&& pfR ≠ 0

def isWritable : Bool := segment.flags &&& pfW ≠ 0

def isExecutable : Bool := segment.flags &&& pfX ≠ 0

end LoadSegment

/-- `read_u16`, `read_u32` and `read_u64` differ by the width. -/
def readLe (width : Nat) (bytes : Bytes) (offset : Nat) : Option Nat :=
  (checkedAdd offset width).bind fun stop => (getRange bytes offset stop).map leNat

def readU16 : Bytes → Nat → Option Nat := readLe 2

def readU32 : Bytes → Nat → Option Nat := readLe 4

def readU64 : Bytes → Nat → Option Nat := readLe 8

structure Elf64 where
  image : Image
  entry : Nat
  phoff : Nat
  phnum : Nat

namespace Elf64

variable {Error : Type} (elf : Elf64)

/-- One field of a program header: the offset is added with `+`, the read may give `none`. -/
def field (read : Bytes → Nat → Option Nat) (base offset : Nat) : OptionT (Outcome Error) Nat := do
  let place ← (addU64 base offset : Outcome Error Nat)
  OptionT.mk (.ok (read elf.image.bytes place))

/-- The closure of `segments_unvalidated`. -/
def segmentAt (index : Nat) : OptionT (Outcome Error) LoadSegment := do
  let entries ← (mulU64 index phdrSize : Outcome Error Nat)
  let base ← (addU64 elf.phoff entries : Outcome Error Nat)
  let kind ← elf.field readU32 base phTypeOffset
  guard (kind = ptLoad)
  let flags ← elf.field readU32 base phFlagsOffset
  let offset ← elf.field readU64 base phOffsetOffset
  let vaddr ← elf.field readU64 base phVaddrOffset
  let filesz ← elf.field readU64 base phFileszOffset
  let memsz ← elf.field readU64 base phMemszOffset
  return ⟨flags, offset, vaddr, filesz, memsz⟩

def segmentBytes (segment : LoadSegment) : Bytes :=
  (getRange elf.image.bytes segment.offset (saturatingAdd segment.offset segment.filesz)).getD []

/-- The checks `parse` makes on a loadable segment. -/
def checkSegment (segment : LoadSegment) : Outcome ElfError Unit := do
  failIf (segment.memsz < segment.filesz) .segmentSmallerThanFileContent
  let fileEnd ← orFail .segmentOutOfBounds (checkedAdd segment.offset segment.filesz)
  failIf (elf.image.bytes.length < fileEnd) .segmentOutOfBounds
  let _ ← orFail .segmentOutOfBounds (checkedAdd segment.vaddr segment.memsz)

def checkEntry (loadable index : Nat) : Outcome ElfError Nat := do
  match ← (elf.segmentAt index).run with
  | none => .ok loadable
  | some segment =>
    elf.checkSegment segment
    addU64 loadable 1

def parse (image : Image) : Outcome ElfError Elf64 := do
  let bytes := image.bytes
  failIf (bytes.length < elfHeaderSize) .tooShort
  let magic ← slice bytes 0 4
  failIf (magic ≠ elfMagic) .badMagic
  let fileClass ← nth bytes eiClass
  failIf (fileClass ≠ elfclass64) .not64Bit
  let data ← nth bytes eiData
  failIf (data ≠ elfdata2lsb) .notLittleEndian
  let fileType ← orFail .tooShort (readU16 bytes eTypeOffset)
  failIf (fileType ≠ etExec) .notExecutable
  let machine ← orFail .tooShort (readU16 bytes eMachineOffset)
  failIf (machine ≠ emAarch64) .notAarch64
  let phentsize ← orFail .tooShort (readU16 bytes ePhentsizeOffset)
  failIf (phentsize ≠ phdrSize) .unexpectedProgramHeaderSize
  let entry ← orFail .tooShort (readU64 bytes eEntryOffset)
  -- `usize` has the width of `u64`, so the conversion of `e_phoff` does not fail
  let phoff ← orFail .tooShort (readU64 bytes ePhoffOffset)
  let phnum ← orFail .tooShort (readU16 bytes ePhnumOffset)
  let tableEnd ← orFail .programHeadersOutOfBounds
    ((checkedMul phnum phdrSize).bind fun length => checkedAdd phoff length)
  failIf (bytes.length < tableEnd) .programHeadersOutOfBounds
  let elf : Elf64 := ⟨image, entry, phoff, phnum⟩
  let loadable ← (List.range phnum).foldlM elf.checkEntry 0
  failIf (loadable = 0) .noLoadableSegments
  return elf

end Elf64

/-! ## What the parser accepts -/

/-- The little-endian word at a place of the bytes. -/
def wordAt (width : Nat) (bytes : Bytes) (offset : Nat) : Nat :=
  leNat ((bytes.drop offset).take width)

theorem readLe_eq_some {width offset : Nat} {bytes : Bytes} (bounded : bytes.length < 2 ^ 63)
    (inside : offset + width ≤ bytes.length) :
    readLe width bytes offset = some (wordAt width bytes offset) := by
  have fits : offset + width ≤ u64Max := by
    unfold u64Max
    omega
  unfold readLe
  rw [checked_add_eq_some_iff.mpr ⟨fits, rfl⟩, Option.bind_some,
    get_range_eq_some (Nat.le_add_right _ _) inside, Nat.add_sub_cancel_left]
  rfl

theorem readLe_word {width offset word : Nat} {image : Image}
    (inside : offset + width ≤ image.bytes.length)
    (found : readLe width image.bytes offset = some word) :
    word = wordAt width image.bytes offset := by
  rw [readLe_eq_some image.bounded inside, Option.some.injEq] at found
  exact found.symm

namespace Elf64

variable {Error : Type} (elf : Elf64)

def ofHeader (image : Image) : Elf64 where
  image := image
  entry := wordAt 8 image.bytes eEntryOffset
  phoff := wordAt 8 image.bytes ePhoffOffset
  phnum := wordAt 2 image.bytes ePhnumOffset

def segmentOf (base : Nat) : Option LoadSegment :=
  let bytes := elf.image.bytes
  if wordAt 4 bytes base = ptLoad then
    some {
      flags := wordAt 4 bytes (base + phFlagsOffset)
      offset := wordAt 8 bytes (base + phOffsetOffset)
      vaddr := wordAt 8 bytes (base + phVaddrOffset)
      filesz := wordAt 8 bytes (base + phFileszOffset)
      memsz := wordAt 8 bytes (base + phMemszOffset) }
  else none

def segmentsBefore (count : Nat) : List LoadSegment :=
  (List.range count).filterMap fun index => elf.segmentOf (elf.phoff + index * phdrSize)

def segments : List LoadSegment := elf.segmentsBefore elf.phnum

theorem segmentsBefore_succ (count : Nat) :
    elf.segmentsBefore (count + 1) =
      elf.segmentsBefore count ++ (elf.segmentOf (elf.phoff + count * phdrSize)).toList := by
  unfold segmentsBefore
  rw [List.range_succ, List.filterMap_append]
  congr 1

def TableInBounds : Prop :=
  elf.phoff + elf.phnum * phdrSize ≤ elf.image.bytes.length

structure InBounds (segment : LoadSegment) : Prop where
  content : segment.filesz ≤ segment.memsz
  file : segment.offset + segment.filesz ≤ elf.image.bytes.length
  address : segment.vaddr + segment.memsz ≤ u64Max

structure Valid : Prop where
  table : elf.TableInBounds
  segments : ∀ segment ∈ elf.segments, elf.InBounds segment
  loadable : elf.segments ≠ []

variable {elf}

theorem field_eq {read : Bytes → Nat → Option Nat} {base offset word : Nat}
    (fits : base + offset ≤ u64Max) (found : read elf.image.bytes (base + offset) = some word) :
    (elf.field read base offset : OptionT (Outcome Error) Nat) = pure word := by
  unfold field
  rw [addU64_eq_ok fits]
  change OptionT.mk (Except.ok (read elf.image.bytes (base + offset))) = _
  rw [found]
  rfl

/-- Within the table no header overflows, and every field is there. -/
theorem segmentAt_eq (table : elf.TableInBounds) {index : Nat} (bound : index < elf.phnum) :
    (elf.segmentAt index).run =
      (.ok (elf.segmentOf (elf.phoff + index * phdrSize)) : Outcome Error _) := by
  have bounded := elf.image.bounded
  have inside : elf.phoff + index * phdrSize + phdrSize ≤ elf.image.bytes.length := by
    unfold TableInBounds at table
    have within : (index + 1) * phdrSize ≤ elf.phnum * phdrSize :=
      Nat.mul_le_mul_right _ bound
    rw [Nat.add_mul, Nat.one_mul] at within
    omega
  have small : elf.phoff + index * phdrSize ≤ u64Max := by
    unfold u64Max
    omega
  have narrow : ∀ offset, offset + 4 ≤ phdrSize →
      (elf.field readU32 (elf.phoff + index * phdrSize) offset : OptionT (Outcome Error) Nat) =
        pure (wordAt 4 elf.image.bytes (elf.phoff + index * phdrSize + offset)) := by
    intro offset room
    apply field_eq
    · unfold u64Max
      omega
    · exact readLe_eq_some bounded (by omega)
  have wide : ∀ offset, offset + 8 ≤ phdrSize →
      (elf.field readU64 (elf.phoff + index * phdrSize) offset : OptionT (Outcome Error) Nat) =
        pure (wordAt 8 elf.image.bytes (elf.phoff + index * phdrSize + offset)) := by
    intro offset room
    apply field_eq
    · unfold u64Max
      omega
    · exact readLe_eq_some bounded (by omega)
  have lifted : ∀ word : Nat, (liftM (Except.ok word : Outcome Error Nat) :
      OptionT (Outcome Error) Nat) = pure word := fun _ => rfl
  unfold segmentAt segmentOf
  rw [mulU64_eq_ok (by omega), lifted, pure_bind, addU64_eq_ok small, lifted, pure_bind,
    narrow phTypeOffset (by decide), pure_bind, narrow phFlagsOffset (by decide),
    wide phOffsetOffset (by decide), wide phVaddrOffset (by decide),
    wide phFileszOffset (by decide), wide phMemszOffset (by decide)]
  unfold guard
  by_cases loadable : wordAt 4 elf.image.bytes (elf.phoff + index * phdrSize) = ptLoad
  · simp only [phTypeOffset, Nat.add_zero, loadable, if_true]
    rfl
  · simp only [phTypeOffset, Nat.add_zero, loadable, if_false]
    rfl

theorem checkSegment_meets (segment : LoadSegment) :
    Meets (elf.checkSegment segment) fun _ => elf.InBounds segment := by
  unfold checkSegment
  apply (failIf_meets _ _).bind
  intro _ content
  apply (orFail_meets _ _).bind
  intro fileEnd found
  obtain ⟨-, rfl⟩ := checked_add_eq_some_iff.mp found
  apply (failIf_meets _ _).bind
  intro _ file
  apply (orFail_meets _ _).bind
  intro _ last
  obtain ⟨address, -⟩ := checked_add_eq_some_iff.mp last
  exact Meets.ok ⟨Nat.not_lt.mp content, Nat.not_lt.mp file, address⟩

structure Scanned (elf : Elf64) (count loadable : Nat) : Prop where
  segments : ∀ segment ∈ elf.segmentsBefore count, elf.InBounds segment
  counted : loadable = (elf.segmentsBefore count).length
  bound : loadable ≤ count

theorem checkEntry_meets (table : elf.TableInBounds) {index loadable : Nat}
    (bound : index < elf.phnum) (done : elf.Scanned index loadable) :
    Meets (elf.checkEntry loadable index) (elf.Scanned (index + 1)) := by
  have next := elf.segmentsBefore_succ index
  have small : loadable + 1 ≤ u64Max := by
    have bytes := elf.image.bounded
    have few := done.bound
    unfold TableInBounds phdrSize at table
    unfold u64Max
    omega
  unfold checkEntry
  rw [segmentAt_eq table bound]
  cases found : elf.segmentOf (elf.phoff + index * phdrSize) with
  | none =>
    rw [found, Option.toList_none, List.append_nil] at next
    apply Meets.ok
    refine ⟨?_, ?_, Nat.le_succ_of_le done.bound⟩
    · rw [next]
      exact done.segments
    · rw [next]
      exact done.counted
  | some segment =>
    rw [found, Option.toList_some] at next
    apply (checkSegment_meets segment).bind
    intro _ inBounds
    rw [addU64_eq_ok small]
    apply Meets.ok
    refine ⟨?_, ?_, Nat.succ_le_succ done.bound⟩
    · intro other listed
      rw [next, List.mem_append, List.mem_singleton] at listed
      rcases listed with old | rfl
      · exact done.segments other old
      · exact inBounds
    · rw [next, List.length_append, ← done.counted]
      rfl

/-- For every image `parse` neither overflows nor indexes out of range, and what it accepts is
valid. -/
theorem parse_meets (image : Image) :
    Meets (parse image) fun elf => elf = ofHeader image ∧ elf.Valid := by
  unfold parse
  apply (failIf_meets _ _).bind
  intro _ long
  have header : 64 ≤ image.bytes.length := Nat.not_lt.mp long
  apply (slice_meets (Nat.zero_le 4) (by omega)).bind
  intro magic _
  apply (failIf_meets _ _).bind
  intro _ _
  apply (nth_meets (show eiClass < image.bytes.length by unfold eiClass; omega)).bind
  intro fileClass _
  apply (failIf_meets _ _).bind
  intro _ _
  apply (nth_meets (show eiData < image.bytes.length by unfold eiData; omega)).bind
  intro data _
  apply (failIf_meets _ _).bind
  intro _ _
  apply (orFail_meets _ _).bind
  intro fileType _
  apply (failIf_meets _ _).bind
  intro _ _
  apply (orFail_meets _ _).bind
  intro machine _
  apply (failIf_meets _ _).bind
  intro _ _
  apply (orFail_meets _ _).bind
  intro phentsize _
  apply (failIf_meets _ _).bind
  intro _ _
  apply (orFail_meets _ _).bind
  intro entry entryRead
  apply (orFail_meets _ _).bind
  intro phoff phoffRead
  apply (orFail_meets _ _).bind
  intro phnum phnumRead
  apply (orFail_meets _ _).bind
  intro tableEnd found
  obtain ⟨length, product, sum⟩ := Option.bind_eq_some_iff.mp found
  obtain ⟨-, rfl⟩ := checked_mul_eq_some_iff.mp product
  obtain ⟨-, rfl⟩ := checked_add_eq_some_iff.mp sum
  apply (failIf_meets _ _).bind
  intro _ inside
  have table : TableInBounds ⟨image, entry, phoff, phnum⟩ := Nat.not_lt.mp inside
  have start : Scanned ⟨image, entry, phoff, phnum⟩ 0 0 := by
    refine ⟨?_, rfl, Nat.le_refl 0⟩
    intro segment listed
    cases listed
  apply (foldlM_range_meets (Scanned ⟨image, entry, phoff, phnum⟩) start phnum fun index bound loadable done =>
    checkEntry_meets table bound done).bind
  intro loadable scanned
  apply (failIf_meets _ _).bind
  intro _ some
  apply Meets.ok
  refine ⟨?_, table, scanned.segments, ?_⟩
  · unfold ofHeader
    rw [readLe_word (by unfold eEntryOffset; omega) entryRead,
      readLe_word (by unfold ePhoffOffset; omega) phoffRead,
      readLe_word (by unfold ePhnumOffset; omega) phnumRead]
  intro empty
  have counted := scanned.counted
  unfold segments at empty
  rw [empty] at counted
  exact some counted

end Elf64

end Runix.Arm
