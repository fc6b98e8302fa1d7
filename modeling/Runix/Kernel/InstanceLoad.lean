import Runix.Kernel.GridSandbox
import Runix.Kernel.PrivatePages

/-!
# Loading a grid sandbox instance

`elf.rs` of the kernel, and the part of `spawn_instance` that comes after the gates: the image is
parsed and its segments are mapped into a new space, then the heap, the stack and the page with
the boot information.  The capability token and the thread that runs the instance are left out.

No other thread draws or writes a frame during the call.
-/

namespace Runix.Kernel

open Lib Lib.ByteStrings Lib.Checked Lib.Words
open Citadel NetDriver

/-! ## The image -/

inductive ElfError
  | tooShort
  | badMagic
  | not64Bit
  | notLittleEndian
  | notX8664
  | unexpectedProgramHeaderSize
  | segmentOutOfBounds
deriving DecidableEq

def elfMagic : Bytes := [0x7f, 0x45, 0x4c, 0x46]

def eiClass : Nat := 4

def elfclass64 : UInt8 := 2

def eiData : Nat := 5

def elfdata2lsb : UInt8 := 1

def eMachineOffset : Nat := 18

def emX8664 : Nat := 0x3e

def eEntryOffset : Nat := 24

def ePhoffOffset : Nat := 32

def ePhentsizeOffset : Nat := 54

def ePhnumOffset : Nat := 56

def elfHeaderSize : Nat := 64

def ptLoad : Nat := 1

def pfX : Nat := 1

def pfW : Nat := 2

/-- `read_u16`, `read_u32` and `read_u64` differ by the width. -/
def readLe (width : Nat) (bytes : Bytes) (offset : Nat) : Outcome ElfError Nat :=
  (slice bytes offset (offset + width)).map leNat

def readU16 : Bytes → Nat → Outcome ElfError Nat := readLe 2

def readU32 : Bytes → Nat → Outcome ElfError Nat := readLe 4

def readU64 : Bytes → Nat → Outcome ElfError Nat := readLe 8

structure LoadSegment where
  flags : Nat
  offset : Nat
  vaddr : Nat
  filesz : Nat
  memsz : Nat
deriving DecidableEq

structure Elf64 where
  bytes : Bytes

/-- `VirtAddr::new`: an address that is not canonical panics. -/
def virtAddr (address : Nat) : Outcome ElfError Nat :=
  if address < 2 ^ 47 ∨ 2 ^ 64 - 2 ^ 47 ≤ address then .ok address else panicked

/-- `Page::range_inclusive`. -/
def pageRange (first last : Nat) : List Nat :=
  (List.range (last + 1 - first)).map (first + ·)

def translateFlags (pf : Nat) : PageTableFlags where
  writable := pf &&& pfW ≠ 0
  userAccessible := true
  noExecute := pf &&& pfX = 0

namespace Elf64

def parse (bytes : Bytes) : Outcome ElfError Elf64 := do
  failIf (bytes.length < elfHeaderSize) .tooShort
  let magic ← slice bytes 0 4
  failIf (magic ≠ elfMagic) .badMagic
  let fileClass ← nth bytes eiClass
  failIf (fileClass ≠ elfclass64) .not64Bit
  let data ← nth bytes eiData
  failIf (data ≠ elfdata2lsb) .notLittleEndian
  let machine ← readU16 bytes eMachineOffset
  failIf (machine ≠ emX8664) .notX8664
  let phentsize ← readU16 bytes ePhentsizeOffset
  failIf (phentsize ≠ 56) .unexpectedProgramHeaderSize
  let phoff ← readU64 bytes ePhoffOffset
  let phnum ← readU16 bytes ePhnumOffset
  let phtableEnd ← orFail .tooShort (checkedAdd phoff (phnum * phentsize))
  failIf (bytes.length < phtableEnd) .tooShort
  return ⟨bytes⟩

variable (elf : Elf64)

def entryPoint : Outcome ElfError Nat := readU64 elf.bytes eEntryOffset

/-- The closure of `program_headers`. -/
def programHeader (index : Nat) : Outcome ElfError (Option LoadSegment) := do
  let phoff ← readU64 elf.bytes ePhoffOffset
  let base := phoff + index * 56
  let kind ← readU32 elf.bytes base
  if kind ≠ ptLoad then return none
  let flags ← readU32 elf.bytes (base + 4)
  let offset ← readU64 elf.bytes (base + 8)
  let vaddr ← readU64 elf.bytes (base + 16)
  let filesz ← readU64 elf.bytes (base + 32)
  let memsz ← readU64 elf.bytes (base + 40)
  return some ⟨flags, offset, vaddr, filesz, memsz⟩

variable (segment : LoadSegment)

/-- A page of zeros with the part of the file that belongs to it. -/
def pageContent (pageStart pageEnd segFileEnd : Nat) : PageBytes :=
  let copyStart := max pageStart segment.vaddr
  let copyEnd := min pageEnd segFileEnd
  let pageOffset := copyStart - pageStart
  let fileOffset := segment.offset + (copyStart - segment.vaddr)
  fun i =>
    if copyStart < copyEnd ∧ pageOffset ≤ i.val ∧ i.val < pageOffset + (copyEnd - copyStart) then
      elf.bytes.getD (fileOffset + (i.val - pageOffset)) 0
    else 0

/-- One turn of the inner loop of `load_segments`.  The sums are made after the page is mapped;
where one overflows the call panics either way. -/
def loadPage (page : Nat) : Action LoadState ElfError Unit := do
  let pageStart ← checked (virtAddr (page * frameSize))
  let pageEnd ← checked (addU64 pageStart frameSize)
  let segFileEnd ← checked (addU64 segment.vaddr segment.filesz)
  layPage ⟨page, translateFlags segment.flags,
    some (elf.pageContent segment pageStart pageEnd segFileEnd)⟩

def loadSegment : Action LoadState ElfError Unit := do
  let fileEnd ← checked (orFail .segmentOutOfBounds (checkedAdd segment.offset segment.filesz))
  checked (failIf (elf.bytes.length < fileEnd) .segmentOutOfBounds)
  let startAddr ← checked (virtAddr segment.vaddr)
  let endAddr ← checked
    (orFail .segmentOutOfBounds (checkedAdd segment.vaddr (max segment.memsz 1 - 1)))
  let endAddr ← checked (virtAddr endAddr)
  (pageRange (startAddr / frameSize) (endAddr / frameSize)).forM (elf.loadPage segment)

def loadEntry (index : Nat) : Action LoadState ElfError Unit :=
  checked (elf.programHeader index) >>= fun found =>
    match found with
    | none => return ()
    | some segment => elf.loadSegment segment

def loadSegments : Action LoadState ElfError Nat := do
  let phnum ← checked (readU16 elf.bytes ePhnumOffset)
  (List.range phnum).forM elf.loadEntry
  let entry ← checked elf.entryPoint
  checked (virtAddr entry)

end Elf64

/-! ## The runtime regions -/

namespace GridInstance

def heapStart : Nat := 0x222222220000

def heapSize : Nat := 8 * 1024 * 1024

def stackVa : Nat := 0x222233330000

def stackSize : Nat := 4096 * 4

def infoVa : Nat := 0x222244440000

def tierByte : SandboxTier → UInt8
  | .t1Critical => 0
  | .t2Trusted => 1
  | .t3Untrusted => 2

/-- `heap_flags`, `stack_flags` and `info_flags`. -/
def runtimeFlags : PageTableFlags := ⟨true, true, true⟩

/-- The pages of a region that begins at an address. -/
def regionPages (start size : Nat) (bytes : Option PageBytes) : List LaidPage :=
  (pageRange (start / frameSize) ((start + size - 1) / frameSize)).map fun page =>
    ⟨page, runtimeFlags, bytes⟩

def heapPages : List LaidPage := regionPages heapStart heapSize (some fun _ => 0)

/-- Nothing is written to the stack. -/
def stackPages : List LaidPage := regionPages stackVa stackSize none

/-- `fill(0)`, then `GridBootInfo`, which is one byte. -/
def infoPage (tier : SandboxTier) : LaidPage :=
  ⟨infoVa / frameSize, runtimeFlags, some fun i => if i.val = 0 then tierByte tier else 0⟩

def load (elf : Elf64) (tier : SandboxTier) : Action LoadState ElfError Unit := do
  let _ ← elf.loadSegments
  layAll heapPages
  layAll stackPages
  layPage (infoPage tier)

end GridInstance

/-- `spawn_instance` with the frames of the machine: where the gates let the instance pass, it is
loaded, and whatever fails from then on is a panic. -/
def spawnInstance {SigningKey VerifyingKey : Type} (host : GridHost SigningKey VerifyingKey)
    (network : Network) (instanceId : String) (tier : SandboxTier) (sandbox : Sandbox)
    (kernel : KernelFrames) : Outcome SpawnInstanceError LoadState :=
  match (host.spawnInstance network instanceId tier sandbox).1 with
  | .error cause => fail cause
  | .ok granted => do
      let elf ← orPanic (Elf64.parse host.elf).toOption
      let start ← orPanic (AddressSpace.new kernel)
      let built := (GridInstance.load elf granted).run.run start
      orPanic (built.1.toOption.map fun _ => built.2)

/-! ## The pages of an instance -/

def LoadSegment.lastAddr (segment : LoadSegment) : Nat :=
  segment.vaddr + (max segment.memsz 1 - 1)

theorem virtAddr_ok {address value : Nat} (result : virtAddr address = .ok value) :
    value = address := by
  unfold virtAddr at result
  split at result
  · exact (Except.ok.inj result).symm
  · cases result

theorem addU64_ok {Error : Type} {a b value : Nat}
    (result : (addU64 a b : Outcome Error Nat) = .ok value) : value = a + b :=
  (checked_add_eq_some_iff.mp (orPanic_eq_ok_iff.mp result)).2.symm

namespace Elf64

variable (elf : Elf64)

variable (segment : LoadSegment)

def segmentPage (page : Nat) : LaidPage :=
  ⟨page, translateFlags segment.flags,
    some (elf.pageContent segment (page * frameSize) (page * frameSize + frameSize)
      (segment.vaddr + segment.filesz))⟩

def segmentPages : List LaidPage :=
  (pageRange (segment.vaddr / frameSize) (segment.lastAddr / frameSize)).map
    (elf.segmentPage segment)

def entryPages (index : Nat) : List LaidPage :=
  match elf.programHeader index with
  | .ok (some segment) => elf.segmentPages segment
  | _ => []

def phnum : Nat := (readU16 elf.bytes ePhnumOffset).toOption.getD 0

def imagePages : List LaidPage := (List.range elf.phnum).flatMap elf.entryPages

def PageOk (page : Nat) : Prop :=
  (virtAddr (page * frameSize)).isOk = true ∧
    (checkedAdd (page * frameSize) frameSize).isSome = true ∧
    (checkedAdd segment.vaddr segment.filesz).isSome = true

def SegmentOk : Prop :=
  (checkedAdd segment.offset segment.filesz).isSome = true ∧
    segment.offset + segment.filesz ≤ elf.bytes.length ∧
    (virtAddr segment.vaddr).isOk = true ∧
    (checkedAdd segment.vaddr (max segment.memsz 1 - 1)).isSome = true ∧
    (virtAddr segment.lastAddr).isOk = true ∧
    ∀ page ∈ pageRange (segment.vaddr / frameSize) (segment.lastAddr / frameSize),
      PageOk segment page

def EntryOk (index : Nat) : Prop :=
  match elf.programHeader index with
  | .error _ => False
  | .ok none => True
  | .ok (some segment) => elf.SegmentOk segment

/-- The image can be loaded wherever there is room. -/
def Loadable : Prop :=
  (readU16 elf.bytes ePhnumOffset).isOk = true ∧
    (∀ index ∈ List.range elf.phnum, elf.EntryOk index) ∧
    ∃ entry, elf.entryPoint = .ok entry ∧ (virtAddr entry).isOk = true

variable {kernel : KernelFrames}

variable (nodup : kernel.supply.Nodup)

include nodup

theorem loadPage_lays (segment : LoadSegment) (page : Nat) :
    Lays kernel (elf.loadPage segment page) (PageOk segment page)
      [elf.segmentPage segment page] := by
  apply Lays.congr
  · apply Lays.checked
    intro pageStart first
    obtain rfl := virtAddr_ok first
    apply Lays.checked
    intro pageEnd second
    obtain rfl := addU64_ok second
    apply Lays.checked
    intro segFileEnd third
    obtain rfl := addU64_ok third
    exact Lays.layPage nodup _
  · simp [PageOk, addU64]

theorem loadSegment_lays (segment : LoadSegment) :
    Lays kernel (elf.loadSegment segment) (elf.SegmentOk segment) (elf.segmentPages segment) := by
  apply Lays.congr
  · apply Lays.checked
    intro fileEnd first
    obtain rfl := (checked_add_eq_some_iff.mp (orFail_eq_ok_iff.mp first)).2.symm
    apply Lays.checked
    intro _ inside
    apply Lays.checked
    intro startAddr second
    obtain rfl := virtAddr_ok second
    apply Lays.checked
    intro endAddr third
    obtain rfl := (checked_add_eq_some_iff.mp (orFail_eq_ok_iff.mp third)).2.symm
    apply Lays.checked
    intro lastAddr fourth
    obtain rfl := virtAddr_ok fourth
    have pages := Lays.forM fun page (_ : page ∈ pageRange (segment.vaddr / frameSize)
      (segment.lastAddr / frameSize)) => elf.loadPage_lays nodup segment page
    rw [← List.map_eq_flatMap] at pages
    exact pages
  · simp [SegmentOk, LoadSegment.lastAddr]

theorem loadEntry_lays (index : Nat) :
    Lays kernel (elf.loadEntry index) (elf.EntryOk index) (elf.entryPages index) := by
  unfold loadEntry EntryOk entryPages
  cases header : elf.programHeader index with
  | error halt =>
    have never : Lays kernel
        (checked (.error halt : Outcome ElfError (Option LoadSegment)) >>= fun found =>
          match found with
          | none => return ()
          | some segment => elf.loadSegment segment)
        ((.error halt : Outcome ElfError (Option LoadSegment)).isOk = true ∧ True) [] := by
      apply Lays.checked
      intro value wrong
      cases wrong
    exact never.congr (iff_of_false (fun both => Bool.false_ne_true both.1) not_false)
  | ok found =>
    rw [Action.checked_ok_bind]
    cases found with
    | none => exact Lays.pure ()
    | some segment => exact elf.loadSegment_lays nodup segment

theorem loadSegments_lays : Lays kernel elf.loadSegments elf.Loadable elf.imagePages := by
  have entry : Lays kernel
      (checked elf.entryPoint >>= fun entry => checked (virtAddr entry))
      (elf.entryPoint.isOk = true ∧
        ∃ entry, elf.entryPoint = .ok entry ∧ (virtAddr entry).isOk = true) [] := by
    apply Lays.checked
    intro value known
    apply (Lays.check (virtAddr value)).congr
    rw [known]
    simp
  have pages := (Lays.forM fun index (_ : index ∈ List.range elf.phnum) =>
    elf.loadEntry_lays nodup index).bind fun _ => entry
  rw [List.append_nil] at pages
  apply Lays.congr
  · apply Lays.checked
    intro count known
    have named : elf.phnum = count := by
      unfold phnum
      rw [known]
      rfl
    subst named
    exact pages
  · unfold Loadable
    constructor
    · rintro ⟨count, entries, -, found⟩
      exact ⟨count, entries, found⟩
    · rintro ⟨count, entries, value, known, canonical⟩
      exact ⟨count, entries, by rw [known]; rfl, value, known, canonical⟩

end Elf64

namespace GridInstance

def pages (elf : Elf64) (tier : SandboxTier) : List LaidPage :=
  elf.imagePages ++ (heapPages ++ (stackPages ++ [infoPage tier]))

theorem load_lays {kernel : KernelFrames} (nodup : kernel.supply.Nodup) (elf : Elf64)
    (tier : SandboxTier) : Lays kernel (load elf tier) elf.Loadable (pages elf tier) := by
  apply Lays.congr
  · apply (elf.loadSegments_lays nodup).bind
    intro _
    apply (layAll_lays nodup heapPages).bind
    intro _
    apply (layAll_lays nodup stackPages).bind
    intro _
    exact Lays.layPage nodup (infoPage tier)
  · simp

end GridInstance

end Runix.Kernel
