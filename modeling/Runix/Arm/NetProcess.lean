import Runix.Arm.LoadedSpaces
import Runix.Arm.MarshalTransport
import Runix.Arm.Capabilities
import Runix.Arm.Mmu

/-!
# The space of a network driver

`net_process.rs`: a new address space gets the page of the device's registers, a heap, the page
of the boot information, the virtqueues and the packet buffers, for a MARSHAL request also the
request and response regions, and then the image of the driver.

The answers of the allocator, the clock and the demonstration key are inputs.  Allocated memory
is zeroed.  On a failure after the space is made the space is destroyed, so that nothing of it
is left.
-/

namespace Runix.Arm

open Lib Lib.ByteStrings Lib.Checked Lib.Words Lib.Extents
open Capability Loader

def elfErrorMessage : ElfError → String
  | .tooShort => "image is shorter than an ELF64 header"
  | .badMagic => "not an ELF image (bad magic)"
  | .not64Bit => "not ELFCLASS64"
  | .notLittleEndian => "not ELFDATA2LSB (little-endian)"
  | .notAarch64 => "e_machine is not EM_AARCH64"
  | .notExecutable => "e_type is not ET_EXEC"
  | .unexpectedProgramHeaderSize => "e_phentsize is not 56"
  | .programHeadersOutOfBounds => "program header table runs past the image"
  | .segmentOutOfBounds => "PT_LOAD segment range runs past the image"
  | .segmentSmallerThanFileContent => "PT_LOAD segment has p_memsz < p_filesz"
  | .noLoadableSegments => "no PT_LOAD segment"

def loaderErrorMessage : LoaderError → String
  | .segmentNotReadable => "PT_LOAD segment is not readable (no PF_R)"
  | .segmentWritableAndExecutable =>
    "PT_LOAD segment is both writable and executable (W^X violation)"
  | .segmentOutsideWindow _ _ => "PT_LOAD segment is outside the loadable window"
  | .overlappingSegments _ => "two PT_LOAD segments share the same page"
  | .entryPointNotExecutable _ => "entry point is not inside an executable segment"
  | .mapFailed _ reason => reason

def netHeapStart : Nat := 0x88000000

def netHeapPages : Nat := 64

def netInfoVa : Nat := 0x88100000

def netRxqVa : Nat := 0x88200000

def netTxqVa : Nat := 0x88300000

def netRxbufVa : Nat := 0x88400000

def netTxbufVa : Nat := 0x88500000

def queueRegionPages : Nat := 3

def rxBufferCount : Nat := 8

def txBufferCount : Nat := 4

def netMmioVa : Nat := 0x89000000

def netMmioSlotStride : Nat := 0x200

def marshalRequestVa : Nat := 0x88600000

def marshalResponseVa : Nat := 0x88700000

def marshalBufferPages : Nat := 2

structure NetDevice where
  slot : Nat
  bound : slot < slotCount

def NetDevice.base (device : NetDevice) : Nat := slotBase device.slot

structure NetBootInfo where
  mmioBase : Nat
  rxQueuePhys : Nat
  txQueuePhys : Nat
  rxBufferPhys : List Nat
  txBufferPhys : List Nat
  mode : Nat
  remoteIp : Bytes
  remotePort : Nat
  localPort : Nat
  requestLen : Nat

/-- The `repr(C)` layout. -/
def NetBootInfo.encode (info : NetBootInfo) : Bytes :=
  leBytes 8 info.mmioBase ++ leBytes 8 info.rxQueuePhys ++ leBytes 8 info.txQueuePhys ++
    info.rxBufferPhys.flatMap (leBytes 8) ++ info.txBufferPhys.flatMap (leBytes 8) ++
    leBytes 8 info.mode ++ info.remoteIp ++ leBytes 2 info.remotePort ++
    leBytes 2 info.localPort ++ leBytes 8 info.requestLen

def netModeTcpProof : Nat := 0

def netModeMarshalRequest : Nat := 1

def checkNetMode (mode : Nat) (hasRequestBytes : Bool) : Outcome String Unit :=
  if (mode = netModeTcpProof ∧ hasRequestBytes = false) ∨
      (mode = netModeMarshalRequest ∧ hasRequestBytes = true) then .ok ()
  else if mode = netModeMarshalRequest then
    fail "net boot info mode is MARSHAL-request but no request bytes were supplied"
  else if mode = netModeTcpProof then
    fail "net boot info mode is TCP-proof but request bytes were supplied"
  else fail "net boot info has an unknown mode"

/-- What the allocator answers to a region: the block, and whether it could be recorded. -/
structure BlockAnswer where
  block : Option Nat
  reserve : Bool

structure NetAnswers where
  root : Option Nat
  supplies : List Supply
  rxQueue : BlockAnswer
  txQueue : BlockAnswer
  request : BlockAnswer
  response : BlockAnswer

namespace NetProcess

abbrev Setup (Value : Type) : Type := Action (LoadState SuppliedSpace) String Value

def call {Value : Type} (run : MapState → Supply → Except AddressSpaceError Value × MapState) :
    Setup Value :=
  ExceptT.mk fun state =>
    let result := run state.space.map state.space.supply
    (match result.1 with
      | .error error => .error (.returned error.message)
      | .ok value => .ok value,
      { state with space := ⟨result.2, state.space.supplies.tail⟩ })

def mapMmioPage (va pa : Nat) (writable : Bool) : Setup Unit :=
  call fun map supply => map.mapMmioPage va pa writable supply

def mapPrivatePage (va : Nat) : Setup Nat := do
  let frame ← call fun map supply => map.mapPrivatePage va supply
  modify fun state => { state with memory := fill state.memory (frameAt frame) 0 }
  return frame

def adoptBlock (pa pages : Nat) (reserve : Bool) : Setup Unit :=
  ExceptT.mk fun state =>
    let result := state.space.map.space.adoptBlock pa pages reserve
    (match result.1 with
      | .error _ => .error (.returned "out of memory recording a contiguous virtqueue region")
      | .ok _ => .ok (),
      { state with
        space := { state.space with map := { state.space.map with space := result.2 } } })

def mapContiguousRegion (vaBase pages : Nat) (answer : BlockAnswer) : Setup Nat := do
  let paBase ← checked (orFail "out of memory for a contiguous virtqueue region" answer.block)
  modify fun state => { state with memory := fill state.memory ⟨paBase, pages * granule4Kib⟩ 0 }
  adoptBlock paBase pages answer.reserve
  (List.range pages).foldlM
    (fun _ i => mapMmioPage (vaBase + i * granule4Kib) (paBase + i * granule4Kib) true) ()
  return paBase

def mapBuffers (vaBase count : Nat) : Setup (List Nat) :=
  (List.range count).foldlM (fun frames i => do
    let frame ← mapPrivatePage (vaBase + i * granule4Kib)
    return frames ++ [frame]) []

def mapRequest (requestBytes : Option Bytes) (answers : NetAnswers) : Setup (Option (Nat × Nat)) :=
  match requestBytes with
  | none => return none
  | some bytes => do
      let requestPhys ← mapContiguousRegion marshalRequestVa marshalBufferPages answers.request
      let responsePhys ← mapContiguousRegion marshalResponseVa marshalBufferPages answers.response
      let len := min bytes.length marshalBufferCapacity
      modify fun state => { state with memory := store state.memory requestPhys (bytes.take len) }
      return some (responsePhys, len)

section Ed25519

variable {SigningKey VerifyingKey : Type} (ed25519 : Signatures.Scheme SigningKey VerifyingKey)
  (signingKey : SigningKey) (ticksPerSec now : Nat)

variable (device : NetDevice)

/-- The token of the device's slot, the only one that is checked. -/
def slotToken : CapabilityToken :=
  issueMmioToken ed25519 signingKey ticksPerSec (virtioMmioSlotResource device.slot) now

/-- The window of the device: the check is about the slot, the mapping about its page. -/
def mapDeviceWindow : Setup Unit := do
  let mmioPagePa := device.base - device.base % granule4Kib
  let checkedWindow := checkMmioWindow ed25519 (ed25519.verifyingKey signingKey)
    (slotToken ed25519 signingKey ticksPerSec now device) device.base netMmioSlotStride now
  checked (orFail "mmio capability check denied the virtio-net device window"
    checkedWindow.toOption)
  mapMmioPage netMmioVa mmioPagePa true

def buildNetBootInfo (info : NetBootInfo) (requestBytes : Option Bytes)
    (answers : NetAnswers) : Setup (Option Nat) := do
  mapDeviceWindow ed25519 signingKey ticksPerSec now device
  (List.range netHeapPages).foldlM (fun _ i => do
    let _ ← mapPrivatePage (netHeapStart + i * granule4Kib)) ()
  let infoPage ← mapPrivatePage netInfoVa
  let rxQueuePhys ← mapContiguousRegion netRxqVa queueRegionPages answers.rxQueue
  let txQueuePhys ← mapContiguousRegion netTxqVa queueRegionPages answers.txQueue
  let rxBufferPhys ← mapBuffers netRxbufVa rxBufferCount
  let txBufferPhys ← mapBuffers netTxbufVa txBufferCount
  let response ← mapRequest requestBytes answers
  let filled := { info with
    mmioBase := netMmioVa + device.base % granule4Kib
    rxQueuePhys := rxQueuePhys
    txQueuePhys := txQueuePhys
    rxBufferPhys := rxBufferPhys
    txBufferPhys := txBufferPhys
    requestLen := (response.map Prod.snd).getD info.requestLen }
  modify fun state => { state with memory := store state.memory infoPage filled.encode }
  return response.map Prod.fst

def buildAndLoad (elf : Elf64) (device : NetDevice) (info : NetBootInfo)
    (requestBytes : Option Bytes) (answers : NetAnswers) : Setup (Option Nat × LoadedImage) := do
  let responsePhys ← buildNetBootInfo ed25519 signingKey ticksPerSec now device info requestBytes
    answers
  let loaded ← (load SuppliedSpace.mapPage elf).mapError loaderErrorMessage
  return (responsePhys, loaded)

end Ed25519

end NetProcess

structure NetProcess where
  state : LoadState SuppliedSpace
  loaded : LoadedImage
  responsePhys : Option Nat

namespace NetProcess

variable {SigningKey VerifyingKey : Type} (ed25519 : Signatures.Scheme SigningKey VerifyingKey)

def setup (signingKey : SigningKey) (ticksPerSec now activeRoot : Nat) (words : PhysMemory)
    (memory : Memory UInt8) (image : Image) (device : NetDevice) (info : NetBootInfo)
    (requestBytes : Option Bytes) (answers : NetAnswers) : Outcome String NetProcess := do
  checkNetMode info.mode requestBytes.isSome
  let elf ← (Elf64.parse image).mapError elfErrorMessage
  match AddressSpace.new words activeRoot answers.root with
  | (.error error, _) => fail error.message
  | (.ok space, words) =>
    let start : LoadState SuppliedSpace := ⟨⟨⟨words, space, []⟩, answers.supplies⟩, memory⟩
    let built := (buildAndLoad ed25519 signingKey ticksPerSec now elf device info requestBytes
      answers).run.run start
    match built.1 with
    | .error halt => .error halt
    | .ok (responsePhys, loaded) => .ok ⟨built.2, loaded, responsePhys⟩

end NetProcess

end Runix.Arm
