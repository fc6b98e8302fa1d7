import Runix.BlkDriver.Device
import Runix.Ipc.Fs
import Runix.Lib.Chains

/-!
# The FAT32 reader and the file server's two handlers

Directories and files are chains of clusters through the first FAT copy.  Sectors
have 512 bytes whatever the boot sector says, every walk stops after 1024 clusters,
and a sector that cannot be read ends the walk it was read for.
-/

namespace Runix.BlkDriver

open Lib.ByteStrings Lib.Programs Ipc Capability

def u32Max : Nat := 4294967295

def checkedAddU32 (a b : Nat) : Option Nat := if a + b ≤ u32Max then some (a + b) else none

def checkedMulU32 (a b : Nat) : Option Nat := if a * b ≤ u32Max then some (a * b) else none

def byteAt (bytes : Bytes) (index : Nat) : UInt8 := bytes.getD index 0

/-- A little-endian field of a fixed layout. -/
def field (bytes : Bytes) (offset width : Nat) : Nat := leNat ((bytes.drop offset).take width)

theorem field_lt (bytes : Bytes) (offset width : Nat) : field bytes offset width < 256 ^ width :=
  (le_nat_lt _).trans_le (Nat.pow_le_pow_right (by decide) (List.length_take_le _ _))

def validBytesPerSector : List Nat := [512, 1024, 2048, 4096]

/-- The boot sector's geometry, as far as a volume is accepted. -/
structure BootSectorInfo where
  bytesPerSector : Nat
  sectorsPerCluster : Nat
  numFats : Nat
  fatSize32 : Nat
  rootCluster : Nat
  fatStartSector : Nat
  dataStartSector : Nat
  fsinfoSector : Nat
  sector_size : bytesPerSector ∈ validBytesPerSector
  cluster_pos : 0 < sectorsPerCluster
  copies_pos : 0 < numFats
  fat_pos : 0 < fatSize32
  data_start : dataStartSector = fatStartSector + fatSize32 * numFats
  data_start_le : dataStartSector ≤ u32Max
  fsinfo_lt : fsinfoSector < 65536

namespace BootSectorInfo

def parse (sector : Sector) : Option BootSectorInfo :=
  let bytesPerSector := field sector.1 11 2
  let sectorsPerCluster := field sector.1 13 1
  let fatStartSector := field sector.1 14 2
  let numFats := field sector.1 16 1
  let fatSize32 := field sector.1 36 4
  if byteAt sector.1 510 ≠ 0x55 ∨ byteAt sector.1 511 ≠ 0xAA then none
  else if sizes : bytesPerSector ∉ validBytesPerSector then none
  else if clusters : sectorsPerCluster = 0 then none
  else if copies : numFats = 0 then none
  else if table : fatSize32 = 0 then none
  -- The checked product and the checked sum.
  else if room : fatStartSector + fatSize32 * numFats ≤ u32Max then
    some
      { bytesPerSector, sectorsPerCluster, numFats, fatSize32, fatStartSector
        rootCluster := field sector.1 44 4
        dataStartSector := fatStartSector + fatSize32 * numFats
        fsinfoSector := field sector.1 48 2
        sector_size := not_not.mp sizes
        cluster_pos := Nat.pos_of_ne_zero clusters
        copies_pos := Nat.pos_of_ne_zero copies
        fat_pos := Nat.pos_of_ne_zero table
        data_start := rfl
        data_start_le := room
        fsinfo_lt := field_lt _ _ _ }
  else none

def clusterToSector (info : BootSectorInfo) (cluster : Nat) : Option Nat :=
  if cluster < 2 then none
  else (checkedMulU32 (cluster - 2) info.sectorsPerCluster).bind (checkedAddU32 info.dataStartSector)

end BootSectorInfo

def isEndOfChain (fatEntry : Nat) : Bool := 0x0FFFFFF8 ≤ fatEntry

def fatEntryAt (fatBytes : Bytes) (cluster : Nat) : Option Nat :=
  if fatBytes.length < cluster * 4 + 4 then none
  else some (field fatBytes (cluster * 4) 4 % 2 ^ 28)

structure ShortDirEntry where
  name : Bytes
  firstCluster : Nat
  fileSize : Nat
  isDir : Bool
deriving DecidableEq, Repr

def parseShortDirEntry (entry : Bytes) : Option ShortDirEntry :=
  if byteAt entry 0 = 0x00 ∨ byteAt entry 0 = 0xE5 then none
  else if byteAt entry 11 &&& 0x3F = 0x0F then none
  else
    some
      { name := entry.take 11
        firstCluster := field entry 20 2 <<< 16 ||| field entry 26 2
        fileSize := field entry 28 4
        isDir := byteAt entry 11 &&& 0x10 != 0 }

structure LfnFragment where
  sequence : Nat
  isLast : Bool
  checksum : UInt8
  chars : List Nat
deriving DecidableEq, Repr

def parseLfnFragment (entry : Bytes) : Option LfnFragment :=
  if byteAt entry 11 &&& 0x3F ≠ 0x0F then none
  else if byteAt entry 0 &&& 0x1F = 0 then none
  else
    some
      { sequence := (byteAt entry 0 &&& 0x1F).toNat
        isLast := byteAt entry 0 &&& 0x40 != 0
        checksum := byteAt entry 13
        chars := (List.range 5).map (fun i => field entry (1 + 2 * i) 2) ++
          (List.range 6).map (fun i => field entry (14 + 2 * i) 2) ++
          (List.range 2).map (fun i => field entry (28 + 2 * i) 2) }

def shortNameChecksum (name : Bytes) : UInt8 :=
  name.foldl (fun sum byte => ((sum &&& 1) <<< 7) + (sum >>> 1) + byte) 0

def toAsciiUppercase (byte : UInt8) : UInt8 :=
  if 97 ≤ byte ∧ byte ≤ 122 then byte - 32 else byte

def splitExtension (display : Bytes) : Bytes × Bytes :=
  match display.reverse.idxOf? 46 with
  | some back => (display.take (display.length - 1 - back), display.drop (display.length - back))
  | none => (display, [])

def encodeShortName (display : Bytes) : Option Bytes :=
  let (base, ext) := splitExtension display
  if display = [] ∨ 12 < display.length then none
  else if base = [] ∨ 8 < base.length ∨ 3 < ext.length then none
  else if (base ++ ext).any fun byte => 128 ≤ byte || byte == 32 || byte == 46 then none
  else
    some (base.map toAsciiUppercase ++ List.replicate (8 - base.length) 32 ++
      (ext.map toAsciiUppercase ++ List.replicate (3 - ext.length) 32))

def asciiCaseInsensitiveEq (utf16Char : Nat) (asciiByte : UInt8) : Bool :=
  let foldedAscii := if 65 ≤ asciiByte ∧ asciiByte ≤ 90 then asciiByte + 32 else asciiByte
  let foldedUtf16 := if 65 ≤ utf16Char ∧ utf16Char ≤ 90 then utf16Char + 0x20 else utf16Char
  foldedUtf16 == foldedAscii.toNat

/-- The code units of a run of fragments against a name, up to the first terminator. -/
def longNameMatches : List Nat → Bytes → Bool
  | [], target => target.isEmpty
  | char :: rest, target =>
    if char = 0 then target.isEmpty
    else
      match target with
      | expected :: more => asciiCaseInsensitiveEq char expected && longNameMatches rest more
      | [] => false

def maxLfnFragments : Nat := 5

/-- The fragments of the run being collected.  The index types are those of the source's arrays,
so a fragment number outside them cannot be used. -/
structure LongNameScan where
  fragments : Fin maxLfnFragments → List Nat
  present : Fin maxLfnFragments → Bool
  pendingChecksum : Option UInt8
  fragmentCount : Fin (maxLfnFragments + 1)

namespace LongNameScan

def start : LongNameScan := ⟨fun _ => List.replicate 13 0, fun _ => false, none, 0⟩

variable (scan : LongNameScan)

def reset : LongNameScan :=
  { scan with present := fun _ => false, pendingChecksum := none, fragmentCount := 0 }

def collect (fragment : LfnFragment) : LongNameScan :=
  if bound : fragment.sequence - 1 < maxLfnFragments then
    { fragments := Function.update scan.fragments ⟨_, bound⟩ fragment.chars
      present := Function.update scan.present ⟨_, bound⟩ true
      pendingChecksum := if fragment.isLast then some fragment.checksum else scan.pendingChecksum
      fragmentCount :=
        if fragment.isLast then ⟨fragment.sequence, by omega⟩ else scan.fragmentCount }
  else scan

def complete : Bool :=
  scan.fragmentCount != 0 && decide (∀ i, i.val < scan.fragmentCount.val → scan.present i = true)

def chars : List Nat :=
  ((List.finRange maxLfnFragments).take scan.fragmentCount).flatMap scan.fragments

end LongNameScan

/-- A directory scan has its result, or goes on with its state. -/
inductive Scan (State : Type) where
  | stop (found : Option ShortDirEntry)
  | more (state : State)

def shortSlot (target : Bytes) (_ : Unit) (slot : Bytes) : Scan Unit :=
  match parseShortDirEntry slot with
  | some entry => if entry.name = target then .stop (some entry) else .more ()
  | none => .more ()

def longSlot (target : Bytes) (scan : LongNameScan) (slot : Bytes) : Scan LongNameScan :=
  match parseLfnFragment slot with
  | some fragment => .more (scan.collect fragment)
  | none =>
    match parseShortDirEntry slot, scan.pendingChecksum with
    | some entry, some expected =>
      if scan.complete && expected == shortNameChecksum entry.name &&
          longNameMatches scan.chars target then .stop (some entry)
      else .more scan.reset
    | _, _ => .more scan.reset

def slots (sector : Sector) : List Bytes :=
  (List.range 16).map fun index => (sector.1.drop (32 * index)).take 32

section Walks

variable {State : Type} (slotStep : State → Bytes → Scan State)

def scanSlots : State → List Bytes → Scan State
  | state, [] => .more state
  | state, slot :: rest =>
    -- A slot that starts with a zero byte ends the directory.
    if byteAt slot 0 = 0x00 then .stop none
    else
      match slotStep state slot with
      | .stop found => .stop found
      | .more next => scanSlots next rest

open DiskProgram

def scanSectors (sector0 : Nat) : List Nat → State → DiskProgram (Scan State)
  | [], state => pure (.more state)
  | s :: rest, state => do
    match ← readSector (sector0 + s) with
    | none => pure (.stop none)
    | some sector =>
      match scanSlots slotStep state (slots sector) with
      | .stop found => pure (.stop found)
      | .more next => scanSectors sector0 rest next

variable (info : BootSectorInfo)

def nextClusterInChain (cluster : Nat) : DiskProgram (Option Nat) :=
  match checkedMulU32 cluster 4 with
  | none => pure none
  | some byteOffset =>
    match checkedAddU32 info.fatStartSector (byteOffset / info.bytesPerSector) with
    | none => pure none
    | some fatSector => do
      match ← readSector fatSector with
      | none => pure none
      | some sector => pure (fatEntryAt sector.1 (byteOffset % info.bytesPerSector / 4))

/-- The loop that both directory lookups run, by the number of clusters still allowed. -/
def walkDirectory : Nat → Nat → State → DiskProgram (Option ShortDirEntry)
  | 0, _, _ => pure none
  | fuel + 1, cluster, state =>
    match info.clusterToSector cluster with
    | none => pure none
    | some sector0 => do
      match ← scanSectors slotStep sector0 (List.range info.sectorsPerCluster) state with
      | .stop found => pure found
      | .more next =>
        match ← nextClusterInChain info cluster with
        | none => pure none
        | some following =>
          if isEndOfChain following then pure none else walkDirectory fuel following next

end Walks

section Handlers

open DiskProgram

variable (info : BootSectorInfo)

def maxClusters : Nat := 1024

variable (dirCluster : Nat)

def findEntryInDirectory (targetName : Bytes) : DiskProgram (Option ShortDirEntry) :=
  walkDirectory (shortSlot targetName) info maxClusters dirCluster ()

def findEntryByLongName (targetAscii : Bytes) : DiskProgram (Option ShortDirEntry) :=
  walkDirectory (longSlot targetAscii) info maxClusters dirCluster .start

def findEntryByShortName (name : String) : DiskProgram (Option ShortDirEntry) :=
  match encodeShortName (utf8 name) with
  | some short => findEntryInDirectory info dirCluster short
  | none => pure none

def findEntryByDisplayName (name : String) : DiskProgram (Option ShortDirEntry) := do
  match ← findEntryByShortName info dirCluster name with
  | some entry => pure (some entry)
  | none => findEntryByLongName info dirCluster (utf8 name)

/-- The sectors of one cluster, and whether all that were wanted could be read. -/
def readSectors (readLen bufLen sector0 : Nat) : List Nat → Bytes → DiskProgram (Bool × Bytes)
  | [], written => pure (true, written)
  | s :: rest, written =>
    if readLen ≤ written.length then pure (true, written)
    else do
      match ← readSector (sector0 + s) with
      | none => pure (false, written)
      | some sector =>
        let take := min (readLen - written.length) sectorSize
        if written.length + take ≤ bufLen then
          readSectors readLen bufLen sector0 rest (written ++ sector.1.take take)
        else .panicked

def readClusters (readLen bufLen : Nat) : Nat → Nat → Bytes → DiskProgram Bytes
  | 0, _, written => pure written
  | fuel + 1, cluster, written =>
    if readLen ≤ written.length then pure written
    else
      match info.clusterToSector cluster with
      | none => pure written
      | some sector0 => do
        match ← readSectors readLen bufLen sector0 (List.range info.sectorsPerCluster) written with
        | (false, written) => pure written
        | (true, written) =>
          if readLen ≤ written.length then pure written
          else
            match ← nextClusterInChain info cluster with
            | none => pure written
            | some next =>
              if isEndOfChain next then pure written
              else readClusters readLen bufLen fuel next written

def readFileContents (entry : ShortDirEntry) (bufLen : Nat) : DiskProgram Bytes :=
  readClusters info (min entry.fileSize bufLen) bufLen maxClusters entry.firstCluster []

def maxFileBytes : Nat := 4096

def resolveSingleSectorFile (targetName : Bytes) : DiskProgram (Option Nat) := do
  match ← findEntryInDirectory info info.rootCluster targetName with
  | some entry => pure (info.clusterToSector entry.firstCluster)
  | none => pure none

def resolveSingleSectorFileByName (name : String) : DiskProgram (Option Nat) :=
  match encodeShortName (utf8 name) with
  | some short => resolveSingleSectorFile info short
  | none => pure none

/-- An error for a request that found nothing, by what became of the device. -/
def missing : DiskProgram FsResponse := do
  if ← isFaulted then pure (.error .deviceFailed) else pure (.error .notFound)

variable (verifyFileToken : CapabilityToken → String → Bool)

def handleReadIpcRequest (name : String) (token : CapabilityToken) : DiskProgram FsResponse := do
  if !verifyFileToken token name then pure (.error .unauthorized)
  else if ← isFaulted then pure (.error .deviceFailed)
  else
    match ← findEntryByDisplayName info info.rootCluster name with
    | none => missing
    | some entry =>
      if entry.isDir then pure (.error .notFound)
      else
        let written ← readFileContents info entry maxFileBytes
        if ← isFaulted then pure (.error .deviceFailed) else pure (.data written)

def handleWriteIpcRequest (name : String) (token : CapabilityToken) (data : Bytes) :
    DiskProgram FsResponse := do
  if !verifyFileToken token name then pure (.error .unauthorized)
  else if size : data.length = sectorSize then
    if ← isFaulted then pure (.error .deviceFailed)
    else
      match ← resolveSingleSectorFileByName info name with
      | none => missing
      | some sector =>
        if ← writeSector sector ⟨data, size⟩ then pure .ok else pure (.error .deviceFailed)
  else pure (.error .badRequest)

def handleRequest : FsRequest → DiskProgram FsResponse
  | .read name token => handleReadIpcRequest info verifyFileToken name token
  | .write name token data => handleWriteIpcRequest info verifyFileToken name token data

end Handlers

end Runix.BlkDriver

/-! ## Chains of clusters

What the clusters hold that are met by following the FAT, as the walks over files and over
directories meet them on a device without errors. -/

namespace Runix.BlkDriver.BootSectorInfo

open List Lib.Chains

variable (info : BootSectorInfo) (disk : Nat → Sector) (entryOf : Nat → Option Nat)

def firstSector (cluster : Nat) : Nat :=
  info.dataStartSector + (cluster - 2) * info.sectorsPerCluster

def readable (cluster : Nat) : Bool := 2 ≤ cluster ∧ info.firstSector cluster ≤ u32Max

theorem cluster_to_sector_eq (cluster : Nat) :
    info.clusterToSector cluster =
      if info.readable cluster then some (info.firstSector cluster) else none := by
  unfold clusterToSector readable firstSector checkedMulU32
  by_cases low : cluster < 2
  · simp [low, Nat.not_le_of_lt low]
  rw [if_neg low]
  by_cases product : (cluster - 2) * info.sectorsPerCluster ≤ u32Max
  · simp [product, checkedAddU32, Nat.le_of_not_lt low]
  · have sum : ¬ info.dataStartSector + (cluster - 2) * info.sectorsPerCluster ≤ u32Max := by omega
    simp [product, sum]

def entryAfter (cluster : Nat) : Option Nat :=
  if cluster * 4 ≤ u32Max ∧ info.fatStartSector + cluster * 4 / info.bytesPerSector ≤ u32Max then
    fatEntryAt (disk (info.fatStartSector + cluster * 4 / info.bytesPerSector)).1
      (cluster * 4 % info.bytesPerSector / 4)
  else none

theorem next_cluster_in_chain_yields (cluster : Nat) :
    Yields disk (nextClusterInChain info cluster) (info.entryAfter disk cluster) := by
  unfold nextClusterInChain entryAfter checkedMulU32 checkedAddU32
  by_cases fits : cluster * 4 ≤ u32Max
  · by_cases named : info.fatStartSector + cluster * 4 / info.bytesPerSector ≤ u32Max
    · simp only [fits, named, if_true, true_and]
      exact .bind (.read _) (.pure _)
    · simp only [fits, named, if_true, if_false, and_false]
      exact .pure _
  · simp only [fits, if_false, false_and]
    exact .pure _

/-- The next cluster, by a reading of FAT entries. -/
def link (cluster : Nat) : Option Nat :=
  ((entryOf cluster).filter fun entry => !isEndOfChain entry).filter info.readable

def met (start count : Nat) : List Nat :=
  walk (info.link entryOf) count ((some start).filter info.readable)

theorem met_succ {start : Nat} (readable : info.readable start) (count : Nat) :
    info.met entryOf start (count + 1) = start ::
      ((entryOf start).filter fun entry => !isEndOfChain entry).elim [] fun next =>
        info.met entryOf next count := by
  rw [met, Option.filter_some, if_pos readable, walk, link]
  cases (entryOf start).filter fun entry => !isEndOfChain entry with
  | none => rw [Option.filter_none, walk_none]; rfl
  | some next => rfl

theorem met_unreadable {start : Nat} (unreadable : ¬ info.readable start) (count : Nat) :
    info.met entryOf start count = [] := by
  rw [met, Option.filter_some, if_neg unreadable, walk_none]

end Runix.BlkDriver.BootSectorInfo
