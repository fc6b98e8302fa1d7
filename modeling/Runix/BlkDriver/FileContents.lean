import Runix.BlkDriver.Fat32

/-!
# What reading a file returns

On a device without errors a file is a stream of bytes: the sectors of the clusters
met by following the FAT.  A read is the front of that stream.  The limit of 1024
clusters is out of reach, since a cluster has at least one sector of 512 bytes and
no read asks for more than 4096.
-/

namespace Runix.BlkDriver

open List Lib.ByteStrings Lib.Programs Lib.Chains

/-- The bytes are the longest front of a growing stream that has no more than `limit` bytes. -/
structure LongestFront (stream : Nat → Bytes) (limit : Nat) (bytes : Bytes) : Prop where
  within : bytes.length ≤ limit
  front : ∃ count, bytes <+: stream count
  longest : ∀ count, (stream count).take limit <+: bytes

namespace BootSectorInfo

variable (info : BootSectorInfo) (disk : Nat → Sector)

variable (entryOf : Nat → Option Nat)

/-- The entry of a cluster in the first FAT copy, if its sector has a 32-bit number. -/
def fatEntry (cluster : Nat) : Option Nat :=
  if info.fatStartSector + cluster / 128 ≤ u32Max then
    some (field (disk (info.fatStartSector + cluster / 128)).1 (cluster % 128 * 4) 4 % 2 ^ 28)
  else none

/-- The source also gives up where the offset of the entry does not fit in 32 bits. -/
def fatEntryWithin (cluster : Nat) : Option Nat :=
  if cluster * 4 ≤ u32Max then info.fatEntry disk cluster else none

theorem entryAfter_eq (sectors : info.bytesPerSector = sectorSize) :
    info.entryAfter disk = info.fatEntryWithin disk := by
  funext cluster
  have whole : cluster * 4 / 512 = cluster / 128 := by omega
  have inside : cluster * 4 % 512 / 4 = cluster % 128 := by omega
  have length := (disk (info.fatStartSector + cluster / 128)).2
  unfold sectorSize at sectors length
  unfold entryAfter fatEntryWithin fatEntry fatEntryAt
  rw [sectors, whole, inside, length, if_neg (by omega : ¬ 512 < cluster % 128 * 4 + 4), ite_and]

def clusterBytes (cluster : Nat) : Bytes :=
  (range info.sectorsPerCluster).flatMap fun s => (disk (info.firstSector cluster + s)).1

/-- The concatenated sectors of the first `count` clusters met. -/
def stream (start count : Nat) : Bytes :=
  (info.met entryOf start count).flatMap (info.clusterBytes disk)

theorem stream_extends (start count more : Nat) :
    info.stream disk entryOf start count <+: info.stream disk entryOf start (count + more) :=
  (walk_extends _ _ _ _).flatMap _

theorem length_stream (start count : Nat) :
    (info.met entryOf start count).length * sectorSize ≤
      (info.stream disk entryOf start count).length := by
  have cluster (number : Nat) : sectorSize ≤ (info.clusterBytes disk number).length := by
    simp only [clusterBytes, length_flatMap, fun n => (disk n).2, map_const', length_range,
      sum_replicate_nat]
    exact Nat.le_mul_of_pos_left _ info.cluster_pos
  unfold stream
  induction info.met entryOf start count with
  | nil => exact Nat.zero_le _
  | cons number rest ih =>
    rw [flatMap_cons, length_append, length_cons, Nat.succ_mul, Nat.add_comm]
    exact Nat.add_le_add (cluster number) ih

theorem stream_longest (start : Nat) {limit : Nat} (small : limit ≤ maxFileBytes) :
    LongestFront (info.stream disk entryOf start) limit
      ((info.stream disk entryOf start maxClusters).take limit) := by
  refine ⟨length_take_le _ _, ⟨maxClusters, take_prefix _ _⟩, fun count => ?_⟩
  rcases Nat.le_total count maxClusters with early | late
  · obtain ⟨more, total⟩ := Nat.exists_eq_add_of_le early
    rw [total]
    exact (info.stream_extends disk entryOf start count more).take limit
  obtain ⟨more, rfl⟩ := Nat.exists_eq_add_of_le late
  by_cases short : (info.met entryOf start maxClusters).length < maxClusters
  · have same : info.met entryOf start (maxClusters + more) = info.met entryOf start maxClusters :=
      walk_of_short _ more short
    rw [stream, same]
    exact prefix_rfl
  have long : limit ≤ (info.stream disk entryOf start maxClusters).length := by
    have enough := info.length_stream disk entryOf start maxClusters
    unfold maxFileBytes at small
    unfold maxClusters sectorSize at *
    omega
  obtain ⟨rest, joined⟩ := info.stream_extends disk entryOf start maxClusters more
  rw [← joined, take_append_of_le_length long]

end BootSectorInfo

section Reads

variable {info : BootSectorInfo} {disk : Nat → Sector} {readLen bufLen : Nat}

theorem take_take_append (first second : Bytes) (limit : Nat) :
    (first.take limit ++ second).take limit = (first ++ second).take limit := by
  simp only [take_append, take_take, Nat.min_self, length_take]
  congr 2
  omega

theorem read_sectors_yields (room : readLen ≤ bufLen) (sector0 : Nat) (numbers : List Nat)
    {written : Bytes} (within : written.length ≤ readLen) :
    Yields disk (readSectors readLen bufLen sector0 numbers written)
      (true, (written ++ numbers.flatMap fun s => (disk (sector0 + s)).1).take readLen) := by
  induction numbers generalizing written with
  | nil =>
    rw [flatMap_nil, append_nil, take_of_length_le within]
    exact .pure _
  | cons s rest ih =>
    unfold readSectors
    by_cases enough : readLen ≤ written.length
    · rw [if_pos enough, take_append_of_le_length enough, take_of_length_le within]
      exact .pure _
    rw [if_neg enough]
    refine .bind (.read _) ?_
    have length := (disk (sector0 + s)).2
    have taken : written ++ (disk (sector0 + s)).1.take (min (readLen - written.length) sectorSize) =
        (written ++ (disk (sector0 + s)).1).take readLen := by
      rw [take_append, take_of_length_le within, take_eq_take_min (i := readLen - _), length]
    dsimp only
    rw [if_pos (by omega), taken, flatMap_cons, ← append_assoc,
      ← take_take_append (written ++ (disk (sector0 + s)).1)]
    exact ih (length_take_le _ _)

theorem read_clusters_yields (room : readLen ≤ bufLen) (fuel cluster : Nat) {written : Bytes} (within : written.length ≤ readLen) :
    Yields disk (readClusters info readLen bufLen fuel cluster written)
      ((written ++ info.stream disk (info.entryAfter disk) cluster fuel).take readLen) := by
  induction fuel generalizing cluster written with
  | zero =>
    change Yields disk (pure written) ((written ++ []).take readLen)
    rw [append_nil, take_of_length_le within]
    exact .pure _
  | succ fuel ih =>
    unfold readClusters
    by_cases enough : readLen ≤ written.length
    · rw [if_pos enough, take_append_of_le_length enough, take_of_length_le within]
      exact .pure _
    rw [if_neg enough, info.cluster_to_sector_eq]
    by_cases met : info.readable cluster
    · rw [if_pos met, BootSectorInfo.stream, info.met_succ _ met, flatMap_cons, ← append_assoc,
        ← take_take_append]
      have read : Yields disk
          (readSectors readLen bufLen (info.firstSector cluster) (range info.sectorsPerCluster) written)
          (true, (written ++ info.clusterBytes disk cluster).take readLen) :=
        read_sectors_yields room _ _ within
      have short := length_take_le readLen (written ++ info.clusterBytes disk cluster)
      generalize (written ++ info.clusterBytes disk cluster).take readLen = more at read short ⊢
      refine .bind read ?_
      dsimp only
      by_cases full : readLen ≤ more.length
      · rw [if_pos full, take_append_of_le_length full, take_of_length_le short]
        exact .pure _
      rw [if_neg full]
      refine .bind (info.next_cluster_in_chain_yields disk cluster) ?_
      cases info.entryAfter disk cluster with
      | none =>
        rw [Option.filter_none, Option.elim_none, flatMap_nil, append_nil, take_of_length_le short]
        exact .pure _
      | some next =>
        dsimp only
        cases last : isEndOfChain next with
        | true =>
          rw [Option.filter_some, last]
          change Yields disk (pure more) ((more ++ []).take readLen)
          rw [append_nil, take_of_length_le short]
          exact .pure _
        | false =>
          rw [Option.filter_some, last]
          exact ih next short
    · rw [if_neg met, BootSectorInfo.stream, info.met_unreadable _ met, flatMap_nil, append_nil,
        take_of_length_le within]
      exact .pure _

/-- On a device without errors a read returns what the chain of clusters holds, up to the length
asked for. -/
theorem read_file_contents_longest (disk : Nat → Sector) (info : BootSectorInfo)
    (sectors : info.bytesPerSector = sectorSize) (entry : ShortDirEntry) {bufLen : Nat}
    (small : bufLen ≤ maxFileBytes) :
    ∃ bytes, (exec respond (readFileContents info entry bufLen)
        ⟨.healthy, disk, []⟩).1 = some bytes ∧
      LongestFront (info.stream disk (info.fatEntryWithin disk) entry.firstCluster)
        (min entry.fileSize bufLen) bytes := by
  refine ⟨_, (read_clusters_yields (Nat.min_le_right _ _) _ _ (Nat.zero_le _)).exec, ?_⟩
  rw [info.entryAfter_eq disk sectors]
  exact info.stream_longest disk _ _ (Nat.le_trans (Nat.min_le_right _ _) small)

theorem two_sector_file_read :
    let disk : Nat → Sector := fun _ => ⟨replicate 512 1, length_replicate⟩
    let info : BootSectorInfo := ⟨512, 1, 1, 1, 2, 32, 33, 1, by decide, by decide, by decide,
      by decide, by decide, by decide, by decide⟩
    ∃ bytes, (exec respond (readFileContents info ⟨[], 2, 600, false⟩ maxFileBytes)
        ⟨.healthy, disk, []⟩).1 = some bytes ∧
      LongestFront (info.stream disk (info.fatEntryWithin disk) 2) 600 bytes := by
  intro disk info
  exact read_file_contents_longest disk info rfl ⟨[], 2, 600, false⟩ (Nat.le_refl _)

/-- The entry of cluster 2³⁰ lies in a sector that has a number, and is not an end mark. -/
theorem far_cluster_not_followed :
    let disk : Nat → Sector := fun _ => ⟨replicate 512 1, length_replicate⟩
    let info : BootSectorInfo := ⟨512, 1, 1, 1, 2, 32, 33, 1, by decide, by decide, by decide,
      by decide, by decide, by decide, by decide⟩
    ∃ bytes, (exec respond (readFileContents info ⟨[], 2 ^ 30, 1024, false⟩ maxFileBytes)
        ⟨.healthy, disk, []⟩).1 = some bytes ∧
      ¬ LongestFront (info.stream disk (info.fatEntry disk) (2 ^ 30)) 1024 bytes := by
  intro disk info
  refine ⟨_, (read_clusters_yields (Nat.min_le_right _ _) _ _ (Nat.zero_le _)).exec,
    fun front => ?_⟩
  exact absurd (front.longest 2).length_le (by decide +kernel)

end Reads

end Runix.BlkDriver
