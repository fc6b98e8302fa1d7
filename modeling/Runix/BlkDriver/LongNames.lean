import Runix.BlkDriver.Fat32

/-!
# Long names in a directory

A long name stands before its short entry in fragments of thirteen code units, the last fragment
first.  The lookup keeps the latest fragment of each number, and the number and the checksum of
the latest one that is flagged as the last.  It looks neither at the order of the fragments nor at
the checksums of the others.
-/

namespace Runix.BlkDriver

open List Lib.ByteStrings

section Names

variable (target : Bytes) (entry : ShortDirEntry) (run : List LfnFragment)

def latest (index : Nat) : Option LfnFragment :=
  run.reverse.find? fun fragment => fragment.sequence = index + 1

def flagged : Option LfnFragment :=
  run.reverse.find? fun fragment => fragment.isLast ∧ fragment.sequence ≤ maxLfnFragments

end Names

theorem latest_snoc (run : List LfnFragment) (fragment : LfnFragment) (index : Nat) :
    latest (run ++ [fragment]) index =
      if fragment.sequence = index + 1 then some fragment else latest run index := by
  by_cases same : fragment.sequence = index + 1 <;> simp [same, latest]

theorem flagged_snoc (run : List LfnFragment) (fragment : LfnFragment) :
    flagged (run ++ [fragment]) =
      if fragment.isLast ∧ fragment.sequence ≤ maxLfnFragments then some fragment
      else flagged run := by
  by_cases last : fragment.isLast ∧ fragment.sequence ≤ maxLfnFragments <;> simp [last, flagged]

/-! ## The scan -/

/-- The scan's state after the fragments of a run. -/
structure LongNameScan.Holds (scan : LongNameScan) (run : List LfnFragment) : Prop where
  numbered : ∀ fragment ∈ run, 0 < fragment.sequence
  present : ∀ index, scan.present index = (latest run index).isSome
  fragments : ∀ index fragment, latest run index.val = some fragment →
    scan.fragments index = fragment.chars
  checksum : scan.pendingChecksum = (flagged run).map LfnFragment.checksum
  count : scan.fragmentCount.val = ((flagged run).map LfnFragment.sequence).getD 0

namespace LongNameScan.Holds

variable {scan : LongNameScan} {run : List LfnFragment}

theorem reset (scan : LongNameScan) : scan.reset.Holds [] :=
  ⟨nofun, fun _ => rfl, nofun, rfl, rfl⟩

theorem collect (holds : scan.Holds run) {fragment : LfnFragment}
    (numbered : 0 < fragment.sequence) : (scan.collect fragment).Holds (run ++ [fragment]) := by
  have all : ∀ other ∈ run ++ [fragment], 0 < other.sequence := by
    simpa [or_imp, forall_and, numbered] using holds.numbered
  unfold LongNameScan.collect
  by_cases bound : fragment.sequence - 1 < maxLfnFragments
  · have own (index : Fin maxLfnFragments) :
        fragment.sequence = index + 1 ↔ index = ⟨fragment.sequence - 1, bound⟩ := by
      rw [Fin.ext_iff]
      dsimp only
      omega
    have small : fragment.sequence ≤ maxLfnFragments := by omega
    rw [dif_pos bound]
    refine ⟨all, fun index => ?_, fun index other found => ?_, ?_, ?_⟩
    · simp only [latest_snoc, Function.update_apply, own, holds.present]
      split_ifs <;> rfl
    · simp only [latest_snoc, own] at found
      simp only [Function.update_apply]
      split_ifs at found ⊢
      · rw [Option.some.inj found]
      · exact holds.fragments index other found
    · cases last : fragment.isLast <;> simp [flagged_snoc, last, small, holds.checksum]
    · cases last : fragment.isLast <;> simp [flagged_snoc, last, small, holds.count]
  · rw [dif_neg bound]
    refine ⟨all, fun index => ?_, fun index other found => ?_, ?_, ?_⟩
    · rw [latest_snoc, if_neg (by omega), holds.present]
    · rw [latest_snoc, if_neg (by omega)] at found
      exact holds.fragments index other found
    · rw [flagged_snoc, if_neg (by omega), holds.checksum]
    · rw [flagged_snoc, if_neg (by omega), holds.count]

variable {last : LfnFragment}

variable (holds : scan.Holds run)

include holds

section

variable (flag : flagged run = some last)

include flag

theorem counted : scan.fragmentCount.val = last.sequence := by
  rw [holds.count, flag]
  rfl

end

end LongNameScan.Holds

section Directories

variable {State : Type} (slotStep : State → Bytes → Scan State)

def Scan.result : Scan State → Option ShortDirEntry
  | .stop found => found
  | .more _ => none

variable (info : BootSectorInfo) (disk : Nat → Sector)

def BootSectorInfo.clusterSlots (cluster : Nat) : List Bytes :=
  (range info.sectorsPerCluster).flatMap fun s => slots (disk (info.firstSector cluster + s))

/-- The slots of the directory in the order the lookups meet them. -/
def BootSectorInfo.directory (start count : Nat) : List Bytes :=
  (info.met (info.entryAfter disk) start count).flatMap (info.clusterSlots disk)

end Directories

end Runix.BlkDriver
