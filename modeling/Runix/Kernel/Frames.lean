import Mathlib.Data.List.Nodup
import Runix.Lib.Runs

/-!
# Physical frames of the kernel

`memory.rs`: the frame allocator hands out the usable frames of the bootloader's memory map one
after the other, and first of all those that were given back, the last one first.  A frame is
known by its number.

What an allocator will hand out is a list, its supply; every call takes the first frame of it.
-/

namespace Runix.Kernel

def frameSize : Nat := 4096

inductive MemoryRegionKind
  | usable
  | bootloader
  | unknown
deriving DecidableEq

/-- The addresses from `start` up to `stop`, the field `end`. -/
structure MemoryRegion where
  start : Nat
  stop : Nat
  kind : MemoryRegionKind
deriving DecidableEq

/-- The frames at the addresses of `(start..end).step_by(4096)`. -/
def MemoryRegion.frames (region : MemoryRegion) : List Nat :=
  (List.range ((region.stop - region.start + (frameSize - 1)) / frameSize)).map fun i =>
    (region.start + i * frameSize) / frameSize

/-- A memory map as the bootloader gives it: usable regions are made of pages, and no two of
them overlap. -/
structure MemoryRegions where
  regions : List MemoryRegion
  aligned : ∀ region ∈ regions.filter (·.kind = .usable),
    region.start % frameSize = 0 ∧ region.stop % frameSize = 0
  apart : (regions.filter (·.kind = .usable)).Pairwise fun first second =>
    first.stop ≤ second.start ∨ second.stop ≤ first.start

def MemoryRegions.usableFrames (map : MemoryRegions) : List Nat :=
  (map.regions.filter (·.kind = .usable)).flatMap MemoryRegion.frames

structure BootInfoFrameAllocator where
  memoryRegions : MemoryRegions
  next : Nat
  /-- The end of the `Vec` is the head of the list. -/
  freed : List Nat

namespace BootInfoFrameAllocator

def init (memoryRegions : MemoryRegions) : BootInfoFrameAllocator := ⟨memoryRegions, 0, []⟩

variable (allocator : BootInfoFrameAllocator)

def allocateFrame : Option Nat × BootInfoFrameAllocator :=
  match allocator.freed with
  | frame :: rest => (some frame, { allocator with freed := rest })
  | [] => (allocator.memoryRegions.usableFrames[allocator.next]?,
      { allocator with next := allocator.next + 1 })

def deallocateFrame (frame : Nat) : BootInfoFrameAllocator :=
  { allocator with freed := frame :: allocator.freed }

/-- The frames to come, in the order in which they will be handed out. -/
def supply : List Nat :=
  allocator.freed ++ allocator.memoryRegions.usableFrames.drop allocator.next

theorem allocateFrame_fst : allocator.allocateFrame.1 = allocator.supply.head? := by
  unfold allocateFrame supply
  cases allocator.freed with
  | nil => exact List.head?_drop.symm
  | cons frame rest => rfl

theorem allocateFrame_supply : allocator.allocateFrame.2.supply = allocator.supply.tail := by
  unfold allocateFrame supply
  cases allocator.freed with
  | nil => exact List.tail_drop.symm
  | cons frame rest => rfl

end BootInfoFrameAllocator

/-! ## No frame twice -/

theorem MemoryRegion.mem_frames {region : MemoryRegion} (aligned : region.start % frameSize = 0)
    {frame : Nat} (listed : frame ∈ region.frames) :
    region.start ≤ frame * frameSize ∧ frame * frameSize < region.stop := by
  obtain ⟨i, bound, rfl⟩ := List.mem_map.mp listed
  have small := List.mem_range.mp bound
  unfold frameSize at *
  omega

theorem MemoryRegion.frames_nodup (region : MemoryRegion) : region.frames.Nodup := by
  apply List.Nodup.map _ List.nodup_range
  intro i j same
  dsimp only at same
  unfold frameSize at same
  omega

theorem MemoryRegions.usableFrames_nodup (map : MemoryRegions) : map.usableFrames.Nodup := by
  unfold usableFrames
  rw [List.nodup_flatMap]
  refine ⟨fun region _ => region.frames_nodup, ?_⟩
  apply List.Pairwise.imp_of_mem _ map.apart
  intro first second one two apart frame here there
  have low := MemoryRegion.mem_frames (map.aligned first one).1 here
  have high := MemoryRegion.mem_frames (map.aligned second two).1 there
  omega

theorem MemoryRegions.mem_usableFrames {map : MemoryRegions} {frame : Nat}
    (listed : frame ∈ map.usableFrames) : ∃ region ∈ map.regions, region.kind = .usable ∧
      region.start ≤ frame * frameSize ∧ (frame + 1) * frameSize ≤ region.stop := by
  obtain ⟨region, usable, here⟩ := List.mem_flatMap.mp listed
  obtain ⟨start, stop⟩ := map.aligned region usable
  have inside := MemoryRegion.mem_frames start here
  refine ⟨region, List.mem_of_mem_filter usable, by simpa using List.of_mem_filter usable,
    inside.1, ?_⟩
  unfold frameSize at *
  omega

/-! ## Frames in use -/

inductive FrameCall
  | allocate
  | deallocate (frame : Nat)

/-- The allocator, and the frames its callers hold. -/
structure FrameUse where
  allocator : BootInfoFrameAllocator
  held : List Nat

namespace FrameUse

open Lib.Runs

def init (map : MemoryRegions) : FrameUse := ⟨.init map, []⟩

/-- Only a frame that is held is given back. -/
def step (use : FrameUse) : FrameCall → FrameUse
  | .allocate =>
    ⟨use.allocator.allocateFrame.2, use.allocator.allocateFrame.1.toList ++ use.held⟩
  | .deallocate frame =>
    if frame ∈ use.held then ⟨use.allocator.deallocateFrame frame, use.held.erase frame⟩ else use

structure Lawful (map : MemoryRegions) (use : FrameUse) : Prop where
  same : use.allocator.memoryRegions = map
  parted : (use.held ++ use.allocator.supply).Perm map.usableFrames

theorem Lawful.step {map : MemoryRegions} {use : FrameUse} (lawful : use.Lawful map)
    (call : FrameCall) : (use.step call).Lawful map := by
  cases call with
  | allocate =>
    refine ⟨?_, List.Perm.trans ?_ lawful.parted⟩
    · rw [← lawful.same]
      dsimp only [FrameUse.step, BootInfoFrameAllocator.allocateFrame]
      split <;> rfl
    · dsimp only [FrameUse.step]
      rw [use.allocator.allocateFrame_fst, use.allocator.allocateFrame_supply]
      cases use.allocator.supply with
      | nil => exact .refl _
      | cons frame rest => exact List.perm_middle.symm
  | deallocate frame =>
    dsimp only [FrameUse.step]
    split_ifs with held
    · refine ⟨lawful.same, List.Perm.trans ?_ lawful.parted⟩
      exact List.perm_middle.trans ((List.perm_cons_erase held).symm.append_right _)
    · exact lawful

/-- After any calls, the frames held, those given back and those not yet reached are the usable
frames, each once; what is handed out is not held, and only if all are held there is none. -/
theorem frames_parted (map : MemoryRegions) (calls : List FrameCall) :
    let use := run step (init map) calls
    (use.held ++ use.allocator.freed ++ map.usableFrames.drop use.allocator.next).Perm
        map.usableFrames ∧
      (use.held ++ use.allocator.freed ++ map.usableFrames.drop use.allocator.next).Nodup ∧
      (∀ frame ∈ map.usableFrames, ∃ region ∈ map.regions, region.kind = .usable ∧
        region.start ≤ frame * frameSize ∧ (frame + 1) * frameSize ≤ region.stop) ∧
      (∀ frame, use.allocator.allocateFrame.1 = some frame →
        frame ∈ map.usableFrames ∧ frame ∉ use.held) ∧
      (use.allocator.allocateFrame.1 = none → ∀ frame ∈ map.usableFrames, frame ∈ use.held) := by
  intro use
  obtain ⟨same, parted⟩ : use.Lawful map :=
    run_invariant _ (fun _ call lawful => lawful.step call) calls _ ⟨rfl, .refl _⟩
  have nodup := parted.nodup_iff.mpr map.usableFrames_nodup
  have supply : use.held ++ use.allocator.supply =
      use.held ++ use.allocator.freed ++ map.usableFrames.drop use.allocator.next := by
    rw [BootInfoFrameAllocator.supply, same, List.append_assoc]
  rw [← supply]
  refine ⟨parted, nodup, fun _ => MemoryRegions.mem_usableFrames, fun frame given => ?_,
    fun exhausted frame usable => ?_⟩
  · rw [use.allocator.allocateFrame_fst] at given
    have next := List.mem_of_mem_head? given
    refine ⟨parted.subset (List.mem_append_right _ next), fun held => ?_⟩
    exact (List.nodup_append.mp nodup).2.2 frame held frame next rfl
  · rw [use.allocator.allocateFrame_fst, List.head?_eq_none_iff] at exhausted
    rw [exhausted, List.append_nil] at parted
    exact parted.mem_iff.mpr usable

end FrameUse

end Runix.Kernel
