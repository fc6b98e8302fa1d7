import Runix.Kernel.SessionChannels

/-!
# The x86 scheduler

`kernel/src/scheduler.rs` and the timer tick of `kernel/src/interrupts.rs`, after `init`.
Yield, exit and the timer all enter `reschedule` through a trap, with interrupts off, so it is
one step.  Interrupts are on everywhere else: a tick can come between the making of a thread
and its `push_thread`, and between the store to `EXITING` and the trap that follows it.

A trap frame is the address it was saved at.  A thread's capabilities are left out, and physical
memory does not run out.  Nothing but the scheduler loads `Cr3`.
-/

namespace Runix.Kernel

def guardPageSize : Nat := 4096

def stackSize : Nat := 4096 * 16

def stackRegionStart : Nat := 0x666666660000

def stackRegionStride : Nat := guardPageSize + stackSize

def kernelEntryStackSize : Nat := 4096 * 4

def kernelEntryStackRegionStart : Nat := 0x333333330000

def kernelEntryStackRegionStride : Nat := guardPageSize + kernelEntryStackSize

/-- `size_of::<TrapFrame>()`: fifteen registers and the five words of `iretq`. -/
def trapFrameSize : Nat := 20 * 8

def watchdogThresholdTicks : Nat := 20

/-- `map_guarded_stack`: the base of the guard page and the top of the stack. -/
def mapGuardedStack (regionStart stride slot size : Nat) : Nat × Nat :=
  let guardPageBase := regionStart + slot * stride
  (guardPageBase, guardPageBase + guardPageSize + size)

/-- `Thread`. -/
structure ThreadRecord where
  id : Thread
  guardPageBase : Nat
  stackPointer : Nat
  addressSpace : Option Nat
  kernelEntryStackTop : Option Nat
deriving DecidableEq, Repr

/-- The scheduler and what it works on: the threads made and not yet pushed, the guard pages
of the mapped stacks, the loaded top-level table and the session table. -/
structure Machine where
  runQueue : List ThreadRecord
  current : ThreadRecord
  zombies : List ThreadRecord
  spawning : List ThreadRecord
  exiting : Bool
  nextThreadId : Thread
  nextStackSlot : Nat
  nextKernelEntryStackSlot : Nat
  mappedStacks : List Nat
  cr3 : Nat
  kernelP4 : Nat
  rsp0 : Nat
  ticks : Nat
  lastYieldTick : Nat
  sessions : SessionTable

def bootThread : Thread := 1

namespace ThreadRecord

/-- `Thread::placeholder`. -/
def placeholder (id : Thread) : ThreadRecord :=
  { id := id, guardPageBase := 0, stackPointer := 0, addressSpace := none,
    kernelEntryStackTop := none }

/-- `Thread::new`, with the fields its caller sets: the first frame is at the top of the new
stack, below the word a call would have pushed. -/
def new (id : Thread) (slot : Nat) (addressSpace kernelEntryStackTop : Option Nat) :
    ThreadRecord :=
  let (guardPageBase, stackTop) :=
    mapGuardedStack stackRegionStart stackRegionStride slot stackSize
  let entryRsp := stackTop / 16 * 16 - 8
  { id := id
    guardPageBase := guardPageBase
    stackPointer := entryRsp - trapFrameSize
    addressSpace := addressSpace
    kernelEntryStackTop := kernelEntryStackTop }

end ThreadRecord

namespace Machine

/-- `init`, on the boot stack. -/
def init (kernelP4 rsp0 : Nat) : Machine where
  runQueue := []
  current := .placeholder bootThread
  zombies := []
  spawning := []
  exiting := false
  nextThreadId := bootThread + 1
  nextStackSlot := 0
  nextKernelEntryStackSlot := 0
  mappedStacks := []
  cr3 := kernelP4
  kernelP4 := kernelP4
  rsp0 := rsp0
  ticks := 0
  lastYieldTick := 0
  sessions := { sessions := [], pending := fun _ => [], nextId := 1 }

variable (machine : Machine)

def kernelEntryStack : Nat :=
  (mapGuardedStack kernelEntryStackRegionStart kernelEntryStackRegionStride
    machine.nextKernelEntryStackSlot kernelEntryStackSize).2

/-- The thread a `spawn` function builds: in an address space of its own or not, with a stack
for traps from ring 3 or not. -/
def built (addressSpace : Option Nat) (ring3 : Bool) : ThreadRecord :=
  .new machine.nextThreadId machine.nextStackSlot addressSpace
    (if ring3 then some machine.kernelEntryStack else none)

def build (addressSpace : Option Nat) (ring3 : Bool) : Machine :=
  let thread := machine.built addressSpace ring3
  { machine with
    spawning := machine.spawning ++ [thread]
    nextThreadId := machine.nextThreadId + 1
    nextStackSlot := machine.nextStackSlot + 1
    nextKernelEntryStackSlot :=
      if ring3 then machine.nextKernelEntryStackSlot + 1 else machine.nextKernelEntryStackSlot
    mappedStacks := machine.mappedStacks ++ [thread.guardPageBase] }

def pushThread (thread : ThreadRecord) : Machine :=
  { machine with
    spawning := machine.spawning.erase thread
    runQueue := machine.runQueue ++ [thread] }

/-- The first half of `exit_current_thread`; the second is a trap. -/
def storeExiting : Machine := { machine with exiting := true }

/-- The body of the loop of `reap_zombies`: `none` if a stack page is not mapped. -/
def reapAll (machine : Machine) : List ThreadRecord → Option Machine
  | [] => some machine
  | zombie :: rest =>
    if zombie.guardPageBase ∈ machine.mappedStacks then
      reapAll
        { machine with
          sessions := machine.sessions.reapSessionsFor zombie.id
          mappedStacks := machine.mappedStacks.erase zombie.guardPageBase } rest
    else none

def reapZombies : Option Machine :=
  reapAll { machine with zombies := [] } machine.zombies

/-- The rest of `reschedule`, once there is a thread to switch to. -/
def switchTo (next : ThreadRecord) (rest : List ThreadRecord) (currentFrame : Nat) : Machine :=
  let targetFrame := next.addressSpace.getD machine.kernelP4
  let outgoing := { machine.current with stackPointer := currentFrame }
  { machine with
    cr3 := if machine.cr3 ≠ targetFrame then targetFrame else machine.cr3
    rsp0 := next.kernelEntryStackTop.getD machine.rsp0
    exiting := false
    zombies := if machine.exiting then machine.zombies ++ [outgoing] else machine.zombies
    runQueue := if machine.exiting then rest else rest ++ [outgoing]
    current := next }

/-- The frame to resume from, or `none` when the kernel panics. -/
def reschedule (currentFrame : Nat) : Option (Nat × Machine) :=
  (reapZombies { machine with lastYieldTick := machine.ticks }).map fun machine =>
    match machine.runQueue with
    | [] => (currentFrame, machine)
    | next :: rest => (next.stackPointer, machine.switchTo next rest currentFrame)

def onTimerTick (frame : Nat) : Option (Nat × Machine) :=
  let now := machine.ticks + 1
  if now - machine.lastYieldTick > watchdogThresholdTicks then none
  else reschedule { machine with ticks := now } frame

/-! ## Rescheduling -/

def tidied (ticks : Nat) : Machine :=
  { machine with
    zombies := []
    sessions := machine.zombies.foldl
      (fun sessions zombie => sessions.reapSessionsFor zombie.id) machine.sessions
    mappedStacks := machine.mappedStacks.diff (machine.zombies.map ThreadRecord.guardPageBase)
    ticks := ticks
    lastYieldTick := ticks }

/-- Every zombie has a mapped stack of its own. -/
def Reapable : Prop :=
  (machine.zombies.map ThreadRecord.guardPageBase).Nodup ∧
    ∀ base ∈ machine.zombies.map ThreadRecord.guardPageBase, base ∈ machine.mappedStacks

theorem reap_all_eq (zombies : List ThreadRecord) (machine : Machine)
    (own : (zombies.map ThreadRecord.guardPageBase).Nodup)
    (mapped : ∀ base ∈ zombies.map ThreadRecord.guardPageBase, base ∈ machine.mappedStacks) :
    machine.reapAll zombies = some
      { machine with
        sessions := zombies.foldl
          (fun sessions zombie => sessions.reapSessionsFor zombie.id) machine.sessions
        mappedStacks := machine.mappedStacks.diff (zombies.map ThreadRecord.guardPageBase) } := by
  induction zombies generalizing machine with
  | nil => rfl
  | cons zombie rest ih =>
    rw [List.map_cons, List.nodup_cons] at own
    have here : zombie.guardPageBase ∈ machine.mappedStacks :=
      mapped _ (List.map_cons ▸ List.mem_cons_self)
    rw [reapAll, if_pos here, ih _ own.2, List.map_cons, List.diff_cons]
    · rfl
    · intro base later
      have apart : base ≠ zombie.guardPageBase := fun same => own.1 (same ▸ later)
      exact (List.mem_erase_of_ne apart).mpr (mapped base (List.mem_cons_of_mem _ later))

variable {machine : Machine}

theorem reap_zombies_eq (reapable : machine.Reapable) :
    reapZombies { machine with lastYieldTick := machine.ticks } =
      some (machine.tidied machine.ticks) :=
  reap_all_eq machine.zombies { machine with lastYieldTick := machine.ticks, zombies := [] }
    reapable.1 reapable.2

theorem reschedule_eq (reapable : machine.Reapable) (frame : Nat) :
    machine.reschedule frame = some
      (match machine.runQueue with
      | [] => (frame, machine.tidied machine.ticks)
      | next :: rest =>
        (next.stackPointer, (machine.tidied machine.ticks).switchTo next rest frame)) := by
  rw [reschedule, reap_zombies_eq reapable, Option.map_some]
  rfl

theorem on_timer_tick_eq (reapable : machine.Reapable)
    (watched : machine.lastYieldTick = machine.ticks) (frame : Nat) :
    machine.onTimerTick frame = some
      (match machine.runQueue with
      | [] => (frame, machine.tidied (machine.ticks + 1))
      | next :: rest =>
        (next.stackPointer, (machine.tidied (machine.ticks + 1)).switchTo next rest frame)) := by
  have fed : ¬ machine.ticks + 1 - machine.lastYieldTick > watchdogThresholdTicks := by
    rw [watched, Nat.add_sub_cancel_left]
    decide
  have reapableNow : Reapable { machine with ticks := machine.ticks + 1 } := reapable
  rw [onTimerTick, if_neg fed]
  exact reschedule_eq reapableNow frame

theorem switch_to_cr3 (machine : Machine) (next : ThreadRecord) (rest : List ThreadRecord)
    (frame : Nat) :
    (machine.switchTo next rest frame).cr3 = next.addressSpace.getD machine.kernelP4 := by
  unfold switchTo
  dsimp only
  split_ifs with differ
  · rfl
  · exact not_not.mp differ

end Machine

end Runix.Kernel
