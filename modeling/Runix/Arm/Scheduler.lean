import Runix.Lib.Runs
import Mathlib.Data.List.Perm.Basic

/-!
# The kernel-arm scheduler

`scheduler.rs` of kernel-arm: cooperative threads, each with a stack from the heap and possibly
an address space of its own.  A thread that called `exit_current` is moved to the zombie list
when it is switched away from, and a later `reap_exited`, run by another thread, frees its stack
and hands its address space to `destroy`.

A call carries what it finds outside the scheduler: the address the allocator returns for a
stack (0 for none), whether the zombie list could grow, the stack pointer, and the roots of the
spaces whose `destroy` refuses (a space that is refused is leaked, not freed).
-/

namespace Runix.Arm

open Lib.Runs

def stackSize : Nat := 4096 * 2

def contextSize : Nat := 160

/-- What the scheduler uses of an `AddressSpace`.  The root is a page of the heap. -/
structure SpaceHandle where
  root : Nat
  seededRoot : Nat
  allocated : root ≠ 0

instance : DecidableEq SpaceHandle := fun a b =>
  decidable_of_iff (a.root = b.root ∧ a.seededRoot = b.seededRoot) (by cases a; cases b; simp)

inductive SpawnError
  | notInitialized
  | outOfMemory
  | addressSpaceNotSeededFromKernel (seededRoot kernelRoot : Nat)
deriving DecidableEq

/-- A thread.  `id` is the number of threads created before it; the kernel keeps no such
number, it names threads in the statements below. -/
structure Thread where
  id : Nat
  stackBase : Nat
  stackPointer : Nat
  addressSpace : Option SpaceHandle
  exiting : Bool
deriving DecidableEq

namespace Thread

/-- The first thread, which runs on the stack the machine booted with. -/
def bootId : Nat := 0

def placeholder : Thread where
  id := bootId
  stackBase := 0
  stackPointer := 0
  addressSpace := none
  exiting := false

/-- `Thread::new` at the address the allocator returned.  The first context is at the top of
the stack. -/
def new (id stackBase : Nat) : Except SpawnError Thread :=
  if stackBase = 0 then .error .outOfMemory
  else .ok {
    id := id
    stackBase := stackBase
    stackPointer := stackBase + stackSize - contextSize
    addressSpace := none
    exiting := false }

def rootOr (thread : Thread) (kernelRoot : Nat) : Nat :=
  (thread.addressSpace.map SpaceHandle.root).getD kernelRoot

/-- The stack pointer is inside the stack.  The heap ends far below `2 ^ 64`, so the source's
saturating addition is an addition. -/
def OnStack (stackBase sp : Nat) : Prop :=
  stackBase ≤ sp ∧ sp < stackBase + stackSize

instance (stackBase sp : Nat) : Decidable (OnStack stackBase sp) := by
  unfold OnStack
  infer_instance

def Live (space : Option SpaceHandle) (activeRoot : Nat) : Prop :=
  ∃ held ∈ space, held.root = activeRoot

instance (space : Option SpaceHandle) (activeRoot : Nat) : Decidable (Live space activeRoot) :=
  match space with
  | none => isFalse (by simp [Live])
  | some held => decidable_of_iff (held.root = activeRoot) (by simp [Live])

/-- The cases in which `reclaim` gives the thread back. -/
def InUse (thread : Thread) (sp activeRoot : Nat) : Prop :=
  thread.stackBase = 0 ∨ OnStack thread.stackBase sp ∨ Live thread.addressSpace activeRoot

instance (thread : Thread) (sp activeRoot : Nat) : Decidable (thread.InUse sp activeRoot) := by
  unfold InUse
  infer_instance

end Thread

/-- What one `reclaim` released: the stack, and the space handed to `destroy` with whether
`destroy` freed it; and under which thread, stack pointer and table it ran. -/
structure Release where
  thread : Nat
  stack : Nat
  space : Option SpaceHandle
  destroyed : Bool
  reaper : Nat
  sp : Nat
  activeRoot : Nat

/-- The scheduler after `init`, with the loaded table and the number of threads created. -/
structure Scheduler where
  runQueue : List Thread
  current : Thread
  zombies : List Thread
  kernelRoot : Nat
  activeRoot : Nat
  created : Nat

namespace Scheduler

def init (activeRoot : Nat) : Scheduler where
  runQueue := []
  current := Thread.placeholder
  zombies := []
  kernelRoot := activeRoot
  activeRoot := activeRoot
  created := 1

variable (sched : Scheduler)

def enqueue (thread : Thread) : Scheduler :=
  { sched with runQueue := sched.runQueue ++ [thread], created := sched.created + 1 }

def spawn (stack : Nat) : Except SpawnError Scheduler := do
  let thread ← Thread.new sched.created stack
  return sched.enqueue thread

/-- A refused space is discarded: it goes to `destroy` and no thread ever has it. -/
def spawnWithAddressSpace (space : SpaceHandle) (stack : Nat) : Except SpawnError Scheduler :=
  if sched.kernelRoot = 0 then .error .notInitialized
  else if space.seededRoot ≠ sched.kernelRoot then
    .error (.addressSpaceNotSeededFromKernel space.seededRoot sched.kernelRoot)
  else do
    let thread ← Thread.new sched.created stack
    return sched.enqueue { thread with addressSpace := some space }

/-- The table after the switch to a thread that runs under `nextRoot`. -/
def loadRoot (activeRoot nextRoot : Nat) : Nat :=
  if nextRoot ≠ 0 ∧ activeRoot ≠ nextRoot then nextRoot else activeRoot

/-- The switch saves the context below the stack pointer of the thread that yields. -/
def yieldNow (sp : Nat) (grows : Bool) : Scheduler :=
  match sched.runQueue with
  | [] => sched
  | next :: rest =>
    let saved := { sched.current with stackPointer := sp - contextSize }
    let switched := { sched with
      current := next
      activeRoot := loadRoot sched.activeRoot (next.rootOr sched.kernelRoot) }
    if sched.current.exiting && grows then
      { switched with runQueue := rest, zombies := sched.zombies ++ [saved] }
    else
      { switched with runQueue := rest ++ [saved] }

/-- The first step of `exit_current`; the thread yields from then on.  The boot context has no
stack of its own and is not marked. -/
def exitCurrent : Scheduler :=
  if sched.current.stackBase ≠ 0 then
    { sched with current := { sched.current with exiting := true } }
  else sched

def reclaim (sp : Nat) (refused : List Nat) (thread : Thread) : Except Thread Release :=
  if thread.InUse sp sched.activeRoot then .error thread
  else .ok {
    thread := thread.id
    stack := thread.stackBase
    space := thread.addressSpace
    destroyed := thread.addressSpace.any fun held => held.root ∉ refused
    reaper := sched.current.id
    sp := sp
    activeRoot := sched.activeRoot }

/-- The zombies left, and what was released. -/
def reapExited (sp : Nat) (refused : List Nat) : Scheduler × List Release :=
  let results := sched.zombies.map (sched.reclaim sp refused)
  ({ sched with zombies := results.filterMap fun
      | .error kept => some kept
      | .ok _ => none },
    results.filterMap Except.toOption)

section

variable (sched : Scheduler) (sp : Nat) (refused : List Nat)

@[simp]
theorem reap_current : (sched.reapExited sp refused).1.current = sched.current := rfl

@[simp]
theorem reap_runQueue : (sched.reapExited sp refused).1.runQueue = sched.runQueue := rfl

theorem reap_zombies :
    (sched.reapExited sp refused).1.zombies =
      sched.zombies.filter fun thread => thread.InUse sp sched.activeRoot := by
  simp only [reapExited]
  induction sched.zombies with
  | nil => rfl
  | cons thread rest ih =>
    by_cases kept : thread.InUse sp sched.activeRoot
    · simpa [reclaim, kept] using ih
    · simpa [reclaim, kept] using ih

/-- What a reap releases are the zombies that are not in use, each with its own stack and
space. -/
theorem reap_releases :
    (sched.reapExited sp refused).2.map Release.thread =
      (sched.zombies.filter fun thread => ¬ thread.InUse sp sched.activeRoot).map Thread.id := by
  simp only [reapExited, List.filterMap_map]
  induction sched.zombies with
  | nil => rfl
  | cons thread rest ih =>
    by_cases kept : thread.InUse sp sched.activeRoot
    · simpa [List.filterMap_cons, reclaim, kept, Except.toOption] using ih
    · simpa [List.filterMap_cons, reclaim, kept, Except.toOption] using ih

end

theorem of_mem_releases {sched : Scheduler} {sp : Nat} {refused : List Nat} {release : Release}
    (released : release ∈ (sched.reapExited sp refused).2) :
    ∃ thread ∈ sched.zombies, ¬ thread.InUse sp sched.activeRoot ∧
      release.thread = thread.id ∧ release.stack = thread.stackBase ∧
      release.space = thread.addressSpace ∧ release.reaper = sched.current.id ∧
      release.sp = sp ∧ release.activeRoot = sched.activeRoot := by
  simp only [reapExited, List.mem_filterMap, List.mem_map] at released
  obtain ⟨_, ⟨thread, zombie, rfl⟩, ok⟩ := released
  by_cases kept : thread.InUse sp sched.activeRoot
  · simp [reclaim, kept, Except.toOption] at ok
  · simp only [reclaim, kept, if_false, Except.toOption, Option.some.injEq] at ok
    subst ok
    exact ⟨thread, zombie, kept, rfl, rfl, rfl, rfl, rfl, rfl⟩

end Scheduler

/-- What the thread that runs can do. -/
inductive ThreadCall
  | spawn (stack : Nat)
  | spawnWithAddressSpace (space : SpaceHandle) (stack : Nat)
  | yieldNow (sp : Nat) (grows : Bool)
  | exitCurrent
  | reapExited (sp : Nat) (refused : List Nat)

/-- Growing the zombie list does not fail. -/
def ThreadCall.Grows : ThreadCall → Prop
  | .yieldNow _ grows => grows = true
  | _ => True

instance (call : ThreadCall) : Decidable call.Grows := by
  unfold ThreadCall.Grows
  split <;> infer_instance

/-- A scheduler with its past: the stack and the space each thread was created with, the
threads that called `exit_current`, and all releases. -/
structure SchedulerHistory where
  sched : Scheduler
  belongings : List (Nat × Option SpaceHandle)
  exited : List Nat
  releases : List Release

namespace SchedulerHistory

def start (activeRoot : Nat) : SchedulerHistory where
  sched := Scheduler.init activeRoot
  belongings := [(0, none)]
  exited := []
  releases := []

variable (history : SchedulerHistory)

def reaped : List Nat :=
  history.releases.map Release.thread

def enlist (stack : Nat) (space : Option SpaceHandle) :
    Except SpawnError Scheduler → SchedulerHistory
  | .error _ => history
  | .ok sched =>
    { history with sched := sched, belongings := history.belongings ++ [(stack, space)] }

/-- `exit_current` never returns: a thread that called it only yields. -/
def step : ThreadCall → SchedulerHistory
  | .yieldNow sp grows => { history with sched := history.sched.yieldNow sp grows }
  | .spawn stack =>
    if history.sched.current.id ∈ history.exited then history
    else history.enlist stack none (history.sched.spawn stack)
  | .spawnWithAddressSpace space stack =>
    if history.sched.current.id ∈ history.exited then history
    else history.enlist stack (some space) (history.sched.spawnWithAddressSpace space stack)
  | .exitCurrent =>
    if history.sched.current.id ∈ history.exited then history
    else { history with
      sched := history.sched.exitCurrent
      exited := history.sched.current.id :: history.exited }
  | .reapExited sp refused =>
    if history.sched.current.id ∈ history.exited then history
    else { history with
      sched := (history.sched.reapExited sp refused).1
      releases := history.releases ++ (history.sched.reapExited sp refused).2 }

end SchedulerHistory

end Runix.Arm
