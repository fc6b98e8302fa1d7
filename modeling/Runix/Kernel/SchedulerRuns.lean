import Runix.Kernel.Scheduler
import Runix.Lib.RoundRobin
import Runix.Lib.Runs

/-!
# Runs of the scheduler

Threads are made, pushed, yield, exit and are interrupted in any order.  Beside the machine, a
log keeps what happened: the threads pushed and reaped, those that called
`exit_current_thread`, the frame each thread left, and the turns.

The machine is a ring of turns.  What one event can do to a log is one relation, and the parts
of a lawful log are kept by it: the place of every thread, the mapped stacks, the saved
frames with the loaded table, and the exits.
-/

namespace Runix.Kernel

open Lib.Runs Lib.RoundRobin List

inductive SchedulerEvent where
  | threadNew (addressSpace : Option Nat) (ring3 : Bool)
  | pushThread (id : Thread)
  | storeExiting
  | yieldNow (frame : Nat)
  | timerTick (frame : Nat)
deriving DecidableEq, Repr

/-- `left` is the frame a thread was last switched out with, or its first one. -/
structure SchedulerHistory where
  pushed : List Thread
  reaped : List Thread
  exited : List Thread
  left : Thread → Nat
  turns : List Thread

structure SchedulerLog where
  machine : Machine
  history : SchedulerHistory
  panicked : Bool

def ids (threads : List ThreadRecord) : List Thread := threads.map ThreadRecord.id

namespace SchedulerHistory

variable (history : SchedulerHistory)

def reap (zombies : List ThreadRecord) : SchedulerHistory :=
  { history with reaped := history.reaped ++ ids zombies }

def leave (thread : Thread) (frame : Nat) : SchedulerHistory :=
  { history with left := Function.update history.left thread frame }

def turn (thread : Thread) : SchedulerHistory :=
  { history with turns := history.turns ++ [thread] }

def trapped (machine : Machine) (frame : Nat) : SchedulerHistory :=
  match machine.runQueue with
  | [] => history.reap machine.zombies
  | next :: _ => ((history.reap machine.zombies).leave machine.current.id frame).turn next.id

end SchedulerHistory

namespace SchedulerLog

def boot (kernelP4 rsp0 : Nat) : SchedulerLog where
  machine := .init kernelP4 rsp0
  history := { pushed := [bootThread], reaped := [], exited := [], left := fun _ => 0, turns := [] }
  panicked := false

variable (log : SchedulerLog)

def trapped (frame : Nat) : Option (Nat × Machine) → SchedulerLog
  | none => { log with panicked := true }
  | some (_, machine) =>
    { log with machine := machine, history := log.history.trapped log.machine frame }

def build (addressSpace : Option Nat) (ring3 : Bool) : SchedulerLog :=
  let thread := log.machine.built addressSpace ring3
  { log with
    machine := log.machine.build addressSpace ring3
    history := log.history.leave thread.id thread.stackPointer }

def push (thread : ThreadRecord) : SchedulerLog :=
  { log with
    machine := log.machine.pushThread thread
    history := { log.history with pushed := log.history.pushed ++ [thread.id] } }

def mark : SchedulerLog :=
  { log with
    machine := log.machine.storeExiting
    history := { log.history with exited := log.history.exited ++ [log.machine.current.id] } }

def step : SchedulerEvent → SchedulerLog
  | .threadNew addressSpace ring3 => log.build addressSpace ring3
  | .pushThread id =>
    match log.machine.spawning.find? fun thread => thread.id = id with
    | none => log
    | some thread => log.push thread
  | .storeExiting => log.mark
  | .yieldNow frame => log.trapped frame (log.machine.reschedule frame)
  | .timerTick frame => log.trapped frame (log.machine.onTimerTick frame)

/-- The boot thread does not exit: it has no stack of its own to reclaim. -/
def BootStays (event : SchedulerEvent) : Prop :=
  event = .storeExiting → log.machine.current.id ≠ bootThread

instance (log : SchedulerLog) (event : SchedulerEvent) : Decidable (log.BootStays event) :=
  inferInstanceAs (Decidable (_ → _))

/-! ## The ring -/

def ring : Rotation Thread where
  current := log.machine.current.id
  queue := ids log.machine.runQueue
  gone := log.history.reaped ++ ids log.machine.zombies

def everyone : List Thread :=
  log.ring.members ++ ids log.machine.spawning

structure Placed (log : SchedulerLog) : Prop where
  distinct : log.everyone.Nodup
  issued : ∀ id ∈ log.everyone, id < log.machine.nextThreadId
  known : log.history.pushed.Perm log.ring.members
  boot_runs : bootThread ∈ log.machine.current.id :: ids log.machine.runQueue

end SchedulerLog

namespace ThreadRecord

/-- The stack of a thread, in the region of the thread stacks.  The boot thread has none. -/
def stackOf (thread : ThreadRecord) : Option Nat :=
  if thread.id = bootThread then none else some thread.guardPageBase

end ThreadRecord

def guardPageOf (slot : Nat) : Nat := stackRegionStart + slot * stackRegionStride

def stacksOf (threads : List ThreadRecord) : List Nat := threads.filterMap ThreadRecord.stackOf

namespace SchedulerLog

variable (log : SchedulerLog)

def living : List ThreadRecord :=
  log.machine.zombies ++ log.machine.current :: (log.machine.runQueue ++ log.machine.spawning)

structure Stacked (log : SchedulerLog) : Prop where
  own : (stacksOf log.living).Nodup
  mapped : ∀ base ∈ stacksOf log.living, base ∈ log.machine.mappedStacks
  once : log.machine.mappedStacks.Nodup
  below : ∀ base ∈ log.machine.mappedStacks, base < guardPageOf log.machine.nextStackSlot

structure Saved (log : SchedulerLog) : Prop where
  frames : ∀ thread ∈ log.machine.runQueue ++ log.machine.spawning,
    log.history.left thread.id = thread.stackPointer
  table : log.machine.cr3 = log.machine.current.addressSpace.getD log.machine.kernelP4
  watched : log.machine.lastYieldTick = log.machine.ticks

structure Exits (log : SchedulerLog) : Prop where
  flag : log.machine.exiting = true →
    log.machine.current.id ∈ log.history.exited ∧ log.machine.current.id ≠ bootThread
  away : ∀ thread ∈ log.history.exited,
    (thread = log.machine.current.id ∧ log.machine.exiting = true) ∨ thread ∈ log.ring.gone
  only : ∀ thread ∈ log.ring.gone, thread ∈ log.history.exited

structure Lawful (log : SchedulerLog) : Prop where
  placed : log.Placed
  stacked : log.Stacked
  saved : log.Saved
  exits : log.Exits
  running : log.panicked = false

/-! ## What one event can do -/

def tidy (ticks : Nat) : SchedulerLog :=
  { log with
    machine := log.machine.tidied ticks
    history := log.history.reap log.machine.zombies }

def switch (ticks frame : Nat) (next : ThreadRecord) (rest : List ThreadRecord) : SchedulerLog :=
  { log with
    machine := (log.machine.tidied ticks).switchTo next rest frame
    history := ((log.history.reap log.machine.zombies).leave log.machine.current.id
      frame).turn next.id }

inductive Outcome (log : SchedulerLog) : SchedulerLog → Prop
  | still : Outcome log log
  | built (addressSpace : Option Nat) (ring3 : Bool) : Outcome log (log.build addressSpace ring3)
  | pushed {thread : ThreadRecord} (made : thread ∈ log.machine.spawning) :
      Outcome log (log.push thread)
  | marked (other : log.machine.current.id ≠ bootThread) : Outcome log log.mark
  | idle (ticks : Nat) (empty : log.machine.runQueue = []) : Outcome log (log.tidy ticks)
  | switched (ticks frame : Nat) {next : ThreadRecord} {rest : List ThreadRecord}
      (queue : log.machine.runQueue = next :: rest) :
      Outcome log (log.switch ticks frame next rest)

section Traps

variable {log : SchedulerLog}

section

variable (placed : log.Placed)

include placed

theorem Placed.ring_distinct : log.ring.members.Nodup :=
  (nodup_append.mp placed.distinct).1

theorem Placed.boot_not_gone {thread : Thread}
    (gone : thread ∈ log.ring.gone) : thread ≠ bootThread := by
  rintro rfl
  have whole : (log.machine.current.id :: ids log.machine.runQueue ++ log.ring.gone).Nodup :=
    placed.ring_distinct
  exact (nodup_append.mp whole).2.2 bootThread placed.boot_runs bootThread gone rfl

theorem Placed.zombie_not_boot {zombie : ThreadRecord}
    (dead : zombie ∈ log.machine.zombies) : zombie.id ≠ bootThread :=
  placed.boot_not_gone (mem_append_right _ (mem_map_of_mem dead))

theorem stacks_of_zombies :
    stacksOf log.machine.zombies = log.machine.zombies.map ThreadRecord.guardPageBase := by
  rw [stacksOf, ← filterMap_eq_map]
  apply filterMap_congr
  intro zombie dead
  exact if_neg (placed.zombie_not_boot dead)

theorem reapable (stacked : log.Stacked) : log.machine.Reapable := by
  have split : stacksOf log.living = stacksOf log.machine.zombies ++
      stacksOf (log.machine.current :: (log.machine.runQueue ++ log.machine.spawning)) :=
    filterMap_append
  rw [Machine.Reapable, ← stacks_of_zombies placed]
  constructor
  · exact (nodup_append.mp (split ▸ stacked.own)).1
  · intro base dead
    apply stacked.mapped
    rw [split]
    exact mem_append_left _ dead

end

theorem step_outcome (log : SchedulerLog) (lawful : log.Lawful) (event : SchedulerEvent)
    (stays : log.BootStays event) : Outcome log (log.step event) := by
  have clean := reapable lawful.placed lawful.stacked
  cases event with
  | threadNew addressSpace ring3 => exact .built addressSpace ring3
  | pushThread id =>
    rw [step]
    cases made : log.machine.spawning.find? fun thread => thread.id = id with
    | none => exact .still
    | some thread => exact .pushed (mem_of_find?_eq_some made)
  | storeExiting => exact .marked (stays rfl)
  | yieldNow frame =>
    rw [step, Machine.reschedule_eq clean, trapped, SchedulerHistory.trapped]
    cases queue : log.machine.runQueue with
    | nil => exact .idle _ queue
    | cons next rest => exact .switched _ frame queue
  | timerTick frame =>
    rw [step, Machine.on_timer_tick_eq clean lawful.saved.watched, trapped,
      SchedulerHistory.trapped]
    cases queue : log.machine.runQueue with
    | nil => exact .idle _ queue
    | cons next rest => exact .switched _ frame queue

end Traps

/-! ## Places -/

section Rings

variable (log : SchedulerLog)

theorem push_ring (thread : ThreadRecord) :
    (log.push thread).ring = { log.ring with queue := log.ring.queue ++ [thread.id] } := by
  simp [ring, push, Machine.pushThread, ids]

theorem tidy_ring (ticks : Nat) : (log.tidy ticks).ring = log.ring := by
  simp [ring, tidy, Machine.tidied, SchedulerHistory.reap, ids]

variable {log} {next : ThreadRecord} {rest : List ThreadRecord}

theorem switch_run_queue (log : SchedulerLog) (ticks frame : Nat) (next : ThreadRecord)
    (rest : List ThreadRecord) :
    (log.switch ticks frame next rest).machine.runQueue =
      if log.machine.exiting then rest
      else rest ++ [{ log.machine.current with stackPointer := frame }] := rfl

theorem switch_zombies (log : SchedulerLog) (ticks frame : Nat) (next : ThreadRecord)
    (rest : List ThreadRecord) :
    (log.switch ticks frame next rest).machine.zombies =
      if log.machine.exiting then [{ log.machine.current with stackPointer := frame }]
      else [] := rfl

theorem switch_moves (queue : log.machine.runQueue = next :: rest) (ticks frame : Nat) :
    Move log.ring (some next.id) (log.switch ticks frame next rest).ring := by
  have before : log.ring = ⟨log.machine.current.id, next.id :: ids rest, log.ring.gone⟩ := by
    simp [ring, queue, ids]
  have after : (log.switch ticks frame next rest).ring =
      ⟨next.id, ids (log.switch ticks frame next rest).machine.runQueue,
        log.history.reaped ++ ids log.machine.zombies ++
          ids (log.switch ticks frame next rest).machine.zombies⟩ := rfl
  rw [before, after, switch_run_queue, switch_zombies]
  cases log.machine.exiting with
  | false =>
    have later := Move.rotate log.machine.current.id next.id (ids rest) log.ring.gone
    simpa [ids, ring] using later
  | true => exact Move.leave log.machine.current.id next.id (ids rest) log.ring.gone

end Rings

namespace Outcome

variable {log after : SchedulerLog}

theorem ring_moves (outcome : Outcome log after) (placed : log.Placed) :
    ∃ turn, Move log.ring turn after.ring ∧
      after.history.turns = log.history.turns ++ turn.toList := by
  cases outcome with
  | still => exact ⟨none, .still _, (append_nil _).symm⟩
  | built addressSpace ring3 => exact ⟨none, .still _, (append_nil _).symm⟩
  | @pushed thread made =>
    have new : thread.id ∉ log.ring.members := by
      intro known
      have apart := (nodup_append.mp placed.distinct).2.2
      exact apart thread.id known thread.id (mem_map_of_mem made) rfl
    rw [push_ring]
    exact ⟨none, .join _ _ new, (append_nil _).symm⟩
  | marked other => exact ⟨none, .still _, (append_nil _).symm⟩
  | idle ticks empty =>
    rw [tidy_ring]
    exact ⟨none, .still _, (append_nil _).symm⟩
  | @switched ticks frame next rest queue => exact ⟨_, switch_moves queue ticks frame, rfl⟩

/-- A thread that is made is the only new one, and every other event keeps all of them. -/
theorem everyone_perm (outcome : Outcome log after) :
    (after.everyone.Perm log.everyone ∧
        after.machine.nextThreadId = log.machine.nextThreadId) ∨
      after.everyone.Perm (log.machine.nextThreadId :: log.everyone) ∧
        after.machine.nextThreadId = log.machine.nextThreadId + 1 := by
  cases outcome with
  | still => exact .inl ⟨List.Perm.refl _, rfl⟩
  | built addressSpace ring3 =>
    have spawning : ids (log.build addressSpace ring3).machine.spawning =
        ids log.machine.spawning ++ [log.machine.nextThreadId] := map_append
    refine .inr ⟨?_, rfl⟩
    unfold everyone
    rw [spawning, ← append_assoc]
    exact perm_append_singleton _ _
  | @pushed thread made =>
    have spawning : (ids log.machine.spawning).Perm
        (thread.id :: ids (log.machine.spawning.erase thread)) :=
      (perm_cons_erase made).map ThreadRecord.id
    refine .inl ⟨?_, rfl⟩
    unfold everyone
    rw [push_ring]
    refine ((log.ring.members_join thread.id).append_right _).trans ?_
    exact perm_middle.symm.trans (spawning.symm.append_left _)
  | marked other => exact .inl ⟨List.Perm.refl _, rfl⟩
  | idle ticks empty =>
    unfold everyone
    rw [tidy_ring]
    exact .inl ⟨List.Perm.refl _, rfl⟩
  | switched ticks frame queue =>
    exact .inl ⟨(switch_moves queue ticks frame).members_of_turn.append_right _, rfl⟩

theorem switch_boot_runs {next : ThreadRecord} {rest : List ThreadRecord}
    (queue : log.machine.runQueue = next :: rest) (exits : log.Exits)
    (runs : bootThread ∈ log.machine.current.id :: ids log.machine.runQueue) (ticks frame : Nat) :
    bootThread ∈ (log.switch ticks frame next rest).machine.current.id ::
      ids (log.switch ticks frame next rest).machine.runQueue := by
  rw [queue] at runs
  cases exiting : log.machine.exiting with
  | false =>
    rw [show ids (log.switch ticks frame next rest).machine.runQueue =
      ids rest ++ [log.machine.current.id] by simp [switch_run_queue, exiting, ids]]
    rcases mem_cons.mp runs with now | waits
    · exact mem_cons_of_mem _ (mem_append_right _ (mem_singleton.mpr now))
    · rcases mem_cons.mp waits with first | later
      · exact mem_cons.mpr (.inl first)
      · exact mem_cons_of_mem _ (mem_append_left _ later)
  | true =>
    rw [show ids (log.switch ticks frame next rest).machine.runQueue = ids rest by
      simp [switch_run_queue, exiting]]
    rcases mem_cons.mp runs with now | waits
    · exact absurd now.symm (exits.flag exiting).2
    · exact waits

theorem placed (outcome : Outcome log after) (placed : log.Placed) (exits : log.Exits) :
    after.Placed where
  distinct := by
    rcases outcome.everyone_perm with ⟨same, -⟩ | ⟨more, -⟩
    · exact same.nodup_iff.mpr placed.distinct
    · refine more.nodup_iff.mpr (nodup_cons.mpr ⟨?_, placed.distinct⟩)
      exact fun issued => Nat.lt_irrefl _ (placed.issued _ issued)
  issued := by
    intro id member
    rcases outcome.everyone_perm with ⟨same, next⟩ | ⟨more, next⟩
    · rw [next]
      exact placed.issued id (same.mem_iff.mp member)
    rw [next]
    rcases mem_cons.mp (more.mem_iff.mp member) with rfl | earlier
    · exact Nat.lt_succ_self _
    · exact Nat.lt_succ_of_lt (placed.issued id earlier)
  known := by
    cases outcome with
    | still => exact placed.known
    | built addressSpace ring3 => exact placed.known
    | @pushed thread made =>
      rw [push_ring]
      refine (perm_append_singleton thread.id _).trans ?_
      exact (placed.known.cons thread.id).trans (log.ring.members_join thread.id).symm
    | marked other => exact placed.known
    | idle ticks empty =>
      rw [tidy_ring]
      exact placed.known
    | switched ticks frame queue =>
      exact placed.known.trans (switch_moves queue ticks frame).members_of_turn.symm
  boot_runs := by
    have runs := placed.boot_runs
    cases outcome with
    | still => exact runs
    | built addressSpace ring3 => exact runs
    | pushed made =>
      rcases mem_cons.mp runs with now | waits
      · exact mem_cons.mpr (.inl now)
      · apply mem_cons_of_mem
        rw [push, Machine.pushThread, ids, map_append]
        exact mem_append_left _ waits
    | marked other => exact runs
    | idle ticks empty => exact runs
    | switched ticks frame queue => exact switch_boot_runs queue exits runs ticks frame

end Outcome

/-! ## Stacks -/

variable {thread : ThreadRecord}

section Reaping

variable {log after : SchedulerLog}

theorem stacks_of_living (log : SchedulerLog) :
    stacksOf log.living = stacksOf log.machine.zombies ++
      stacksOf (log.machine.current :: (log.machine.runQueue ++ log.machine.spawning)) :=
  filterMap_append

theorem Stacked.reaped (stacked : log.Stacked) (placed : log.Placed)
    (unmapped : after.machine.mappedStacks = log.machine.mappedStacks.diff
      (log.machine.zombies.map ThreadRecord.guardPageBase))
    (slots : after.machine.nextStackSlot = log.machine.nextStackSlot)
    (left : (stacksOf after.living).Perm (stacksOf
      (log.machine.current :: (log.machine.runQueue ++ log.machine.spawning)))) :
    after.Stacked := by
  have own := nodup_append.mp (log.stacks_of_living ▸ stacked.own)
  rw [← stacks_of_zombies placed] at unmapped
  constructor
  · exact left.nodup_iff.mpr own.2.1
  · intro base alive
    have kept := left.mem_iff.mp alive
    rw [unmapped, stacked.once.mem_sdiff_iff]
    refine ⟨stacked.mapped base ?_, fun dead => own.2.2 base dead base kept rfl⟩
    rw [stacks_of_living]
    exact mem_append_right _ kept
  · rw [unmapped]
    exact stacked.once.diff
  · intro base mapped
    rw [unmapped] at mapped
    rw [slots]
    exact stacked.below base (stacked.once.mem_sdiff_iff.mp mapped).1

theorem guard_page_lt (slot : Nat) : guardPageOf slot < guardPageOf (slot + 1) := by
  have wide : 0 < stackRegionStride := by decide
  unfold guardPageOf
  rw [Nat.add_mul, Nat.one_mul]
  omega

theorem switch_stacks (log : SchedulerLog) (ticks frame : Nat) (next : ThreadRecord)
    (rest : List ThreadRecord) :
    (stacksOf (log.switch ticks frame next rest).living).Perm
      (stacksOf (log.machine.current :: (next :: rest ++ log.machine.spawning))) := by
  have spawning : (log.switch ticks frame next rest).machine.spawning = log.machine.spawning := rfl
  have current : (log.switch ticks frame next rest).machine.current = next := rfl
  unfold living
  rw [switch_run_queue, switch_zombies, spawning, current]
  -- The current thread keeps its stack, wherever it goes.
  have kept : ThreadRecord.stackOf { log.machine.current with stackPointer := frame } =
      log.machine.current.stackOf := rfl
  generalize { log.machine.current with stackPointer := frame } = outgoing at kept
  have same : stacksOf (outgoing :: (next :: rest ++ log.machine.spawning)) =
      stacksOf (log.machine.current :: (next :: rest ++ log.machine.spawning)) := by
    rw [stacksOf, stacksOf, filterMap_cons, filterMap_cons, kept]
  rw [← same]
  cases log.machine.exiting with
  | false =>
    have order : (next :: rest ++ outgoing :: log.machine.spawning).Perm
        (outgoing :: (next :: rest ++ log.machine.spawning)) := perm_middle
    have bases : (stacksOf (next :: rest ++ outgoing :: log.machine.spawning)).Perm
        (stacksOf (outgoing :: (next :: rest ++ log.machine.spawning))) := order.filterMap _
    simpa using bases
  | true => exact List.Perm.refl _

theorem build_stacks (placed : log.Placed) (addressSpace : Option Nat) (ring3 : Bool) :
    stacksOf (log.build addressSpace ring3).living =
      stacksOf log.living ++ [guardPageOf log.machine.nextStackSlot] := by
  have notBoot : (log.machine.built addressSpace ring3).id ≠ bootThread := by
    intro same
    have boot := placed.issued bootThread
      (mem_append_left _ (mem_append_left _ placed.boot_runs :
        bootThread ∈ (log.machine.current.id :: ids log.machine.runQueue) ++ log.ring.gone))
    exact Nat.ne_of_gt boot same
  have living : (log.build addressSpace ring3).living =
      log.living ++ [log.machine.built addressSpace ring3] := by
    simp [living, build, Machine.build]
  rw [living, stacksOf, filterMap_append]
  exact congrArg (stacksOf log.living ++ ·) (filterMap_cons_some (if_neg notBoot))

theorem Stacked.built (stacked : log.Stacked) (placed : log.Placed) (addressSpace : Option Nat)
    (ring3 : Bool) : (log.build addressSpace ring3).Stacked := by
  have bases := build_stacks placed addressSpace ring3
  have fresh : guardPageOf log.machine.nextStackSlot ∉ log.machine.mappedStacks :=
    fun mapped => Nat.lt_irrefl _ (stacked.below _ mapped)
  have mapped : (log.build addressSpace ring3).machine.mappedStacks =
      log.machine.mappedStacks ++ [guardPageOf log.machine.nextStackSlot] := rfl
  constructor
  · rw [bases]
    exact nodup_append_comm.mp (nodup_cons.mpr
      ⟨fun held => fresh (stacked.mapped _ held), stacked.own⟩)
  · intro base held
    rw [bases] at held
    rcases mem_append.mp held with earlier | last
    · exact mem_append_left _ (stacked.mapped base earlier)
    · exact mem_append_right _ last
  · rw [mapped]
    exact nodup_append_comm.mp (nodup_cons.mpr ⟨fresh, stacked.once⟩)
  · intro base held
    have next := guard_page_lt log.machine.nextStackSlot
    rcases mem_append.mp held with earlier | last
    · exact Nat.lt_trans (stacked.below base earlier) next
    · rw [mem_singleton.mp last]
      exact next

theorem push_living (made : thread ∈ log.machine.spawning) :
    (log.push thread).living.Perm log.living := by
  have moved : ((log.machine.runQueue ++ [thread]) ++ log.machine.spawning.erase thread).Perm
      (log.machine.runQueue ++ log.machine.spawning) := by
    rw [append_assoc]
    exact (perm_cons_erase made).symm.append_left _
  exact (moved.cons _).append_left _

theorem Outcome.stacked (outcome : Outcome log after) (placed : log.Placed)
    (stacked : log.Stacked) : after.Stacked := by
  cases outcome with
  | still => exact stacked
  | built addressSpace ring3 => exact stacked.built placed addressSpace ring3
  | pushed made =>
    have bases := (push_living made).filterMap ThreadRecord.stackOf
    constructor
    · exact bases.nodup_iff.mpr stacked.own
    · intro base held
      exact stacked.mapped base (bases.mem_iff.mp held)
    · exact stacked.once
    · exact stacked.below
  | marked other => exact ⟨stacked.own, stacked.mapped, stacked.once, stacked.below⟩
  | idle ticks empty => exact stacked.reaped placed rfl rfl (List.Perm.refl _)
  | @switched ticks frame next rest queue =>
    have left := log.switch_stacks ticks frame next rest
    rw [← queue] at left
    exact stacked.reaped placed rfl rfl left

end Reaping

/-! ## Frames, the loaded table and the watchdog -/

section Saving

variable {log after : SchedulerLog}

theorem Placed.current_apart (placed : log.Placed)
    (waits : thread ∈ log.machine.runQueue ++ log.machine.spawning) :
    thread.id ≠ log.machine.current.id := by
  intro same
  have first : log.machine.current.id ∉
      (ids log.machine.runQueue ++ log.ring.gone) ++ ids log.machine.spawning :=
    (nodup_cons.mp placed.distinct).1
  apply first
  rw [← same]
  rcases mem_append.mp waits with queued | made
  · exact mem_append_left _ (mem_append_left _ (mem_map_of_mem queued))
  · exact mem_append_right _ (mem_map_of_mem made)

theorem Placed.waiting_issued (placed : log.Placed)
    (waits : thread ∈ log.machine.runQueue ++ log.machine.spawning) :
    thread.id < log.machine.nextThreadId := by
  apply placed.issued
  rcases mem_append.mp waits with queued | made
  · exact mem_append_left _
      (mem_cons_of_mem _ (mem_append_left _ (mem_map_of_mem queued)))
  · exact mem_append_right _ (mem_map_of_mem made)

theorem Outcome.saved (outcome : Outcome log after) (placed : log.Placed) (saved : log.Saved) :
    after.Saved := by
  cases outcome with
  | still => exact saved
  | built addressSpace ring3 =>
    refine ⟨?_, saved.table, saved.watched⟩
    intro thread waits
    have made : thread ∈ (log.machine.runQueue ++ log.machine.spawning) ++
        [log.machine.built addressSpace ring3] := by
      rw [append_assoc]
      exact waits
    rcases mem_append.mp made with earlier | last
    · have differ : thread.id ≠ (log.machine.built addressSpace ring3).id :=
        Nat.ne_of_lt (placed.waiting_issued earlier)
      exact (Function.update_of_ne differ ..).trans (saved.frames thread earlier)
    · rw [mem_singleton.mp last]
      exact Function.update_self ..
  | @pushed made thread =>
    refine ⟨?_, saved.table, saved.watched⟩
    intro other waits
    apply saved.frames
    rw [push, Machine.pushThread, append_assoc] at waits
    rcases mem_append.mp waits with queued | rest
    · exact mem_append_left _ queued
    · apply mem_append_right
      exact (perm_cons_erase thread).mem_iff.mpr rest
  | marked other => exact ⟨saved.frames, saved.table, saved.watched⟩
  | idle ticks empty => exact ⟨saved.frames, saved.table, rfl⟩
  | @switched ticks frame next rest queue =>
    refine ⟨?_, Machine.switch_to_cr3 _ next rest frame, rfl⟩
    intro thread waits
    have place : thread ∈ rest ++ log.machine.spawning ∨
        thread = { log.machine.current with stackPointer := frame } := by
      rw [switch_run_queue] at waits
      rcases mem_append.mp waits with queued | made
      · split_ifs at queued
        · exact .inl (mem_append_left _ queued)
        · rcases mem_append.mp queued with earlier | last
          · exact .inl (mem_append_left _ earlier)
          · exact .inr (mem_singleton.mp last)
      · exact .inl (mem_append_right _ made)
    rcases place with earlier | rfl
    · have waited : thread ∈ log.machine.runQueue ++ log.machine.spawning := by
        rw [queue]
        exact mem_cons_of_mem _ earlier
      exact (Function.update_of_ne (placed.current_apart waited) ..).trans
        (saved.frames thread waited)
    · exact Function.update_self ..

/-! ## Exits -/

theorem Outcome.exits (outcome : Outcome log after) (exits : log.Exits) : after.Exits := by
  cases outcome with
  | still => exact exits
  | built addressSpace ring3 => exact ⟨exits.flag, exits.away, exits.only⟩
  | pushed made => exact ⟨exits.flag, exits.away, exits.only⟩
  | marked other =>
    constructor
    · intro _
      exact ⟨mem_append_right _ (mem_singleton.mpr rfl), other⟩
    · intro thread called
      rcases mem_append.mp called with earlier | now
      · rcases exits.away thread earlier with ⟨same, -⟩ | gone
        · exact .inl ⟨same, rfl⟩
        · exact .inr gone
      · exact .inl ⟨mem_singleton.mp now, rfl⟩
    · intro thread gone
      exact mem_append_left _ (exits.only thread gone)
  | idle ticks empty =>
    have ring := log.tidy_ring ticks
    refine ⟨exits.flag, ?_, ?_⟩
    · rw [ring]
      exact exits.away
    · rw [ring]
      exact exits.only
  | @switched ticks frame next rest queue =>
    have gone : (log.switch ticks frame next rest).ring.gone =
        log.ring.gone ++ if log.machine.exiting then [log.machine.current.id] else [] := by
      have zombies := log.switch_zombies ticks frame next rest
      show (log.history.reaped ++ ids log.machine.zombies) ++
        ids (log.switch ticks frame next rest).machine.zombies = _
      rw [zombies]
      cases log.machine.exiting <;> rfl
    constructor
    · nofun
    · intro thread called
      rw [gone]
      right
      rcases exits.away thread called with ⟨rfl, flag⟩ | left
      · rw [flag]
        exact mem_append_right _ (mem_singleton.mpr rfl)
      · exact mem_append_left _ left
    · intro thread left
      rw [gone] at left
      rcases mem_append.mp left with earlier | now
      · exact exits.only thread earlier
      split_ifs at now with flag
      · rw [mem_singleton.mp now]
        exact (exits.flag flag).1
      · cases now

end Saving

/-! ## Whole runs -/

theorem Outcome.panicked_eq {log after : SchedulerLog} (outcome : Outcome log after) :
    after.panicked = log.panicked := by
  cases outcome <;> rfl

theorem boot_lawful (kernelP4 rsp0 : Nat) : (boot kernelP4 rsp0).Lawful where
  placed := by
    constructor
    · exact nodup_singleton bootThread
    · intro id member
      rw [mem_singleton.mp member]
      exact Nat.lt_succ_self _
    · exact List.Perm.refl _
    · exact mem_cons_self
  stacked := by
    constructor
    · exact nodup_nil
    · nofun
    · exact nodup_nil
    · nofun
  saved := by
    refine ⟨?_, rfl, rfl⟩
    intro thread waits
    cases waits
  exits := by
    refine ⟨?_, ?_, ?_⟩
    · nofun
    · nofun
    · nofun
  running := rfl

theorem step_lawful (log : SchedulerLog) (event : SchedulerEvent) (lawful : log.Lawful)
    (stays : log.BootStays event) : (log.step event).Lawful := by
  have outcome := step_outcome log lawful event stays
  refine ⟨outcome.placed lawful.placed lawful.exits, outcome.stacked lawful.placed lawful.stacked,
    outcome.saved lawful.placed lawful.saved, outcome.exits lawful.exits, ?_⟩
  rw [outcome.panicked_eq]
  exact lawful.running

section

variable {log : SchedulerLog} (lawful : log.Lawful) {events : List SchedulerEvent}
  (stays : EveryStep step BootStays log events)

include lawful stays

theorem run_lawful : (run step log events).Lawful :=
  run_guarded step step_lawful events log lawful stays

/-- A run of the scheduler is a run of the ring, with the same turns. -/
theorem run_turns :
    ∃ turns, Turns log.ring turns (run step log events).ring ∧
      (run step log events).history.turns = log.history.turns ++ turns := by
  induction events generalizing log with
  | nil => exact ⟨[], .nil _, (append_nil _).symm⟩
  | cons event rest ih =>
    obtain ⟨now, later⟩ := (every_step_cons step BootStays log event rest).mp stays
    obtain ⟨turn, move, first⟩ := (step_outcome log lawful event now).ring_moves lawful.placed
    obtain ⟨turns, moves, more⟩ := ih (step_lawful log event lawful now) later
    refine ⟨turn.toList ++ turns, .cons move moves, ?_⟩
    rw [run_cons, more, first, append_assoc]

end

section Results

variable {log : SchedulerLog} {events : List SchedulerEvent}

variable (lawful : log.Lawful)

include lawful

/-- A thread that called `exit_current_thread` and was switched out has no further turn. -/
theorem Lawful.exited_stays_away {thread : Thread} (called : thread ∈ log.history.exited)
    (out : thread ≠ log.machine.current.id) (stays : EveryStep step BootStays log events) :
    (run step log events).machine.current.id ≠ thread := by
  have gone : thread ∈ log.ring.gone := by
    rcases lawful.exits.away thread called with ⟨same, -⟩ | gone
    · exact absurd same out
    · exact gone
  obtain ⟨turns, moves, -⟩ := run_turns lawful stays
  have still := moves.gone_stays gone
  have distinct := moves.members_nodup lawful.placed.ring_distinct
  intro same
  rw [← same] at still
  exact (nodup_cons.mp distinct).1 (mem_append_right _ still)

theorem Lawful.stack_mapped (present : thread ∈ log.living)
    (own : thread.id ≠ bootThread) : thread.guardPageBase ∈ log.machine.mappedStacks :=
  lawful.stacked.mapped _ (mem_filterMap.mpr ⟨thread, present, if_neg own⟩)

/-- Only zombies lose their stacks, and a zombie is not the thread that runs. -/
theorem Lawful.unmapped_is_zombie {event : SchedulerEvent}
    (stays : log.BootStays event) {base : Nat} (mapped : base ∈ log.machine.mappedStacks)
    (unmapped : base ∉ (log.step event).machine.mappedStacks) :
    ∃ zombie ∈ log.machine.zombies, zombie.guardPageBase = base ∧
      zombie.id ∈ log.history.exited ∧ zombie.id ≠ log.machine.current.id := by
  have outcome := step_outcome log lawful event stays
  have reaped : base ∈ log.machine.zombies.map ThreadRecord.guardPageBase := by
    by_contra kept
    have remains : base ∈ log.machine.mappedStacks.diff
        (log.machine.zombies.map ThreadRecord.guardPageBase) :=
      lawful.stacked.once.mem_sdiff_iff.mpr ⟨mapped, kept⟩
    revert unmapped
    generalize log.step event = after at outcome
    cases outcome with
    | still => exact fun unmapped => unmapped mapped
    | built addressSpace ring3 => exact fun unmapped => unmapped (mem_append_left _ mapped)
    | pushed made => exact fun unmapped => unmapped mapped
    | marked other => exact fun unmapped => unmapped mapped
    | idle ticks empty => exact fun unmapped => unmapped remains
    | switched ticks frame queue => exact fun unmapped => unmapped remains
  obtain ⟨zombie, dead, rfl⟩ := mem_map.mp reaped
  have gone : zombie.id ∈ log.ring.gone :=
    mem_append_right _ (mem_map_of_mem dead)
  refine ⟨zombie, dead, rfl, lawful.exits.only _ gone, ?_⟩
  intro same
  exact (nodup_cons.mp lawful.placed.ring_distinct).1
    (mem_append_right _ (same ▸ gone : log.machine.current.id ∈ log.ring.gone))

/-- The frame a trap resumes: the trap's own when nothing else is runnable, and otherwise the
one the next thread left. -/
theorem Lawful.resumed_frame {frame resumed : Nat} {machine : Machine}
    (trap : log.machine.reschedule frame = some (resumed, machine) ∨
      log.machine.onTimerTick frame = some (resumed, machine)) :
    (machine.current = log.machine.current ∧ resumed = frame) ∨
      (machine.current.id ≠ log.machine.current.id ∧
        resumed = log.history.left machine.current.id) := by
  have clean := reapable lawful.placed lawful.stacked
  rw [Machine.reschedule_eq clean, Machine.on_timer_tick_eq clean lawful.saved.watched] at trap
  cases queue : log.machine.runQueue with
  | nil =>
    rw [queue] at trap
    left
    rcases trap with now | now <;>
      · cases now
        exact ⟨rfl, rfl⟩
  | cons next rest =>
    have waits : next ∈ log.machine.runQueue ++ log.machine.spawning := by
      rw [queue]
      exact mem_cons_self
    have other := lawful.placed.current_apart waits
    have left := lawful.saved.frames next waits
    rw [queue] at trap
    right
    rcases trap with now | now <;>
      · cases now
        exact ⟨other, left.symm⟩

theorem Lawful.one_turn_each (stays : EveryStep step BootStays log events)
    {between more : List Thread}
    (turns : (run step log events).history.turns =
      log.history.turns ++ (between ++ log.machine.current.id :: more))
    (first : log.machine.current.id ∉ between) {thread : Thread}
    (waits : thread ∈ ids log.machine.runQueue) : between.count thread = 1 := by
  obtain ⟨seen, moves, history⟩ := run_turns lawful stays
  have same : seen = between ++ log.ring.current :: more :=
    append_cancel_left (history.symm.trans turns)
  obtain ⟨once, joined, rfl⟩ := moves.each_once lawful.placed.ring_distinct same first
  exact count_eq_one_of_mem once (mem_append_left _ waits)

end Results

/-- Over every run in which the boot thread does not exit, wherever the ticks land: the kernel
does not panic; each thread pushed and not reaped is in exactly one of the three places; a
thread that exited never runs again, and loses its stack only while another thread runs, as
no other thread does; a trap resumes the frame the thread left; the current thread's table is
loaded; and between two consecutive turns of a thread each thread that waits has one. -/
theorem scheduler_runs_lawful (kernelP4 rsp0 : Nat) (events : List SchedulerEvent)
    (stays : EveryStep step BootStays (boot kernelP4 rsp0) events) :
    let log := run step (boot kernelP4 rsp0) events
    log.panicked = false ∧
      (log.history.pushed.Nodup ∧ log.history.pushed.Perm (log.machine.current.id ::
        (ids log.machine.runQueue ++ (log.history.reaped ++ ids log.machine.zombies)))) ∧
      (∀ thread ∈ log.history.exited, thread ≠ log.machine.current.id →
        ∀ later, EveryStep step BootStays log later →
          (run step log later).machine.current.id ≠ thread) ∧
      (∀ event, log.BootStays event → ∀ base ∈ log.machine.mappedStacks,
        base ∉ (log.step event).machine.mappedStacks →
          ∃ zombie ∈ log.machine.zombies, zombie.guardPageBase = base ∧
            zombie.id ∈ log.history.exited ∧ zombie.id ≠ log.machine.current.id) ∧
      (∀ thread ∈ log.machine.zombies ++ log.machine.current :: log.machine.runQueue,
        thread.id ≠ bootThread → thread.guardPageBase ∈ log.machine.mappedStacks) ∧
      (∀ frame resumed machine, log.machine.reschedule frame = some (resumed, machine) ∨
          log.machine.onTimerTick frame = some (resumed, machine) →
        (machine.current = log.machine.current ∧ resumed = frame) ∨
          (machine.current.id ≠ log.machine.current.id ∧
            resumed = log.history.left machine.current.id)) ∧
      log.machine.cr3 = log.machine.current.addressSpace.getD log.machine.kernelP4 ∧
      (∀ later between more, EveryStep step BootStays log later →
        (run step log later).history.turns =
          log.history.turns ++ (between ++ log.machine.current.id :: more) →
        log.machine.current.id ∉ between →
          ∀ thread ∈ ids log.machine.runQueue, between.count thread = 1) := by
  have lawful := run_lawful (boot_lawful kernelP4 rsp0) stays
  refine ⟨lawful.running, ⟨?_, lawful.placed.known⟩, ?_, ?_, ?_, ?_, lawful.saved.table, ?_⟩
  · exact lawful.placed.known.nodup_iff.mpr lawful.placed.ring_distinct
  · intro thread called out later laterStays
    exact lawful.exited_stays_away called out laterStays
  · intro event eventStays base mapped unmapped
    exact lawful.unmapped_is_zombie eventStays mapped unmapped
  · intro thread present own
    apply lawful.stack_mapped ?_ own
    rw [living, ← cons_append, ← append_assoc]
    exact mem_append_left _ present
  · intro frame resumed machine trap
    exact lawful.resumed_frame trap
  · intro later between more laterStays turns first thread waits
    exact lawful.one_turn_each laterStays turns first waits

/-- A thread in an address space of its own is interrupted between its store to `EXITING` and
its trap, and the boot thread runs on. -/
def interruptedExit : List SchedulerEvent :=
  [.threadNew (some 7) false, .pushThread 2, .yieldNow 40, .storeExiting, .timerTick 50,
    .yieldNow 60]

theorem interrupted_exit_stays : EveryStep step BootStays (boot 3 0) interruptedExit := by
  decide

theorem interrupted_exit_lawful : let log := run step (boot 3 0) interruptedExit
    log.history.turns = [2, 1] ∧ log.history.reaped = [2] ∧ log.history.exited = [2] ∧
      log.panicked = false ∧
      ∀ later, EveryStep step BootStays log later →
        (run step log later).machine.current.id ≠ 2 := by
  have lawful := scheduler_runs_lawful 3 0 interruptedExit interrupted_exit_stays
  exact ⟨by decide, by decide, by decide, lawful.1, lawful.2.2.1 2 (by decide) (by decide)⟩

end SchedulerLog

end Runix.Kernel
