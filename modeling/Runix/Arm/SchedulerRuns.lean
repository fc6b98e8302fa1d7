import Runix.Arm.Scheduler
import Mathlib.Data.List.Nodup
import Mathlib.Data.List.Range

/-!
# Every run of the kernel-arm scheduler

A thread is at one place at a time: it runs, it waits, it is a zombie or it has been reaped.
While the zombie list can grow, a thread that exited (the boot context apart, which has no stack
to give back) leaves the run queue for good when it is switched away from.  From then on only a
reap by another thread touches its stack and its space, and it does so once.
-/

namespace Runix.Arm

open Lib.Runs List Scheduler Thread

/-- What holds of every thread record, given what the threads were created with and which of
them exited. -/
structure Thread.Lawful (belongings : List (Nat × Option SpaceHandle)) (exited : List Nat)
    (thread : Thread) : Prop where
  owns : belongings[thread.id]? = some (thread.stackBase, thread.addressSpace)
  stackless : thread.stackBase = 0 ↔ thread.id = bootId
  marked : thread.exiting = true ↔ thread.id ∈ exited ∧ thread.id ≠ bootId

/-- A release frees what its thread was created with, after the thread exited; another thread
makes it, on another stack and under another table. -/
structure Release.Lawful (belongings : List (Nat × Option SpaceHandle)) (exited : List Nat)
    (release : Release) : Prop where
  owns : belongings[release.thread]? = some (release.stack, release.space)
  ended : release.thread ∈ exited
  stacked : release.thread ≠ bootId
  other : release.reaper ≠ release.thread
  offStack : ¬ Thread.OnStack release.stack release.sp
  offTable : ¬ Thread.Live release.space release.activeRoot

variable {thread : Thread}

section Lawful

variable {belongings : List (Nat × Option SpaceHandle)} {exited : List Nat}

section

variable (lawful : thread.Lawful belongings exited)

include lawful

theorem Thread.Lawful.enlist
    (new : Nat × Option SpaceHandle) : thread.Lawful (belongings ++ [new]) exited where
  owns := by
    rw [List.getElem?_append_left (List.getElem?_eq_some_iff.mp lawful.owns).1]
    exact lawful.owns
  stackless := lawful.stackless
  marked := lawful.marked

theorem Thread.Lawful.exit {id : Nat}
    (other : thread.id ≠ id) : thread.Lawful belongings (id :: exited) where
  owns := lawful.owns
  stackless := lawful.stackless
  marked := by
    rw [lawful.marked, mem_cons]
    simp [other]

theorem Thread.Lawful.save (sp : Nat) :
    ({ thread with stackPointer := sp } : Thread).Lawful belongings exited :=
  ⟨lawful.owns, lawful.stackless, lawful.marked⟩

end

theorem Release.Lawful.enlist {release : Release} (lawful : release.Lawful belongings exited)
    (new : Nat × Option SpaceHandle) : release.Lawful (belongings ++ [new]) exited :=
  { lawful with
    owns := by
      rw [List.getElem?_append_left (List.getElem?_eq_some_iff.mp lawful.owns).1]
      exact lawful.owns }

theorem Release.Lawful.exit {release : Release} (lawful : release.Lawful belongings exited)
    (id : Nat) : release.Lawful belongings (id :: exited) :=
  { lawful with ended := mem_cons_of_mem id lawful.ended }

end Lawful

namespace Scheduler

/-- The two ways a yield goes: nobody waits, or the first of the queue takes over and the
thread that yields goes to the end of the queue or to the zombies. -/
inductive Yields (sched : Scheduler) (sp : Nat) (grows : Bool) : Scheduler → Prop
  | alone (empty : sched.runQueue = []) : Yields sched sp grows sched
  | toZombies (next : Thread) (rest : List Thread) (waiting : sched.runQueue = next :: rest)
      (exiting : sched.current.exiting = true) (grown : grows = true) :
      Yields sched sp grows { sched with
        runQueue := rest
        current := next
        zombies := sched.zombies ++
          [{ sched.current with stackPointer := sp - contextSize }]
        activeRoot := loadRoot sched.activeRoot (next.rootOr sched.kernelRoot) }
  | toQueue (next : Thread) (rest : List Thread) (waiting : sched.runQueue = next :: rest)
      (stays : sched.current.exiting = true → grows = false) :
      Yields sched sp grows { sched with
        runQueue := rest ++ [{ sched.current with stackPointer := sp - contextSize }]
        current := next
        activeRoot := loadRoot sched.activeRoot (next.rootOr sched.kernelRoot) }

theorem yield_cases (sched : Scheduler) (sp : Nat) (grows : Bool) :
    Yields sched sp grows (sched.yieldNow sp grows) := by
  unfold yieldNow
  split
  case h_1 empty => exact .alone empty
  case h_2 next rest waiting =>
      by_cases leaves : (sched.current.exiting && grows) = true
      · rw [if_pos leaves]
        rw [Bool.and_eq_true] at leaves
        exact .toZombies next rest waiting leaves.1 leaves.2
      · rw [if_neg leaves]
        apply Yields.toQueue next rest waiting
        intro exiting
        simpa [exiting] using leaves

theorem loadRoot_eq (activeRoot : Nat) {nextRoot : Nat} (some : nextRoot ≠ 0) :
    loadRoot activeRoot nextRoot = nextRoot := by
  unfold loadRoot
  split
  · rfl
  · rename_i same
    by_contra differs
    exact same ⟨some, differs⟩

end Scheduler

theorem Thread.rootOr_ne_zero (thread : Thread) {kernelRoot : Nat} (booted : kernelRoot ≠ 0) :
    thread.rootOr kernelRoot ≠ 0 := by
  unfold rootOr
  cases thread.addressSpace with
  | none => exact booted
  | some space => exact space.allocated

namespace SchedulerHistory

def places (history : SchedulerHistory) : List Nat :=
  history.sched.current.id ::
    (history.sched.runQueue.map Thread.id ++
      (history.sched.zombies.map Thread.id ++ history.reaped))

structure Lawful (kernelRoot : Nat) (history : SchedulerHistory) : Prop where
  placed : history.places.Perm (List.range history.belongings.length)
  created : history.sched.created = history.belongings.length
  kernel : history.sched.kernelRoot = kernelRoot
  table : history.sched.activeRoot = history.sched.current.rootOr kernelRoot
  known : ∀ id ∈ history.exited, id < history.belongings.length
  running : history.sched.current.Lawful history.belongings history.exited
  queued : ∀ thread ∈ history.sched.runQueue,
    thread.Lawful history.belongings history.exited
  zombies : ∀ thread ∈ history.sched.zombies,
    thread.Lawful history.belongings history.exited ∧ thread.exiting = true
  released : ∀ release ∈ history.releases, release.Lawful history.belongings history.exited

def Settled (history : SchedulerHistory) : Prop :=
  ∀ thread ∈ history.sched.runQueue, thread.exiting = false

variable {kernelRoot : Nat} {history : SchedulerHistory}

/-- What one call can do.  A call that is refused, or made by a thread that exited, does
nothing. -/
inductive Moves (history : SchedulerHistory) : ThreadCall → SchedulerHistory → Prop
  | still (call : ThreadCall) : Moves history call history
  | joins (call : ThreadCall) (thread : Thread) (fresh : thread.id = history.sched.created)
      (stacked : thread.stackBase ≠ 0) (unmarked : thread.exiting = false) :
      Moves history call { history with
        sched := history.sched.enqueue thread
        belongings := history.belongings ++ [(thread.stackBase, thread.addressSpace)] }
  | yields (sp : Nat) (grows : Bool) {after : Scheduler}
      (yielded : history.sched.Yields sp grows after) :
      Moves history (.yieldNow sp grows) { history with sched := after }
  | exits :
      Moves history .exitCurrent { history with
        sched := history.sched.exitCurrent
        exited := history.sched.current.id :: history.exited }
  | reaps (sp : Nat) (refused : List Nat) :
      Moves history (.reapExited sp refused) { history with
        sched := (history.sched.reapExited sp refused).1
        releases := history.releases ++ (history.sched.reapExited sp refused).2 }

theorem spawn_moves (history : SchedulerHistory) (call : ThreadCall) (stack : Nat) :
    history.Moves call (history.enlist stack none (history.sched.spawn stack)) := by
  unfold Scheduler.spawn new
  by_cases null : stack = 0
  · rw [if_pos null]
    exact .still call
  · rw [if_neg null]
    exact .joins call ⟨_, stack, _, none, false⟩ rfl null rfl

theorem spawnWithAddressSpace_moves (history : SchedulerHistory) (call : ThreadCall)
    (space : SpaceHandle) (stack : Nat) :
    history.Moves call (history.enlist stack (some space)
      (history.sched.spawnWithAddressSpace space stack)) := by
  unfold Scheduler.spawnWithAddressSpace new
  by_cases unset : history.sched.kernelRoot = 0
  · rw [if_pos unset]
    exact .still call
  rw [if_neg unset]
  by_cases foreign : space.seededRoot ≠ history.sched.kernelRoot
  · rw [if_pos foreign]
    exact .still call
  rw [if_neg foreign]
  by_cases null : stack = 0
  · rw [if_pos null]
    exact .still call
  · rw [if_neg null]
    exact .joins call ⟨_, stack, _, some space, false⟩ rfl null rfl

theorem step_moves (history : SchedulerHistory) (call : ThreadCall) :
    history.Moves call (history.step call) := by
  cases call with
  | yieldNow sp grows => exact .yields sp grows (history.sched.yield_cases sp grows)
  | spawn stack =>
    dsimp only [step]
    split
    · exact .still _
    · exact history.spawn_moves _ stack
  | spawnWithAddressSpace space stack =>
    dsimp only [step]
    split
    · exact .still _
    · exact history.spawnWithAddressSpace_moves _ space stack
  | exitCurrent =>
    dsimp only [step]
    split
    · exact .still _
    · exact .exits
  | reapExited sp refused =>
    dsimp only [step]
    split
    · exact .still _
    · exact .reaps sp refused

theorem start_lawful (kernelRoot : Nat) : (start kernelRoot).Lawful kernelRoot where
  placed := List.Perm.refl _
  created := rfl
  kernel := rfl
  table := rfl
  known := by simp [start]
  running := by
    constructor
    · rfl
    · exact iff_of_true rfl rfl
    · simp [start, Scheduler.init, placeholder]
  queued := by simp [start, Scheduler.init]
  zombies := by simp [start, Scheduler.init]
  released := by simp [start]

namespace Lawful

section

variable (lawful : history.Lawful kernelRoot)

include lawful

theorem places_nodup : history.places.Nodup :=
  lawful.placed.nodup_iff.mpr nodup_range

theorem current_not_zombie (zombie : thread ∈ history.sched.zombies) :
    history.sched.current.id ≠ thread.id := by
  intro same
  have alone := (nodup_cons.mp lawful.places_nodup).1
  apply alone
  rw [same]
  exact mem_append_right _ (mem_append_left _ (mem_map_of_mem zombie))

theorem current_not_queued (waits : thread ∈ history.sched.runQueue) :
    history.sched.current.id ≠ thread.id := by
  intro same
  have alone := (nodup_cons.mp lawful.places_nodup).1
  apply alone
  rw [same]
  exact mem_append_left _ (mem_map_of_mem waits)

/-- A thread that exited, the boot context apart, does not wait for a turn. -/
theorem exited_not_queued (settled : history.Settled) (waits : thread ∈ history.sched.runQueue)
    (stacked : thread.id ≠ bootId) : thread.id ∉ history.exited := by
  intro ended
  have marked := (lawful.queued thread waits).marked.mpr ⟨ended, stacked⟩
  rw [settled thread waits] at marked
  cases marked

theorem yields (booted : kernelRoot ≠ 0) {sp : Nat} {grows : Bool} {after : Scheduler}
    (yielded : history.sched.Yields sp grows after) :
    ({ history with sched := after } : SchedulerHistory).Lawful kernelRoot := by
  cases yielded with
  | alone empty => exact lawful
  | toZombies next rest waiting exiting grown =>
    have first : next ∈ history.sched.runQueue := by simp [waiting]
    refine { lawful with
      placed := ?_
      table := ?_
      running := lawful.queued next first
      queued := fun thread waits => lawful.queued thread (by simp [waiting, waits])
      zombies := ?_ }
    · refine List.Perm.trans ?_ lawful.placed
      rw [perm_iff_count]
      intro id
      simp only [places, reaped, waiting, map_append, map_cons, map_nil,
        count_cons, count_append, count_nil]
      omega
    · rw [lawful.kernel]
      exact loadRoot_eq _ (next.rootOr_ne_zero booted)
    · intro thread zombie
      rcases mem_append.mp zombie with old | new
      · exact lawful.zombies thread old
      · rw [mem_singleton.mp new]
        exact ⟨lawful.running.save _, exiting⟩
  | toQueue next rest waiting stays =>
    have first : next ∈ history.sched.runQueue := by simp [waiting]
    refine { lawful with
      placed := ?_
      table := ?_
      running := lawful.queued next first
      queued := ?_ }
    · refine List.Perm.trans ?_ lawful.placed
      rw [perm_iff_count]
      intro id
      simp only [places, reaped, waiting, map_append, map_cons, map_nil,
        count_cons, count_append, count_nil]
      omega
    · rw [lawful.kernel]
      exact loadRoot_eq _ (next.rootOr_ne_zero booted)
    · intro thread waits
      rcases mem_append.mp waits with old | new
      · exact lawful.queued thread (by simp [waiting, old])
      · rw [mem_singleton.mp new]
        exact lawful.running.save _

theorem joins (fresh : thread.id = history.sched.created) (stacked : thread.stackBase ≠ 0)
    (unmarked : thread.exiting = false) :
    ({ history with
      sched := history.sched.enqueue thread
      belongings := history.belongings ++ [(thread.stackBase, thread.addressSpace)] } :
        SchedulerHistory).Lawful kernelRoot := by
  have last : thread.id = history.belongings.length := fresh.trans lawful.created
  have some : 0 < history.belongings.length := by
    have held := (List.getElem?_eq_some_iff.mp lawful.running.owns).1
    omega
  refine {
    placed := ?_
    created := by simp [Scheduler.enqueue, lawful.created]
    kernel := lawful.kernel
    table := lawful.table
    known := ?_
    running := lawful.running.enlist _
    queued := ?_
    zombies := fun old zombie =>
      ⟨(lawful.zombies old zombie).1.enlist _, (lawful.zombies old zombie).2⟩
    released := fun release freed => (lawful.released release freed).enlist _ }
  · have longer : List.range (history.belongings ++
        [(thread.stackBase, thread.addressSpace)]).length =
        List.range history.belongings.length ++ [history.belongings.length] := by
      rw [length_append, length_singleton, range_succ]
    rw [longer]
    refine List.Perm.trans ?_ (lawful.placed.append_right _)
    rw [perm_iff_count]
    intro id
    simp only [places, reaped, Scheduler.enqueue, last, map_append, map_cons,
      map_nil, count_cons, count_append, count_nil]
    omega
  · intro id ended
    have bound := lawful.known id ended
    simp only [length_append, length_singleton]
    omega
  · intro waiting waits
    rcases mem_append.mp waits with old | new
    · exact (lawful.queued waiting old).enlist _
    rw [mem_singleton.mp new]
    refine ⟨?_, ?_, ?_⟩
    · simp [last]
    · apply iff_of_false stacked
      rw [last]
      exact Nat.ne_of_gt some
    · apply iff_of_false (by simp [unmarked])
      rintro ⟨ended, -⟩
      exact Nat.lt_irrefl _ (last ▸ lawful.known thread.id ended)

theorem exits :
    ({ history with
      sched := history.sched.exitCurrent
      exited := history.sched.current.id :: history.exited } : SchedulerHistory).Lawful
        kernelRoot := by
  have held := (List.getElem?_eq_some_iff.mp lawful.running.owns).1
  have queued : ∀ thread ∈ history.sched.runQueue,
      thread.Lawful history.belongings (history.sched.current.id :: history.exited) := by
    intro thread waits
    have other := lawful.current_not_queued waits
    exact (lawful.queued thread waits).exit other.symm
  have zombies : ∀ thread ∈ history.sched.zombies,
      thread.Lawful history.belongings (history.sched.current.id :: history.exited) ∧
        thread.exiting = true := by
    intro thread zombie
    have other := lawful.current_not_zombie zombie
    exact ⟨(lawful.zombies thread zombie).1.exit other.symm, (lawful.zombies thread zombie).2⟩
  have known : ∀ id ∈ history.sched.current.id :: history.exited,
      id < history.belongings.length := by
    intro id ended
    rcases mem_cons.mp ended with rfl | old
    · exact held
    · exact lawful.known id old
  have released := fun release freed =>
    (lawful.released release freed).exit history.sched.current.id
  have owns := lawful.running.owns
  have stackless := lawful.running.stackless
  have marked := lawful.running.marked
  unfold Scheduler.exitCurrent
  by_cases stacked : history.sched.current.stackBase ≠ 0
  · rw [if_pos stacked]
    refine ⟨lawful.placed, lawful.created, lawful.kernel, lawful.table, known, ?_, queued,
      zombies, released⟩
    refine ⟨owns, stackless, ?_⟩
    exact iff_of_true rfl ⟨mem_cons_self, fun boot => stacked (stackless.mpr boot)⟩
  · rw [if_neg stacked]
    refine ⟨lawful.placed, lawful.created, lawful.kernel, lawful.table, known, ?_, queued,
      zombies, released⟩
    have boot := stackless.mp (not_not.mp stacked)
    refine ⟨owns, stackless, ?_⟩
    rw [marked]
    simp [boot]

theorem reaps (sp : Nat) (refused : List Nat) :
    ({ history with
      sched := (history.sched.reapExited sp refused).1
      releases := history.releases ++ (history.sched.reapExited sp refused).2 } :
        SchedulerHistory).Lawful kernelRoot := by
  have kept := history.sched.reap_zombies sp refused
  have freed := history.sched.reap_releases sp refused
  refine { lawful with
    placed := ?_
    zombies := ?_
    released := ?_ }
  · refine List.Perm.trans ?_ lawful.placed
    rw [perm_iff_count]
    intro id
    have split := filter_append_perm
      (fun thread : Thread => decide (thread.InUse sp history.sched.activeRoot))
      history.sched.zombies
    have counts := (split.map Thread.id).count_eq id
    simp only [places, reaped, reap_current, reap_runQueue, kept, freed,
      map_append, count_cons, count_append, decide_not] at counts ⊢
    omega
  · intro thread zombie
    rw [kept] at zombie
    exact lawful.zombies thread (mem_of_mem_filter zombie)
  · intro release released
    rcases mem_append.mp released with old | new
    · exact lawful.released release old
    obtain ⟨thread, zombie, idle, id, stack, space, reaper, pointer, root⟩ :=
      of_mem_releases new
    obtain ⟨own, exiting⟩ := lawful.zombies thread zombie
    have ended := own.marked.mp exiting
    refine ⟨?_, ?_, ?_, ?_, ?_, ?_⟩
    · rw [id, stack, space]
      exact own.owns
    · exact id ▸ ended.1
    · exact id ▸ ended.2
    · rw [id, reaper]
      exact lawful.current_not_zombie zombie
    · rw [stack, pointer]
      exact fun on => idle (.inr (.inl on))
    · rw [space, root]
      exact fun live => idle (.inr (.inr live))

end

protected theorem step (lawful : history.Lawful kernelRoot) (booted : kernelRoot ≠ 0)
    (call : ThreadCall) : (history.step call).Lawful kernelRoot := by
  have moves := history.step_moves call
  generalize history.step call = after at moves
  cases moves with
  | still => exact lawful
  | joins call thread fresh stacked unmarked => exact lawful.joins fresh stacked unmarked
  | yields sp grows yielded => exact lawful.yields booted yielded
  | exits => exact lawful.exits
  | reaps sp refused => exact lawful.reaps sp refused

end Lawful

theorem run_lawful {kernelRoot : Nat} (booted : kernelRoot ≠ 0) (calls : List ThreadCall) :
    (run step (start kernelRoot) calls).Lawful kernelRoot :=
  run_invariant step (fun _ call lawful => lawful.step booted call) calls _
    (start_lawful kernelRoot)

theorem Settled.step (settled : history.Settled) {call : ThreadCall} (grows : call.Grows) :
    (history.step call).Settled := by
  have moves := history.step_moves call
  generalize history.step call = after at moves
  cases moves with
  | still => exact settled
  | joins call new fresh stacked unmarked =>
    intro thread waits
    rcases mem_append.mp waits with old | last
    · exact settled thread old
    · rw [mem_singleton.mp last]
      exact unmarked
  | yields sp grown yielded =>
    have grown : grown = true := grows
    cases yielded with
    | alone empty => exact settled
    | toZombies next rest waiting exiting =>
      exact fun thread waits => settled thread (by simp [waiting, waits])
    | toQueue next rest waiting stays =>
      intro thread waits
      rcases mem_append.mp waits with old | last
      · exact settled thread (by simp [waiting, old])
      rw [mem_singleton.mp last]
      cases exiting : history.sched.current.exiting with
      | false => rfl
      | true => exact absurd (stays exiting) (by simp [grown])
  | exits =>
    have queue : history.sched.exitCurrent.runQueue = history.sched.runQueue := by
      unfold Scheduler.exitCurrent
      split <;> rfl
    intro thread waits
    rw [queue] at waits
    exact settled thread waits
  | reaps sp refused => exact settled

theorem run_settled (kernelRoot : Nat) (calls : List ThreadCall)
    (grows : ∀ call ∈ calls, call.Grows) : (run step (start kernelRoot) calls).Settled := by
  induction calls using List.reverseRecOn with
  | nil => simp [Settled, start, Scheduler.init]
  | append_singleton calls call ih =>
    rw [run_snoc]
    have before := ih fun earlier made => grows earlier (mem_append_left _ made)
    exact before.step (grows call (by simp))

def Retired (history : SchedulerHistory) (id : Nat) : Prop :=
  id ∈ history.exited ∧ id ≠ bootId ∧ history.sched.current.id ≠ id

theorem retired_step (lawful : history.Lawful kernelRoot) (settled : history.Settled) {id : Nat}
    (retired : history.Retired id) (call : ThreadCall) : (history.step call).Retired id := by
  obtain ⟨ended, stacked, away⟩ := retired
  -- a thread that takes over waited before, so it is not one that exited
  have waiting : ∀ next rest, history.sched.runQueue = next :: rest → next.id ≠ id := by
    rintro next rest waiting rfl
    exact lawful.exited_not_queued settled (by simp [waiting]) stacked ended
  have moves := history.step_moves call
  generalize history.step call = after at moves
  cases moves with
  | still => exact ⟨ended, stacked, away⟩
  | joins call thread fresh => exact ⟨ended, stacked, away⟩
  | yields sp grows yielded =>
    cases yielded with
    | alone empty => exact ⟨ended, stacked, away⟩
    | toZombies next rest queue => exact ⟨ended, stacked, waiting next rest queue⟩
    | toQueue next rest queue => exact ⟨ended, stacked, waiting next rest queue⟩
  | exits =>
    have same : history.sched.exitCurrent.current.id = history.sched.current.id := by
      unfold Scheduler.exitCurrent
      split <;> rfl
    exact ⟨mem_cons_of_mem _ ended, stacked, same ▸ away⟩
  | reaps sp refused => exact ⟨ended, stacked, away⟩

theorem retired_run (booted : kernelRoot ≠ 0) (before later : List ThreadCall)
    (grows : ∀ call ∈ before ++ later, call.Grows) {id : Nat}
    (retired : (run step (start kernelRoot) before).Retired id) :
    (run step (start kernelRoot) (before ++ later)).Retired id := by
  induction later using List.reverseRecOn with
  | nil =>
    rw [append_nil]
    exact retired
  | append_singleton later call ih =>
    rw [← append_assoc] at grows ⊢
    rw [run_snoc]
    have earlier : ∀ made ∈ before ++ later, made.Grows :=
      fun made asked => grows made (mem_append_left _ asked)
    exact retired_step (run_lawful booted _) (run_settled _ _ earlier) (ih earlier) call

/-- A thread that exited is the one running, a zombie or reaped, the boot context apart. -/
theorem Lawful.exited_places (lawful : history.Lawful kernelRoot) (settled : history.Settled)
    {id : Nat} (ended : id ∈ history.exited) (stacked : id ≠ bootId) :
    id = history.sched.current.id ∨ id ∈ history.sched.zombies.map Thread.id ∨
      id ∈ history.reaped := by
  have somewhere : id ∈ history.places := by
    rw [lawful.placed.mem_iff, mem_range]
    exact lawful.known id ended
  simp only [places, mem_cons, mem_append] at somewhere
  rcases somewhere with runs | waits | zombie | reaped
  · exact .inl runs
  · obtain ⟨thread, queued, rfl⟩ := mem_map.mp waits
    exact absurd ended (lawful.exited_not_queued settled queued stacked)
  · exact .inr (.inl zombie)
  · exact .inr (.inr reaped)

/-- A reap releases exactly the zombies whose stack it does not run on and whose table is not
loaded. -/
theorem Lawful.reap_releases_iff (lawful : history.Lawful kernelRoot)
    (active : history.sched.current.id ∉ history.exited) (sp : Nat) (refused : List Nat)
    (zombie : thread ∈ history.sched.zombies) :
    thread.id ∈ (history.step (.reapExited sp refused)).reaped ↔
      ¬ Thread.OnStack thread.stackBase sp ∧
        ¬ Thread.Live thread.addressSpace history.sched.activeRoot := by
  have after : (history.step (.reapExited sp refused)).reaped = history.reaped ++
      (history.sched.zombies.filter fun old =>
        ¬ old.InUse sp history.sched.activeRoot).map Thread.id := by
    simp only [SchedulerHistory.step, if_neg active, reaped, map_append,
      reap_releases]
  obtain ⟨own, exiting⟩ := lawful.zombies thread zombie
  have ended := own.marked.mp exiting
  have stacked : thread.stackBase ≠ 0 := fun none => ended.2 (own.stackless.mp none)
  have distinct : (history.sched.zombies.map Thread.id ++ history.reaped).Nodup :=
    ((nodup_cons.mp lawful.places_nodup).2.of_append_right)
  have fresh : thread.id ∉ history.reaped := fun reaped =>
    disjoint_of_nodup_append distinct (mem_map_of_mem zombie) reaped
  have idle : thread.InUse sp history.sched.activeRoot ↔
      ¬ (¬ Thread.OnStack thread.stackBase sp ∧
        ¬ Thread.Live thread.addressSpace history.sched.activeRoot) := by
    simp only [Thread.InUse, stacked, false_or]
    tauto
  rw [after, mem_append, mem_map]
  constructor
  · rintro (reaped | ⟨old, freed, same⟩)
    · exact absurd reaped fresh
    · have alive := of_mem_filter freed
      have equal : old = thread :=
        inj_on_of_nodup_map (List.Nodup.of_append_left distinct)
          (mem_of_mem_filter freed) zombie same
      subst equal
      simpa [idle] using alive
  · intro free
    refine .inr ⟨thread, mem_filter.mpr ⟨zombie, ?_⟩, rfl⟩
    simpa [idle] using free

/-- In every run in which the zombie list can grow: a thread is at one place; one that exited,
the boot context apart, never runs again once it was switched away from; the table loaded is
the one of the running thread; and what a thread was created with is released at most once,
after it exited, by another thread that neither runs on that stack nor under that table, and at
the first reap of which that is true. -/
theorem exited_threads_release_once (kernelRoot : Nat) (booted : kernelRoot ≠ 0)
    (calls : List ThreadCall) (grows : ∀ call ∈ calls, call.Grows) :
    (run step (start kernelRoot) calls).places.Perm
        (List.range (run step (start kernelRoot) calls).belongings.length) ∧
      (∀ before, before <+: calls → ∀ id,
        (run step (start kernelRoot) before).Retired id →
          (run step (start kernelRoot) calls).sched.current.id ≠ id) ∧
      (run step (start kernelRoot) calls).sched.activeRoot =
        (run step (start kernelRoot) calls).sched.current.rootOr kernelRoot ∧
      (run step (start kernelRoot) calls).reaped.Nodup ∧
      (∀ release ∈ (run step (start kernelRoot) calls).releases,
        release.Lawful (run step (start kernelRoot) calls).belongings
          (run step (start kernelRoot) calls).exited) ∧
      (∀ id ∈ (run step (start kernelRoot) calls).exited, id ≠ bootId →
        id = (run step (start kernelRoot) calls).sched.current.id ∨
          id ∈ (run step (start kernelRoot) calls).sched.zombies.map Thread.id ∨
          id ∈ (run step (start kernelRoot) calls).reaped) ∧
      (∀ sp refused, ∀ thread ∈ (run step (start kernelRoot) calls).sched.zombies,
        (run step (start kernelRoot) calls).sched.current.id ∉
          (run step (start kernelRoot) calls).exited →
        (thread.id ∈ ((run step (start kernelRoot) calls).step
            (.reapExited sp refused)).reaped ↔
          ¬ Thread.OnStack thread.stackBase sp ∧
            ¬ Thread.Live thread.addressSpace
              (run step (start kernelRoot) calls).sched.activeRoot)) := by
  have lawful := run_lawful booted calls
  refine ⟨lawful.placed, ?_, lawful.table, ?_, lawful.released, ?_, ?_⟩
  · rintro before ⟨later, rfl⟩ id retired
    exact (retired_run booted before later grows retired).2.2
  · have distinct := (nodup_cons.mp lawful.places_nodup).2
    exact distinct.of_append_right.of_append_right
  · intro id ended stacked
    exact lawful.exited_places (run_settled kernelRoot calls grows) ended stacked
  · intro sp refused thread zombie active
    exact lawful.reap_releases_iff active sp refused zombie

def processSpace : SpaceHandle where
  root := 0x41080000
  seededRoot := 0x40080000
  allocated := by decide

def processRun (refused : List Nat) : List ThreadCall :=
  [.spawnWithAddressSpace processSpace 0x41000000, .yieldNow 0x40060000 true, .exitCurrent,
    .yieldNow 0x41001000 true, .reapExited 0x40060000 refused]

theorem process_run_releases :
    0x40080000 ≠ 0 ∧ (∀ call ∈ processRun [], call.Grows) ∧
      (run step (start 0x40080000) (processRun [])).reaped.Nodup ∧
      (run step (start 0x40080000) (processRun [])).reaped = [1] :=
  ⟨by decide, by decide,
    (exited_threads_release_once 0x40080000 (by decide) (processRun []) (by decide)).2.2.2.1,
    by decide⟩

def bootExitRun : List ThreadCall :=
  [.spawn 0x41000000, .exitCurrent, .yieldNow 0x40060000 true, .yieldNow 0x41001000 true]

/-- The boot context runs again after its exit, and a space that `destroy` refuses is not freed
when its thread is reaped. -/
theorem exits_not_final :
    (∀ call ∈ bootExitRun, call.Grows) ∧
      bootId ∈ (run step (start 0x40080000) (bootExitRun.take 3)).exited ∧
      (run step (start 0x40080000) (bootExitRun.take 3)).sched.current.id ≠ bootId ∧
      (run step (start 0x40080000) bootExitRun).sched.current.id = bootId ∧
      (run step (start 0x40080000) (processRun [processSpace.root])).reaped = [1] ∧
      (run step (start 0x40080000) (processRun [processSpace.root])).releases.map
        Release.destroyed = [false] := by
  decide

end SchedulerHistory

end Runix.Arm
