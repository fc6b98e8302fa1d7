import Runix.Arm.Evaluations

/-!
# Every run of the evaluations

A driver thread is spawned right before its evaluation yields, so the evaluation waits directly
behind it and takes over when the driver exits.  No other thread runs in between: the flag is
set, the bytes are the driver's and its space has not been reaped.  One yield is enough.

The cells are shared, though.  A report leaves a fault that an earlier driver recorded, a fault
leaves the status and the length of an earlier report, and once the TCP proof has run a fault is
not recorded at all.
-/

namespace Runix.Arm

open Lib.Runs List Function SchedulerHistory

def SchedulerHistory.line (history : SchedulerHistory) : List Nat :=
  history.sched.current.id :: history.sched.runQueue.map Thread.id

variable {id : Nat}

namespace SchedulerHistory

variable {kernelRoot : Nat} {history : SchedulerHistory}

/-- Whatever becomes of the thread that yields, the others move up. -/
theorem yields_line {sp : Nat} {grows : Bool} {after : Scheduler}
    (yielded : history.sched.Yields sp grows after) :
    ({ history with sched := after } : SchedulerHistory).line =
        history.sched.runQueue.map Thread.id ++ [history.sched.current.id] ∨
      (history.sched.current.exiting = true ∧
        ({ history with sched := after } : SchedulerHistory).line =
          history.sched.runQueue.map Thread.id) := by
  cases yielded with
  | alone empty => simp [line, empty]
  | toZombies next rest waiting exiting =>
    right
    simp [line, waiting, exiting]
  | toQueue next rest waiting stays =>
    left
    simp [line, waiting]

theorem yields_created {sp : Nat} {grows : Bool} {after : Scheduler}
    (yielded : history.sched.Yields sp grows after) : after.created = history.sched.created := by
  cases yielded <;> rfl

@[simp]
theorem reap_line (history : SchedulerHistory) (sp : Nat) (refused : List Nat) :
    (history.step (.reapExited sp refused)).line = history.line := by
  dsimp only [step]
  split <;> rfl

/-- The exit of a driver's thread that is not in its exit yet. -/
theorem exit_step (active : history.sched.current.id ∉ history.exited) :
    (history.step .exitCurrent).exited = history.sched.current.id :: history.exited ∧
      (history.step .exitCurrent).line = history.line ∧
      (history.step .exitCurrent).sched.created = history.sched.created ∧
      (history.step .exitCurrent).reaped = history.reaped := by
  dsimp only [step, Scheduler.exitCurrent]
  rw [if_neg active]
  split <;> exact ⟨rfl, rfl, rfl, rfl⟩

/-- A call never takes a number back, and only the running thread exits. -/
theorem call_keeps (history : SchedulerHistory) (call : ThreadCall) :
    history.sched.created ≤ (history.step call).sched.created ∧
      ∀ id ∈ (history.step call).exited, id = history.sched.current.id ∨ id ∈ history.exited := by
  have moves := history.step_moves call
  generalize history.step call = after at moves
  cases moves with
  | still => exact ⟨Nat.le_refl _, fun _ => .inr⟩
  | joins call thread => exact ⟨Nat.le_succ _, fun _ => .inr⟩
  | yields sp grows yielded => exact ⟨(yields_created yielded).ge, fun _ => .inr⟩
  | exits =>
    refine ⟨?_, fun _ => mem_cons.mp⟩
    unfold Scheduler.exitCurrent
    split <;> exact Nat.le_refl _
  | reaps sp refused => exact ⟨Nat.le_refl _, fun _ => .inr⟩

variable (lawful : history.Lawful kernelRoot)

include lawful

theorem Lawful.nodup :
    (history.line ++ (history.sched.zombies.map Thread.id ++ history.reaped)).Nodup :=
  lawful.places_nodup

theorem Lawful.line_nodup : history.line.Nodup :=
  lawful.nodup.of_append_left

theorem Lawful.line_lt (waits : id ∈ history.line) : id < history.sched.created := by
  rw [lawful.created, ← mem_range]
  exact lawful.placed.mem_iff.mp (mem_append_left _ waits)

theorem Lawful.line_unreaped (waits : id ∈ history.line) : id ∉ history.reaped := fun reaped =>
  disjoint_of_nodup_append lawful.nodup waits (mem_append_right _ reaped)

end SchedulerHistory

/-- Every thread in line does its own business, is a driver with its evaluation right behind it,
or is such an evaluation. -/
inductive Paired (roles : Nat → Role) : List Nat → Prop
  | nil : Paired roles []
  | free {id : Nat} {rest : List Nat} (role : roles id = .free) (others : Paired roles rest) :
      Paired roles (id :: rest)
  | pair {driver evaluator response : Nat} {rest : List Nat}
      (runs : roles driver = .driver response)
      (waits : roles evaluator = .waiting driver response 1) (others : Paired roles rest) :
      Paired roles (driver :: evaluator :: rest)

variable {response : Nat}

namespace Paired

variable {roles : Nat → Role} {first second : List Nat}

protected theorem append (front : Paired roles first) (back : Paired roles second) :
    Paired roles (first ++ second) := by
  induction front with
  | nil => exact back
  | free role others ih => exact .free role ih
  | pair runs waits others ih => exact .pair runs waits ih

theorem update (absent : id ∉ first) (role : Role) (paired : Paired roles first) :
    Paired (update roles id role) first := by
  induction paired with
  | nil => exact .nil
  | @free other rest own others ih =>
    rw [mem_cons, not_or] at absent
    obtain ⟨away, later⟩ := absent
    apply Paired.free _ (ih later)
    rw [update_of_ne (Ne.symm away)]
    exact own
  | @pair driver evaluator response rest runs waits others ih =>
    rw [mem_cons, mem_cons, not_or, not_or] at absent
    obtain ⟨away, behind, later⟩ := absent
    apply Paired.pair _ _ (ih later)
    · exact response
    · rw [update_of_ne (Ne.symm away)]
      exact runs
    · rw [update_of_ne (Ne.symm behind)]
      exact waits

variable (paired : Paired roles (id :: first))

include paired

theorem behind_free (role : roles id = .free) : Paired roles first := by
  cases paired with
  | free own others => exact others
  | pair runs waits others => rw [role] at runs; cases runs

theorem behind_driver (role : roles id = .driver response) :
    ∃ evaluator rest, first = evaluator :: rest ∧
      roles evaluator = .waiting id response 1 ∧ Paired roles rest := by
  cases paired with
  | free own others => rw [role] at own; cases own
  | @pair driver evaluator region rest runs waits others =>
    rw [role] at runs
    cases runs
    exact ⟨evaluator, rest, rfl, waits, others⟩

theorem not_waiting {driver yields : Nat} : roles id ≠ .waiting driver response yields := by
  intro waits
  cases paired with
  | free own others => rw [waits] at own; cases own
  | pair runs behind others => rw [waits] at runs; cases runs

end Paired

namespace Evaluations

variable {kernelRoot : Nat} {world : Evaluations}

inductive Acts (world : Evaluations) : Turn → Evaluations → Prop
  | still (turn : Turn)
      (idle : ∀ response, world.roles world.current = .driver response →
        ∀ ending left sp grows, turn ≠ .excursion ending left sp grows) :
      Acts world turn world
  | calls (turn : Turn) (call : ThreadCall) (free : world.roles world.current = .free) :
      Acts world turn { world with history := world.history.step call }
  | proves : Acts world .proveNetTcp { world with tcpProofActive := true }
  | refuses (turn : Turn) (sp : Nat) (refused : List Nat)
      (free : world.roles world.current = .free) :
      Acts world turn { world with
        history := world.history.step (.reapExited sp refused)
        finished := false
        observed := .reset }
  | begins (turn : Turn) (thread : Thread) (response : Nat)
      (free : world.roles world.current = .free)
      (active : world.current ∉ world.history.exited)
      (fresh : thread.id = world.history.sched.created) (stacked : thread.stackBase ≠ 0)
      (unmarked : thread.exiting = false) :
      Acts world turn { world with
        history := { world.history with
          sched := world.history.sched.enqueue thread
          belongings := world.history.belongings ++
            [(thread.stackBase, thread.addressSpace)] }
        finished := false
        observed := .reset
        roles := update
          (update world.roles world.current
            (.waiting world.history.sched.created response 0))
          world.history.sched.created (.driver response) }
  | yields (driver response yields sp : Nat) (grows : Bool) (refused : List Nat)
      (waits : world.roles world.current = .waiting driver response yields)
      (unfinished : world.finished = false) :
      Acts world (.resume sp grows refused) { world with
        history := world.history.step (.yieldNow sp grows)
        roles := update world.roles world.current
          (.waiting driver response (yields + 1)) }
  | reads (driver response yields sp : Nat) (grows : Bool) (refused : List Nat)
      (waits : world.roles world.current = .waiting driver response yields)
      (ended : world.finished = true ∨ 64 ≤ yields) :
      Acts world (.resume sp grows refused) { world with
        history := world.history.step (.reapExited sp refused)
        roles := update world.roles world.current .free
        readings := world.readings ++ [{
          driver := driver
          yields := yields
          finished := world.finished
          observed := world.observed
          bytes := (world.regions response).1.take
            (min world.observed.responseLen marshalBufferCapacity)
          freed := decide (driver ∈ world.history.reaped) }] }
  | ends (response : Nat) (ending : DriverEnd) (left : ResponseRegion) (sp : Nat) (grows : Bool)
      (runs : world.roles world.current = .driver response) :
      Acts world (.excursion ending left sp grows)
        (world.runDriver response ending left sp grows)

theorem begin_acts (turn : Turn) (free : world.roles world.current = .free)
    (active : world.current ∉ world.history.exited) (space : SpaceHandle)
    (response stack sp : Nat) (refused : List Nat) :
    world.Acts turn (world.beginEvaluation space response stack sp refused) := by
  unfold beginEvaluation Scheduler.spawnWithAddressSpace Thread.new
  by_cases unset : world.history.sched.kernelRoot = 0
  · rw [if_pos unset]
    exact .refuses turn sp refused free
  rw [if_neg unset]
  by_cases foreign : space.seededRoot ≠ world.history.sched.kernelRoot
  · rw [if_pos foreign]
    exact .refuses turn sp refused free
  rw [if_neg foreign]
  by_cases null : stack = 0
  · rw [if_pos null]
    exact .refuses turn sp refused free
  · rw [if_neg null]
    exact .begins turn ⟨_, stack, _, some space, false⟩ response free active rfl null rfl

theorem resume_acts {driver yields : Nat}
    (waits : world.roles world.current = .waiting driver response yields) (sp : Nat) (grows : Bool)
    (refused : List Nat) :
    world.Acts (.resume sp grows refused)
      (world.resumeEvaluation driver response yields sp grows refused) := by
  unfold resumeEvaluation
  by_cases goes : (!world.finished && decide (yields < 64)) = true
  · rw [if_pos goes]
    rw [Bool.and_eq_true, Bool.not_eq_true'] at goes
    exact .yields driver response yields sp grows refused waits goes.1
  · rw [if_neg goes]
    apply Acts.reads driver response yields sp grows refused waits
    by_contra going
    rw [not_or, Bool.not_eq_true, Nat.not_le] at going
    exact goes (by simp [going.1, going.2])

theorem step_acts (world : Evaluations) (turn : Turn) : world.Acts turn (world.step turn) := by
  unfold step
  split
  case h_1 call free => exact .calls _ call free
  case h_2 free =>
      split
      · exact .still _ (by simp [free])
      · exact .proves
  case h_3 sp refused free => exact .calls _ (.reapExited sp refused) free
  case h_4 space response stack sp refused free =>
      split
      · exact .still _ (by simp [free])
      · rename_i active
        exact begin_acts _ free active space response stack sp refused
  case h_5 driver response yields sp grows refused waits =>
      exact resume_acts waits sp grows refused
  case h_6 response ending left sp grows runs => exact .ends response ending left sp grows runs
  case h_7 none =>
      refine .still _ ?_
      intro response runs ending left sp grows taken
      exact none response ending left sp grows runs taken

/-- Where an evaluation can stand between two turns: none runs; one has just begun, its driver
is last in line; or one takes over from its driver. -/
inductive Phase (world : Evaluations) : Prop
  | between (paired : Paired world.roles world.history.line)
  | begun (driver response : Nat) (front : List Nat)
      (waits : world.roles world.current = .waiting driver response 0)
      (runs : world.roles driver = .driver response) (unfinished : world.finished = false)
      (last : world.history.sched.runQueue.map Thread.id = front ++ [driver])
      (paired : Paired world.roles front)
  | reported (driver response : Nat) (ending : DriverEnd) (left : ResponseRegion)
      (waits : world.roles world.current = .waiting driver response 1)
      (finished : world.finished = true) (unreaped : driver ∉ world.history.reaped)
      (report : world.reports driver = some (ending, left))
      (kept : world.regions response = left)
      (paired : Paired world.roles (world.history.sched.runQueue.map Thread.id))

/-- A reading made after one yield, of the bytes its own driver left in a region that is still
there. -/
def ReadsOwn (reports : Nat → Option (DriverEnd × ResponseRegion)) (reading : Reading) : Prop :=
  reading.finished = true ∧ reading.yields = 1 ∧ reading.freed = false ∧
    ∃ ending left, reports reading.driver = some (ending, left) ∧
      reading.bytes = left.1.take (min reading.observed.responseLen marshalBufferCapacity)

/-- What holds of the roles: a thread that does not exist yet has none, a thread that exited
has none left, a driver has not ended, and nobody yields twice for a driver. -/
structure RoleBook (created : Nat) (exited : List Nat)
    (reports : Nat → Option (DriverEnd × ResponseRegion)) (roles : Nat → Role) : Prop where
  unborn : ∀ id, created ≤ id → roles id = .free ∧ reports id = none
  awake : ∀ id, roles id ≠ .free → id ∉ exited
  unreported : ∀ id response, roles id = .driver response → reports id = none
  patient : ∀ id driver response yields, roles id = .waiting driver response yields → yields ≤ 1

namespace RoleBook

variable {created : Nat} {exited : List Nat}
  {reports : Nat → Option (DriverEnd × ResponseRegion)} {roles : Nat → Role}

variable (book : RoleBook created exited reports roles)

include book

theorem grow {more : Nat} (grown : created ≤ more) : RoleBook more exited reports roles :=
  { book with unborn := fun id new => book.unborn id (Nat.le_trans grown new) }

theorem exit (free : roles id = .free) {others : List Nat}
    (exits : ∀ other ∈ others, other = id ∨ other ∈ exited) :
    RoleBook created others reports roles := by
  refine { book with awake := ?_ }
  intro other busy ended
  rcases exits other ended with rfl | before
  · exact busy free
  · exact book.awake other busy before

theorem update {role : Role} (born : id < created) (awake : role ≠ .free → id ∉ exited)
    (unreported : ∀ response, role = .driver response → reports id = none)
    (patient : ∀ driver response yields, role = .waiting driver response yields → yields ≤ 1) :
    RoleBook created exited reports (update roles id role) := by
  constructor
  · intro other new
    rw [update_of_ne (Nat.ne_of_gt (Nat.lt_of_lt_of_le born new))]
    exact book.unborn other new
  · exact (forall_update_iff roles fun other role => role ≠ .free → other ∉ exited).mpr
      ⟨awake, fun other _ => book.awake other⟩
  · exact (forall_update_iff roles fun other role => ∀ response, role = .driver response →
      reports other = none).mpr ⟨unreported, fun other _ => book.unreported other⟩
  · exact (forall_update_iff roles fun _ role => ∀ driver response yields,
      role = .waiting driver response yields → yields ≤ 1).mpr
      ⟨patient, fun other _ => book.patient other⟩

theorem free (born : id < created) :
    RoleBook created exited reports (Function.update roles id .free) := by
  apply book.update born
  · exact fun busy => absurd rfl busy
  · nofun
  · nofun

theorem report (born : id < created) (free : roles id = .free) (made : DriverEnd × ResponseRegion) :
    RoleBook created exited (Function.update reports id (some made)) roles := by
  refine { book with unborn := ?_, unreported := ?_ }
  · intro other new
    rw [update_of_ne (Nat.ne_of_gt (Nat.lt_of_lt_of_le born new))]
    exact book.unborn other new
  · intro other response runs
    have apart : other ≠ id := by
      rintro rfl
      rw [free] at runs
      cases runs
    rw [update_of_ne apart]
    exact book.unreported other response runs

end RoleBook

structure Lawful (kernelRoot : Nat) (world : Evaluations) : Prop where
  threads : world.history.Lawful kernelRoot
  book : RoleBook world.history.sched.created world.history.exited world.reports world.roles
  phase : world.Phase
  readings : ∀ reading ∈ world.readings, ReadsOwn world.reports reading

theorem start_lawful (kernelRoot : Nat) (regions : Nat → ResponseRegion) :
    (start kernelRoot regions).Lawful kernelRoot where
  threads := SchedulerHistory.start_lawful kernelRoot
  book := by constructor <;> simp [start]
  phase := .between (.free rfl .nil)
  readings := by simp [start]

theorem Phase.paired (phase : world.Phase)
    (acts : ∀ driver response yields, world.roles world.current ≠ .waiting driver response yields) :
    Paired world.roles world.history.line := by
  cases phase with
  | between paired => exact paired
  | begun driver response front waits => exact absurd waits (acts _ _ _)
  | reported driver response ending left waits => exact absurd waits (acts _ _ _)

namespace Lawful

section

variable (lawful : world.Lawful kernelRoot)

include lawful

theorem current_not_queued : world.current ∉ world.history.sched.runQueue.map Thread.id :=
  (nodup_cons.mp lawful.threads.line_nodup).1

theorem created_not_queued :
    world.history.sched.created ∉ world.history.sched.runQueue.map Thread.id := by
  intro waits
  exact Nat.lt_irrefl _ (lawful.threads.line_lt (mem_cons_of_mem _ waits))

/-- The line stays paired when a thread outside of `evaluate` uses the scheduler. -/
theorem call_paired (free : world.roles world.current = .free) (call : ThreadCall) :
    Paired world.roles (world.history.step call).line := by
  have paired := lawful.phase.paired (by simp [free])
  have behind := paired.behind_free free
  have moves := world.history.step_moves call
  generalize world.history.step call = after at moves
  cases moves with
  | still => exact paired
  | joins call thread fresh =>
    have joined := paired.append (.free (lawful.book.unborn thread.id fresh.ge).1 .nil)
    simpa [line, Scheduler.enqueue] using joined
  | yields sp grows yielded =>
    rcases yields_line yielded with rotated | ⟨-, moved⟩
    · rw [rotated]
      exact behind.append (.free free .nil)
    · rw [moved]
      exact behind
  | exits =>
    unfold Scheduler.exitCurrent
    split <;> exact paired
  | reaps sp refused => exact paired

theorem current_born : world.current < world.history.sched.created :=
  lawful.threads.line_lt mem_cons_self

theorem calls (booted : kernelRoot ≠ 0) (free : world.roles world.current = .free)
    (call : ThreadCall) :
    ({ world with history := world.history.step call } : Evaluations).Lawful kernelRoot := by
  obtain ⟨grown, exits⟩ := world.history.call_keeps call
  exact { lawful with
    threads := lawful.threads.step booted call
    book := (lawful.book.exit free exits).grow grown
    phase := .between (lawful.call_paired free call) }

theorem begins {thread : Thread} {response : Nat} (free : world.roles world.current = .free)
    (active : world.current ∉ world.history.exited)
    (fresh : thread.id = world.history.sched.created) (stacked : thread.stackBase ≠ 0)
    (unmarked : thread.exiting = false) :
    ({ world with
      history := { world.history with
        sched := world.history.sched.enqueue thread
        belongings := world.history.belongings ++ [(thread.stackBase, thread.addressSpace)] }
      finished := false
      observed := .reset
      roles := update
        (update world.roles world.current
          (.waiting world.history.sched.created response 0))
        world.history.sched.created (.driver response) } : Evaluations).Lawful kernelRoot := by
  have behind := (lawful.phase.paired (by simp [free])).behind_free free
  have new : world.current ≠ world.history.sched.created := Nat.ne_of_lt lawful.current_born
  refine {
    threads := lawful.threads.joins fresh stacked unmarked
    book := ?_
    phase := ?_
    readings := lawful.readings }
  · apply RoleBook.update _ (Nat.lt_succ_self _)
    · intro busy ended
      have known := lawful.threads.known _ ended
      rw [← lawful.threads.created] at known
      exact Nat.lt_irrefl _ known
    · exact fun region runs => (lawful.book.unborn _ (Nat.le_refl _)).2
    · nofun
    · apply (lawful.book.grow (Nat.le_succ _)).update (Nat.lt_succ_of_lt lawful.current_born)
      · exact fun busy => active
      · nofun
      · intro driver region yields waits
        cases waits
        exact Nat.zero_le 1
  · refine .begun world.history.sched.created response
      (world.history.sched.runQueue.map Thread.id) ?_ ?_ rfl ?_ ?_
    · show update _ _ _ world.current = _
      rw [update_of_ne new, update_self]
    · exact update_self ..
    · simp [Scheduler.enqueue, fresh]
    · exact (behind.update lawful.current_not_queued _).update lawful.created_not_queued _

end

variable (lawful : world.Lawful kernelRoot)

include lawful

/-- The evaluation that has just begun lets its driver come before it. -/
theorem yields (booted : kernelRoot ≠ 0) {driver response yields : Nat} (sp : Nat) (grows : Bool)
    (waits : world.roles world.current = .waiting driver response yields)
    (unfinished : world.finished = false) :
    ({ world with
      history := world.history.step (.yieldNow sp grows)
      roles := update world.roles world.current
        (.waiting driver response (yields + 1)) } : Evaluations).Lawful kernelRoot := by
  have yielded := world.history.sched.yield_cases sp grows
  have active : world.current ∉ world.history.exited :=
    lawful.book.awake world.current (by simp [waits])
  have stays : world.history.sched.current.exiting ≠ true := by
    intro exiting
    exact active (lawful.threads.running.marked.mp exiting).1
  have rotated := (yields_line yielded).resolve_right fun left => stays left.1
  cases lawful.phase with
  | between paired => exact absurd waits paired.not_waiting
  | reported other region ending left again finished => simp [finished] at unfinished
  | begun other region front again runs _ last paired =>
    rw [waits] at again
    cases again
    have queued : driver ∈ world.history.sched.runQueue.map Thread.id := by simp [last]
    have apart : driver ≠ world.current := by
      rintro rfl
      exact lawful.current_not_queued queued
    refine { lawful with
      threads := lawful.threads.step booted (.yieldNow sp grows)
      book := ?_
      phase := .between ?_ }
    · apply (lawful.book.grow (yields_created yielded).ge).update
      · exact Nat.lt_of_lt_of_le lawful.current_born
          (yields_created yielded).ge
      · exact fun busy => active
      · nofun
      · intro other region count again
        cases again
        exact Nat.le_refl 1
    · have moved : (world.history.step (.yieldNow sp grows)).line =
          front ++ [driver, world.current] := by
        rw [last, append_assoc] at rotated
        exact rotated
      dsimp only
      rw [moved]
      apply Paired.append
      · apply paired.update
        intro ahead
        exact lawful.current_not_queued (by simp [last, ahead])
      · refine .pair ?_ (update_self ..) .nil
        rw [update_of_ne apart]
        exact runs

/-- An evaluation that leaves its loop has its driver's end before it. -/
theorem reads (booted : kernelRoot ≠ 0) {driver yields : Nat} (sp : Nat) (refused : List Nat)
    (waits : world.roles world.current = .waiting driver response yields)
    (ended : world.finished = true ∨ 64 ≤ yields) :
    ({ world with
      history := world.history.step (.reapExited sp refused)
      roles := update world.roles world.current .free
      readings := world.readings ++ [{
        driver := driver
        yields := yields
        finished := world.finished
        observed := world.observed
        bytes := (world.regions response).1.take
          (min world.observed.responseLen marshalBufferCapacity)
        freed := decide (driver ∈ world.history.reaped) }] } : Evaluations).Lawful
          kernelRoot := by
  obtain ⟨grown, exits⟩ := world.history.call_keeps (.reapExited sp refused)
  cases lawful.phase with
  | between paired => exact absurd waits paired.not_waiting
  | begun other region front again runs unfinished =>
    rw [waits] at again
    cases again
    simp [unfinished] at ended
  | reported other region ending left again finished unreaped report kept paired =>
    rw [waits] at again
    cases again
    refine { lawful with
      threads := lawful.threads.step booted (.reapExited sp refused)
      book := ((lawful.book.free lawful.current_born).exit (Function.update_self ..)
        exits).grow grown
      phase := .between ?_
      readings := ?_ }
    · dsimp only
      rw [reap_line]
      exact .free (update_self ..) (paired.update lawful.current_not_queued _)
    · intro reading made
      rcases mem_append.mp made with old | new
      · exact lawful.readings reading old
      rw [mem_singleton.mp new]
      refine ⟨finished, rfl, by simpa using unreaped, ending, left, report, ?_⟩
      rw [kept]

/-- A driver's end passes the turn on to its evaluation. -/
theorem driver_hands_over (sp : Nat) (grows : Bool)
    (runs : world.roles world.current = .driver response) :
    ∃ evaluator rest behind,
      ((world.history.step .exitCurrent).step (.yieldNow sp grows)).line = evaluator :: behind ∧
      (behind = rest ++ [world.current] ∨ behind = rest) ∧
      world.roles evaluator = .waiting world.current response 1 ∧
      Paired world.roles rest ∧ evaluator ≠ world.current ∧ world.current ∉ rest := by
  have active : world.current ∉ world.history.exited :=
    lawful.book.awake world.current (by simp [runs])
  obtain ⟨-, line, -, -⟩ := exit_step active
  obtain ⟨evaluator, rest, queue, waits, paired⟩ :=
    (lawful.phase.paired (by simp [runs])).behind_driver runs
  have whole : world.history.line = world.current :: evaluator :: rest := by
    rw [SchedulerHistory.line, queue]
    rfl
  have distinct := lawful.threads.line_nodup
  rw [whole, nodup_cons, mem_cons, not_or] at distinct
  obtain ⟨⟨apart, absent⟩, -⟩ := distinct
  obtain ⟨head, tail⟩ := List.cons.inj (line.trans whole)
  have yielded := (world.history.step .exitCurrent).sched.yield_cases sp grows
  rcases yields_line yielded with rotated | ⟨-, gone⟩
  · refine ⟨evaluator, rest, _, rotated.trans ?_, .inl rfl, waits, paired, Ne.symm apart, absent⟩
    rw [tail, head]
    rfl
  · exact ⟨evaluator, rest, _, gone.trans tail, .inr rfl, waits, paired, Ne.symm apart, absent⟩

theorem read_driver_ne (runs : world.roles world.current = .driver response) {reading : Reading}
    (made : reading ∈ world.readings) : reading.driver ≠ world.current := by
  obtain ⟨-, -, -, ending, left, report, -⟩ := lawful.readings reading made
  intro own
  rw [own, lawful.book.unreported world.current response runs] at report
  cases report

theorem ends (booted : kernelRoot ≠ 0) (ending : DriverEnd) (left : ResponseRegion) (sp : Nat)
    (grows : Bool) (runs : world.roles world.current = .driver response) :
    (world.runDriver response ending left sp grows).Lawful kernelRoot ∧
      (world.runDriver response ending left sp grows).roles
        (world.runDriver response ending left sp grows).current =
          .waiting world.current response 1 := by
  have active : world.current ∉ world.history.exited :=
    lawful.book.awake world.current (by simp [runs])
  obtain ⟨exited, -, created, reaped⟩ := exit_step active
  have yielded := (world.history.step .exitCurrent).sched.yield_cases sp grows
  have same : ((world.history.step .exitCurrent).step (.yieldNow sp grows)).sched.created =
      world.history.sched.created :=
    (yields_created yielded).trans created
  obtain ⟨evaluator, rest, behind, line, either, waits, paired, apart, absent⟩ :=
    lawful.driver_hands_over sp grows runs
  obtain ⟨nowRuns, nowWaits⟩ := List.cons.inj line
  have nowWaiting : update world.roles world.current .free
      ((world.history.step .exitCurrent).step (.yieldNow sp grows)).sched.current.id =
        .waiting world.current response 1 := by
    rw [nowRuns, update_of_ne apart]
    exact waits
  refine ⟨?_, nowWaiting⟩
  refine {
    threads := (lawful.threads.step booted .exitCurrent).step booted (.yieldNow sp grows)
    book := ?_
    phase := ?_
    readings := ?_ }
  · have freed := lawful.book.free lawful.current_born
    have book := (freed.report lawful.current_born (Function.update_self ..)
      (ending, left)).exit (update_self ..) fun _ => mem_cons.mp
    have exits : ((world.history.step .exitCurrent).step (.yieldNow sp grows)).exited =
        world.current :: world.history.exited := exited
    dsimp only [runDriver]
    rw [same, exits]
    exact book
  · refine .reported world.current response ending left nowWaiting rfl ?_
      (update_self ..) (update_self ..) ?_
    · have kept : ((world.history.step .exitCurrent).step (.yieldNow sp grows)).reaped =
          world.history.reaped := reaped
      dsimp only [runDriver]
      rw [kept]
      exact lawful.threads.line_unreaped mem_cons_self
    · have others := paired.update absent .free
      have queue : ((world.history.step .exitCurrent).step
          (.yieldNow sp grows)).sched.runQueue.map Thread.id = behind := nowWaits
      dsimp only [runDriver]
      rw [queue]
      rcases either with rfl | rfl
      · exact others.append (.free (update_self ..) .nil)
      · exact others
  · intro reading made
    obtain ⟨finished, once, held, earlier, region, report, bytes⟩ := lawful.readings reading made
    refine ⟨finished, once, held, earlier, region, ?_, bytes⟩
    dsimp only [runDriver]
    rw [update_of_ne (lawful.read_driver_ne runs made)]
    exact report

protected theorem step (booted : kernelRoot ≠ 0)
    (turn : Turn) : (world.step turn).Lawful kernelRoot := by
  have acts := world.step_acts turn
  generalize world.step turn = after at acts
  cases acts with
  | still => exact lawful
  | calls turn call free => exact lawful.calls booted free call
  | proves =>
    refine { lawful with phase := ?_ }
    cases lawful.phase with
    | between paired => exact .between paired
    | begun driver response front waits runs unfinished last paired =>
      exact .begun driver response front waits runs unfinished last paired
    | reported driver response ending left waits finished unreaped report kept paired =>
      exact .reported driver response ending left waits finished unreaped report kept paired
  | refuses turn sp refused free =>
    have reaped := lawful.calls booted free (.reapExited sp refused)
    exact { reaped with
      phase := .between (lawful.call_paired free (.reapExited sp refused)) }
  | begins turn thread response free active fresh stacked unmarked =>
    exact lawful.begins free active fresh stacked unmarked
  | yields driver response yields sp grows refused waits unfinished =>
    exact lawful.yields booted sp grows waits unfinished
  | reads driver response yields sp grows refused waits ended =>
    exact lawful.reads booted sp refused waits ended
  | ends response ending left sp grows runs =>
    exact (lawful.ends booted ending left sp grows runs).1

end Lawful

theorem run_lawful (booted : kernelRoot ≠ 0) (regions : Nat → ResponseRegion)
    (turns : List Turn) : (run step (start kernelRoot regions) turns).Lawful kernelRoot :=
  run_invariant step (fun _ turn lawful => lawful.step booted turn) turns _
    (start_lawful kernelRoot regions)

/-- What every evaluation has read, and what the one that is about to read will, is what its
own driver reported. -/
def Attributed (world : Evaluations) : Prop :=
  (∀ reading ∈ world.readings, ∀ ending left,
    world.reports reading.driver = some (ending, left) → reading.observed = ending.observed) ∧
  ∀ driver response yields, world.roles world.current = .waiting driver response yields →
    ∀ ending left, world.reports driver = some (ending, left) →
      world.observed = ending.observed

/-- The cells a driver ends on: no fault stands in them when it reports; when it faults they
are reset, and the fault goes there. -/
def CellsClear (observed : Observed) (tcpProofActive : Bool) : DriverEnd → Prop
  | .done _ _ => observed.fault = false
  | .fault => observed.status = Observed.reset.status ∧
      observed.responseLen = Observed.reset.responseLen ∧
      (tcpProofActive = false ∨ observed.fault = true)

theorem record_eq_iff (observed : Observed) (tcpProofActive : Bool) (ending : DriverEnd) :
    record observed (faultSink tcpProofActive true) ending = ending.observed ↔
      CellsClear observed tcpProofActive ending := by
  obtain ⟨status, responseLen, fault⟩ := observed
  cases ending with
  | done reported length => simp [record, DriverEnd.observed, CellsClear]
  | fault =>
    cases tcpProofActive with
    | false => simp [record, faultSink, DriverEnd.observed, CellsClear]
    | true => simp [record, faultSink, DriverEnd.observed, CellsClear]

/-- Before the turn: if a driver ends in it, the cells are clear for it. -/
def ReportsAlone (world : Evaluations) : Turn → Prop
  | .excursion ending _ _ _ => ∀ response, world.roles world.current = .driver response →
      CellsClear world.observed world.tcpProofActive ending
  | _ => True

theorem ReportsAlone.of_idle {turn : Turn}
    (idle : ∀ response, world.roles world.current = .driver response →
      ∀ ending left sp grows, turn ≠ .excursion ending left sp grows) :
    world.ReportsAlone turn := by
  cases turn with
  | excursion ending left sp grows =>
    intro response runs
    exact absurd rfl (idle response runs ending left sp grows)
  | call call => trivial
  | proveNetTcp => trivial
  | evaluate setup stack sp refused => trivial
  | resume sp grows refused => trivial

theorem ReportsAlone.of_free (free : world.roles world.current = .free) (turn : Turn) :
    world.ReportsAlone turn := by
  exact ReportsAlone.of_idle (by simp [free])

theorem Attributed.of_paired {after : Evaluations}
    (readings : ∀ reading ∈ after.readings, ∀ ending left,
      after.reports reading.driver = some (ending, left) → reading.observed = ending.observed)
    (paired : Paired after.roles after.history.line) : after.Attributed := by
  refine ⟨readings, ?_⟩
  intro driver response yields waits
  exact absurd waits paired.not_waiting

/-- A turn keeps the attribution exactly if a driver that ends in it finds the cells clear. -/
theorem attributed_step_iff (lawful : world.Lawful kernelRoot) (booted : kernelRoot ≠ 0)
    (attributed : world.Attributed) (turn : Turn) :
    (world.step turn).Attributed ↔ world.ReportsAlone turn := by
  have next := lawful.step booted turn
  have acts := world.step_acts turn
  generalize world.step turn = after at acts next
  cases acts with
  | still turn idle => exact iff_of_true attributed (.of_idle idle)
  | calls turn call free =>
    exact iff_of_true (.of_paired attributed.1 (lawful.call_paired free call))
      (.of_free free turn)
  | proves => exact iff_of_true attributed trivial
  | refuses turn sp refused free =>
    exact iff_of_true (.of_paired attributed.1 (lawful.call_paired free _))
      (.of_free free turn)
  | begins turn thread response free active fresh =>
    refine iff_of_true ⟨attributed.1, ?_⟩ (.of_free free turn)
    -- the driver that was just spawned has not reported
    intro driver region yields waits ending left report
    have new : world.current ≠ world.history.sched.created := Nat.ne_of_lt lawful.current_born
    have own : update (update world.roles world.current
        (.waiting world.history.sched.created response 0)) world.history.sched.created
        (.driver response) world.current = .waiting driver region yields := waits
    rw [update_of_ne new, update_self] at own
    cases own
    rw [(lawful.book.unborn _ (Nat.le_refl _)).2] at report
    cases report
  | yields driver response yields sp grows refused waits unfinished =>
    refine iff_of_true ?_ trivial
    cases next.phase with
    | between paired => exact .of_paired attributed.1 paired
    | begun other region front again runs =>
      refine ⟨attributed.1, ?_⟩
      intro driver' region' yields' waits' ending left report
      rw [again] at waits'
      cases waits'
      rw [next.book.unreported other region runs] at report
      cases report
    | reported other region ending left again finished =>
      simp [unfinished] at finished
  | reads driver response yields sp grows refused waits ended =>
    refine iff_of_true ?_ trivial
    have free : update world.roles world.current .free world.current = .free :=
      update_self ..
    have same : (world.history.step (.reapExited sp refused)).sched.current.id =
        world.current := (List.cons.inj (world.history.reap_line sp refused)).1
    refine ⟨?_, ?_⟩
    · intro reading made ending left report
      rcases mem_append.mp made with old | new
      · exact attributed.1 reading old ending left report
      · rw [mem_singleton.mp new] at report ⊢
        exact attributed.2 driver response yields waits ending left report
    · intro other region count again
      have again : update world.roles world.current .free
          (world.history.step (.reapExited sp refused)).sched.current.id =
            .waiting other region count := again
      rw [same, free] at again
      cases again
  | ends response ending left sp grows runs =>
    obtain ⟨-, waits⟩ := lawful.ends booted ending left sp grows runs
    have own : (world.runDriver response ending left sp grows).reports world.current =
        some (ending, left) := update_self ..
    constructor
    · rintro ⟨-, about⟩ region drives
      exact (record_eq_iff _ _ _).mp (about _ _ _ waits ending left own)
    · intro alone
      have clear := (record_eq_iff _ _ _).mpr (alone response runs)
      refine ⟨?_, ?_⟩
      · intro reading made earlier region report
        have report : update world.reports world.current (some (ending, left))
            reading.driver = some (earlier, region) := report
        rw [update_of_ne (lawful.read_driver_ne runs made)] at report
        exact attributed.1 reading made earlier region report
      · intro driver region yields again last kept report
        rw [waits] at again
        cases again
        rw [own] at report
        cases report
        exact clear

/-- In every run every evaluation leaves its loop after one yield, with the flag set and its
driver's space in place, and takes the bytes its own driver left there.  The status, the length
and the fault it reads are its own driver's throughout a run exactly if every driver that ends
in it finds the cells clear. -/
theorem evaluations_read_own_drivers (kernelRoot : Nat) (booted : kernelRoot ≠ 0)
    (regions : Nat → ResponseRegion) (turns : List Turn) :
    (∀ reading ∈ (run step (start kernelRoot regions) turns).readings,
      ReadsOwn (run step (start kernelRoot regions) turns).reports reading) ∧
    (∀ id driver response yields,
      (run step (start kernelRoot regions) turns).roles id = .waiting driver response yields →
        yields ≤ 1) ∧
    (EveryState step Attributed (start kernelRoot regions) turns ↔
      EveryStep step ReportsAlone (start kernelRoot regions) turns) := by
  have lawful := run_lawful booted regions turns
  refine ⟨lawful.readings, lawful.book.patient, ?_⟩
  have preserved : ∀ (world : Evaluations) (turn : Turn), world.Lawful kernelRoot →
      (world.step turn).Lawful kernelRoot := fun world turn lawful => lawful.step booted turn
  have exactStep : ∀ (world : Evaluations) (turn : Turn), world.Lawful kernelRoot →
      world.Attributed → ((world.step turn).Attributed ↔ world.ReportsAlone turn) :=
    fun world turn lawful attributed => attributed_step_iff lawful booted attributed turn
  have fresh : (start kernelRoot regions).Attributed :=
    .of_paired (by simp [start]) (.free rfl .nil)
  exact every_state_iff_every_step step preserved exactStep turns _
    (start_lawful kernelRoot regions) fresh

def blankRegion : ResponseRegion :=
  ⟨List.replicate marshalBufferCapacity 0, length_replicate⟩

def driverSpace : SpaceHandle where
  root := 0x41080000
  seededRoot := 0x40080000
  allocated := processSpace.allocated

def evaluationRun (ending : DriverEnd) : List Turn :=
  [.evaluate (some (driverSpace, 0x41090000)) 0x41000000 0x40060000 [],
    .resume 0x40060000 true [],
    .excursion ending blankRegion 0x41001000 true,
    .resume 0x40060000 true []]

theorem done_driver_read :
    0x40080000 ≠ 0 ∧
      (EveryState step Attributed (start 0x40080000 fun _ => blankRegion)
          (evaluationRun (.done 0 12)) ↔
        EveryStep step ReportsAlone (start 0x40080000 fun _ => blankRegion)
          (evaluationRun (.done 0 12))) ∧
      (run step (start 0x40080000 fun _ => blankRegion) (evaluationRun (.done 0 12))).readings.map
        (fun reading => (reading.driver, reading.observed)) = [(1, ⟨0, 12, false⟩)] :=
  ⟨by decide,
    (evaluations_read_own_drivers 0x40080000 (by decide) (fun _ => blankRegion)
      (evaluationRun (.done 0 12))).2.2,
    by decide⟩

/-- The TCP proof has run; then a driver faults.  The evaluation reads no fault. -/
theorem fault_after_tcp_proof_unread :
    (run step (start 0x40080000 fun _ => blankRegion)
        (.proveNetTcp :: evaluationRun .fault)).reports 1 = some (.fault, blankRegion) ∧
      (run step (start 0x40080000 fun _ => blankRegion)
        (.proveNetTcp :: evaluationRun .fault)).readings.map
          (fun reading => (reading.driver, reading.observed, reading.outcome)) =
        [(1, Observed.reset, .remote .unreachable)] ∧
      DriverEnd.fault.observed ≠ Observed.reset := by
  refine ⟨rfl, rfl, by decide⟩

end Evaluations

end Runix.Arm
