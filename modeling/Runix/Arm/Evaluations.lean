import Runix.Arm.SchedulerRuns
import Runix.Arm.MarshalTransport
import Mathlib.Logic.Function.Basic

/-!
# Evaluations that share the scheduler

`evaluate` and `marshal_transport_thread` of `marshal_transport.rs` on the threads of the
kernel-arm scheduler.  An evaluation sets up a driver process, spawns a thread for it and yields
until the flag `FINISHED` is set; the thread runs the process to its end in one turn, sets the
flag and exits.  The flag and the cells with the reported status, length and fault are shared by
all evaluations.

A fault of a process goes to the cells of the first caller whose flag is set, in the order of
`el1_vectors.rs`.  The flags are never cleared.
-/

namespace Runix.Arm

open Citadel Ipc Lib.ByteStrings Function

abbrev ResponseRegion : Type :=
  { bytes : Bytes // bytes.length = marshalBufferCapacity }

/-- `OBSERVED`. -/
structure Observed where
  status : Nat
  responseLen : Nat
  fault : Bool
deriving DecidableEq

def Observed.reset : Observed := ⟨2 ^ 64 - 1, 0, false⟩

/-- The end of a driver process: its one report, or a fault. -/
inductive DriverEnd
  | done (status responseLen : Nat)
  | fault
deriving DecidableEq

/-- What the cells hold if the driver alone has written them since they were reset. -/
def DriverEnd.observed : DriverEnd → Observed
  | .done status responseLen => ⟨status, responseLen, false⟩
  | .fault => { Observed.reset with fault := true }

/-- Whose cells a fault is recorded in. -/
inductive FaultSink
  | tcpProof
  | marshalTransport
  | el0Proof
deriving DecidableEq

/-- The order of `el1_vectors.rs`, while a process runs. -/
def faultSink (tcpProofActive marshalActive : Bool) : FaultSink :=
  if tcpProofActive then .tcpProof
  else if marshalActive then .marshalTransport
  else .el0Proof

/-- What a thread is doing: its own business, waiting in `evaluate` for a driver thread after
some yields, or running a driver process. -/
inductive Role
  | free
  | waiting (driver response yields : Nat)
  | driver (response : Nat)
deriving DecidableEq

/-- What the evaluation with the driver thread `driver` sees when it leaves its loop.  `freed`
says whether the driver's stack and space have been reaped by then. -/
structure Reading where
  driver : Nat
  yields : Nat
  finished : Bool
  observed : Observed
  bytes : Bytes
  freed : Bool
deriving DecidableEq

/-- The end of `evaluate_configured`, from what it reads. -/
def Reading.outcome (reading : Reading) : GateOutcome :=
  if !reading.finished then .remote .unreachable
  else if reading.observed.fault then .localFailure .excursionFaulted
  else if reading.observed.status ≠ 0 ∨ reading.observed.responseLen = 0 then
    .remote .unreachable
  else .remote (classifyDecode (MarshalResponse.decodeStatus reading.bytes))

/-- The outcome is the one `evaluateConfigured` computes for an excursion that reads the
same. -/
theorem evaluateConfigured_eq_outcome (excursion : Excursion) (action : MarshalAction)
    (principal : String) (reading : Reading) (net : excursion.hasNet = true)
    (setup : excursion.setup = .ok true) (spawned : excursion.spawned = true)
    (finished : reading.finished = excursion.finished)
    (fault : reading.observed.fault = excursion.faulted)
    (reported : (reading.observed.status, reading.bytes) = excursion.runMarshalRequest
      (min (MarshalRequest.encode ⟨utf8 (action.kerkeseJson principal)⟩).length
        marshalBufferCapacity))
    (covered : reading.observed.responseLen = reading.bytes.length)
    (fits : reading.bytes.length ≤ marshalBufferCapacity) :
    evaluateConfigured excursion action principal = reading.outcome := by
  have unforced : forcedFailure action = none := rfl
  simp only [evaluateConfigured, unforced, net, setup, spawned, ← finished, ← fault, ← reported,
    covered, Reading.outcome, Bool.not_true, Bool.false_eq_true, if_false, Nat.min_eq_left fits,
    List.take_length]

/-- The threads, the shared cells and flags, the response regions by physical address, and
what happened: how each driver thread ended with what it left in its region, and what each
evaluation read. -/
structure Evaluations where
  history : SchedulerHistory
  roles : Nat → Role
  finished : Bool
  observed : Observed
  tcpProofActive : Bool
  marshalActive : Bool
  regions : Nat → ResponseRegion
  reports : Nat → Option (DriverEnd × ResponseRegion)
  readings : List Reading

inductive Turn
  /-- A thread outside of `evaluate` uses the scheduler. -/
  | call (call : ThreadCall)
  /-- The thread of `prove_net_tcp` runs its process. -/
  | proveNetTcp
  /-- `evaluate` is called.  `setup` is the space and the response region of the new driver,
  or none if the evaluation ends before; the rest is what the calls of the scheduler find. -/
  | evaluate (setup : Option (SpaceHandle × Nat)) (stack sp : Nat) (refused : List Nat)
  /-- The loop of `evaluate_configured` goes on. -/
  | resume (sp : Nat) (grows : Bool) (refused : List Nat)
  /-- The driver process runs to its end. -/
  | excursion (ending : DriverEnd) (left : ResponseRegion) (sp : Nat) (grows : Bool)

namespace Evaluations

variable (world : Evaluations)

def current : Nat :=
  world.history.sched.current.id

def start (kernelRoot : Nat) (regions : Nat → ResponseRegion) : Evaluations where
  history := SchedulerHistory.start kernelRoot
  roles := fun _ => .free
  finished := false
  observed := .reset
  tcpProofActive := false
  marshalActive := false
  regions := regions
  reports := fun _ => none
  readings := []

/-- `evaluate` reaps the exited threads when `evaluate_configured` has returned. -/
def reap (sp : Nat) (refused : List Nat) : Evaluations :=
  { world with history := world.history.step (.reapExited sp refused) }

/-- The cells are reset and the driver's thread is spawned. -/
def beginEvaluation (space : SpaceHandle) (response stack sp : Nat) (refused : List Nat) :
    Evaluations :=
  let reset := { world with finished := false, observed := .reset }
  match world.history.sched.spawnWithAddressSpace space stack with
  | .error _ => reset.reap sp refused
  | .ok sched =>
    { reset with
      history := world.history.enlist stack (some space) (.ok sched)
      roles := update
        (update world.roles world.current
          (.waiting world.history.sched.created response 0))
        world.history.sched.created (.driver response) }

/-- One pass of the loop: yield again, or leave the loop and read. -/
def resumeEvaluation (driver response yields sp : Nat) (grows : Bool) (refused : List Nat) :
    Evaluations :=
  if !world.finished && decide (yields < 64) then
    { world with
      history := world.history.step (.yieldNow sp grows)
      roles := update world.roles world.current
        (.waiting driver response (yields + 1)) }
  else
    { world.reap sp refused with
      roles := update world.roles world.current .free
      readings := world.readings ++ [{
        driver := driver
        yields := yields
        finished := world.finished
        observed := world.observed
        bytes := (world.regions response).1.take
          (min world.observed.responseLen marshalBufferCapacity)
        freed := decide (driver ∈ world.history.reaped) }] }

/-- What the driver's end leaves in the cells. -/
def record (observed : Observed) (sink : FaultSink) : DriverEnd → Observed
  | .done status responseLen =>
    { observed with status := status, responseLen := responseLen }
  | .fault =>
    match sink with
    | .marshalTransport => { observed with fault := true }
    | .tcpProof => observed
    | .el0Proof => observed

/-- `marshal_transport_thread`, up to the first yield of its exit. -/
def runDriver (response : Nat) (ending : DriverEnd) (left : ResponseRegion) (sp : Nat)
    (grows : Bool) : Evaluations :=
  { world with
    history := (world.history.step .exitCurrent).step (.yieldNow sp grows)
    roles := update world.roles world.current .free
    finished := true
    observed := record world.observed (faultSink world.tcpProofActive true) ending
    marshalActive := true
    regions := update world.regions response left
    reports := update world.reports world.current (some (ending, left)) }

/-- A turn the running thread cannot take does nothing. -/
def step (turn : Turn) : Evaluations :=
  match world.roles world.current, turn with
  | .free, .call call => { world with history := world.history.step call }
  | .free, .proveNetTcp =>
    if world.current ∈ world.history.exited then world
    else { world with tcpProofActive := true }
  | .free, .evaluate none _ sp refused => world.reap sp refused
  | .free, .evaluate (some (space, response)) stack sp refused =>
    if world.current ∈ world.history.exited then world
    else world.beginEvaluation space response stack sp refused
  | .waiting driver response yields, .resume sp grows refused =>
    world.resumeEvaluation driver response yields sp grows refused
  | .driver response, .excursion ending left sp grows =>
    world.runDriver response ending left sp grows
  | _, _ => world

end Evaluations

end Runix.Arm
