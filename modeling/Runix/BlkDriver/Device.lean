import Mathlib.Logic.Function.Basic
import Runix.Lib.ByteStrings
import Runix.Lib.Programs

/-!
# The block device of the file server

One request is in flight at a time.  A poll that times out quarantines the device:
from then on neither the queue nor the shared buffer nor a register is touched.
-/

namespace Runix.BlkDriver

open Lib.ByteStrings Lib.Programs

def sectorSize : Nat := 512

abbrev Sector := { bytes : Bytes // bytes.length = sectorSize }

inductive QueueHealth where
  | healthy
  | faulted
deriving DecidableEq, Repr

namespace QueueHealth

def onTimeout : QueueHealth → QueueHealth := fun _ => .faulted

def maySubmit (health : QueueHealth) : Bool := health == .healthy

end QueueHealth

inductive Command where
  | read (sector : Nat)
  | write (sector : Nat) (data : Sector)

/-- What the poll of one request finds: nothing in time, or a status byte and the data part of
the buffer. -/
inductive Reply where
  | timeout
  | completed (status : UInt8) (data : Sector)

def virtioBlkSOk : UInt8 := 0

/-- An access to what is shared with the device; `timedOut` is a poll that gave up. -/
inductive Touch where
  | buffer
  | queue
  | register
  | timedOut
deriving DecidableEq, Repr

structure BlkDevice (Hardware : Type) where
  health : QueueHealth
  hardware : Hardware
  touches : List Touch

inductive Question where
  | read (sector : Nat)
  | write (sector : Nat) (data : Sector)
  | isFaulted

abbrev Question.Answer : Question → Type
  | .read _ => Option Sector
  | .write _ _ => Bool
  | .isFaulted => Bool

def Question.refused : (question : Question) → question.Answer
  | .read _ => none
  | .write _ _ => false
  | .isFaulted => true

abbrev DiskProgram := Program Question Question.Answer

namespace DiskProgram

def readSector (sector : Nat) : DiskProgram (Option Sector) := .ask (.read sector) .done

def writeSector (sector : Nat) (data : Sector) : DiskProgram Bool := .ask (.write sector data) .done

def isFaulted : DiskProgram Bool := .ask .isFaulted .done

end DiskProgram

namespace BlkDevice

variable {Hardware : Type}

def isFaulted (dev : BlkDevice Hardware) : Bool := !dev.health.maySubmit

def touch (dev : BlkDevice Hardware) (more : List Touch) : BlkDevice Hardware :=
  { dev with touches := dev.touches ++ more }

section Requests

variable (respond : Hardware → Command → Reply × Hardware)

def request (command : Command) (dev : BlkDevice Hardware) :
    Option (UInt8 × Sector) × BlkDevice Hardware :=
  if dev.health.maySubmit then
    -- The header, the descriptor chain and the notification, then the poll.
    let posted := dev.touch [.buffer, .queue, .register]
    match respond dev.hardware command with
    | (.timeout, hardware) =>
      (none, { posted.touch [.timedOut] with health := dev.health.onTimeout, hardware })
    | (.completed status data, hardware) =>
      (some (status, data), { posted.touch [.queue, .buffer] with hardware })
  else (none, dev)

def readSector (sector : Nat) (dev : BlkDevice Hardware) :
    Option Sector × BlkDevice Hardware :=
  if dev.isFaulted then (none, dev)
  else
    match request respond (.read sector) (dev.touch [.buffer]) with
    | (some (status, data), after) =>
      if status = virtioBlkSOk then (some data, after.touch [.buffer]) else (none, after)
    | (none, after) => (none, after)

/-- Whether the write was completed with status OK, the one thing its callers ask. -/
def writeSector (sector : Nat) (data : Sector) (dev : BlkDevice Hardware) :
    Bool × BlkDevice Hardware :=
  if dev.isFaulted then (false, dev)
  else
    match request respond (.write sector data) (dev.touch [.buffer]) with
    | (some (status, _), after) => (status == virtioBlkSOk, after)
    | (none, after) => (false, after)

def serve : (question : Question) → BlkDevice Hardware → question.Answer × BlkDevice Hardware
  | .read sector, dev => readSector respond sector dev
  | .write sector data, dev => writeSector respond sector data dev
  | .isFaulted, dev => (dev.isFaulted, dev)

variable {dev : BlkDevice Hardware}

theorem serve_faulted (faulted : dev.isFaulted = true)
    (question : Question) : serve respond question dev = (question.refused, dev) := by
  cases question <;> simp [serve, readSector, writeSector, Question.refused, faulted]

theorem request_cases (command : Command) (healthy : dev.isFaulted = false) :
    (∃ hardware, request respond command dev =
      (none, ⟨.faulted, hardware, dev.touches ++ [.buffer, .queue, .register, .timedOut]⟩)) ∨
    ∃ status data hardware, request respond command dev = (some (status, data),
      ⟨dev.health, hardware, dev.touches ++ [.buffer, .queue, .register, .queue, .buffer]⟩) := by
  have submits : dev.health.maySubmit = true := by simpa [isFaulted] using healthy
  unfold request
  rw [if_pos submits]
  rcases reply : respond dev.hardware command with ⟨_ | ⟨status, data⟩, hardware⟩
  · exact .inl ⟨hardware, by simp [touch, QueueHealth.onTimeout]⟩
  · exact .inr ⟨status, data, hardware, by simp [touch]⟩

/-- What one question does to a device in use: it is still in use, or the poll gave up, that
was the last access, and the question was not answered. -/
theorem serve_healthy (question : Question) (healthy : dev.isFaulted = false) :
    ∃ accesses, .timedOut ∉ accesses ∧
      (((serve respond question dev).2.isFaulted = false ∧
          (serve respond question dev).2.touches = dev.touches ++ accesses) ∨
        ((serve respond question dev).2.isFaulted = true ∧
          (serve respond question dev).2.touches = dev.touches ++ accesses ++ [.timedOut] ∧
          (serve respond question dev).1 = question.refused)) := by
  have touched : (dev.touch [.buffer]).isFaulted = false := healthy
  cases question with
  | read sector =>
    simp only [serve, readSector, healthy, Bool.false_eq_true, if_false]
    rcases request_cases respond (.read sector) touched with
      ⟨hardware, result⟩ | ⟨status, data, hardware, result⟩
    · refine ⟨[.buffer, .buffer, .queue, .register], by decide, .inr ?_⟩
      rw [result]
      simp [touch, isFaulted, QueueHealth.maySubmit, Question.refused]
    by_cases ok : status = virtioBlkSOk
    · refine ⟨[.buffer, .buffer, .queue, .register, .queue, .buffer, .buffer], by decide,
        .inl ?_⟩
      rw [result]
      simpa [ok, touch, isFaulted] using healthy
    · refine ⟨[.buffer, .buffer, .queue, .register, .queue, .buffer], by decide, .inl ?_⟩
      rw [result]
      simpa [ok, touch, isFaulted] using healthy
  | write sector data =>
    simp only [serve, writeSector, healthy, Bool.false_eq_true, if_false]
    rcases request_cases respond (.write sector data) touched with
      ⟨hardware, result⟩ | ⟨status, data, hardware, result⟩
    · refine ⟨[.buffer, .buffer, .queue, .register], by decide, .inr ?_⟩
      rw [result]
      simp [touch, isFaulted, QueueHealth.maySubmit, Question.refused]
    · refine ⟨[.buffer, .buffer, .queue, .register, .queue, .buffer], by decide, .inl ?_⟩
      rw [result]
      simpa [touch, isFaulted] using healthy
  | isFaulted => exact ⟨[], List.not_mem_nil, .inl ⟨healthy, (List.append_nil _).symm⟩⟩

end Requests

end BlkDevice

section Runs

variable {Hardware Value Other : Type} (respond : Hardware → Command → Reply × Hardware)

def exec (program : DiskProgram Value) (dev : BlkDevice Hardware) :
    Option Value × BlkDevice Hardware :=
  program.run (BlkDevice.serve respond) dev

theorem exec_bind (program : DiskProgram Value) (rest : Value → DiskProgram Other)
    (dev : BlkDevice Hardware) :
    exec respond (program >>= rest) dev =
      (exec respond program dev).1.elim (none, (exec respond program dev).2) fun value =>
        exec respond (rest value) (exec respond program dev).2 :=
  Program.run_bind (BlkDevice.serve respond) program rest dev

end Runs

/-- A device without errors is the sectors it holds. -/
def respond (disk : Nat → Sector) : Command → Reply × (Nat → Sector)
  | .read sector => (.completed virtioBlkSOk (disk sector), disk)
  | .write sector data => (.completed virtioBlkSOk data, Function.update disk sector data)

section Yields

variable {Value Other : Type} {disk : Nat → Sector}

/-- On these sectors, without errors, the program returns the value and writes nothing. -/
def Yields (disk : Nat → Sector) (program : DiskProgram Value) (value : Value) : Prop :=
  ∀ touches, ∃ after, exec respond program ⟨.healthy, disk, touches⟩ =
    (some value, ⟨.healthy, disk, after⟩)

theorem Yields.pure (value : Value) : Yields disk (pure value) value := fun touches => ⟨touches, rfl⟩

theorem Yields.read (sector : Nat) :
    Yields disk (DiskProgram.readSector sector) (some (disk sector)) := fun _ => ⟨_, rfl⟩

variable {program : DiskProgram Value}

theorem Yields.bind {value : Value} (yields : Yields disk program value)
    {rest : Value → DiskProgram Other} {other : Other} (next : Yields disk (rest value) other) :
    Yields disk (program >>= rest) other := by
  intro touches
  obtain ⟨middle, first⟩ := yields touches
  obtain ⟨after, second⟩ := next middle
  refine ⟨after, ?_⟩
  rw [exec_bind, first]
  exact second

theorem Yields.exec {value : Value} (yields : Yields disk program value) :
    (exec respond program ⟨.healthy, disk, []⟩).1 = some value := by
  obtain ⟨after, done⟩ := yields []
  rw [done]

end Yields

end Runix.BlkDriver
