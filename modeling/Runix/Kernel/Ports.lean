import Runix.Kernel.Sessions
import Runix.Lib.Runs

/-!
# Fixed ports

`kernel/src/ipc.rs`: sixteen byte channels with a bounded queue and a send lock each.  A message
is far longer than a queue, so a sender waits in the middle of its message and others run; the
lock is what keeps the messages apart.

A call that the source repeats until it can go on is one attempt here, and `none` while it
cannot.  Senders keep to the rule of the source: `begin_send`, every byte of one message,
`end_send`.  Their attempts and the receives come in any order.
-/

namespace Runix.Kernel

open Lib.ByteStrings Lib.Runs Function List

def portCount : Nat := 16

def channelCapacity : Nat := 32

/-- `CHANNELS[port]` and `SEND_LOCKS[port]`. -/
structure Port where
  queue : Bytes
  sendLocked : Bool
deriving DecidableEq, Repr

abbrev Ports := Nat → Port

namespace Ports

variable (ports : Ports) (port : Nat)

def isValidPort : Bool := port < portCount

def beginSend : Option (Bool × Ports) :=
  if !isValidPort port then some (false, ports)
  else if (ports port).sendLocked then none
  else some (true, update ports port { ports port with sendLocked := true })

def endSend : Bool × Ports :=
  if !isValidPort port then (false, ports)
  else (true, update ports port { ports port with sendLocked := false })

def send (byte : UInt8) : Option (Bool × Ports) :=
  if !isValidPort port then some (false, ports)
  else if (ports port).queue.length < channelCapacity then
    some (true, update ports port
      { ports port with queue := (ports port).queue ++ [byte] })
  else none

def tryRecv : Option UInt8 × Ports :=
  if !isValidPort port then (none, ports)
  else
    match (ports port).queue with
    | [] => (none, ports)
    | byte :: rest => (some byte, update ports port { ports port with queue := rest })

end Ports

/-! ## Senders -/

/-- One port's senders, each with the rest of the message it is sending, and what has passed:
the messages in the order their senders took the lock, the bytes the port accepted and the
bytes received from it. -/
structure Traffic where
  sending : Thread → Option Bytes
  begun : List Bytes
  accepted : Bytes
  received : Bytes

namespace Traffic

variable (traffic : Traffic)

def start (thread : Thread) (message : Bytes) : Traffic :=
  { traffic with
    sending := update traffic.sending thread (some message)
    begun := traffic.begun ++ [message] }

def accept (thread : Thread) (byte : UInt8) (rest : Bytes) : Traffic :=
  { traffic with
    sending := update traffic.sending thread (some rest)
    accepted := traffic.accepted ++ [byte] }

def finish (thread : Thread) : Traffic :=
  { traffic with sending := update traffic.sending thread none }

def receive (byte : UInt8) : Traffic :=
  { traffic with received := traffic.received ++ [byte] }

end Traffic

structure PortLog where
  ports : Ports
  traffic : Nat → Traffic

inductive PortEvent where
  | beginSend (thread : Thread) (port : Nat) (message : Bytes)
  | send (thread : Thread) (port : Nat)
  | endSend (thread : Thread) (port : Nat)
  | tryRecv (port : Nat)

namespace PortLog

def boot : PortLog where
  ports := fun _ => { queue := [], sendLocked := false }
  traffic := fun _ => { sending := fun _ => none, begun := [], accepted := [], received := [] }

def amend (log : PortLog) (ports : Ports) (port : Nat) (traffic : Traffic) : PortLog :=
  { ports := ports, traffic := update log.traffic port traffic }

def step (log : PortLog) : PortEvent → PortLog
  | .beginSend thread port message =>
    match (log.traffic port).sending thread, log.ports.beginSend port with
    | none, some (true, ports) =>
      log.amend ports port ((log.traffic port).start thread message)
    | _, _ => log
  | .send thread port =>
    match (log.traffic port).sending thread with
    | some (byte :: rest) =>
      match log.ports.send port byte with
      | some (true, ports) =>
        log.amend ports port ((log.traffic port).accept thread byte rest)
      | _ => log
    | _ => log
  | .endSend thread port =>
    match (log.traffic port).sending thread, log.ports.endSend port with
    | some [], (true, ports) => log.amend ports port ((log.traffic port).finish thread)
    | _, _ => log
  | .tryRecv port =>
    match log.ports.tryRecv port with
    | (some byte, ports) => log.amend ports port ((log.traffic port).receive byte)
    | (none, _) => log

end PortLog

/-! ## What one event does to a port -/

inductive PortMove (port : Port) (traffic : Traffic) : Port → Traffic → Prop
  | still : PortMove port traffic port traffic
  | locked (thread : Thread) (message : Bytes) (free : port.sendLocked = false) :
      PortMove port traffic { port with sendLocked := true } (traffic.start thread message)
  | pushed {thread : Thread} {byte : UInt8} {rest : Bytes}
      (left : traffic.sending thread = some (byte :: rest))
      (room : port.queue.length < channelCapacity) :
      PortMove port traffic { port with queue := port.queue ++ [byte] }
        (traffic.accept thread byte rest)
  | unlocked {thread : Thread} (whole : traffic.sending thread = some []) :
      PortMove port traffic { port with sendLocked := false } (traffic.finish thread)
  | popped {byte : UInt8} {rest : Bytes} (front : port.queue = byte :: rest) :
      PortMove port traffic { port with queue := rest } (traffic.receive byte)

namespace PortLog

def Moved (log after : PortLog) : Prop :=
  ∀ port, PortMove (log.ports port) (log.traffic port) (after.ports port) (after.traffic port)

variable {log : PortLog}

theorem moved_refl (log : PortLog) : log.Moved log := fun _ => .still

theorem moved_amend {port : Nat} {next : Port} {traffic : Traffic}
    (move : PortMove (log.ports port) (log.traffic port) next traffic) :
    log.Moved (log.amend (update log.ports port next) port traffic) := by
  intro other
  unfold amend
  by_cases here : other = port
  · subst here
    simpa only [update_self] using move
  · simpa only [update_of_ne here] using PortMove.still

theorem begin_send_moved (log : PortLog) (thread : Thread) (port : Nat) (message : Bytes) :
    log.Moved (log.step (.beginSend thread port message)) := by
  rw [step]
  cases (log.traffic port).sending thread with
  | some rest => exact log.moved_refl
  | none =>
    unfold Ports.beginSend
    split_ifs with invalid held
    · exact log.moved_refl
    · exact log.moved_refl
    · exact moved_amend (.locked thread message (Bool.not_eq_true _ ▸ held))

theorem send_moved (log : PortLog) (thread : Thread) (port : Nat) :
    log.Moved (log.step (.send thread port)) := by
  rw [step]
  cases left : (log.traffic port).sending thread with
  | none => exact log.moved_refl
  | some rest =>
    cases rest with
    | nil => exact log.moved_refl
    | cons byte rest =>
      unfold Ports.send
      split_ifs with invalid room
      · exact log.moved_refl
      · exact moved_amend (.pushed left room)
      · exact log.moved_refl

theorem end_send_moved (log : PortLog) (thread : Thread) (port : Nat) :
    log.Moved (log.step (.endSend thread port)) := by
  rw [step, Ports.endSend]
  cases whole : (log.traffic port).sending thread with
  | none => exact log.moved_refl
  | some rest =>
    cases rest with
    | cons byte rest => exact log.moved_refl
    | nil =>
      split_ifs with invalid
      · exact log.moved_refl
      · exact moved_amend (.unlocked whole)

theorem try_recv_moved (log : PortLog) (port : Nat) : log.Moved (log.step (.tryRecv port)) := by
  rw [step, Ports.tryRecv]
  split_ifs with invalid
  · exact log.moved_refl
  · cases front : (log.ports port).queue with
    | nil => exact log.moved_refl
    | cons byte rest => exact moved_amend (.popped front)

theorem step_moved (log : PortLog) (event : PortEvent) : log.Moved (log.step event) := by
  cases event with
  | beginSend thread port message => exact log.begin_send_moved thread port message
  | send thread port => exact log.send_moved thread port
  | endSend thread port => exact log.end_send_moved thread port
  | tryRecv port => exact log.try_recv_moved port

end PortLog

/-! ## Messages stay apart -/

/-- Either no sender is inside a message and every message begun was accepted whole, or one
sender is, and the rest of its message is all that is missing. -/
inductive Apart (traffic : Traffic) : Bool → Prop
  | free (idle : ∀ thread, traffic.sending thread = none)
      (whole : traffic.accepted = traffic.begun.flatten) : Apart traffic false
  | held {holder : Thread} {part rest : Bytes} {earlier : List Bytes}
      (inside : traffic.sending holder = some rest)
      (alone : ∀ thread, thread ≠ holder → traffic.sending thread = none)
      (last : traffic.begun = earlier ++ [part ++ rest])
      (so_far : traffic.accepted = earlier.flatten ++ part) : Apart traffic true

structure PortLawful (port : Port) (traffic : Traffic) : Prop where
  apart : Apart traffic port.sendLocked
  flow : traffic.accepted = traffic.received ++ port.queue
  room : port.queue.length ≤ channelCapacity

theorem Apart.holder_of_sending {traffic : Traffic} {locked : Bool} (apart : Apart traffic locked)
    {thread : Thread} {rest : Bytes} (inside : traffic.sending thread = some rest) :
    locked = true ∧ (∀ other, other ≠ thread → traffic.sending other = none) ∧
      ∃ earlier part, traffic.begun = earlier ++ [part ++ rest] ∧
        traffic.accepted = earlier.flatten ++ part := by
  cases apart with
  | free idle whole =>
    rw [idle thread] at inside
    cases inside
  | @held holder part left earlier holds alone last so_far =>
    have same : thread = holder := by
      by_contra other
      rw [alone thread other] at inside
      cases inside
    subst same
    rw [holds] at inside
    cases inside
    exact ⟨rfl, alone, earlier, part, last, so_far⟩

variable {traffic after : Traffic}

theorem PortMove.apart {port next : Port} (move : PortMove port traffic next after)
    (apart : Apart traffic port.sendLocked) : Apart after next.sendLocked := by
  cases move with
  | still => exact apart
  | locked thread message free =>
    rw [free] at apart
    cases apart with
    | free idle whole =>
      apply Apart.held
      · exact update_self ..
      · intro other apart
        exact (update_of_ne apart ..).trans (idle other)
      · exact congrArg (fun last => traffic.begun ++ [last]) (nil_append message).symm
      · rw [append_nil]
        exact whole
  | @pushed thread byte rest left room =>
    obtain ⟨locked, alone, earlier, part, last, so_far⟩ := apart.holder_of_sending left
    rw [show port.sendLocked = true from locked]
    apply Apart.held
    · exact update_self ..
    · intro other apart
      exact (update_of_ne apart ..).trans (alone other apart)
    · show traffic.begun = earlier ++ [(part ++ [byte]) ++ rest]
      rw [append_assoc]
      exact last
    · show traffic.accepted ++ [byte] = earlier.flatten ++ (part ++ [byte])
      rw [so_far, append_assoc]
  | @unlocked thread whole =>
    obtain ⟨locked, alone, earlier, part, last, so_far⟩ := apart.holder_of_sending whole
    apply Apart.free
    · intro other
      by_cases same : other = thread
      · rw [same]
        exact update_self ..
      · exact (update_of_ne same ..).trans (alone other same)
    · show traffic.accepted = traffic.begun.flatten
      rw [so_far, last, append_nil, flatten_append, flatten_singleton]
  | popped front =>
    cases held : port.sendLocked with
    | false =>
      rw [held] at apart
      cases apart with
      | free idle whole => exact .free idle whole
    | true =>
      rw [held] at apart
      cases apart with
      | held inside alone last so_far => exact .held inside alone last so_far

theorem PortMove.lawful {port next : Port} (move : PortMove port traffic next after)
    (lawful : PortLawful port traffic) : PortLawful next after where
  apart := move.apart lawful.apart
  flow := by
    cases move with
    | still => exact lawful.flow
    | locked thread message free => exact lawful.flow
    | @pushed thread byte rest left room =>
      show traffic.accepted ++ [byte] = traffic.received ++ (port.queue ++ [byte])
      rw [lawful.flow, append_assoc]
    | unlocked whole => exact lawful.flow
    | @popped byte rest front =>
      show traffic.accepted = traffic.received ++ [byte] ++ rest
      rw [lawful.flow, front, append_assoc, singleton_append]
  room := by
    cases move with
    | still => exact lawful.room
    | locked thread message free => exact lawful.room
    | pushed left room =>
      rw [length_append]
      exact room
    | unlocked whole => exact lawful.room
    | popped front =>
      have before := lawful.room
      rw [front] at before
      exact Nat.le_of_succ_le before

namespace PortLog

def Lawful (log : PortLog) : Prop :=
  ∀ port, PortLawful (log.ports port) (log.traffic port)

theorem boot_lawful : boot.Lawful := by
  intro port
  exact ⟨.free (fun _ => rfl) rfl, rfl, Nat.zero_le _⟩

theorem run_lawful (events : List PortEvent) : (run step boot events).Lawful :=
  run_invariant step
    (fun log event lawful port => (log.step_moved event port).lawful (lawful port)) events boot
    boot_lawful

/-- Under every interleaving of bracketed senders, with any receives in between, a port
accepts whole messages one after another in lock order.  Only the last can be unfinished, and
only while the lock is held.  What is received is a front of what was accepted, and the queue
holds the bytes between. -/
theorem messages_never_interleave (events : List PortEvent) (port : Nat) :
    let log := run step boot events
    let traffic := log.traffic port
    (∃ earlier part, traffic.accepted = earlier.flatten ++ part ∧
      (traffic.begun = earlier ∧ part = [] ∧ (log.ports port).sendLocked = false ∨
        ∃ message, traffic.begun = earlier ++ [message] ∧ part <+: message ∧
          (log.ports port).sendLocked = true)) ∧
      traffic.received ++ (log.ports port).queue = traffic.accepted ∧
      (log.ports port).queue.length ≤ 32 := by
  have lawful := run_lawful events port
  refine ⟨?_, lawful.flow.symm, lawful.room⟩
  have apart := lawful.apart
  cases held : ((run step boot events).ports port).sendLocked with
  | false =>
    rw [held] at apart
    cases apart with
    | free idle whole =>
      exact ⟨_, [], by rw [append_nil]; exact whole, .inl ⟨rfl, rfl, rfl⟩⟩
  | true =>
    rw [held] at apart
    cases apart with
    | @held holder part rest earlier inside alone last so_far =>
      exact ⟨earlier, part, so_far,
        .inr ⟨part ++ rest, last, prefix_append part rest, rfl⟩⟩

/-- The second sender tries in the middle of the first one's message, and again after it. -/
example :
    ((run step boot [.beginSend 1 4 [65, 66], .send 1 4, .beginSend 2 4 [67], .send 2 4,
      .send 1 4, .endSend 1 4, .beginSend 2 4 [67], .send 2 4]).traffic 4).accepted =
      [65, 66, 67] := by
  decide

end PortLog

end Runix.Kernel
