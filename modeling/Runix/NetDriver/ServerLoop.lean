import Runix.Ipc.WireFormats
import Runix.Lib.Runs
import Runix.Lib.Slab
import Runix.NetDriver.SocketServer

/-!
# The loop of the sockets server

`run_socket_ipc_server` of `net-driver-host/src/main.rs`, with the four arrays it keeps by
index and the set of sockets they point into.  A round of the loop polls the interface, ends
the connects that are over, accepts a session if an index is free, and then serves each index
once.  Here each of these is a step, and the steps come in any order.

smoltcp is a `TcpStack` on an arbitrary type of sockets; what the network does between two
steps is an arbitrary change of the sockets.
-/

namespace Runix.NetDriver

open Ipc Lib Lib.ByteStrings Lib.Reading Function

/-- The calls on a `tcp::Socket`.  A call that fails leaves the socket alone. -/
structure TcpStack (Sock : Type) where
  new : Sock
  isOpen : Sock → Bool
  established : Sock → Bool
  closed : Sock → Bool
  connect : Sock → Ipv4 → UInt16 → UInt16 → Option Sock
  sendSlice : Sock → Bytes → Option (Nat × Sock)
  canRecv : Sock → Bool
  recvSlice : Sock → Nat → Option (Bytes × Sock)

def connectTimeoutIterations : UInt32 := 200000

/-- `sockets`, `slots`, `live_sessions`, `request_bufs` and `pending_connect_since`. -/
structure ServerLoop (Sock : Type) where
  sockets : List (Option Sock)
  slots : Fin maxSockets → Option Nat
  liveSessions : Fin maxSockets → Option Nat
  requestBufs : Fin maxSockets → Bytes
  pendingConnectSince : Fin maxSockets → Option UInt32

def isClose : SocketRequest → Bool
  | .close _ => true
  | _ => false

def RequestOutcome.addressed (session : Nat) : RequestOutcome → Option (Nat × SocketResponse)
  | .immediate response => some (session, response)
  | .connectPending => none

namespace ServerLoop

variable {Sock : Type} (stack : TcpStack Sock) (loop : ServerLoop Sock)

def ready : ServerLoop Sock where
  sockets := []
  slots := fun _ => none
  liveSessions := fun _ => none
  requestBufs := fun _ => []
  pendingConnectSince := fun _ => none

variable (index : Fin maxSockets)

/-- The socket of a slot, with its handle in the set.  `SocketSet::get_mut` would panic on a
handle that is not in the set; no slot ever has one. -/
def socketAt : Option (Nat × Sock) :=
  (loop.slots index).bind fun key => (Slab.get loop.sockets key).map fun socket => (key, socket)

/-- `slots.get(handle)`, and the socket there. -/
def socketOf (handle : UInt8) : Option (Nat × Sock) :=
  if inside : handle.toNat < maxSockets then loop.socketAt ⟨handle.toNat, inside⟩ else none

def putSocket (key : Nat) (socket : Sock) : ServerLoop Sock :=
  { loop with sockets := Slab.put loop.sockets key socket }

def openSlot : ServerLoop Sock :=
  { loop with
    sockets := (Slab.add loop.sockets stack.new).2
    slots := update loop.slots index (some (Slab.add loop.sockets stack.new).1) }

/-- `slot.take()`, and the socket taken out of the set. -/
def closeSlot : ServerLoop Sock :=
  match loop.slots index with
  | none => loop
  | some key =>
    { loop with
      sockets := Slab.remove loop.sockets key
      slots := update loop.slots index none }

def handleSocketRequest (ownIndex : Fin maxSockets) (request : SocketRequest) :
    RequestOutcome × ServerLoop Sock :=
  match request with
  | .openSocket =>
    if (loop.slots ownIndex).isSome then (.immediate (.openFailed .tooManyOpen), loop)
    else (.immediate (.opened (ownHandle ownIndex)), loop.openSlot stack ownIndex)
  | .connect handle remoteIp remotePort localPort =>
    match loop.socketOf handle with
    | none => (.immediate (.connectFailed handle .invalidHandle), loop)
    | some (key, socket) =>
      if stack.isOpen socket then (.immediate (.connectFailed handle .alreadyOpen), loop)
      else match stack.connect socket remoteIp remotePort localPort with
        | some next => (.connectPending, loop.putSocket key next)
        | none => (.immediate (.connectFailed handle .connectFailed), loop)
  | .send handle data =>
    match loop.socketOf handle with
    | none => (.immediate (.sendFailed handle .invalidHandle), loop)
    | some (key, socket) =>
      if !stack.isOpen socket then (.immediate (.sendFailed handle .notOpen), loop)
      else match stack.sendSlice socket data with
        | some (len, next) =>
          (.immediate (.sent handle (UInt16.ofNat len)), loop.putSocket key next)
        | none => (.immediate (.sendFailed handle .invalidLength), loop)
  | .recv handle maxLen =>
    match loop.socketOf handle with
    | none => (.immediate (.error handle .invalidHandle), loop)
    | some (key, socket) =>
      if !stack.isOpen socket then (.immediate (.error handle .notOpen), loop)
      else if stack.canRecv socket then
        match stack.recvSlice socket (min maxLen.toNat maxPayloadLen) with
        | some (data, next) => (.immediate (.data handle data), loop.putSocket key next)
        | none => (.immediate (.data handle []), loop)
      else (.immediate (.data handle []), loop)
  | .close handle =>
    (.immediate (.closed handle),
      if inside : handle.toNat < maxSockets then loop.closeSlot ⟨handle.toNat, inside⟩
      else loop)

/-! ## The steps of a round -/

def settled : ServerLoop Sock :=
  { loop with pendingConnectSince := update loop.pendingConnectSince index none }

/-- `iface.poll`. -/
def poll (change : Nat → Sock → Sock) : ServerLoop Sock :=
  { loop with sockets := loop.sockets.mapIdx fun key place => place.map (change key) }

variable (offset : UInt32)

/-- The check of one pending connect, and the answer if it is over. -/
def resolveConnect : Option (Nat × SocketResponse) × ServerLoop Sock :=
  match loop.pendingConnectSince index with
  | none => (none, loop)
  | some since =>
    match loop.socketAt index with
    | none => (none, loop.settled index)
    | some (_, socket) =>
      match loop.liveSessions index with
      | none => (none, loop.settled index)
      | some session =>
        if stack.established socket then
          (some (session, .connected (ownHandle index)), loop.settled index)
        else if stack.closed socket ∨ connectTimeoutIterations < offset - since then
          (some (session, .connectFailed (ownHandle index) .connectFailed),
            loop.settled index)
        else (none, loop)

def freeIndex : Option (Fin maxSockets) :=
  (List.finRange maxSockets).find? fun index => (loop.liveSessions index).isNone

/-- The accept of a round, with the session that the kernel has to offer. -/
def accept (offered : Option Nat) : ServerLoop Sock :=
  match loop.freeIndex, offered with
  | some index, some session =>
    { loop with liveSessions := update loop.liveSessions index (some session) }
  | _, _ => loop

def Serves : Prop :=
  (loop.liveSessions index).isSome ∧ loop.pendingConnectSince index = none

instance (index : Fin maxSockets) : Decidable (loop.Serves index) :=
  inferInstanceAs (Decidable (_ ∧ _))

def received (byte : Option UInt8) : Bytes :=
  loop.requestBufs index ++ byte.toList

def setBuf (buf : Bytes) : ServerLoop Sock :=
  { loop with requestBufs := update loop.requestBufs index buf }

def awaitConnect : ServerLoop Sock :=
  { loop with
    pendingConnectSince := update loop.pendingConnectSince index (some offset) }

/-- Only a close frees the index. -/
def release (request : SocketRequest) : ServerLoop Sock :=
  if isClose request then
    { loop with liveSessions := update loop.liveSessions index none }
  else loop

/-- What follows the handling of a request. -/
def conclude (request : SocketRequest) : RequestOutcome → ServerLoop Sock
  | .immediate _ => loop.release index request
  | .connectPending => (loop.awaitConnect index offset).release index request

def answer (session : Nat) (offset : UInt32) (request : SocketRequest) :
    Option (Nat × SocketResponse) × ServerLoop Sock :=
  let (outcome, handled) := loop.handleSocketRequest stack index (pinToOwnSession request index)
  (outcome.addressed session, handled.conclude index offset request outcome)

/-- One index's turn, with the byte that its session has waiting. -/
def serve (byte : Option UInt8) : Option (Nat × SocketResponse) × ServerLoop Sock :=
  match loop.liveSessions index with
  | none => (none, loop)
  | some session =>
    if (loop.pendingConnectSince index).isSome then (none, loop)
    else match SocketRequest.decode (loop.received index byte) with
      | none => (none, loop.setBuf index (loop.received index byte))
      | some (request, consumed) =>
        (loop.setBuf index ((loop.received index byte).drop consumed)).answer stack index
          session offset request

/-! ## What a request can touch -/

theorem own_handle_inside : ∃ inside : (ownHandle index).toNat < maxSockets,
      (⟨(ownHandle index).toNat, inside⟩ : Fin maxSockets) = index := by
  have same := SocketServer.own_handle_to_nat index
  exact ⟨same ▸ index.isLt, Fin.ext same⟩

@[simp]
theorem socket_of_own_handle : loop.socketOf (ownHandle index) = loop.socketAt index := by
  simp [socketOf, SocketServer.own_handle_to_nat]

variable {loop} in
theorem socket_at_eq_some {index : Fin maxSockets} {key : Nat} {socket : Sock}
    (found : loop.socketAt index = some (key, socket)) :
    loop.slots index = some key ∧ Slab.get loop.sockets key = some socket := by
  simp only [socketAt, Option.bind_eq_some_iff, Option.map_eq_some_iff, Prod.mk.injEq] at found
  obtain ⟨_, slot, _, there, rfl, rfl⟩ := found
  exact ⟨slot, there⟩

/-- A request leaves the loop alone, opens the socket of its own slot, changes it or closes
it; only a close closes it. -/
inductive Handles (index : Fin maxSockets) :
    SocketRequest → RequestOutcome → ServerLoop Sock → Prop
  | kept {request : SocketRequest} (response : SocketResponse)
      (stays : isClose request = false)
      (used : request = .openSocket → (loop.slots index).isSome) :
      Handles index request (.immediate response) loop
  | opened (free : loop.slots index = none) :
      Handles index .openSocket (.immediate (.opened (ownHandle index)))
        (loop.openSlot stack index)
  | changed {request : SocketRequest} {outcome : RequestOutcome} {key : Nat} {socket : Sock}
      (next : Sock) (found : loop.socketAt index = some (key, socket))
      (stays : isClose request = false) :
      Handles index request outcome (loop.putSocket key next)
  | closed (handle : UInt8) (response : SocketResponse) :
      Handles index (.close handle) (.immediate response) (loop.closeSlot index)

theorem handles_pinned (index : Fin maxSockets) (request : SocketRequest) :
    Handles stack loop index request
      (loop.handleSocketRequest stack index (pinToOwnSession request index)).1
      (loop.handleSocketRequest stack index (pinToOwnSession request index)).2 := by
  cases request with
  | openSocket =>
    simp only [pinToOwnSession, handleSocketRequest]
    cases slot : loop.slots index with
    | none =>
      simp only [Option.isSome_none, Bool.false_eq_true, if_false]
      exact .opened slot
    | some key => exact .kept _ rfl fun _ => by rw [slot]; rfl
  | connect handle remoteIp remotePort localPort =>
    simp only [pinToOwnSession, handleSocketRequest, socket_of_own_handle]
    cases found : loop.socketAt index with
    | none => exact .kept _ rfl (by simp)
    | some pair =>
      dsimp only
      split
      · exact .kept _ rfl (by simp)
      · cases stack.connect pair.2 remoteIp remotePort localPort with
        | none => exact .kept _ rfl (by simp)
        | some next => exact .changed next found rfl
  | send handle data =>
    simp only [pinToOwnSession, handleSocketRequest, socket_of_own_handle]
    cases found : loop.socketAt index with
    | none => exact .kept _ rfl (by simp)
    | some pair =>
      dsimp only
      split
      · exact .kept _ rfl (by simp)
      · cases stack.sendSlice pair.2 data with
        | none => exact .kept _ rfl (by simp)
        | some sent => exact .changed sent.2 found rfl
  | recv handle maxLen =>
    simp only [pinToOwnSession, handleSocketRequest, socket_of_own_handle]
    cases found : loop.socketAt index with
    | none => exact .kept _ rfl (by simp)
    | some pair =>
      dsimp only
      split
      · exact .kept _ rfl (by simp)
      split
      · cases stack.recvSlice pair.2 (min maxLen.toNat maxPayloadLen) with
        | none => exact .kept _ rfl (by simp)
        | some taken => exact .changed taken.2 found rfl
      · exact .kept _ rfl (by simp)
  | close handle =>
    obtain ⟨inside, same⟩ := own_handle_inside index
    simp only [pinToOwnSession, handleSocketRequest, dif_pos inside, same]
    exact .closed handle _

end ServerLoop

end Runix.NetDriver
