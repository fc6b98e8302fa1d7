import Runix.Ipc.Sockets
import Runix.Kernel.Sessions

/-!
# The sockets server

`handle_socket_request`, `pin_to_own_session` and the accept step of
`net-driver-host/src/main.rs`.  Each accepted session has the socket slot of its own
index.  The TCP stack and the peer are a `Network`: how the handshake ends, how much of a
send fits, and what arrives between two receives.
-/

namespace Runix.NetDriver

open Ipc Kernel Lib.ByteStrings Function

def socketsServerPort : Nat := 11

def tcpBufferSize : Nat := 256

inductive TcpState where
  | closed
  | connecting
  | established
deriving DecidableEq, Repr

/-- How a connect ends: refused at once, back in `Closed`, out of time, or established. -/
inductive Handshake where
  | rejected
  | closed
  | timedOut
  | established
deriving DecidableEq, Repr

structure Network where
  handshake : Handshake
  /-- Of the bytes written so far, those that left the send buffer. -/
  acked : Nat → Nat
  /-- The bytes `send_slice` queues, from the free space and the length offered. -/
  queue : Nat → Nat → Nat
  /-- What arrives before each receive, from the bytes the peer was sent. -/
  arrivals : Bytes → Nat → Bytes

structure Socket where
  state : TcpState
  written : Bytes
  inbox : Bytes
  receives : Nat
deriving DecidableEq, Repr

namespace Socket

def new : Socket := ⟨.closed, [], [], 0⟩

def established : Socket := { new with state := .established }

variable (network : Network) (socket : Socket)

def isOpen : Bool := socket.state ≠ .closed

def free : Nat :=
  tcpBufferSize -
    (socket.written.length - min (network.acked socket.written.length) socket.written.length)

/-- Fails unless the connection is established. -/
def sendSlice (data : Bytes) : Option (Nat × Socket) :=
  if socket.state = .established then
    let len := network.queue (socket.free network) data.length
    some (len, { socket with written := socket.written ++ data.take len })
  else none

/-- The receive buffer after the polls since the last receive. -/
def poll : Socket :=
  if socket.state = .established then
    { socket with
      inbox := socket.inbox ++ network.arrivals socket.written socket.receives
      receives := socket.receives + 1 }
  else socket

def recvSlice (maxLen : Nat) : Bytes × Socket :=
  (socket.inbox.take maxLen, { socket with inbox := socket.inbox.drop maxLen })

end Socket

abbrev Slots := Fin maxSockets → Option Socket

/-- `slots.get(handle)`. -/
def Slots.get (slots : Slots) (handle : UInt8) : Option (Fin maxSockets × Socket) :=
  if inside : handle.toNat < maxSockets then
    (slots ⟨handle.toNat, inside⟩).map fun socket => (⟨handle.toNat, inside⟩, socket)
  else none

def ownHandle (ownIndex : Fin maxSockets) : UInt8 := UInt8.ofNat ownIndex.val

def pinToOwnSession (request : SocketRequest) (ownIndex : Fin maxSockets) : SocketRequest :=
  match request with
  | .openSocket => .openSocket
  | .connect _ remoteIp remotePort localPort =>
    .connect (ownHandle ownIndex) remoteIp remotePort localPort
  | .send _ data => .send (ownHandle ownIndex) data
  | .recv _ maxLen => .recv (ownHandle ownIndex) maxLen
  | .close _ => .close (ownHandle ownIndex)

inductive RequestOutcome where
  | immediate (response : SocketResponse)
  | connectPending
deriving DecidableEq, Repr

def handleSocketRequest (network : Network) (slots : Slots) (ownIndex : Fin maxSockets)
    (request : SocketRequest) : RequestOutcome × Slots :=
  match request with
  | .openSocket =>
    if (slots ownIndex).isSome then (.immediate (.openFailed .tooManyOpen), slots)
    else (.immediate (.opened (ownHandle ownIndex)),
      update slots ownIndex (some Socket.new))
  | .connect handle _ _ _ =>
    match slots.get handle with
    | none => (.immediate (.connectFailed handle .invalidHandle), slots)
    | some (index, socket) =>
      if socket.isOpen then (.immediate (.connectFailed handle .alreadyOpen), slots)
      else if network.handshake = .rejected then
        (.immediate (.connectFailed handle .connectFailed), slots)
      else (.connectPending,
        update slots index (some { socket with state := .connecting }))
  | .send handle data =>
    match slots.get handle with
    | none => (.immediate (.sendFailed handle .invalidHandle), slots)
    | some (index, socket) =>
      if !socket.isOpen then (.immediate (.sendFailed handle .notOpen), slots)
      else match socket.sendSlice network data with
        | some (len, next) =>
          (.immediate (.sent handle (UInt16.ofNat len)),
            update slots index (some next))
        | none => (.immediate (.sendFailed handle .invalidLength), slots)
  | .recv handle maxLen =>
    match slots.get handle with
    | none => (.immediate (.error handle .invalidHandle), slots)
    | some (index, socket) =>
      if !socket.isOpen then (.immediate (.error handle .notOpen), slots)
      else
        -- An empty receive buffer is answered with no data, as `can_recv` would.
        let (data, next) :=
          (socket.poll network).recvSlice (min maxLen.toNat maxPayloadLen)
        (.immediate (.data handle data), update slots index (some next))
  | .close handle =>
    match slots.get handle with
    | none => (.immediate (.closed handle), slots)
    | some (index, _) => (.immediate (.closed handle), update slots index none)

structure SocketServer where
  thread : Thread
  liveSessions : Fin maxSockets → Option Nat
  slots : Slots

namespace SocketServer

/-- The end of a pending connect, as the poll loop finds it. -/
def resolveConnect (network : Network) (server : SocketServer) (ownIndex : Fin maxSockets) :
    SocketResponse × SocketServer :=
  let settled (state : TcpState) : SocketServer :=
    { server with
      slots := update server.slots ownIndex
        ((server.slots ownIndex).map fun socket => { socket with state := state }) }
  match network.handshake with
  | .established => (.connected (ownHandle ownIndex), settled .established)
  | .timedOut =>
    (.connectFailed (ownHandle ownIndex) .connectFailed, settled .connecting)
  | .closed | .rejected => (.connectFailed (ownHandle ownIndex) .connectFailed, settled .closed)

/-- One decoded request of the session at an index; closing frees the index. -/
def answer (network : Network) (server : SocketServer) (ownIndex : Fin maxSockets)
    (request : SocketRequest) : SocketResponse × SocketServer :=
  let pinned := pinToOwnSession request ownIndex
  let (outcome, slots) := handleSocketRequest network server.slots ownIndex pinned
  let handled := { server with slots := slots }
  match outcome with
  | .connectPending => handled.resolveConnect network ownIndex
  | .immediate response =>
    match request with
    | .close _ =>
      (response,
        { handled with liveSessions := update server.liveSessions ownIndex none })
    | _ => (response, handled)

variable (server : SocketServer)

def freeIndex : Option (Fin maxSockets) :=
  (List.finRange maxSockets).find? fun index => (server.liveSessions index).isNone

def indexOf (id : Nat) : Option (Fin maxSockets) :=
  (List.finRange maxSockets).find? fun index => server.liveSessions index = some id

/-- One iteration's accept: the oldest pending session, if an index is free. -/
def accept (table : SessionTable) : SocketServer × SessionTable :=
  match server.freeIndex with
  | none => (server, table)
  | some index =>
    match table.sessionAccept socketsServerPort server.thread with
    | (none, _) => (server, table)
    | (some id, next) =>
      ({ server with liveSessions := update server.liveSessions index (some id) },
        next)

/-! ## One session at its index -/

def holding (index : Fin maxSockets) (id : Nat) (socket : Option Socket) : SocketServer :=
  { server with
    liveSessions := update server.liveSessions index (some id)
    slots := update server.slots index socket }

theorem own_handle_to_nat (index : Fin maxSockets) : (ownHandle index).toNat = index.val := by
  have small : index.val < 2 ^ 8 := Nat.lt_trans index.isLt (by decide)
  rw [ownHandle, UInt8.toNat_ofNat', Nat.mod_eq_of_lt small]

@[simp]
theorem get_own_handle (slots : Slots) (index : Fin maxSockets) :
    slots.get (ownHandle index) = (slots index).map fun socket => (index, socket) := by
  simp [Slots.get, own_handle_to_nat]

variable (network : Network) (server : SocketServer) (index : Fin maxSockets) (id : Nat)

theorem answer_open :
    (server.holding index id none).answer network index .openSocket =
      (.opened (ownHandle index), server.holding index id (some .new)) := by
  simp [answer, pinToOwnSession, handleSocketRequest, holding]

theorem answer_connect (reached : network.handshake = .established) (handle : UInt8)
    (remoteIp : Ipv4) (remotePort localPort : UInt16) :
    (server.holding index id (some .new)).answer network index
        (.connect handle remoteIp remotePort localPort) =
      (.connected (ownHandle index),
        server.holding index id (some .established)) := by
  simp [answer, pinToOwnSession, handleSocketRequest, holding, resolveConnect, reached,
    Socket.isOpen, Socket.established, Socket.new]

variable {network server index id} {socket : Socket}

theorem answer_send (up : socket.state = .established) (handle : UInt8) (data : Bytes) :
    (server.holding index id (some socket)).answer network index (.send handle data) =
      (.sent (ownHandle index)
          (UInt16.ofNat (network.queue (socket.free network) data.length)),
        server.holding index id (some { socket with
          written := socket.written ++
            data.take (network.queue (socket.free network) data.length) })) := by
  simp [answer, pinToOwnSession, handleSocketRequest, holding, Socket.isOpen, Socket.sendSlice, up]

theorem answer_recv (up : socket.state = .established) (handle : UInt8) (maxLen : UInt16) :
    (server.holding index id (some socket)).answer network index (.recv handle maxLen) =
      (.data (ownHandle index)
          ((socket.inbox ++ network.arrivals socket.written socket.receives).take
            (min maxLen.toNat maxPayloadLen)),
        server.holding index id (some { socket with
          inbox := (socket.inbox ++ network.arrivals socket.written socket.receives).drop
            (min maxLen.toNat maxPayloadLen)
          receives := socket.receives + 1 })) := by
  simp [answer, pinToOwnSession, handleSocketRequest, holding, Socket.isOpen, Socket.poll,
    Socket.recvSlice, up]

theorem answer_close (live : server.liveSessions index = none) (slot : server.slots index = none)
    (handle : UInt8) :
    (server.holding index id (some socket)).answer network index (.close handle) =
      (.closed (ownHandle index), server) := by
  have sessions : update server.liveSessions index none = server.liveSessions := by
    rw [← live, update_eq_self]
  have slots : update server.slots index none = server.slots := by
    rw [← slot, update_eq_self]
  simp [answer, pinToOwnSession, handleSocketRequest, holding, sessions, slots]

theorem index_of_holding (fresh : ∀ other, server.liveSessions other ≠ some id)
    (held : Option Socket) : (server.holding index id held).indexOf id = some index := by
  have only : ∀ other, (server.holding index id held).liveSessions other = some id ↔
      other = index := by
    intro other
    by_cases same : other = index
    · simp [holding, same]
    · simp [holding, same, fresh other]
  rw [indexOf]
  cases found : (List.finRange maxSockets).find? fun other =>
      (server.holding index id held).liveSessions other = some id with
  | none =>
    have absent := List.find?_eq_none.mp found index (List.mem_finRange index)
    exact absurd ((only index).mpr rfl) (by simpa using absent)
  | some other =>
    have held := List.find?_some found
    rw [(only other).mp (by simpa using held)]

theorem free_index_live (found : server.freeIndex = some index) :
    server.liveSessions index = none := by
  simpa using List.find?_some found

theorem accept_idle {table : SessionTable} (idle : table.pending socketsServerPort = []) :
    server.accept table = (server, table) := by
  unfold accept
  cases server.freeIndex with
  | none => rfl
  | some index => simp [SessionTable.sessionAccept, idle]

end SocketServer

end Runix.NetDriver
