import Runix.Kernel.EvaluationRuns
import Runix.NetDriver.ServerRuns

/-!
# Calls of `evaluate` and the sockets server

Any number of calls of `marshal_client::evaluate`, each with the session it opens in the
kernel's table, and the one thread of `run_socket_ipc_server`, whose steps and theirs come in
any order.  A call takes a byte at a time to and from its session.  The server sends a response
a byte at a time too, and does nothing else until it is sent; it notes the close of a session
with the request, and not after the response.
-/

namespace Runix.Kernel

open Ipc NetDriver Lib Lib.ByteStrings Lib.Runs

namespace EvaluateCall

variable (call : EvaluateCall)

def move (client : EvaluateState) (session : Session) : EvaluateState × Session :=
  match client with
  | .requesting stage [] => (.polling stage (call.polls stage) [], session)
  | .requesting stage (byte :: left) =>
    match session.send byte .owner with
    | some (_, sent) => (.requesting stage left, sent)
    | none => (client, session)
  | .polling stage 0 _ => (call.proceed stage none, session)
  | .polling stage (polls + 1) buf =>
    match session.tryRecv .owner with
    | some (some byte, taken) =>
      match SocketResponse.decode (buf ++ [byte]) with
      | some (response, _) => (call.proceed stage (some response), taken)
      | none => (.polling stage polls (buf ++ [byte]), taken)
    | _ => (.polling stage polls buf, session)
  | .done _ => (client, session)

theorem client_step_eq (state : Evaluation) : state.clientStep call = { state with
        client := (call.move state.client state.session).1
        session := (call.move state.client state.session).2 } := by
  obtain ⟨client, session, requestBuf, phase, server, arrived⟩ := state
  cases client with
  | requesting stage left =>
    cases left with
    | nil => rfl
    | cons byte left =>
      dsimp only [Evaluation.clientStep, move]
      cases session.send byte .owner with
      | none => rfl
      | some sent => rfl
  | polling stage polls buf =>
    cases polls with
    | zero => rfl
    | succ polls =>
      dsimp only [Evaluation.clientStep, move]
      rcases session.tryRecv .owner with _ | ⟨_ | byte, taken⟩
      · rfl
      · rfl
      dsimp only
      cases SocketResponse.decode (buf ++ [byte]) with
      | none => rfl
      | some found => rfl
  | done result => rfl

def begun : EvaluateState → EvaluateState → List SocketRequest
  | .polling _ _ _, .requesting stage _ => [call.socketRequest stage]
  | _, _ => []

end EvaluateCall

/-- `clients` has each call under the session it opened, and `asked` the requests it has begun;
`outbox` is the response the server is sending. -/
structure CallTraffic (Sock : Type) where
  table : SessionTable
  clients : Nat → Option (EvaluateCall × EvaluateState)
  asked : Nat → List SocketRequest
  server : ServerHistory Sock
  outbox : Option (Nat × Bytes)

/-- `begin` is one attempt of `open_session`, `client` a step of the call with that session, and
the others are the server's. -/
inductive TrafficEvent (Sock : Type) where
  | begin (owner : Thread) (call : EvaluateCall)
  | client (id : Nat)
  | poll (change : Nat → Sock → Sock)
  | resolve (index : Fin maxSockets) (offset : UInt32)
  | accept
  | serve (index : Fin maxSockets) (offset : UInt32)
  | send

namespace CallTraffic

variable {Sock : Type} (stack : TcpStack Sock) (thread : Thread) (traffic : CallTraffic Sock)

def start : CallTraffic Sock where
  table := ⟨[], fun _ => [], 0⟩
  clients := fun _ => none
  asked := fun _ => []
  server := .ready
  outbox := none

def begin (owner : Thread) (call : EvaluateCall) : CallTraffic Sock :=
  match traffic.table.sessionOpen socketsServerPort owner with
  | (none, _) => traffic
  | (some id, table) =>
    { traffic with
      table := table
      clients := Function.update traffic.clients id (some (call, call.start .opening))
      asked := Function.update traffic.asked id [call.socketRequest .opening] }

def clientStep (id : Nat) : CallTraffic Sock :=
  match traffic.clients id, traffic.table.find id with
  | some (call, client), some session =>
    { traffic with
      clients := Function.update traffic.clients id (some (call, (call.move client session).1))
      asked := Function.update traffic.asked id
        (traffic.asked id ++ call.begun client (call.move client session).1)
      table := traffic.table.put id (call.move client session).2 }
  | _, _ => traffic

def serverStep (step : LoopStep Sock) (sent : Option (Nat × SocketResponse)) : CallTraffic Sock :=
  { traffic with
    server := traffic.server.step stack step
    outbox := sent.map fun (id, response) => (id, response.encode) }

/-- The kernel offers the oldest session that waits, if the server has an index to ask for. -/
def acceptStep : CallTraffic Sock :=
  if traffic.server.loop.freeIndex.isSome then
    { traffic with
      server := traffic.server.step stack
        (.accept (traffic.table.sessionAccept socketsServerPort thread).1)
      table := (traffic.table.sessionAccept socketsServerPort thread).2 }
  else traffic

/-- The byte the session at an index has waiting, and the session without it. -/
def waiting (index : Fin maxSockets) : Option (Nat × UInt8 × Session) :=
  if traffic.server.loop.Serves index then
    (traffic.server.loop.liveSessions index).bind fun id =>
      (traffic.table.find id).bind fun session =>
        match session.tryRecv .server with
        | some (some byte, taken) => some (id, byte, taken)
        | _ => none
  else none

def serveStep (index : Fin maxSockets) (offset : UInt32) : CallTraffic Sock :=
  match traffic.waiting index with
  | none =>
    traffic.serverStep stack (.serve index offset none)
      (traffic.server.loop.serve stack index offset none).1
  | some (id, byte, taken) =>
    { traffic with table := traffic.table.put id taken }.serverStep stack
      (.serve index offset (some byte))
      (traffic.server.loop.serve stack index offset (some byte)).1

def sendStep : CallTraffic Sock :=
  match traffic.outbox with
  | none => traffic
  | some (_, []) => { traffic with outbox := none }
  | some (id, byte :: rest) =>
    match traffic.table.find id with
    | none => { traffic with outbox := none }
    | some session =>
      match session.send byte .server with
      | some (_, sent) =>
        { traffic with table := traffic.table.put id sent, outbox := some (id, rest) }
      | none => traffic

/-- The server has one thread: while it sends, it takes no other step. -/
def whenIdle (next : CallTraffic Sock) : CallTraffic Sock :=
  if traffic.outbox.isNone then next else traffic

def step : TrafficEvent Sock → CallTraffic Sock
  | .begin owner call => traffic.begin owner call
  | .client id => traffic.clientStep id
  | .poll change => traffic.whenIdle (traffic.serverStep stack (.poll change) none)
  | .resolve index offset =>
    traffic.whenIdle (traffic.serverStep stack (.resolve index offset)
      (traffic.server.loop.resolveConnect stack index offset).1)
  | .accept => traffic.whenIdle (traffic.acceptStep stack thread)
  | .serve index offset => traffic.whenIdle (traffic.serveStep stack index offset)
  | .send => traffic.sendStep

/-- Every call has returned, the server has answered all that was sent, and waits for no
connect. -/
structure Quiescent : Prop where
  returned : ∀ id call client, traffic.clients id = some (call, client) →
    ∃ result, client = .done result
  taken : ∀ id session, traffic.table.find id = some session → session.ownerToServer = []
  answered : traffic.outbox = none
  settled : ∀ index, traffic.server.loop.pendingConnectSince index = none

/-- No index is bound to the session of a call, and no socket was opened for one. -/
def Released : Prop :=
  ∀ id, (traffic.clients id).isSome → ∀ index,
    traffic.server.loop.liveSessions index ≠ some id ∧
      ((traffic.server.loop.slots index).isSome → traffic.server.openers index ≠ some id)

/-- The step does not let a call run out of polls before its open is answered. -/
def OpenAnswered : TrafficEvent Sock → Prop
  | .client id => ∀ call buf, traffic.clients id ≠ some (call, .polling .opening 0 buf)
  | _ => True

end CallTraffic

/-! ## The requests of a call, and where its session is

What a step of `evaluate` does, and which requests it has begun.  Its session waits to be
accepted, is bound to an index of the sockets server, or was closed; and the requests, the bytes
of them that are under way and the stream the server has taken are one sequence. -/

open Lib.Reading List

/-! ## The requests of a call -/

/-- The chunks still to be sent fit a request. -/
def StageBounded : EvaluateStage → Prop
  | .sending _ chunk rest =>
    chunk.length ≤ maxPayloadLen ∧ ∀ other ∈ rest, other.length ≤ maxPayloadLen
  | _ => True

namespace EvaluateCall

variable (call : EvaluateCall)

theorem socket_request_bounded {stage : EvaluateStage} (bounded : StageBounded stage) :
    (call.socketRequest stage).Bounded := by
  cases stage with
  | sending handle chunk rest => exact bounded.1
  | opening => trivial
  | connecting handle => trivial
  | receiving handle polls buf => trivial
  | closing handle result => trivial

/-- After a response, or none, a call begins its next request, or it returns: after a close, or
when its open was not answered by a socket. -/
inductive Proceeds (stage : EvaluateStage) (response : Option SocketResponse) :
    EvaluateState → Prop
  | next (later : EvaluateStage) (stays : isClose (call.socketRequest stage) = false)
      (advanced : later ≠ .opening) (bounded : StageBounded stage → StageBounded later) :
      Proceeds stage response (call.start later)
  | closed (result : Option MarshalResponse) (closes : isClose (call.socketRequest stage) = true) :
      Proceeds stage response (.done result)
  | unopened (first : stage = .opening) (refused : ∀ handle, response ≠ some (.opened handle)) :
      Proceeds stage response (.done none)

variable {call} {stage : EvaluateStage} {response : Option SocketResponse}

section

variable (stays : isClose (call.socketRequest stage) = false) (handle : UInt8)

include stays

theorem Proceeds.closing (result : Option MarshalResponse) :
    Proceeds call stage response (call.start (.closing handle result)) :=
  .next _ stays (by simp) fun _ => trivial

theorem Proceeds.receive (buf : Bytes) (polls : Nat) :
    Proceeds call stage response (call.receive handle buf polls) := by
  cases polls with
  | zero => exact .closing stays handle none
  | succ polls => exact .next _ stays (by simp) fun _ => trivial

theorem Proceeds.send {rest : List Bytes}
    (small : StageBounded stage → ∀ chunk ∈ rest, chunk.length ≤ maxPayloadLen) :
    Proceeds call stage response (call.send handle rest) := by
  cases rest with
  | nil => exact .receive stays handle [] _
  | cons chunk rest =>
    refine .next _ stays (by simp) fun bounded => ⟨?_, fun other member => ?_⟩
    · exact small bounded chunk mem_cons_self
    · exact small bounded other (mem_cons_of_mem _ member)

end

theorem proceeds (call : EvaluateCall) (stage : EvaluateStage) (response : Option SocketResponse) :
    Proceeds call stage response (call.proceed stage response) := by
  unfold proceed
  split
  · exact .next _ rfl (by simp) fun _ => trivial
  · rename_i other
    exact .unopened rfl fun handle same => other handle same
  · split_ifs
    · exact .send rfl _ fun _ => chunks_up_to_bounded _ _ _
    · exact .closing rfl _ none
  · exact .closing rfl _ none
  · split_ifs
    · exact .send rfl _ fun bounded => bounded.2
    · exact .closing rfl _ none
  · exact .closing rfl _ none
  · split_ifs
    · split
      · exact .closing rfl _ _
      · exact .closing rfl _ _
      · exact .receive rfl _ _ _
    · exact .receive rfl _ _ _
  · exact .receive rfl _ _ _
  · exact .closed _ rfl

inductive Moves (call : EvaluateCall) :
    EvaluateState → Session → EvaluateState → Session → Prop
  | stays (client : EvaluateState) (session : Session) : Moves call client session client session
  | sent (stage : EvaluateStage) (session : Session) :
      Moves call (.requesting stage []) session (.polling stage (call.polls stage) []) session
  | sends (stage : EvaluateStage) (byte : UInt8) (left : Bytes) (session : Session) :
      Moves call (.requesting stage (byte :: left)) session (.requesting stage left)
        (session.setQueue (session.queue .owner ++ [byte]) .owner)
  | expires (stage : EvaluateStage) (buf : Bytes) (session : Session) :
      Moves call (.polling stage 0 buf) session (call.proceed stage none) session
  | waits (stage : EvaluateStage) (polls : Nat) (buf : Bytes) (session : Session) :
      Moves call (.polling stage (polls + 1) buf) session (.polling stage polls buf) session
  | reads (stage : EvaluateStage) (polls : Nat) (buf : Bytes) {session : Session} {byte : UInt8}
      {rest : Bytes} (lane : session.queue .server = byte :: rest) :
      Moves call (.polling stage (polls + 1) buf) session (.polling stage polls (buf ++ [byte]))
        (session.setQueue rest .server)
  | hears (stage : EvaluateStage) (polls : Nat) (buf : Bytes) {session : Session} {byte : UInt8}
      {rest : Bytes} {response : SocketResponse} {size : Nat}
      (lane : session.queue .server = byte :: rest)
      (whole : SocketResponse.decode (buf ++ [byte]) = some (response, size)) :
      Moves call (.polling stage (polls + 1) buf) session (call.proceed stage (some response))
        (session.setQueue rest .server)

theorem moves (call : EvaluateCall) (client : EvaluateState) (session : Session) :
    Moves call client session (call.move client session).1 (call.move client session).2 := by
  cases client with
  | requesting stage left =>
    cases left with
    | nil => exact .sent stage session
    | cons byte left =>
      dsimp only [move]
      cases sent : session.send byte .owner with
      | none => exact .stays _ _
      | some result =>
        obtain ⟨went, after⟩ := result
        rw [Session.send_eq_some sent]
        exact .sends stage byte left session
  | polling stage polls buf =>
    cases polls with
    | zero => exact .expires stage buf session
    | succ polls =>
      dsimp only [move, Session.tryRecv, Role.other]
      cases lane : session.queue .server with
      | nil => exact .waits stage polls buf session
      | cons byte rest =>
        dsimp only
        cases found : SocketResponse.decode (buf ++ [byte]) with
        | none => exact .reads stage polls buf lane
        | some result => exact .hears stage polls buf lane found
  | done result => exact .stays _ _

/-- The requests begun so far: the one under way is the last, and only the last closes. -/
def Asking (call : EvaluateCall) (asked : List SocketRequest) (client : EvaluateState) : Prop :=
  match client.stage with
  | some stage => ∃ front, asked = front ++ [call.socketRequest stage] ∧
      (∀ request ∈ front, isClose request = false) ∧ (stage = .opening ↔ front = []) ∧
      StageBounded stage
  | none => asked = [.openSocket] ∨ ∃ request ∈ asked, isClose request

end EvaluateCall

/-! ## Where a session is -/

variable {asked : List SocketRequest}

theorem requests_of_words (bounded : ∀ request ∈ asked, request.Bounded) :
    requestsOf (asked.flatMap SocketRequest.encode) = (asked, []) := by
  apply receive_words SocketRequest.reads
  · intro request
    cases request <;> simp [SocketRequest.encode]
  · exact bounded

theorem requests_of_front (bounded : ∀ request ∈ asked, request.Bounded) {stream later : Bytes}
    (words : stream ++ later = asked.flatMap SocketRequest.encode) :
    (requestsOf stream).1 <+: asked := by
  have whole := requests_of_words bounded
  rw [← words, requestsOf, receive_append] at whole
  exact ⟨_, (Prod.mk.inj whole).1⟩

/-- What a call in its open has been sent: nothing before the server takes the request, and
from then on the handle. -/
def OpenReply (index : Fin maxSockets) (place : Place) (reply : Bytes) : Prop :=
  place.connecting = none ∧
    ((requestsOf place.stream).1 = [] ∧ place.slot = none ∧ reply = [] ∨
      (requestsOf place.stream).1 = [.openSocket] ∧
        reply = (SocketResponse.opened (ownHandle index)).encode)

/-- A session is queued, bound to an index, or closed.  `untaken` are the bytes of the requests
that the server has not taken, and `reply` those of responses that the call has not decoded. -/
inductive Seat (pending : List Nat) (places : Fin maxSockets → Place) (id : Nat)
    (asked : List SocketRequest) (opening : Prop) (untaken reply : Bytes) : Prop
  | queued (waits : id ∈ pending) (words : untaken = asked.flatMap SocketRequest.encode)
      (silent : reply = [])
  | bound (index : Fin maxSockets) (live : (places index).live = some id)
      (words : (places index).stream ++ untaken = asked.flatMap SocketRequest.encode)
      (answer : opening → OpenReply index (places index) reply)
  | closed (unqueued : id ∉ pending) (unbound : ∀ index, (places index).live ≠ some id)
      (last : ∃ request ∈ asked, isClose request)

namespace Seat

variable {pending later : List Nat} {places after : Fin maxSockets → Place} {id : Nat}
  {asked : List SocketRequest} {opening : Prop} {untaken reply : Bytes}

variable (seat : Seat pending places id asked opening untaken reply)

include seat

theorem kept (queue : id ∈ pending ↔ id ∈ later)
    (same : ∀ index, (places index).live = some id → after index = places index)
    (free : ∀ index, (after index).live = some id → (places index).live = some id) :
    Seat later after id asked opening untaken reply := by
  cases seat with
  | queued waits words silent => exact .queued (queue.mp waits) words silent
  | bound index live words answer =>
    have equal := same index live
    exact .bound index (by rw [equal, live]) (by rw [equal, words]) fun first => by
      rw [equal]
      exact answer first
  | closed unqueued unbound last =>
    exact .closed (fun waits => unqueued (queue.mpr waits))
      (fun index live => unbound index (free index live)) last

theorem begins (request : SocketRequest) (reply' : Bytes) {opening' : Prop} (opened : ¬ opening')
    (silent : reply = [] → reply' = []) :
    Seat pending places id (asked ++ [request]) opening' (untaken ++ request.encode) reply' := by
  cases seat with
  | queued waits words quiet =>
    refine .queued waits ?_ (silent quiet)
    simp [words]
  | bound index live words answer =>
    refine .bound index live ?_ fun first => absurd first opened
    rw [← append_assoc, words]
    simp
  | closed unqueued unbound last =>
    obtain ⟨close, member, closes⟩ := last
    exact .closed unqueued unbound ⟨close, mem_append_left _ member, closes⟩

theorem rests {reply' : Bytes} {opening' : Prop} (silent : reply = [] → reply' = [])
    (answers : opening' → opening ∧ reply' = reply) :
    Seat pending places id asked opening' untaken reply' := by
  cases seat with
  | queued waits words quiet => exact .queued waits words (silent quiet)
  | bound index live words answer =>
    refine .bound index live words fun first => ?_
    obtain ⟨before, same⟩ := answers first
    rw [same]
    exact answer before
  | closed unqueued unbound last => exact .closed unqueued unbound last

end Seat

/-! ## A step of a call -/

section Calls

variable {pending : List Nat} {places : Fin maxSockets → Place} {id : Nat}
  {asked : List SocketRequest} {call : EvaluateCall} {client next : EvaluateState}
  {session after : Session} {out : Bytes}

structure Seated (pending : List Nat) (places : Fin maxSockets → Place) (id : Nat)
    (asked : List SocketRequest) (call : EvaluateCall) (client : EvaluateState)
    (toServer toOwner : Bytes) : Prop where
  asking : call.Asking asked client
  bounded : ∀ request ∈ asked, request.Bounded
  seat : Seat pending places id asked (client.stage = some .opening) (toServer ++ client.left)
    (client.buf ++ toOwner)

/-- The end of a poll: the response under `buf` was decoded, or given up. -/
theorem Seated.proceeds {stage : EvaluateStage} {polls : Nat} {buf toServer toOwner : Bytes}
    (seated : Seated pending places id asked call (.polling stage polls buf) toServer toOwner)
    (response : Option SocketResponse) {heard : Bytes} (silent : buf ++ toOwner = [] → heard = []) :
    Seated pending places id
      (asked ++ call.begun (.polling stage polls buf) (call.proceed stage response)) call
      (call.proceed stage response) toServer heard := by
  obtain ⟨⟨front, split, stays, first, fits⟩, bounded, seat⟩ := seated
  have proceeds := EvaluateCall.proceeds call stage response
  generalize call.proceed stage response = next at proceeds
  cases proceeds with
  | next later open_ advanced fitsLater =>
    have begun : call.begun (.polling stage polls buf) (call.start later) =
        [call.socketRequest later] := rfl
    refine ⟨⟨asked, rfl, ?_, ?_, fitsLater fits⟩, ?_, ?_⟩
    · intro request member
      rw [split] at member
      rcases mem_append.mp member with earlier | last
      · exact stays request earlier
      · rw [mem_singleton.mp last]
        exact open_
    · exact iff_of_false advanced (by simp [split])
    · intro request member
      rcases mem_append.mp member with earlier | last
      · exact bounded request earlier
      · rw [mem_singleton.mp last]
        exact call.socket_request_bounded (fitsLater fits)
    · have shape : Seat pending places id (asked ++ [call.socketRequest later])
          ((call.start later).stage = some .opening)
          (toServer ++ [] ++ (call.socketRequest later).encode) heard :=
        seat.begins _ _ (by simpa [EvaluateCall.start, EvaluateState.stage] using advanced) silent
      rw [append_nil] at shape
      exact shape
  | closed result closes =>
    have ended : call.begun (.polling stage polls buf) (.done result) = [] := rfl
    rw [ended, append_nil]
    refine ⟨.inr ⟨_, ?_, closes⟩, bounded, ?_⟩
    · rw [split]
      exact mem_append_right _ mem_cons_self
    · exact seat.rests silent (by simp [EvaluateState.stage])
  | unopened opening refused =>
    have ended : call.begun (.polling stage polls buf) (.done none) = [] := rfl
    rw [ended, append_nil]
    refine ⟨.inl ?_, bounded, ?_⟩
    · rw [split, first.mp opening, opening]
      rfl
    · exact seat.rests silent (by simp [EvaluateState.stage])

theorem Seated.moves
    (seated : Seated pending places id asked call client (session.queue .owner)
      (session.queue .server ++ out))
    (moves : call.Moves client session next after) :
    Seated pending places id (asked ++ call.begun client next) call next (after.queue .owner)
      (after.queue .server ++ out) := by
  cases moves with
  | stays =>
    have same : call.begun client client = [] := by
      cases client <;> rfl
    rw [same, append_nil]
    exact seated
  | sent stage =>
    have same : call.begun (.requesting stage []) (.polling stage (call.polls stage) []) = [] := rfl
    rw [same, append_nil]
    exact ⟨seated.asking, seated.bounded, seated.seat⟩
  | sends stage byte left =>
    have same : call.begun (.requesting stage (byte :: left)) (.requesting stage left) = [] := rfl
    rw [same, append_nil]
    refine ⟨seated.asking, seated.bounded, ?_⟩
    simpa [EvaluateState.left, EvaluateState.buf, EvaluateState.stage] using seated.seat
  | expires stage buf => exact seated.proceeds none fun silent => (append_eq_nil_iff.mp silent).2
  | waits stage polls buf =>
    have same : call.begun (.polling stage (polls + 1) buf) (.polling stage polls buf) = [] := rfl
    rw [same, append_nil]
    exact ⟨seated.asking, seated.bounded, seated.seat⟩
  | reads stage polls buf lane =>
    rename_i byte rest
    have same : call.begun (.polling stage (polls + 1) buf) (.polling stage polls (buf ++ [byte])) =
        [] := rfl
    rw [same, append_nil]
    refine ⟨seated.asking, seated.bounded, ?_⟩
    have seat := seated.seat
    rw [lane] at seat
    simpa [EvaluateState.left, EvaluateState.buf, EvaluateState.stage] using seat
  | hears stage polls buf lane whole =>
    rename_i byte rest response size
    rw [lane] at seated
    have silent : buf ++ (byte :: rest ++ out) = [] → rest ++ out = [] := by simp
    simpa using seated.proceeds (some response) silent

end Calls

end Runix.Kernel
