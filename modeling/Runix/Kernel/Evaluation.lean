import Runix.Ipc.WireFormats
import Runix.Kernel.MarshalClient
import Runix.Kernel.SessionChannels
import Runix.Lib.Runs

/-!
# An evaluation, byte by byte

`kernel/src/marshal_client.rs` and the loop of `run_socket_ipc_server` in
`net-driver-host/src/main.rs`, as two parties of one session that take their steps in any
order.  The client sends each request a byte at a time and polls for the response under a
bounded number of polls, into a buffer that is dropped when the polls run out.  The server
takes a byte of a request in each round of its loop and answers a whole request with a whole
response, which it sends a byte at a time.

The session is open and stays so, and each of its lanes has one speaker, so the send locks
are free whenever they are taken; the lock calls are left out.  The server's other sessions
work on other slots, and only delay this one.
-/

namespace Runix.Kernel

open Ipc NetDriver Lib.ByteStrings Lib.Runs

/-- The arguments of `evaluate`. -/
structure EvaluateCall where
  endpoint : Endpoint
  request : MarshalRequest
  maxIters : Nat
deriving DecidableEq, Repr

/-- The request the client is at, with what it keeps for afterwards: the chunks not yet sent,
or the polls left and the bytes received. -/
inductive EvaluateStage where
  | opening
  | connecting (handle : UInt8)
  | sending (handle : UInt8) (chunk : Bytes) (rest : List Bytes)
  | receiving (handle : UInt8) (polls : Nat) (buf : Bytes)
  | closing (handle : UInt8) (result : Option MarshalResponse)
deriving DecidableEq, Repr

/-- Inside `send_socket_request`, with the bytes left to send; inside `recv_socket_response`,
with the polls left and its buffer; or returned. -/
inductive EvaluateState where
  | requesting (stage : EvaluateStage) (left : Bytes)
  | polling (stage : EvaluateStage) (polls : Nat) (buf : Bytes)
  | done (result : Option MarshalResponse)
deriving DecidableEq, Repr

/-- The polls `recv_marshal_response` gives each of its responses. -/
def recvPolls : Nat := 2000

namespace EvaluateCall

variable (call : EvaluateCall)

def socketRequest : EvaluateStage → SocketRequest
  | .opening => .openSocket
  | .connecting handle =>
    .connect handle call.endpoint.remoteIp call.endpoint.remotePort call.endpoint.localPort
  | .sending handle chunk _ => .send handle chunk
  | .receiving handle _ _ => .recv handle (UInt16.ofNat maxPayloadLen)
  | .closing handle _ => .close handle

def polls : EvaluateStage → Nat
  | .receiving _ _ _ => recvPolls
  | _ => call.maxIters

def start (stage : EvaluateStage) : EvaluateState :=
  .requesting stage (call.socketRequest stage).encode

/-- The head of the loop of `recv_marshal_response`. -/
def receive (handle : UInt8) (buf : Bytes) : Nat → EvaluateState
  | 0 => call.start (.closing handle none)
  | polls + 1 => call.start (.receiving handle polls buf)

/-- The head of the loop of `send_bytes`. -/
def send (handle : UInt8) : List Bytes → EvaluateState
  | [] => call.receive handle [] call.maxIters
  | chunk :: rest => call.start (.sending handle chunk rest)

/-- What the client does with a response, or without one when its polls ran out. -/
def proceed : EvaluateStage → Option SocketResponse → EvaluateState
  | .opening, some (.opened handle) => call.start (.connecting handle)
  | .opening, _ => .done none
  | .connecting handle, some (.connected answered) =>
    if answered = handle then call.send handle (chunks maxPayloadLen call.request.encode)
    else call.start (.closing handle none)
  | .connecting handle, _ => call.start (.closing handle none)
  | .sending handle chunk rest, some (.sent answered len) =>
    if answered = handle ∧ len.toNat = chunk.length then call.send handle rest
    else call.start (.closing handle none)
  | .sending handle _ _, _ => call.start (.closing handle none)
  | .receiving handle polls buf, some (.data answered data) =>
    if answered = handle then
      match MarshalResponse.decodeStatus (buf ++ data) with
      | .complete response _ => call.start (.closing handle (some response))
      | .malformed =>
        call.start (.closing handle (some (.error (.badResponse "malformed ipc reply"))))
      | .incomplete => call.receive handle (buf ++ data) polls
    else call.receive handle buf polls
  | .receiving handle polls buf, _ => call.receive handle buf polls
  | .closing _ result, _ => .done result

end EvaluateCall

/-- Where the server's loop is with this session: it reads requests, waits for a handshake, or
is in the middle of a response, which ends the session when it answers a close. -/
inductive ServerPhase where
  | reading
  | connecting
  | responding (rest : Bytes) (closes : Bool)
deriving DecidableEq, Repr

/-- `arrived` is what has reached the socket over its connection: a front of what the peer sent
on it. -/
structure Evaluation where
  client : EvaluateState
  session : Session
  requestBuf : Bytes
  phase : ServerPhase
  server : SocketServer
  arrived : Bytes

/-- Who takes a step: the client, or the server at its accept, at a byte of a request, at the
end of a handshake or at a byte of a response. -/
inductive EvaluationEvent where
  | client
  | accept
  | read
  | settle
  | respond
deriving DecidableEq, Repr

namespace Evaluation

variable (network : Network) (call : EvaluateCall) (id : Nat) (index : Fin maxSockets)

variable (state : Evaluation)

def clientStep : Evaluation :=
  match state.client with
  | .requesting stage [] => { state with client := .polling stage (call.polls stage) [] }
  | .requesting stage (byte :: left) =>
    match state.session.send byte .owner with
    | some (_, session) =>
      { state with client := .requesting stage left, session := session }
    | none => state
  | .polling stage 0 _ => { state with client := call.proceed stage none }
  | .polling stage (polls + 1) buf =>
    match state.session.tryRecv .owner with
    | some (some byte, session) =>
      match SocketResponse.decode (buf ++ [byte]) with
      | some (response, _) =>
        { state with client := call.proceed stage (some response), session := session }
      | none =>
        { state with
          client := .polling stage polls (buf ++ [byte])
          session := session }
    | _ => { state with client := .polling stage polls buf }
  | .done _ => state

def accept : Evaluation :=
  { state with
    server :=
      if (state.server.liveSessions index).isNone then
        { state.server with
          liveSessions := Function.update state.server.liveSessions index (some id) }
      else state.server }

/-- What reaches an established socket between two receives. -/
def heard (slot : Option Socket) : Bytes :=
  slot.elim [] fun socket =>
    if socket.state = .established then network.arrivals socket.written socket.receives else []

def answer (request : SocketRequest) : Evaluation :=
  let (outcome, slots) := handleSocketRequest network state.server.slots index
    (pinToOwnSession request index)
  let closes := match request with
    | .close _ => true
    | _ => false
  { state with
    server := { state.server with slots := slots }
    phase := match outcome with
      | .immediate response => .responding response.encode closes
      | .connectPending => .connecting
    arrived := match request with
      | .recv _ _ => state.arrived ++ heard network (state.server.slots index)
      | _ => state.arrived }

def take : Evaluation :=
  match state.session.tryRecv .server with
  | some (some byte, session) =>
    { state with session := session, requestBuf := state.requestBuf ++ [byte] }
  | _ => state

def serve : Evaluation :=
  match SocketRequest.decode state.requestBuf with
  | none => state
  | some (request, consumed) =>
    answer network index { state with requestBuf := state.requestBuf.drop consumed } request

def readStep : Evaluation :=
  if (state.server.liveSessions index).isNone then state
  else
    match state.phase with
    | .reading => serve network index (take state)
    | _ => state

def settle : Evaluation :=
  match state.phase with
  | .connecting =>
    let (response, server) := state.server.resolveConnect network index
    { state with server := server, phase := .responding response.encode false }
  | _ => state

def respond : Evaluation :=
  match state.phase with
  | .responding [] closes =>
    { state with
      phase := .reading
      server :=
        if closes then
          { state.server with
            liveSessions := Function.update state.server.liveSessions index none }
        else state.server }
  | .responding (byte :: rest) closes =>
    match state.session.send byte .server with
    | some (_, session) =>
      { state with session := session, phase := .responding rest closes }
    | none => state
  | _ => state

def step : EvaluationEvent → Evaluation
  | .client => clientStep call state
  | .accept => accept id index state
  | .read => readStep network index state
  | .settle => settle network index state
  | .respond => respond index state

def opened (owner : Thread) (server : SocketServer) : Evaluation where
  client := call.start .opening
  session :=
    { ownerToServer := [], serverToOwner := [], ownerSendLocked := false,
      serverSendLocked := false, owner := owner, server := some server.thread,
      serverPort := socketsServerPort }
  requestBuf := []
  phase := .reading
  server := server
  arrived := []

end Evaluation

/-! ## The bytes of an evaluation

The bytes under way in each direction are a row of whole messages: what the server has
buffered of a request, what waits in the lane and what the client has left to send; and what
the client has buffered of a response, what waits in the lane and what the server has left to
send.  Up to the first receive there is one message at a time.  While the client receives,
its requests may run ahead of the responses, but every response carries the next bytes of the
connection.

The row of responses breaks in one place: when the polls for a response run out and the
client drops what it has buffered of it. -/

open Lib.Reading Function List

namespace EvaluateState

def left : EvaluateState → Bytes
  | .requesting _ left => left
  | _ => []

def buf : EvaluateState → Bytes
  | .polling _ _ buf => buf
  | _ => []

def stage : EvaluateState → Option EvaluateStage
  | .requesting stage _ => some stage
  | .polling stage _ _ => some stage
  | .done _ => none

def Settled (result : Option MarshalResponse) : EvaluateState → Prop
  | .requesting (.closing _ kept) _ => kept = result
  | .polling (.closing _ kept) _ _ => kept = result
  | .done kept => kept = result
  | _ => False

/-- The polls for a response of the receive loop are over inside the response. -/
def cut : EvaluateState → Bool
  | .polling (.receiving _ _ _) 0 (_ :: _) => true
  | _ => false

end EvaluateState

def ServerPhase.rest : ServerPhase → Bytes
  | .responding rest _ => rest
  | _ => []

def Evaluation.asked (state : Evaluation) : Bytes :=
  state.requestBuf ++ (state.session.queue .owner ++ state.client.left)

def Evaluation.told (state : Evaluation) : Bytes :=
  state.client.buf ++ (state.session.queue .server ++ state.phase.rest)

structure Linked (asked told : Bytes) (requests : List SocketRequest)
    (responses : List SocketResponse) : Prop where
  asked : asked = requests.flatMap SocketRequest.encode
  told : told = responses.flatMap SocketResponse.encode
  requests_bounded : ∀ request ∈ requests, request.Bounded
  responses_bounded : ∀ response ∈ responses, response.Bounded

variable {request : SocketRequest} {response : SocketResponse}

section Linked

variable {asked told : Bytes} {requests : List SocketRequest} {responses : List SocketResponse}

theorem Linked.ask (linked : Linked asked told requests responses) (bounded : request.Bounded) :
    Linked (asked ++ request.encode) told (requests ++ [request]) responses where
  asked := by simp [linked.asked]
  told := linked.told
  requests_bounded := by
    intro other member
    rcases mem_append.mp member with older | newest
    · exact linked.requests_bounded other older
    · rw [mem_singleton.mp newest]
      exact bounded
  responses_bounded := linked.responses_bounded

theorem Linked.tell (linked : Linked asked told requests responses) (bounded : response.Bounded) :
    Linked asked (told ++ response.encode) requests (responses ++ [response]) where
  asked := linked.asked
  told := by simp [linked.told]
  requests_bounded := linked.requests_bounded
  responses_bounded := by
    intro other member
    rcases mem_append.mp member with older | newest
    · exact linked.responses_bounded other older
    · rw [mem_singleton.mp newest]
      exact bounded

theorem Linked.served {buf later : Bytes} (linked : Linked (buf ++ later) told requests responses)
    {consumed : Nat} (found : SocketRequest.decode buf = some (request, consumed)) :
    ∃ rest, requests = request :: rest ∧
      Linked (buf.drop consumed ++ later) told rest responses := by
  obtain ⟨rest, rfl, remain⟩ :=
    SocketRequest.reads.first_word rfl linked.requests_bounded linked.asked found
  refine ⟨rest, rfl, remain, linked.told, ?_, linked.responses_bounded⟩
  intro other member
  exact linked.requests_bounded other (mem_cons_of_mem _ member)

theorem Linked.answered {buf later : Bytes} {byte : UInt8}
    (linked : Linked asked (buf ++ byte :: later) requests responses)
    (unread : SocketResponse.decode buf = none) {consumed : Nat}
    (found : SocketResponse.decode (buf ++ [byte]) = some (response, consumed)) :
    ∃ rest, responses = response :: rest ∧ Linked asked later requests rest := by
  have stream : (buf ++ [byte]) ++ later = responses.flatMap SocketResponse.encode := by
    rw [append_assoc]
    exact linked.told
  obtain ⟨rest, rfl, remain⟩ :=
    SocketResponse.reads.first_word rfl linked.responses_bounded stream found
  rw [SocketResponse.reads.whole_at_last unread found, drop_length, nil_append] at remain
  refine ⟨rest, rfl, linked.asked, remain, linked.requests_bounded, ?_⟩
  intro other member
  exact linked.responses_bounded other (mem_cons_of_mem _ member)

end Linked

/-! ## What each stage relies on -/

def payload : SocketResponse → Bytes
  | .data _ data => data
  | _ => []

def inboxOf (slot : Option Socket) : Bytes := slot.elim [] Socket.inbox

section Stages

variable (index : Fin maxSockets)

/-- Responses that open the socket name the index. -/
def Names : SocketResponse → Prop
  | .opened handle => handle = ownHandle index
  | _ => True

/-- One message is under way, and no request of the session receives. -/
structure InStep (arrived inbox : Bytes) (phase : ServerPhase) (requests : List SocketRequest)
    (responses : List SocketResponse) : Prop where
  unheard : arrived = []
  empty : inbox = []
  turn : (phase ≠ .connecting ∧ responses = [] ∧
      ∃ request, requests = [request] ∧ ∀ handle maxLen, request ≠ .recv handle maxLen) ∨
    (phase = .connecting ∧ requests = [] ∧ responses = []) ∨
    (phase ≠ .connecting ∧ requests = [] ∧ ∃ response, responses = [response] ∧
      Names index response)

/-- Every request receives, and the responses carry the bytes of the connection in order. -/
structure Receiving (arrived inbox : Bytes) (phase : ServerPhase) (buf : Bytes)
    (requests : List SocketRequest) (responses : List SocketResponse) : Prop where
  polls : ∀ request ∈ requests, ∃ handle maxLen, request = .recv handle maxLen
  replies : ∀ response ∈ responses, (∃ data, response = .data (ownHandle index) data) ∨
    ∃ handle cause, response = .error handle cause
  idle : phase ≠ .connecting
  accounted : buf ++ (responses.flatMap payload ++ inbox) = arrived

def Follows (arrived inbox : Bytes) (phase : ServerPhase) (requests : List SocketRequest)
    (responses : List SocketResponse) : EvaluateStage → Prop
  | .opening => InStep index arrived inbox phase requests responses
  | .connecting handle =>
    handle = ownHandle index ∧ InStep index arrived inbox phase requests responses
  | .sending handle _ rest =>
    handle = ownHandle index ∧ (∀ chunk ∈ rest, chunk.length ≤ maxPayloadLen) ∧
      InStep index arrived inbox phase requests responses
  | .receiving handle _ buf =>
    handle = ownHandle index ∧ Receiving index arrived inbox phase buf requests responses
  | .closing _ _ => False

/-- A result the client keeps begins what has arrived, unless it stands for bytes that begin
no response. -/
def Begins (arrived : Bytes) (result : Option MarshalResponse) : Prop :=
  ∀ response, result = some response →
    response.encode <+: arrived ∨ response = .error (.badResponse "malformed ipc reply")

inductive Sound (state : Evaluation) : Prop
  | working {stage : EvaluateStage} {requests : List SocketRequest}
      {responses : List SocketResponse} (here : state.client.stage = some stage)
      (unread : SocketResponse.decode state.client.buf = none)
      (linked : Linked state.asked state.told requests responses)
      (follows : Follows index state.arrived (inboxOf (state.server.slots index)) state.phase
        requests responses stage)
  | settled {result : Option MarshalResponse} (kept : state.client.Settled result)
      (begins : Begins state.arrived result)

end Stages

theorem begins_none (arrived : Bytes) : Begins arrived none := by
  intro response kept
  cases kept

theorem Begins.later {arrived later : Bytes} {result : Option MarshalResponse}
    (begins : Begins arrived result) (front : arrived <+: later) : Begins later result := by
  intro response kept
  rcases begins response kept with first | bad
  · exact .inl (first.trans front)
  · exact .inr bad

/-! ## Handling a request -/

section Handling

variable {network : Network} {index : Fin maxSockets} {slots : Slots}

/-- What a request that does not receive leaves: an answer within the bounds, unless it waits
for a handshake, and no bytes in a socket that had none. -/
structure Handled (index : Fin maxSockets) (slots : Slots) (handled : RequestOutcome × Slots) :
    Prop where
  response : ∀ response, handled.1 = .immediate response →
    response.Bounded ∧ Names index response
  inbox : inboxOf (slots index) = [] → inboxOf (handled.2 index) = []

theorem Handled.refused (bounded : response.Bounded) (names : Names index response) :
    Handled index slots (.immediate response, slots) where
  response := by
    rintro _ ⟨⟩
    exact ⟨bounded, names⟩
  inbox := fun empty => empty

variable {slot : Option Socket}

theorem Handled.updated {outcome : RequestOutcome}
    (response : ∀ response, outcome = .immediate response → response.Bounded ∧ Names index response)
    (inbox : inboxOf (slots index) = [] → inboxOf slot = []) :
    Handled index slots (outcome, update slots index slot) where
  response := response
  inbox := by
    intro empty
    dsimp only
    rw [update_self]
    exact inbox empty

theorem Handled.pending (inbox : inboxOf (slots index) = [] → inboxOf slot = []) :
    Handled index slots (.connectPending, update slots index slot) := by
  apply Handled.updated _ inbox
  rintro _ ⟨⟩

theorem Handled.immediate (bounded : response.Bounded)
    (names : Names index response) (inbox : inboxOf (slots index) = [] → inboxOf slot = []) :
    Handled index slots (.immediate response, update slots index slot) := by
  apply Handled.updated _ inbox
  rintro _ ⟨⟩
  exact ⟨bounded, names⟩

theorem send_slice_inbox {socket next : Socket} {data : Bytes} {len : Nat}
    (sent : socket.sendSlice network data = some (len, next)) : next.inbox = socket.inbox := by
  unfold Socket.sendSlice at sent
  split_ifs at sent
  cases sent
  rfl

theorem handled_request (network : Network) (slots : Slots) (index : Fin maxSockets)
    (sends : ∀ handle maxLen, request ≠ .recv handle maxLen) :
    Handled index slots
      (handleSocketRequest network slots index (pinToOwnSession request index)) := by
  cases request with
  | openSocket =>
    rw [pinToOwnSession, handleSocketRequest]
    split_ifs
    · exact .refused trivial trivial
    · exact .immediate trivial rfl fun _ => rfl
  | connect handle remoteIp remotePort localPort =>
    rw [pinToOwnSession, handleSocketRequest, SocketServer.get_own_handle]
    cases held : slots index with
    | none => exact .refused trivial trivial
    | some socket =>
      dsimp only [Option.map_some]
      split_ifs
      · exact .refused trivial trivial
      · exact .refused trivial trivial
      · refine .pending ?_
        rw [held]
        exact fun empty => empty
  | send handle data =>
    rw [pinToOwnSession, handleSocketRequest, SocketServer.get_own_handle]
    cases held : slots index with
    | none => exact .refused trivial trivial
    | some socket =>
      dsimp only [Option.map_some]
      split_ifs
      · exact .refused trivial trivial
      cases sent : socket.sendSlice network data with
      | none => exact .refused trivial trivial
      | some result =>
        refine .immediate trivial trivial ?_
        rw [held]
        exact (send_slice_inbox sent).trans
  | recv handle maxLen => exact absurd rfl (sends handle maxLen)
  | close handle =>
    rw [pinToOwnSession, handleSocketRequest, SocketServer.get_own_handle]
    cases held : slots index with
    | none => exact .refused trivial trivial
    | some socket => exact .immediate trivial trivial fun _ => rfl

theorem polled_inbox (network : Network) (socket : Socket) :
    (socket.poll network).inbox = socket.inbox ++ Evaluation.heard network (some socket) := by
  unfold Socket.poll
  by_cases up : socket.state = .established
  · simp [up, Evaluation.heard]
  · simp [up, Evaluation.heard]

theorem handled_recv (network : Network) (slots : Slots) (index : Fin maxSockets)
    (handle : UInt8) (maxLen : UInt16) :
    ∃ response, (handleSocketRequest network slots index
        (pinToOwnSession (.recv handle maxLen) index)).1 = .immediate response ∧
      response.Bounded ∧
      ((∃ data, response = .data (ownHandle index) data) ∨
        ∃ handle cause, response = .error handle cause) ∧
      payload response ++ inboxOf ((handleSocketRequest network slots index
          (pinToOwnSession (.recv handle maxLen) index)).2 index) =
        inboxOf (slots index) ++ Evaluation.heard network (slots index) := by
  rw [pinToOwnSession, handleSocketRequest, SocketServer.get_own_handle]
  cases held : slots index with
  | none =>
    exact ⟨_, rfl, trivial, .inr ⟨_, _, rfl⟩, by
      simp [payload, inboxOf, held, Evaluation.heard]⟩
  | some socket =>
    dsimp only [Option.map_some]
    by_cases shut : (!socket.isOpen) = true
    · have down : socket.state ≠ .established := by
        intro up
        simp [Socket.isOpen, up] at shut
      rw [if_pos shut]
      exact ⟨_, rfl, trivial, .inr ⟨_, _, rfl⟩, by
        simp [payload, inboxOf, held, Evaluation.heard, down]⟩
    · rw [if_neg shut]
      refine ⟨_, rfl, ?_, .inl ⟨_, rfl⟩, ?_⟩
      · show ((socket.poll network).inbox.take _).length ≤ maxPayloadLen
        rw [length_take]
        exact Nat.le_trans (Nat.min_le_left _ _) (Nat.min_le_right _ _)
      · show (socket.poll network).inbox.take _ ++
          inboxOf (update slots index _ index) = _
        rw [update_self]
        exact (take_append_drop _ _).trans (polled_inbox network socket)

end Handling

end Runix.Kernel
