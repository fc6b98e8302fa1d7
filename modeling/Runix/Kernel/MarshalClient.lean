import Runix.Ipc.Marshal
import Runix.NetDriver.SocketServer

/-!
# The MARSHAL client

`kernel/src/marshal_client.rs`: one evaluation opens a session to the sockets server,
opens and connects a socket over it, sends the request, polls for the response and
closes the socket.  It never closes the session.

An exchange, a socket request and its response, is one step here: the server is taken to
answer within the client's polls.
-/

namespace Runix.Kernel

open Ipc NetDriver Lib.ByteStrings List SocketServer MarshalResponse SessionTable

/-- The kernel's session table and the sockets server. -/
structure World where
  table : SessionTable
  server : SocketServer

structure Caller where
  thread : Thread
  authorized : Bool

structure Endpoint where
  remoteIp : Ipv4
  remotePort : UInt16
  localPort : UInt16
deriving DecidableEq, Repr

namespace World

def accept (world : World) : World :=
  let (server, table) := world.server.accept world.table
  ⟨table, server⟩

def acceptPending (world : World) : World := accept^[maxSockets] world

/-- A request on a session and the response read back: nothing for a thread that does not
take part, or while the session is not accepted. -/
def exchange (network : Network) (caller : Caller) (id : Nat) (world : World)
    (request : SocketRequest) : Option SocketResponse × World :=
  if (world.table.roleOf id caller.thread).isNone then (none, world)
  else
    let served := world.acceptPending
    match served.server.indexOf id with
    | none => (none, served)
    | some index =>
      match SocketRequest.decode request.encode with
      | none => (none, served)
      | some (received, _) =>
        let (response, server) := served.server.answer network index received
        ((SocketResponse.decode response.encode).map Prod.fst, ⟨served.table, server⟩)

end World

/-- `SYS_IPC_SESSION_OPEN` on the server's port. -/
def sessionOpenCall (caller : Caller) (world : World) : Option Nat × World :=
  if !caller.authorized then (none, world)
  else
    let (id, table) := world.table.sessionOpen socketsServerPort caller.thread
    (id, { world with table := table })

def openSession (caller : Caller) : Nat → World → Option Nat × World
  | 0, world => (none, world)
  | attempts + 1, world =>
    match sessionOpenCall caller world with
    | (some id, next) => (some id, next)
    | (none, next) => openSession caller attempts next

section Session

variable (network : Network) (caller : Caller) (id : Nat)

def openSocket (world : World) : Option UInt8 × World :=
  match world.exchange network caller id .openSocket with
  | (some (.opened handle), next) => (some handle, next)
  | (_, next) => (none, next)

def connectSocket (handle : UInt8) (endpoint : Endpoint) (world : World) : Bool × World :=
  match world.exchange network caller id
      (.connect handle endpoint.remoteIp endpoint.remotePort endpoint.localPort) with
  | (some (.connected answered), next) => (answered = handle, next)
  | (_, next) => (false, next)

def chunksUpTo (size : Nat) : Nat → Bytes → List Bytes
  | 0, _ => []
  | count + 1, bytes =>
    if bytes = [] then [] else bytes.take size :: chunksUpTo size count (bytes.drop size)

/-- `slice::chunks`: there are never more than bytes. -/
def chunks (size : Nat) (bytes : Bytes) : List Bytes := chunksUpTo size bytes.length bytes

def sendChunks (handle : UInt8) : List Bytes → World → Bool × World
  | [], world => (true, world)
  | chunk :: rest, world =>
    match world.exchange network caller id (.send handle chunk) with
    | (some (.sent answered len), next) =>
      if answered = handle ∧ len.toNat = chunk.length then sendChunks handle rest next
      else (false, next)
    | (_, next) => (false, next)

def sendBytes (handle : UInt8) (bytes : Bytes) (world : World) : Bool × World :=
  sendChunks network caller id handle (chunks maxPayloadLen bytes) world

def closeSocket (handle : UInt8) (world : World) : World :=
  (world.exchange network caller id (.close handle)).2

def recvMarshalResponse (handle : UInt8) :
    Nat → Bytes → World → Option MarshalResponse × World
  | 0, _, world => (none, world)
  | polls + 1, buf, world =>
    match world.exchange network caller id (.recv handle (UInt16.ofNat maxPayloadLen)) with
    | (some (.data answered data), next) =>
      if answered = handle then
        match MarshalResponse.decodeStatus (buf ++ data) with
        | .complete response _ => (some response, next)
        | .malformed => (some (.error (.badResponse "malformed ipc reply")), next)
        | .incomplete => recvMarshalResponse handle polls (buf ++ data) next
      else recvMarshalResponse handle polls buf next
    | (_, next) => recvMarshalResponse handle polls buf next

end Session

def evaluate (network : Network) (caller : Caller) (endpoint : Endpoint)
    (request : MarshalRequest) (maxIters : Nat) (world : World) :
    Option MarshalResponse × World :=
  match openSession caller maxIters world with
  | (none, world) => (none, world)
  | (some id, world) =>
    match openSocket network caller id world with
    | (none, world) => (none, world)
    | (some handle, world) =>
      match connectSocket network caller id handle endpoint world with
      | (false, world) => (none, closeSocket network caller id handle world)
      | (true, world) =>
        match sendBytes network caller id handle request.encode world with
        | (false, world) => (none, closeSocket network caller id handle world)
        | (true, world) =>
          let (response, world) := recvMarshalResponse network caller id handle maxIters [] world
          (response, closeSocket network caller id handle world)

/-! ## One evaluation -/

/-- The server has an index free and no session waiting, and every identifier it or the
table holds was given out. -/
structure World.Serving (world : World) : Prop where
  idle : world.table.pending socketsServerPort = []
  issued : world.table.Issued
  known : ∀ index id, world.server.liveSessions index = some id → id < world.table.nextId
  free : ∃ index, world.server.freeIndex = some index ∧ world.server.slots index = none

/-- The session is the caller's and sits at an index that was free in `server`. -/
structure Attached (caller : Caller) (id : Nat) (index : Fin maxSockets) (table : SessionTable)
    (server : SocketServer) : Prop where
  role : table.roleOf id caller.thread = some .owner
  idle : table.pending socketsServerPort = []
  fresh : ∀ other, server.liveSessions other ≠ some id
  live : server.liveSessions index = none
  slot : server.slots index = none

theorem World.accept_pending_idle {world : World}
    (idle : world.table.pending socketsServerPort = []) : world.acceptPending = world := by
  apply Function.iterate_fixed
  rw [accept, accept_idle idle]

section Exchanges

variable {network : Network} {caller : Caller} {id : Nat} {index : Fin maxSockets}
  {table : SessionTable} {server : SocketServer}

variable (attached : Attached caller id index table server)

include attached

theorem exchange_attached {socket : Option Socket} {request : SocketRequest}
    {response : SocketResponse} {next : SocketServer}
    (answered : (server.holding index id socket).answer network index request = (response, next))
    (bounded : request.Bounded) (small : response.Bounded) :
    World.exchange network caller id ⟨table, server.holding index id socket⟩ request =
      (some response, ⟨table, next⟩) := by
  have whole := SocketRequest.decode_encode bounded []
  have back := SocketResponse.decode_encode small []
  rw [append_nil] at whole back
  have settled : World.acceptPending ⟨table, server.holding index id socket⟩ =
      ⟨table, server.holding index id socket⟩ := World.accept_pending_idle attached.idle
  simp [World.exchange, attached.role, settled, index_of_holding attached.fresh,
    whole, answered, back]

theorem connect_attached (reached : network.handshake = .established) (endpoint : Endpoint) :
    connectSocket network caller id (ownHandle index) endpoint
        ⟨table, server.holding index id (some .new)⟩ =
      (true, ⟨table, server.holding index id (some .established)⟩) := by
  rw [connectSocket, exchange_attached attached
    (answer_connect network server index id reached _ _ _ _) trivial trivial]
  simp

theorem close_attached (socket : Socket) :
    closeSocket network caller id (ownHandle index)
        ⟨table, server.holding index id (some socket)⟩ = ⟨table, server⟩ := by
  rw [closeSocket, exchange_attached attached
    (answer_close attached.live attached.slot _) trivial trivial]

end Exchanges

/-! ### Sending -/

theorem chunks_cons {size : Nat} {bytes : Bytes} (nonempty : bytes ≠ []) :
    chunks size bytes =
      bytes.take size :: chunksUpTo size (bytes.length - 1) (bytes.drop size) := by
  obtain ⟨count, counted⟩ := Nat.exists_eq_add_one.mpr (length_pos_iff.mpr nonempty)
  rw [chunks, counted, chunksUpTo, if_neg nonempty, Nat.add_sub_cancel]

theorem chunks_single {size : Nat} {bytes : Bytes} (nonempty : bytes ≠ [])
    (fits : bytes.length ≤ size) : chunks size bytes = [bytes] := by
  rw [chunks_cons nonempty, take_of_length_le fits, drop_of_length_le fits]
  cases bytes.length - 1 <;> simp [chunksUpTo]

/-- What the send buffer takes: never more than its free space, and all that fits. -/
structure Queues (network : Network) : Prop where
  within : ∀ free len, network.queue free len ≤ free
  whole : ∀ free len, len ≤ free → network.queue free len = len

theorem free_established (network : Network) : Socket.established.free network = tcpBufferSize := by
  simp [Socket.free, Socket.established, Socket.new]

section Sending

variable {network : Network} {caller : Caller} {id : Nat} {index : Fin maxSockets}
  {table : SessionTable} {server : SocketServer} {bytes : Bytes}

theorem exchange_first_send (attached : Attached caller id index table server)
    (short : bytes.length ≤ maxPayloadLen) :
    World.exchange network caller id ⟨table, server.holding index id (some .established)⟩
        (.send (ownHandle index) bytes) =
      (some (.sent (ownHandle index)
          (UInt16.ofNat (network.queue tcpBufferSize bytes.length))),
        ⟨table, server.holding index id (some { Socket.established with
          written := bytes.take (network.queue tcpBufferSize bytes.length) })⟩) := by
  have answered := @SocketServer.answer_send network server index id .established rfl
    (ownHandle index) bytes
  rw [free_established] at answered
  exact exchange_attached attached answered short trivial

theorem queued_to_nat (queues : Queues network) (len : Nat) :
    (UInt16.ofNat (network.queue tcpBufferSize len)).toNat = network.queue tcpBufferSize len := by
  have within := queues.within tcpBufferSize len
  have small : network.queue tcpBufferSize len < 2 ^ 16 := Nat.lt_of_le_of_lt within (by decide)
  rw [UInt16.toNat_ofNat', Nat.mod_eq_of_lt small]

theorem send_fits (attached : Attached caller id index table server) (queues : Queues network)
    (nonempty : bytes ≠ []) (fits : bytes.length ≤ tcpBufferSize) :
    sendBytes network caller id (ownHandle index) bytes
        ⟨table, server.holding index id (some .established)⟩ =
      (true, ⟨table, server.holding index id (some { Socket.established with
        written := bytes })⟩) := by
  have short : bytes.length ≤ maxPayloadLen := Nat.le_trans fits (by decide)
  have queued := queues.whole tcpBufferSize bytes.length fits
  have acknowledged := queued_to_nat queues bytes.length
  rw [queued] at acknowledged
  rw [sendBytes, chunks_single nonempty short, sendChunks, exchange_first_send attached short]
  simp only [queued, acknowledged, and_self, if_true, sendChunks, take_length]

/-- A request longer than the send buffer is never acknowledged whole. -/
theorem send_too_long (attached : Attached caller id index table server)
    (queues : Queues network) (long : tcpBufferSize < bytes.length) :
    ∃ socket, sendBytes network caller id (ownHandle index) bytes
        ⟨table, server.holding index id (some .established)⟩ =
      (false, ⟨table, server.holding index id (some socket)⟩) := by
  have nonempty : bytes ≠ [] := ne_nil_of_length_pos (by omega)
  have size : (bytes.take maxPayloadLen).length = min maxPayloadLen bytes.length :=
    length_take
  have above : tcpBufferSize < (bytes.take maxPayloadLen).length := by
    rw [size]
    exact Nat.lt_min.mpr ⟨by decide, long⟩
  have within := queues.within tcpBufferSize (bytes.take maxPayloadLen).length
  have partly : ¬ network.queue tcpBufferSize (bytes.take maxPayloadLen).length =
      (bytes.take maxPayloadLen).length := by omega
  have first := @exchange_first_send network caller id index table server
    (bytes.take maxPayloadLen) attached (by rw [size]; exact Nat.min_le_left _ _)
  rw [sendBytes, chunks_cons nonempty, sendChunks, first]
  simp only [queued_to_nat queues, partly, and_false, if_false]
  exact ⟨_, rfl⟩

end Sending

/-! ### Receiving -/

/-- What arrives in the polls of an evaluation is the proxy's response to the request, in
order, in parts the receive buffer holds. -/
structure Answers (network : Network) (maxIters : Nat) (request : MarshalRequest)
    (response : MarshalResponse) : Prop where
  bounded : response.Bounded
  window : ∀ poll, (network.arrivals request.encode poll).length ≤ tcpBufferSize
  delivered :
    (List.range maxIters).flatMap (network.arrivals request.encode) = response.encode

section Receiving

variable {network : Network} {caller : Caller} {id : Nat} {index : Fin maxSockets}
  {table : SessionTable} {server : SocketServer}

theorem exchange_recv (attached : Attached caller id index table server) {socket : Socket}
    (up : socket.state = .established) (drained : socket.inbox = [])
    (window : (network.arrivals socket.written socket.receives).length ≤ tcpBufferSize) :
    World.exchange network caller id ⟨table, server.holding index id (some socket)⟩
        (.recv (ownHandle index) (UInt16.ofNat maxPayloadLen)) =
      (some (.data (ownHandle index) (network.arrivals socket.written socket.receives)),
        ⟨table, server.holding index id (some { socket with receives := socket.receives + 1 })⟩) := by
  have limit : min (UInt16.ofNat maxPayloadLen).toNat maxPayloadLen = maxPayloadLen := by decide
  have short : (network.arrivals socket.written socket.receives).length ≤ maxPayloadLen :=
    Nat.le_trans window (by decide)
  have answered := @SocketServer.answer_recv network server index id socket up (ownHandle index)
    (UInt16.ofNat maxPayloadLen)
  rw [limit, drained, nil_append, take_of_length_le short,
    drop_of_length_le short] at answered
  have kept : { socket with inbox := [], receives := socket.receives + 1 } =
      { socket with receives := socket.receives + 1 } := by rw [← drained]
  rw [kept] at answered
  exact exchange_attached attached answered trivial short

theorem recv_delivered (attached : Attached caller id index table server)
    {response : MarshalResponse} (bounded : response.Bounded) {written : Bytes}
    (window : ∀ poll, (network.arrivals written poll).length ≤ tcpBufferSize) (polls : Nat)
    {buf : Bytes} {socket : Socket} (up : socket.state = .established)
    (peer : socket.written = written) (drained : socket.inbox = [])
    (rest : buf ++ (List.range polls).flatMap
      (fun poll => network.arrivals written (socket.receives + poll)) = response.encode)
    (unfinished : buf ≠ response.encode) :
    ∃ last, recvMarshalResponse network caller id (ownHandle index) polls buf
        ⟨table, server.holding index id (some socket)⟩ =
      (some response, ⟨table, server.holding index id (some last)⟩) := by
  induction polls generalizing buf socket with
  | zero =>
    rw [range_zero, flatMap_nil, append_nil] at rest
    exact absurd rest unfinished
  | succ polls ih =>
    subst peer
    rw [range_succ_eq_map, flatMap_cons, flatMap_map, ← append_assoc,
      Nat.add_zero] at rest
    rw [recvMarshalResponse, exchange_recv attached up drained (window _)]
    by_cases whole : buf ++ network.arrivals socket.written socket.receives = response.encode
    · have complete := decode_status_encode_append bounded []
      rw [append_nil, ← whole] at complete
      simp only [complete]
      exact ⟨_, rfl⟩
    -- A proper front of the response: the decoder asks for more.
    have waits := (decode_status_incomplete_iff
      (buf ++ network.arrivals socket.written socket.receives)).mpr
      (.inl ⟨response, bounded, ⟨_, rest⟩, whole⟩)
    simp only [waits]
    have still : ({ socket with receives := socket.receives + 1 } : Socket).state =
        .established := up
    refine ih still rfl drained ?_ whole
    rw [← rest]
    simp only [Nat.succ_eq_add_one, Nat.add_assoc, Nat.add_comm 1]

end Receiving

/-! ### What the polls collect -/

/-- The loop of `recv_marshal_response` over the payloads it is given. -/
def collectReply : Bytes → List Bytes → Option MarshalResponse
  | _, [] => none
  | buf, data :: rest =>
    match MarshalResponse.decodeStatus (buf ++ data) with
    | .complete response _ => some response
    | .malformed => some (.error (.badResponse "malformed ipc reply"))
    | .incomplete => collectReply (buf ++ data) rest

/-- The payloads that so many polls of a handle would be given. -/
def receivedData (network : Network) (caller : Caller) (id : Nat) (handle : UInt8) :
    Nat → World → List Bytes
  | 0, _ => []
  | polls + 1, world =>
    match world.exchange network caller id (.recv handle (UInt16.ofNat maxPayloadLen)) with
    | (some (.data answered data), next) =>
      if answered = handle then data :: receivedData network caller id handle polls next
      else receivedData network caller id handle polls next
    | (_, next) => receivedData network caller id handle polls next

theorem recv_eq_collect (network : Network) (caller : Caller) (id : Nat) (handle : UInt8)
    (polls : Nat) (buf : Bytes) (world : World) :
    (recvMarshalResponse network caller id handle polls buf world).1 =
      collectReply buf (receivedData network caller id handle polls world) := by
  induction polls generalizing buf world with
  | zero => rfl
  | succ polls ih =>
    unfold recvMarshalResponse receivedData
    split
    · split_ifs
      · unfold collectReply
        split <;> simp_all
      · exact ih buf _
    · exact ih buf _

/-- What the client makes of the verdict on a whole reply. -/
def replyOf : ResponseDecode → Option MarshalResponse
  | .complete response _ => some response
  | .malformed => some (.error (.badResponse "malformed ipc reply"))
  | .incomplete => none

/-- However a reply is cut into payloads, the client returns what the whole of it says. -/
theorem collect_delivered {buf : Bytes} (parts : List Bytes)
    (waits : MarshalResponse.decodeStatus buf = .incomplete)
    (settled : MarshalResponse.decodeStatus (buf ++ parts.flatten) ≠ .incomplete) :
    collectReply buf parts = replyOf (MarshalResponse.decodeStatus (buf ++ parts.flatten)) := by
  induction parts generalizing buf with
  | nil =>
    rw [flatten_nil, append_nil] at settled
    exact absurd waits settled
  | cons data rest ih =>
    rw [flatten_cons, ← append_assoc] at settled ⊢
    unfold collectReply
    cases status : MarshalResponse.decodeStatus (buf ++ data) with
    | complete response consumed =>
      rw [decode_status_complete_iff] at status
      have whole := response_stream.decode_append status rest.flatten
      rw [← decode_status_complete_iff] at whole
      rw [whole]
      rfl
    | malformed =>
      rw [decode_status_malformed_iff] at status
      have whole := response_stream.bad_append _ rest.flatten status
      rw [← decode_status_malformed_iff] at whole
      rw [whole]
      rfl
    | incomplete => exact ih status settled

theorem collect_waits {buf : Bytes} (parts : List Bytes)
    (waits : MarshalResponse.decodeStatus (buf ++ parts.flatten) = .incomplete) :
    collectReply buf parts = none := by
  induction parts generalizing buf with
  | nil => rfl
  | cons data rest ih =>
    rw [flatten_cons, ← append_assoc] at waits
    unfold collectReply
    cases status : MarshalResponse.decodeStatus (buf ++ data) with
    | complete response consumed =>
      rw [decode_status_complete_iff] at status
      have whole := response_stream.decode_append status rest.flatten
      rw [← decode_status_complete_iff, waits] at whole
      cases whole
    | malformed =>
      rw [decode_status_malformed_iff] at status
      have whole := response_stream.bad_append _ rest.flatten status
      rw [← decode_status_malformed_iff, waits] at whole
      cases whole
    | incomplete => exact ih waits

/-- The polls return what the decoder says of all their payloads together, however the reply is
cut into them. -/
theorem recv_reads_whole_reply (network : Network) (caller : Caller) (id : Nat) (handle : UInt8)
    (polls : Nat) (world : World) :
    (recvMarshalResponse network caller id handle polls [] world).1 = replyOf
      (MarshalResponse.decodeStatus (receivedData network caller id handle polls world).flatten) := by
  rw [recv_eq_collect]
  by_cases waits : MarshalResponse.decodeStatus
      (receivedData network caller id handle polls world).flatten = .incomplete
  · rw [collect_waits _ waits, waits]
    rfl
  · exact collect_delivered _ rfl waits

/-! ### The whole evaluation -/

def World.admitted (world : World) (caller : Caller) : World :=
  ⟨world.table.admitted socketsServerPort caller.thread world.server.thread, world.server⟩

theorem World.admitted_mk (world : World) (caller : Caller) :
    ⟨(world.admitted caller).table, world.server⟩ = world.admitted caller := rfl

section Evaluation

variable {network : Network} {caller : Caller} {world : World}

/-- With only this caller running, a full table stays full however often it retries. -/
theorem open_session_full (full : ¬ world.table.HasRoom caller.thread) (maxIters : Nat) :
    openSession caller maxIters world = (none, world) := by
  have refused : sessionOpenCall caller world = (none, world) := by
    rw [sessionOpenCall, session_open_full full]
    split <;> rfl
  induction maxIters with
  | zero => rfl
  | succ attempts ih =>
    rw [openSession, refused]
    exact ih

theorem open_session_room (authorized : caller.authorized = true)
    (room : world.table.HasRoom caller.thread) {maxIters : Nat} (some : 0 < maxIters) :
    openSession caller maxIters world =
      (Option.some world.table.nextId,
        ⟨(world.table.sessionOpen socketsServerPort caller.thread).2, world.server⟩) := by
  obtain ⟨attempts, rfl⟩ := Nat.exists_eq_add_one.mpr some
  rw [openSession, sessionOpenCall, authorized, session_open_room room]
  rfl

section

variable (serving : world.Serving) (room : world.table.HasRoom caller.thread)
  {index : Fin maxSockets} (free : world.server.freeIndex = some index)
  (slot : world.server.slots index = none)

include serving room free slot

theorem accept_opened :
    World.acceptPending
        ⟨(world.table.sessionOpen socketsServerPort caller.thread).2, world.server⟩ =
      ⟨(world.admitted caller).table, world.server.holding index world.table.nextId none⟩ := by
  have slots : Function.update world.server.slots index none = world.server.slots := by
    rw [← slot, Function.update_eq_self]
  have first : World.accept
      ⟨(world.table.sessionOpen socketsServerPort caller.thread).2, world.server⟩ =
      ⟨(world.admitted caller).table, world.server.holding index world.table.nextId none⟩ := by
    simp [World.accept, SocketServer.accept, free, SocketServer.holding, slots, World.admitted,
      session_accept_opened serving.idle room]
  rw [World.acceptPending, maxSockets, Function.iterate_succ_apply, first]
  apply Function.iterate_fixed
  rw [World.accept, accept_idle]
  exact (admitted_spec serving.issued serving.idle room _).2.1

theorem attached_admitted :
    Attached caller world.table.nextId index (world.admitted caller).table world.server where
  role := role_of_admitted serving.issued serving.idle room _
  idle := (admitted_spec serving.issued serving.idle room _).2.1
  fresh := fun other held => Nat.lt_irrefl _ (serving.known other _ held)
  live := free_index_live free
  slot := slot

theorem open_socket_serving :
    openSocket network caller world.table.nextId
        ⟨(world.table.sessionOpen socketsServerPort caller.thread).2, world.server⟩ =
      (some (ownHandle index), ⟨(world.admitted caller).table,
        world.server.holding index world.table.nextId (some .new)⟩) := by
  have attached := attached_admitted serving room free slot
  have role := role_of_opened serving.issued room socketsServerPort
  have request : SocketRequest.decode SocketRequest.openSocket.encode =
      some (.openSocket, 1) := rfl
  have response := SocketResponse.decode_encode
    (show (SocketResponse.opened (ownHandle index)).Bounded from trivial) []
  rw [append_nil] at response
  simp [openSocket, World.exchange, role, accept_opened serving room free slot,
    index_of_holding attached.fresh, request, answer_open, response]

end

theorem request_encode_ne_nil (request : MarshalRequest) : request.encode ≠ [] := by
  apply ne_nil_of_length_pos
  rw [MarshalRequest.encode, encodeBytes, length_append, le_bytes_length]
  omega

variable {request : MarshalRequest}

theorem evaluate_connected {endpoint : Endpoint} {maxIters id : Nat}
    {handle : UInt8} {opened socketed connected : World}
    (session : openSession caller maxIters world = (some id, opened))
    (socket : openSocket network caller id opened = (some handle, socketed))
    (connect : connectSocket network caller id handle endpoint socketed = (true, connected)) :
    evaluate network caller endpoint request maxIters world =
      match sendBytes network caller id handle request.encode connected with
      | (false, sent) => (none, closeSocket network caller id handle sent)
      | (true, sent) =>
        let (response, received) :=
          recvMarshalResponse network caller id handle maxIters [] sent
        (response, closeSocket network caller id handle received) := by
  simp only [evaluate, session, socket, connect]

/-- The response of a proxy that is reached and answers, if the request fits the send
buffer, and none otherwise; either way the session stays in the table. -/
theorem evaluate_serving (serving : world.Serving) (authorized : caller.authorized = true)
    (room : world.table.HasRoom caller.thread) (reached : network.handshake = .established)
    (queues : Queues network) {maxIters : Nat} {response : MarshalResponse}
    (answers : Answers network maxIters request response) (endpoint : Endpoint) :
    evaluate network caller endpoint request maxIters world =
      (if request.encode.length ≤ tcpBufferSize then some response else none,
        world.admitted caller) := by
  obtain ⟨index, free, slot⟩ := serving.free
  have attached := attached_admitted serving room free slot
  have answered := response.encode_ne_nil
  have polled : 0 < maxIters := by
    rcases Nat.eq_zero_or_pos maxIters with rfl | positive
    · exact absurd answers.delivered.symm answered
    · exact positive
  rw [evaluate_connected (open_session_room authorized room polled)
    (open_socket_serving serving room free slot) (connect_attached attached reached endpoint)]
  by_cases fits : request.encode.length ≤ tcpBufferSize
  · have rest : [] ++ (List.range maxIters).flatMap (fun poll => network.arrivals request.encode
        (({ Socket.established with written := request.encode } : Socket).receives + poll)) =
        response.encode := by
      simpa [Socket.established, Socket.new] using answers.delivered
    obtain ⟨last, received⟩ := recv_delivered attached answers.bounded answers.window maxIters
      (show ({ Socket.established with written := request.encode } : Socket).state =
        .established from rfl) rfl rfl rest answered.symm
    rw [send_fits attached queues (request_encode_ne_nil request) fits, if_pos fits]
    simp only [received, close_attached attached, World.admitted_mk]
  · obtain ⟨socket, cut⟩ := send_too_long attached queues (Nat.lt_of_not_le fits)
    rw [cut, if_neg fits]
    simp only [close_attached attached, World.admitted_mk]

theorem evaluate_full (full : ¬ world.table.HasRoom caller.thread) (endpoint : Endpoint)
    (request : MarshalRequest) (maxIters : Nat) :
    evaluate network caller endpoint request maxIters world = (none, world) := by
  rw [evaluate, open_session_full full]

theorem admitted_serving (serving : world.Serving) (room : world.table.HasRoom caller.thread) :
    (world.admitted caller).Serving := by
  obtain ⟨issued, idle, -, -, next⟩ :=
    admitted_spec serving.issued serving.idle room world.server.thread
  refine ⟨idle, issued, ?_, serving.free⟩
  intro index id held
  rw [World.admitted, next]
  exact Nat.lt_succ_of_lt (serving.known index id held)

end Evaluation

end Runix.Kernel
