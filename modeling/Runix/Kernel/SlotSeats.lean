import Runix.Kernel.Traffic

/-!
# The sessions of all calls

Every step of a call, of the kernel's table and of the sockets server leaves each session in one
place, and its bytes in order.
-/

namespace Runix.Kernel

open Ipc NetDriver Lib Lib.ByteStrings Lib.Reading Lib.Runs Function List SessionTable ServerHistory

namespace CallTraffic

variable {Sock : Type}

def lane (table : SessionTable) (role : Role) (id : Nat) : Bytes :=
  (table.find id).elim [] fun session => session.queue role

def sending (outbox : Option (Nat × Bytes)) (id : Nat) : Bytes :=
  outbox.elim [] fun (recipient, bytes) => if recipient = id then bytes else []

variable {table : SessionTable} {id : Nat}

theorem lane_put {old : Session} (found : table.find id = some old) (session : Session)
    (role : Role) (wanted : Nat) :
    lane (table.put id session) role wanted =
      if wanted = id then session.queue role else lane table role wanted := by
  rw [lane, find_put]
  split_ifs with same
  · rw [same, found]
    rfl
  rw [lane]
  cases table.find wanted with
  | none => rfl
  | some kept => simp

structure Lawful (traffic : CallTraffic Sock) : Prop where
  server : traffic.server.Lawful
  issued : traffic.table.Issued
  queue : (traffic.table.pending socketsServerPort).Nodup
  unaccepted : ∀ id ∈ traffic.table.pending socketsServerPort, ∀ index,
    traffic.server.loop.liveSessions index ≠ some id
  distinct : ∀ index other id, traffic.server.loop.liveSessions index = some id →
    traffic.server.loop.liveSessions other = some id → index = other
  queued : ∀ id ∈ traffic.table.pending socketsServerPort, (traffic.clients id).isSome
  bound : ∀ index id, traffic.server.loop.liveSessions index = some id →
    (traffic.clients id).isSome
  sent : ∀ id bytes, traffic.outbox = some (id, bytes) → (traffic.clients id).isSome
  found : ∀ id, (traffic.clients id).isSome → (traffic.table.find id).isSome
  seated : ∀ id call client, traffic.clients id = some (call, client) →
    Seated (traffic.table.pending socketsServerPort) traffic.server.place id (traffic.asked id)
      call client (lane traffic.table .owner id)
      (lane traffic.table .server id ++ sending traffic.outbox id)

theorem issued_put (issued : table.Issued) (id : Nat) (session : Session) :
    (table.put id session).Issued :=
  issued.map fun entry _ => by split_ifs <;> rfl

theorem find_put_is_some (table : SessionTable) (id : Nat) (session : Session) (wanted : Nat) :
    ((table.put id session).find wanted).isSome = (table.find wanted).isSome := by
  rw [find_put, Option.isSome_map]

theorem update_is_some {Value : Type} {values : Nat → Option Value}
    (known : (values id).isSome) (value : Value) (wanted : Nat) :
    (update values id (some value) wanted).isSome = (values wanted).isSome := by
  by_cases same : wanted = id
  · rw [same, update_self, known]
    rfl
  · rw [update_of_ne same]

theorem lane_open {owner : Thread} (issued : table.Issued) (room : table.HasRoom owner)
    (serverPort : Nat) (role : Role) (wanted : Nat) :
    lane (table.sessionOpen serverPort owner).2 role wanted =
      if wanted = table.nextId then [] else lane table role wanted := by
  rw [lane, find_session_open issued room]
  split_ifs with same
  · cases role <;> rfl
  · rfl

theorem session_accept_cons {serverPort id : Nat} {rest : List Nat}
    (queue : table.pending serverPort = id :: rest) (thread : Thread) :
    table.sessionAccept serverPort thread =
      (some id, table.claimed serverPort id rest thread) := by
  rw [SessionTable.sessionAccept, queue]
  rfl

theorem lane_claimed (table : SessionTable) (serverPort id : Nat) (rest : List Nat)
    (thread : Thread) (role : Role) (wanted : Nat) :
    lane (table.claimed serverPort id rest thread) role wanted = lane table role wanted := by
  rw [lane, lane, find_claimed]
  cases table.find wanted with
  | none => rfl
  | some session =>
    by_cases same : wanted = id
    · cases role <;> simp [same, Session.queue]
    · simp [same]

theorem sending_none (id : Nat) : sending none id = [] := rfl

theorem sending_elsewhere {outbox : Option (Nat × Bytes)}
    (elsewhere : ∀ bytes, outbox ≠ some (id, bytes)) : sending outbox id = [] := by
  cases outbox with
  | none => rfl
  | some pair => exact if_neg fun same => elsewhere pair.2 (by rw [← same])

theorem sending_reply {sent : Option (Nat × SocketResponse)}
    (elsewhere : ∀ response, sent ≠ some (id, response)) :
    sending (sent.map fun (id, response) => (id, response.encode)) id = [] := by
  refine sending_elsewhere fun bytes out => ?_
  obtain ⟨⟨_, response⟩, answer, ⟨⟩⟩ := Option.map_eq_some_iff.mp out
  exact elsewhere response answer

namespace Lawful

variable {traffic : CallTraffic Sock}

section

variable (lawful : traffic.Lawful)

include lawful

/-- What is to show of a step that queues and binds no session and begins no call. -/
theorem evolve {next : CallTraffic Sock} (server : next.server.Lawful)
    (issued : next.table.Issued) (queue : next.table.pending = traffic.table.pending)
    (finds : ∀ id, (next.table.find id).isSome = (traffic.table.find id).isSome)
    (clients : ∀ id, (next.clients id).isSome = (traffic.clients id).isSome)
    (live : ∀ index id, next.server.loop.liveSessions index = some id →
      traffic.server.loop.liveSessions index = some id)
    (sent : ∀ id bytes, next.outbox = some (id, bytes) → (traffic.clients id).isSome)
    (seated : ∀ id call client, next.clients id = some (call, client) →
      Seated (traffic.table.pending socketsServerPort) next.server.place id (next.asked id) call
        client (lane next.table .owner id)
        (lane next.table .server id ++ sending next.outbox id)) : next.Lawful where
  server := server
  issued := issued
  queue := queue ▸ lawful.queue
  unaccepted := fun id waits index bound =>
    lawful.unaccepted id (queue ▸ waits) index (live index id bound)
  distinct := fun index other id first second =>
    lawful.distinct index other id (live index id first) (live other id second)
  queued := fun id waits => clients id ▸ lawful.queued id (queue ▸ waits)
  bound := fun index id bound => clients id ▸ lawful.bound index id (live index id bound)
  sent := fun id bytes out => clients id ▸ sent id bytes out
  found := fun id known => finds id ▸ lawful.found id (clients id ▸ known)
  seated := queue ▸ seated

theorem client_step (id : Nat) : (traffic.clientStep id).Lawful := by
  unfold clientStep
  cases known : traffic.clients id with
  | none => exact lawful
  | some pair =>
    obtain ⟨call, client⟩ := pair
    cases found : traffic.table.find id with
    | none => exact lawful
    | some session =>
      have moves := EvaluateCall.moves call client session
      dsimp only
      generalize (call.move client session).1 = next at moves
      generalize (call.move client session).2 = after at moves
      refine lawful.evolve lawful.server (issued_put lawful.issued id after) rfl
        (find_put_is_some _ _ _) (update_is_some (by simp [known]) _) (fun _ _ live => live)
        lawful.sent fun wanted other state here => ?_
      dsimp only at here ⊢
      rw [lane_put found, lane_put found]
      by_cases same : wanted = id
      · subst same
        rw [update_self] at here
        cases here
        have seated := lawful.seated wanted call client known
        rw [lane, lane, found] at seated
        rw [if_pos rfl, if_pos rfl, update_self]
        exact seated.moves moves
      · rw [update_of_ne same] at here ⊢
        rw [if_neg same, if_neg same]
        exact lawful.seated wanted other state here

theorem client_fresh : traffic.clients traffic.table.nextId = none := by
  by_contra known
  have found := lawful.found _ (Option.isSome_iff_ne_none.mpr known)
  rw [find_eq_none_of_issued lawful.issued (Nat.le_refl _)] at found
  cases found

theorem begin_call (owner : Thread) (call : EvaluateCall) :
    (traffic.begin owner call).Lawful := by
  unfold begin
  by_cases room : traffic.table.HasRoom owner
  swap
  · rw [session_open_full room]
    exact lawful
  have fresh := lawful.client_fresh
  have opened := session_open_room room socketsServerPort
  have lanes := lane_open lawful.issued room socketsServerPort
  have finds := find_session_open lawful.issued room socketsServerPort
  have queue : (traffic.table.sessionOpen socketsServerPort owner).2.pending socketsServerPort =
      traffic.table.pending socketsServerPort ++ [traffic.table.nextId] := by
    rw [opened]
    simp [SessionTable.enqueue]
  have issued := lawful.issued.opened room socketsServerPort
  have first : (traffic.table.sessionOpen socketsServerPort owner).1 = some traffic.table.nextId := by
    rw [opened]
  generalize traffic.table.sessionOpen socketsServerPort owner = result at *
  obtain ⟨answer, table⟩ := result
  obtain rfl : answer = some traffic.table.nextId := first
  have old : ∀ id, (traffic.clients id).isSome → id ≠ traffic.table.nextId := by
    rintro id known rfl
    rw [fresh] at known
    cases known
  have still : ∀ id, (traffic.clients id).isSome →
      (update traffic.clients traffic.table.nextId (some (call, call.start .opening))
        id).isSome := by
    intro id known
    rw [update_of_ne (old id known)]
    exact known
  exact {
    server := lawful.server
    issued := issued
    queue := by
      rw [queue]
      refine nodup_append.mpr ⟨lawful.queue, nodup_singleton _, ?_⟩
      rintro id member _ last rfl
      exact old id (lawful.queued id member) (mem_singleton.mp last)
    unaccepted := by
      intro id member index live
      rw [queue] at member
      rcases mem_append.mp member with earlier | last
      · exact lawful.unaccepted id earlier index live
      · exact old id (lawful.bound index id live) (mem_singleton.mp last)
    distinct := lawful.distinct
    queued := by
      intro id member
      dsimp only at queue member ⊢
      rw [queue] at member
      rcases mem_append.mp member with earlier | last
      · exact still id (lawful.queued id earlier)
      · rw [mem_singleton.mp last, update_self]
        rfl
    bound := fun index id live => still id (lawful.bound index id live)
    sent := fun id bytes out => still id (lawful.sent id bytes out)
    found := by
      intro id known
      dsimp only at finds known ⊢
      rw [finds]
      split_ifs with same
      · rfl
      · rw [update_of_ne same] at known
        exact lawful.found id known
    seated := by
      intro id other client here
      dsimp only at lanes queue here ⊢
      rw [lanes, lanes, queue]
      by_cases same : id = traffic.table.nextId
      · rw [same, update_self] at here
        cases here
        have quiet : sending traffic.outbox id = [] :=
          sending_elsewhere fun bytes out => old id (lawful.sent id bytes out) same
        rw [if_pos same, if_pos same, quiet, same, update_self]
        refine ⟨⟨[], rfl, by simp, by simp, trivial⟩, by simp [SocketRequest.Bounded,
          EvaluateCall.socketRequest], .queued (by simp) ?_ rfl⟩
        simp [EvaluateCall.start, EvaluateState.left]
      · rw [update_of_ne same] at here ⊢
        rw [if_neg same, if_neg same]
        obtain ⟨asking, bounded, seat⟩ := lawful.seated id other client here
        refine ⟨asking, bounded, seat.kept ?_ (fun _ _ => rfl) fun _ live => live⟩
        simp [same] }

end

/-! ### The server's steps -/

variable {stack : TcpStack Sock} {thread : Thread}

section

variable (lawful : traffic.Lawful)

include lawful

theorem server_step (issued : table.Issued)
    (queue : table.pending = traffic.table.pending)
    (finds : ∀ id, (table.find id).isSome = (traffic.table.find id).isSome) (step : LoopStep Sock)
    (sent : Option (Nat × SocketResponse))
    (live : ∀ index id, (traffic.server.step stack step).loop.liveSessions index = some id →
      traffic.server.loop.liveSessions index = some id)
    (addressed : ∀ id response, sent = some (id, response) → (traffic.clients id).isSome)
    (seated : ∀ id call client, traffic.clients id = some (call, client) →
      Seat (traffic.table.pending socketsServerPort) (traffic.server.step stack step).place id
        (traffic.asked id) (client.stage = some .opening)
        (lane table .owner id ++ client.left)
        (client.buf ++ (lane table .server id ++
          sending (sent.map fun (id, response) => (id, response.encode)) id))) :
    ({ traffic with table := table }.serverStep stack step sent).Lawful := by
  refine lawful.evolve (lawful.server.step step) issued queue finds (fun _ => rfl) live
    (fun id bytes out => ?_) fun id call client known => ?_
  · obtain ⟨⟨_, response⟩, answer, ⟨⟩⟩ := Option.map_eq_some_iff.mp out
    exact addressed id response answer
  · obtain ⟨asking, bounded, -⟩ := lawful.seated id call client known
    exact ⟨asking, bounded, seated id call client known⟩

variable (silent : traffic.outbox = none)

include silent

/-- A step that changes no place and answers nobody. -/
theorem idle_step {step : LoopStep Sock}
    (same : ∀ index, (traffic.server.step stack step).place index = traffic.server.place index) :
    (traffic.serverStep stack step none).Lawful := by
  have live : ∀ index, (traffic.server.step stack step).loop.liveSessions index =
      traffic.server.loop.liveSessions index := fun index => congrArg Place.live (same index)
  apply lawful.server_step lawful.issued rfl fun _ => rfl
  · exact fun index id bound => (live index).symm.trans bound
  · nofun
  · intro id call client known
    have seat := (lawful.seated id call client known).seat
    rw [silent] at seat
    exact seat.kept Iff.rfl (fun index _ => same index)
      fun index bound => (live index).symm.trans bound

/-- A connect that is over is not one of a call in its open. -/
theorem resolve (index : Fin maxSockets) (offset : UInt32) :
    (traffic.serverStep stack (.resolve index offset)
      (traffic.server.loop.resolveConnect stack index offset).1).Lawful := by
  have places := step_resolve_place stack traffic.server index offset
  have live : ∀ other, ((traffic.server.step stack (.resolve index offset)).place other).live =
      (traffic.server.place other).live := by
    intro other
    rcases places other with same | ⟨-, -, settled⟩
    · rw [same]
    · rw [settled]
  have addressed : ∀ id response,
      (traffic.server.loop.resolveConnect stack index offset).1 = some (id, response) →
        (traffic.server.loop.pendingConnectSince index).isSome ∧
          traffic.server.loop.liveSessions index = some id := by
    intro id response sent
    rcases resolve_connect_cases stack traffic.server.loop index offset with
      same | ⟨pending, -, own⟩
    · rw [same] at sent
      cases sent
    · exact ⟨pending, own id response sent⟩
  apply lawful.server_step lawful.issued rfl fun _ => rfl
  · intro other id bound
    exact (live other).symm.trans bound
  · intro id response sent
    exact lawful.bound index id (addressed id response sent).2
  · intro id call client known
    have seat := (lawful.seated id call client known).seat
    rw [silent, sending_none, append_nil] at seat
    have quiet : traffic.server.loop.liveSessions index ≠ some id →
        sending ((traffic.server.loop.resolveConnect stack index offset).1.map
          fun (id, response) => (id, response.encode)) id = [] :=
      fun elsewhere => sending_reply fun response sent => elsewhere (addressed id response sent).2
    cases seat with
    | queued waits words still =>
      rw [quiet (lawful.unaccepted id waits index), append_nil]
      exact .queued waits words still
    | bound seatIndex seatLive words answer =>
      rcases places seatIndex with same | ⟨here, pending, settled⟩
      · by_cases here : traffic.server.loop.liveSessions index = some id
        · refine .bound seatIndex (by rw [same, seatLive]) (by rw [same, words]) fun first => ?_
          obtain rfl := lawful.distinct seatIndex index id seatLive here
          obtain ⟨settled, reply⟩ := answer first
          have none : (traffic.server.loop.resolveConnect stack seatIndex offset).1 = none := by
            cases sent : (traffic.server.loop.resolveConnect stack seatIndex offset).1 with
            | none => rfl
            | some pair =>
              have waits := (addressed pair.1 pair.2 sent).1
              rw [show traffic.server.loop.pendingConnectSince seatIndex = none from settled]
                at waits
              cases waits
          rw [same, none, Option.map_none, sending_none, append_nil]
          exact ⟨settled, reply⟩
        · rw [quiet here, append_nil]
          refine .bound seatIndex (by rw [same, seatLive]) (by rw [same, words]) fun first => ?_
          rw [same]
          exact answer first
      · refine .bound seatIndex (by rw [live, seatLive]) (by rw [settled, words]) fun first => ?_
        have idle := (answer first).1
        rw [here] at idle
        rw [show traffic.server.loop.pendingConnectSince index = none from idle] at pending
        cases pending
    | closed unqueued unbound last =>
      exact .closed unqueued (fun other bound => unbound other ((live other).symm.trans bound)) last

/-- The session accepted is seated at an index that was free, with nothing of another. -/
theorem accept :
    (traffic.acceptStep stack thread).Lawful := by
  unfold acceptStep
  split_ifs with asks
  swap
  · exact lawful
  obtain ⟨index, free⟩ := Option.isSome_iff_exists.mp asks
  have unbound : traffic.server.loop.liveSessions index = none := by
    simpa using List.find?_some free
  cases queue : traffic.table.pending socketsServerPort with
  | nil =>
    have nothing : traffic.table.sessionAccept socketsServerPort thread = (none, traffic.table) := by
      rw [SessionTable.sessionAccept, queue]
    have same : ∀ other, (traffic.server.step stack (.accept none)).place other =
        traffic.server.place other := by
      intro other
      simp [ServerHistory.step, ServerHistory.place, ServerLoop.accept, free]
    have kept : (traffic.serverStep stack (.accept none) none).Lawful :=
      lawful.idle_step silent same
    simpa [nothing, serverStep, silent] using kept
  | cons id rest =>
    have accepts : traffic.server.loop.accept (some id) =
        { traffic.server.loop with
          liveSessions := update traffic.server.loop.liveSessions index (some id) } := by
      simp [ServerLoop.accept, free]
    have here : (traffic.server.step stack (.accept (some id))).place index =
        { traffic.server.place index with live := some id, stream := [] } := by
      simp [ServerHistory.step, ServerHistory.place, accepts, unbound]
    have others : ∀ other, other ≠ index →
        (traffic.server.step stack (.accept (some id))).place other =
          traffic.server.place other := by
      intro other elsewhere
      simp [ServerHistory.step, ServerHistory.place, accepts, elsewhere]
    have live : ∀ other wanted,
        (traffic.server.step stack (.accept (some id))).loop.liveSessions other = some wanted →
          other = index ∧ wanted = id ∨ traffic.server.loop.liveSessions other = some wanted := by
      intro other wanted bound
      by_cases same : other = index
      · have first : (traffic.server.step stack (.accept (some id))).loop.liveSessions index =
            some id := congrArg Place.live here
        rw [same, first] at bound
        exact .inl ⟨same, (Option.some.inj bound).symm⟩
      · exact .inr ((congrArg Place.live (others other same)).symm.trans bound)
    have waits : id ∈ traffic.table.pending socketsServerPort := by simp [queue]
    have distinct := lawful.queue
    rw [queue, nodup_cons] at distinct
    have known := lawful.queued id waits
    have rests : (traffic.table.claimed socketsServerPort id rest thread).pending
        socketsServerPort = rest := by
      rw [claimed_pending, update_self]
    rw [session_accept_cons queue]
    exact {
      server := lawful.server.accept stack (some id)
      issued := lawful.issued.map fun entry _ => by split_ifs <;> rfl
      queue := by
        exact distinct.2
      unaccepted := by
        intro wanted member other bound
        rw [rests] at member
        rcases live other wanted bound with ⟨-, rfl⟩ | before
        · exact distinct.1 member
        · exact lawful.unaccepted wanted (by simp [queue, member]) other before
      distinct := by
        intro first second wanted one two
        rcases live first wanted one with ⟨rfl, rfl⟩ | one <;>
          rcases live second wanted two with ⟨rfl, same⟩ | two
        · rfl
        · exact absurd two (lawful.unaccepted wanted waits second)
        · exact absurd one (same ▸ lawful.unaccepted id waits first)
        · exact lawful.distinct first second wanted one two
      queued := by
        intro wanted member
        rw [rests] at member
        exact lawful.queued wanted (by simp [queue, member])
      bound := by
        intro other wanted bound
        rcases live other wanted bound with ⟨-, rfl⟩ | before
        · exact known
        · exact lawful.bound other wanted before
      sent := lawful.sent
      found := by
        intro wanted isKnown
        rw [find_claimed, Option.isSome_map]
        exact lawful.found wanted isKnown
      seated := by
        intro wanted call client isClient
        obtain ⟨asking, bounded, seat⟩ := lawful.seated wanted call client isClient
        refine ⟨asking, bounded, ?_⟩
        rw [lane_claimed, lane_claimed, rests]
        by_cases same : wanted = id
        · subst same
          cases seat with
          | queued _ words still =>
            have idle := (lawful.server.accept stack (some wanted)).places index
            rw [here] at idle
            refine .bound index (by rw [here]) (by rw [here, words]; rfl) fun first => ?_
            rw [here]
            obtain ⟨slot, -⟩ := (lawful.server.places index).unbound unbound
            refine ⟨?_, .inl ⟨rfl, slot, still⟩⟩
            by_contra connecting
            have held := (idle.asker (Option.isSome_iff_ne_none.mpr connecting)).1
            rw [show (traffic.server.place index).slot = none from slot] at held
            cases held
          | bound other bound => exact absurd bound (lawful.unaccepted wanted waits other)
          | closed unqueued => exact absurd waits unqueued
        · refine seat.kept (by simp [queue, same]) (fun other bound => others other ?_) ?_
          · rintro rfl
            rw [show (traffic.server.place other).live = none from unbound] at bound
            cases bound
          · intro other bound
            rcases live other wanted bound with ⟨-, equal⟩ | before
            · exact absurd equal same
            · exact before }

end

variable {index : Fin maxSockets} {asked : List SocketRequest}

theorem seat_at (lawful : traffic.Lawful) {id : Nat}
    (live : traffic.server.loop.liveSessions index = some id)
    {opening : Prop} {untaken reply : Bytes}
    (seat : Seat (traffic.table.pending socketsServerPort) traffic.server.place id asked opening
      untaken reply) :
    (traffic.server.streams index ++ untaken = asked.flatMap SocketRequest.encode) ∧
      (opening → OpenReply index (traffic.server.place index) reply) := by
  cases seat with
  | queued waits => exact absurd live (lawful.unaccepted id waits index)
  | bound other bound words answer =>
    obtain rfl := lawful.distinct other index id bound live
    exact ⟨words, answer⟩
  | closed unqueued unbound => exact absurd live (unbound index)

section Turn

variable {index : Fin maxSockets} {id : Nat} {byte : UInt8} {rest : Bytes}
  {asked : List SocketRequest} {opening : Prop} {reply : Bytes}

variable (lawful : traffic.Lawful) (live : traffic.server.loop.liveSessions index = some id)
  {places : Fin maxSockets → Place}

include lawful live

theorem seat_waits
    (partly : SocketRequest.decode (traffic.server.loop.received index (some byte)) = none)
    (seat : Seat (traffic.table.pending socketsServerPort) traffic.server.place id asked opening
      (byte :: rest) reply) (here : places index = { traffic.server.place index with
      buf := traffic.server.loop.received index (some byte)
      stream := traffic.server.streams index ++ [byte] }) :
    Seat (traffic.table.pending socketsServerPort) places id asked opening rest reply := by
  obtain ⟨words, answer⟩ := lawful.seat_at live seat
  have buffered := (lawful.server.places index).buffered
  have requests : requestsOf (traffic.server.streams index ++ [byte]) =
      ((requestsOf (traffic.server.streams index)).1,
        (requestsOf (traffic.server.streams index)).2 ++ [byte]) :=
    requests_of_waiting (by
      rw [show (requestsOf (traffic.server.streams index)).2 = _ from buffered]
      exact partly)
  refine .bound index (by rw [here]; exact live) ?_ fun first => ?_
  · rw [here]
    simpa using words
  · obtain ⟨settled, reply⟩ := answer first
    rw [here]
    refine ⟨settled, ?_⟩
    rw [requests]
    exact reply

theorem seat_answers {request : SocketRequest} {size : Nat}
    (whole : SocketRequest.decode (traffic.server.loop.received index (some byte)) =
      some (request, size)) (bounded : ∀ request ∈ asked, request.Bounded)
    (opens : opening → asked = [.openSocket])
    (seat : Seat (traffic.table.pending socketsServerPort) traffic.server.place id asked opening
      (byte :: rest) reply)
    (bound : (places index).live = if isClose request then none else some id)
    (stream : (places index).stream = traffic.server.streams index ++ [byte])
    (others : ∀ other, other ≠ index → places other = traffic.server.place other) {reply' : Bytes}
    (opened : request = .openSocket → traffic.server.loop.slots index = none → reply = [] →
      (places index).connecting = none ∧
        reply' = (SocketResponse.opened (ownHandle index)).encode) :
    Seat (traffic.table.pending socketsServerPort) places id asked opening rest reply' := by
  obtain ⟨words, answer⟩ := lawful.seat_at live seat
  have buffered := (lawful.server.places index).buffered
  have requests : (requestsOf (traffic.server.streams index ++ [byte])).1 =
      (requestsOf (traffic.server.streams index)).1 ++ [request] := by
    rw [requests_of_whole (by
      rw [show (requestsOf (traffic.server.streams index)).2 = _ from buffered]
      exact whole)]
  have later : traffic.server.streams index ++ [byte] ++ rest =
      asked.flatMap SocketRequest.encode := by
    simpa using words
  have front : (requestsOf (traffic.server.streams index)).1 ++ [request] <+: asked :=
    requests ▸ requests_of_front bounded later
  by_cases closes : isClose request
  · rw [if_pos closes] at bound
    refine .closed (fun waits => lawful.unaccepted id waits index live) (fun other now => ?_)
      ⟨request, front.subset (by simp), closes⟩
    by_cases same : other = index
    · rw [same, bound] at now
      cases now
    · rw [others other same] at now
      exact same (lawful.distinct other index id now live)
  · rw [if_neg closes] at bound
    refine .bound index bound (by rw [stream, later]) fun first => ?_
    obtain ⟨settled, before⟩ := answer first
    rw [opens first] at front
    have shape : (requestsOf (traffic.server.streams index)).1 = [] ∧ request = .openSocket := by
      have short := front.length_le
      cases earlier : (requestsOf (traffic.server.streams index)).1 with
      | nil =>
        rw [earlier, nil_append, cons_prefix_cons] at front
        exact ⟨rfl, front.1⟩
      | cons one more =>
        rw [earlier] at short
        simp at short
    rcases before with ⟨-, slot, quiet⟩ | ⟨taken, -⟩
    · obtain ⟨idle, told⟩ := opened shape.2 slot quiet
      refine ⟨idle, .inr ⟨?_, told⟩⟩
      rw [stream, requests, shape.1, shape.2]
      rfl
    · rw [show (requestsOf (traffic.server.place index).stream).1 = _ from shape.1] at taken
      cases taken

end Turn

theorem opening_asked {call : EvaluateCall} {client : EvaluateState}
    (asking : call.Asking asked client) (opening : client.stage = some .opening) :
    asked = [.openSocket] := by
  unfold EvaluateCall.Asking at asking
  rw [opening] at asking
  obtain ⟨front, split, -, first, -⟩ := asking
  rw [split, first.mp rfl]
  rfl

theorem turn_cases (stack : TcpStack Sock) (traffic : CallTraffic Sock)
    {id : Nat} (serves : traffic.server.loop.Serves index)
    (live : traffic.server.loop.liveSessions index = some id) (byte : UInt8) (offset : UInt32) :
    let place := (traffic.server.step stack (.serve index offset (some byte))).place index
    let sent := (traffic.server.loop.serve stack index offset (some byte)).1
    (SocketRequest.decode (traffic.server.loop.received index (some byte)) = none ∧ sent = none ∧
        place = { traffic.server.place index with
          buf := traffic.server.loop.received index (some byte)
          stream := traffic.server.streams index ++ [byte] }) ∨
      ∃ request size,
        SocketRequest.decode (traffic.server.loop.received index (some byte)) =
          some (request, size) ∧
        place.live = (if isClose request then none else some id) ∧
        place.stream = traffic.server.streams index ++ [byte] ∧
        (∀ recipient response, sent = some (recipient, response) → recipient = id) ∧
        (request = .openSocket → traffic.server.loop.slots index = none →
          place.connecting = none ∧ sent = some (id, .opened (ownHandle index))) := by
  have serving := ServerLoop.serving stack traffic.server.loop index offset (some byte)
  rw [step_serve]
  generalize (traffic.server.loop.serve stack index offset (some byte)).1 = sent at serving
  generalize (traffic.server.loop.serve stack index offset (some byte)).2 = loop at serving
  cases serving with
  | skips held => exact absurd serves held
  | waits _ partly => exact .inl ⟨partly, rfl, served_waits_place serves partly⟩
  | answers bound settled whole handles =>
    rename_i session size request outcome handled
    obtain rfl : session = id := Option.some.inj (bound.symm.trans live)
    have place : (traffic.server.served index (some byte) (outcome.addressed session)
        (handled.conclude index offset request outcome)).place index = _ :=
      served_answers_place bound settled whole handles
    refine .inr ⟨request, size, whole, ?_, ?_, ?_, ?_⟩
    · rw [place, live]
    · rw [place]
      rfl
    · intro recipient response sent
      cases outcome with
      | immediate given => exact (Prod.mk.inj (Option.some.inj sent)).1.symm
      | connectPending => cases sent
    · rintro rfl slot
      rw [place]
      cases handles with
      | kept response stays used =>
        have held : (traffic.server.loop.slots index).isSome := used rfl
        rw [slot] at held
        cases held
      | opened free => exact ⟨rfl, rfl⟩
      | changed next found stays =>
        have held : traffic.server.loop.slots index = some _ :=
          (ServerLoop.socket_at_eq_some found).1
        rw [slot] at held
        cases held

variable (lawful : traffic.Lawful)

include lawful

theorem serve_byte (silent : traffic.outbox = none) {id : Nat} {session : Session} {byte : UInt8} {rest : Bytes}
    (serves : traffic.server.loop.Serves index)
    (live : traffic.server.loop.liveSessions index = some id)
    (found : traffic.table.find id = some session)
    (taken : session.queue .owner = byte :: rest) (offset : UInt32) :
    ({ traffic with table := traffic.table.put id (session.setQueue rest .owner) }.serverStep stack
      (.serve index offset (some byte))
      (traffic.server.loop.serve stack index offset (some byte)).1).Lawful := by
  have others : ∀ other, other ≠ index →
      (traffic.server.step stack (.serve index offset (some byte))).place other =
        traffic.server.place other := by
    intro other elsewhere
    exact served_other
      (ServerLoop.serving stack traffic.server.loop index offset (some byte)) elsewhere
  have turn := turn_cases stack traffic serves live byte offset
  generalize sends : (traffic.server.loop.serve stack index offset (some byte)).1 = sent at turn
  have recipient : ∀ other response, sent = some (other, response) → other = id := by
    rcases turn with ⟨-, nothing, -⟩ | ⟨_, _, -, -, -, own, -⟩
    · intro other response answered
      rw [nothing] at answered
      cases answered
    · exact own
  have liveAfter : ∀ other wanted,
      (traffic.server.step stack (.serve index offset (some byte))).loop.liveSessions other =
        some wanted → traffic.server.loop.liveSessions other = some wanted := by
    intro other wanted now
    by_cases same : other = index
    · subst same
      rcases turn with ⟨-, -, place⟩ | ⟨request, _, -, place, -⟩
      · exact (congrArg Place.live place).symm.trans now
      · rw [show (traffic.server.step stack _).loop.liveSessions other = _ from place] at now
        split_ifs at now
        exact live.trans now
    · exact (congrArg Place.live (others other same)).symm.trans now
  apply lawful.server_step (issued_put lawful.issued _ _) rfl (find_put_is_some _ _ _)
  · exact liveAfter
  · intro other response answered
    rw [recipient other response answered]
    exact lawful.bound index id live
  · intro wanted call client known
    obtain ⟨asking, bounded, seat⟩ := lawful.seated wanted call client known
    rw [silent, sending_none, append_nil] at seat
    rw [lane_put found, lane_put found]
    by_cases same : wanted = id
    · subst same
      rw [lane, lane, found, Option.elim_some, Option.elim_some, taken] at seat
      simp only [Session.queue_set_queue, reduceCtorEq, if_true, if_false]
      rcases turn with ⟨partly, nothing, place⟩ | ⟨request, size, whole, bound, stream, -, opened⟩
      · rw [nothing, Option.map_none, sending_none, append_nil]
        exact lawful.seat_waits live partly seat place
      refine lawful.seat_answers live whole bounded (opening_asked asking) seat bound stream
        others fun opens slot quiet => ?_
      obtain ⟨idle, told⟩ := opened opens slot
      refine ⟨idle, ?_⟩
      rw [told, ← append_assoc, quiet]
      simp [sending]
    · have quiet : sending (sent.map fun (id, response) => (id, response.encode)) wanted = [] :=
        sending_reply fun response answered => same (recipient wanted response answered)
      rw [if_neg same, if_neg same, quiet, append_nil]
      refine seat.kept Iff.rfl (fun other bound => others other ?_) fun other now =>
        liveAfter other wanted now
      rintro rfl
      exact same (Option.some.inj (bound.symm.trans live))

theorem serve (silent : traffic.outbox = none)
    (index : Fin maxSockets) (offset : UInt32) : (traffic.serveStep stack index offset).Lawful := by
  unfold serveStep
  cases waits : traffic.waiting index with
  | none =>
    obtain ⟨nothing, places⟩ :=
      step_serve_nothing stack lawful.server index offset
    rw [nothing]
    exact lawful.idle_step silent places
  | some turn =>
    obtain ⟨id, byte, after⟩ := turn
    unfold waiting at waits
    split_ifs at waits with serves
    obtain ⟨_, live, present⟩ := Option.bind_eq_some_iff.mp waits
    obtain ⟨session, found, received⟩ := Option.bind_eq_some_iff.mp present
    dsimp only [Session.tryRecv, Role.other] at received
    cases lane : session.queue .owner with
    | nil =>
      rw [lane] at received
      cases received
    | cons head rest =>
      rw [lane] at received
      obtain ⟨rfl, rfl, rfl⟩ := received
      exact lawful.serve_byte silent serves live found lane offset

theorem send : traffic.sendStep.Lawful := by
  unfold sendStep
  cases out : traffic.outbox with
  | none => exact lawful
  | some pair =>
    obtain ⟨id, bytes⟩ := pair
    have known := lawful.sent id bytes out
    cases bytes with
    | nil =>
      refine lawful.evolve lawful.server lawful.issued rfl (fun _ => rfl) (fun _ => rfl)
        (fun _ _ live => live) nofun fun wanted call client here => ?_
      have seated := lawful.seated wanted call client here
      rw [out] at seated
      simpa [sending] using seated
    | cons byte rest =>
      obtain ⟨session, found⟩ := Option.isSome_iff_exists.mp (lawful.found id known)
      simp only [found]
      cases sent : session.send byte .server with
      | none => exact lawful
      | some result =>
        obtain ⟨went, after⟩ := result
        rw [Session.send_eq_some sent]
        refine lawful.evolve lawful.server (issued_put lawful.issued _ _) rfl
          (find_put_is_some _ _ _) (fun _ => rfl) (fun _ _ live => live) ?_
          fun wanted call client here => ?_
        · intro wanted bytes next
          cases next
          exact known
        · have seated := lawful.seated wanted call client here
          rw [out] at seated
          dsimp only
          rw [lane_put found, lane_put found]
          by_cases same : wanted = id
          · subst same
            rw [lane, lane, found] at seated
            simpa [sending] using seated
          · simpa [same, sending, Ne.symm same] using seated

theorem step (event : TrafficEvent Sock) : (traffic.step stack thread event).Lawful := by
  have idle : ∀ {next : CallTraffic Sock}, (traffic.outbox = none → next.Lawful) →
      (traffic.whenIdle next).Lawful := by
    intro next kept
    unfold whenIdle
    split_ifs with silent
    · exact kept (Option.isNone_iff_eq_none.mp silent)
    · exact lawful
  cases event with
  | begin owner call => exact lawful.begin_call owner call
  | client id => exact lawful.client_step id
  | poll change => exact idle fun silent => lawful.idle_step silent fun _ => rfl
  | resolve index offset => exact idle fun silent => lawful.resolve silent index offset
  | accept => exact idle fun silent => lawful.accept silent
  | serve index offset => exact idle fun silent => lawful.serve silent index offset
  | send => exact lawful.send

end Lawful

theorem start_lawful : (start : CallTraffic Sock).Lawful where
  server := ready_lawful
  issued := nofun
  queue := nodup_nil
  unaccepted := nofun
  distinct := nofun
  queued := nofun
  bound := nofun
  sent := nofun
  found := nofun
  seated := nofun

theorem run_lawful (stack : TcpStack Sock) (thread : Thread) (events : List (TrafficEvent Sock)) :
    (run (step stack thread) start events).Lawful :=
  run_invariant _ (fun _ event lawful => lawful.step event) events start start_lawful

end CallTraffic

end Runix.Kernel
