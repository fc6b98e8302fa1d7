import Runix.NetDriver.ServerLoop

/-!
# Runs of the sockets server

What holds over every sequence of the server's steps, with any sessions offered, any bytes
received and any behaviour of the network: the sockets stay with the sessions that opened
them, the responses go to the sessions that asked, and the bytes in a request buffer are
what is left of the stream of the session at that index.
-/

namespace Runix.NetDriver

open Ipc Lib Lib.ByteStrings Lib.Reading Lib.Runs Function List SocketRequest Slab

variable {Sock : Type} (stack : TcpStack Sock)

/-! ## Slots and sockets -/

/-- Each slot in use has a socket of its own, and there are no others. -/
structure Wired (sockets : List (Option Sock)) (slots : Fin maxSockets → Option Nat) : Prop where
  held : ∀ index key, slots index = some key → (get sockets key).isSome
  distinct : ∀ index other key, slots index = some key → slots other = some key → index = other
  covered : ∀ key, (get sockets key).isSome → ∃ index, slots index = some key

namespace Wired

variable {sockets : List (Option Sock)} {slots : Fin maxSockets → Option Nat}

variable (wired : Wired sockets slots)

include wired

theorem at_most : (keys sockets).length ≤ maxSockets := by
  have covers : ∀ key, (get sockets key).isSome →
      key ∈ (List.finRange maxSockets).filterMap slots := by
    intro key used
    obtain ⟨index, slot⟩ := wired.covered key used
    exact mem_filterMap.mpr ⟨index, mem_finRange index, slot⟩
  calc (keys sockets).length
      ≤ ((List.finRange maxSockets).filterMap slots).length := keys_length_le covers
    _ ≤ (List.finRange maxSockets).length := length_filterMap_le _ _
    _ = maxSockets := length_finRange

variable {index : Fin maxSockets}

theorem opened (free : slots index = none) (socket : Sock) :
    Wired (add sockets socket).2
      (update slots index (some (add sockets socket).1)) := by
  obtain ⟨fresh, found⟩ := get_add sockets socket
  have unused : ∀ other, slots other ≠ some (add sockets socket).1 := by
    intro other slot
    have used := wired.held other _ slot
    rw [fresh] at used
    cases used
  constructor
  · intro other key slot
    rw [found]
    split_ifs with same
    · rfl
    by_cases here : other = index
    · rw [here, update_self] at slot
      exact absurd (Option.some.inj slot).symm same
    · rw [update_of_ne here] at slot
      exact wired.held other key slot
  · intro first second key slotFirst slotSecond
    by_cases firstHere : first = index <;> by_cases secondHere : second = index
    · rw [firstHere, secondHere]
    · rw [firstHere, update_self] at slotFirst
      rw [update_of_ne secondHere, ← slotFirst] at slotSecond
      exact absurd slotSecond (unused second)
    · rw [secondHere, update_self] at slotSecond
      rw [update_of_ne firstHere, ← slotSecond] at slotFirst
      exact absurd slotFirst (unused first)
    · rw [update_of_ne firstHere] at slotFirst
      rw [update_of_ne secondHere] at slotSecond
      exact wired.distinct first second key slotFirst slotSecond
  · intro key used
    rw [found] at used
    split_ifs at used with same
    · exact ⟨index, by rw [update_self, same]⟩
    obtain ⟨other, slot⟩ := wired.covered key used
    have elsewhere : other ≠ index := by
      rintro rfl
      rw [free] at slot
      cases slot
    exact ⟨other, by rw [update_of_ne elsewhere, slot]⟩

/-- The same places are in use. -/
theorem congr {after : List (Option Sock)}
    (same : ∀ key, (Slab.get after key).isSome = (Slab.get sockets key).isSome) :
    Wired after slots := by
  constructor
  · intro index key slot
    rw [same]
    exact wired.held index key slot
  · exact wired.distinct
  · intro key used
    rw [same] at used
    exact wired.covered key used

theorem changed {key : Nat} {old : Sock} (found : Slab.get sockets key = some old) (next : Sock) :
    Wired (put sockets key next) slots := by
  apply wired.congr
  intro wanted
  rw [Slab.get_put found]
  split_ifs with here
  · rw [here, found]
    rfl
  · rfl

theorem closed {key : Nat} (slot : slots index = some key) :
    Wired (remove sockets key) (update slots index none) := by
  constructor
  · intro other wanted found
    have elsewhere : other ≠ index := by
      rintro rfl
      rw [update_self] at found
      cases found
    rw [update_of_ne elsewhere] at found
    have differ : wanted ≠ key := by
      rintro rfl
      exact elsewhere (wired.distinct other index wanted found slot)
    rw [get_remove, if_neg differ]
    exact wired.held other wanted found
  · intro first second wanted slotFirst slotSecond
    have elsewhere : ∀ other, update slots index none other = some wanted →
        slots other = some wanted := by
      intro other found
      by_cases here : other = index
      · rw [here, update_self] at found
        cases found
      · rwa [update_of_ne here] at found
    exact wired.distinct first second wanted (elsewhere _ slotFirst) (elsewhere _ slotSecond)
  · intro wanted used
    rw [get_remove] at used
    split_ifs at used with same
    · cases used
    obtain ⟨other, found⟩ := wired.covered wanted used
    have elsewhere : other ≠ index := by
      rintro rfl
      rw [slot] at found
      exact same (Option.some.inj found).symm
    exact ⟨other, by rw [update_of_ne elsewhere, found]⟩

theorem polled (change : Nat → Sock → Sock) :
    Wired (sockets.mapIdx fun key place => place.map (change key)) slots := by
  apply wired.congr
  intro key
  rw [Slab.get, Slab.get, List.getElem?_mapIdx]
  cases sockets[key]? with
  | none => rfl
  | some place => cases place <;> rfl

end Wired

variable {other : Fin maxSockets} {sent : Option (Nat × SocketResponse)}

namespace ServerLoop

variable {stack} {loop handled : ServerLoop Sock} {index : Fin maxSockets}
  {request : SocketRequest} {outcome : RequestOutcome}

theorem Handles.wired (handles : Handles stack loop index request outcome handled)
    (wired : Wired loop.sockets loop.slots) : Wired handled.sockets handled.slots := by
  cases handles with
  | kept response stays used => exact wired
  | opened free => exact wired.opened free stack.new
  | changed next found stays => exact wired.changed (socket_at_eq_some found).2 next
  | closed handle response =>
    unfold closeSlot
    split
    · exact wired
    · exact wired.closed ‹_›

theorem Handles.fields (handles : Handles stack loop index request outcome handled) :
    handled.liveSessions = loop.liveSessions ∧ handled.requestBufs = loop.requestBufs ∧
      handled.pendingConnectSince = loop.pendingConnectSince := by
  cases handles with
  | kept response stays used => exact ⟨rfl, rfl, rfl⟩
  | opened free => exact ⟨rfl, rfl, rfl⟩
  | changed next found stays => exact ⟨rfl, rfl, rfl⟩
  | closed handle response =>
    unfold closeSlot
    split <;> exact ⟨rfl, rfl, rfl⟩

theorem close_slot_slots (loop : ServerLoop Sock) (index : Fin maxSockets) :
    (loop.closeSlot index).slots = update loop.slots index none := by
  unfold closeSlot
  split
  · rename_i free
    rw [← free, update_eq_self]
  · rfl

theorem Handles.other_slot (handles : Handles stack loop index request outcome handled)
    (elsewhere : other ≠ index) : handled.slots other = loop.slots other := by
  cases handles with
  | kept response stays used => rfl
  | opened free => exact update_of_ne elsewhere _ _
  | changed next found stays => rfl
  | closed handle response =>
    rw [close_slot_slots]
    exact update_of_ne elsewhere _ _

theorem Handles.other_socket (handles : Handles stack loop index request outcome handled)
    (wired : Wired loop.sockets loop.slots) (elsewhere : other ≠ index) :
    handled.socketAt other = loop.socketAt other := by
  unfold socketAt
  rw [handles.other_slot elsewhere]
  cases slot : loop.slots other with
  | none => rfl
  | some key =>
    have same : get handled.sockets key = get loop.sockets key := by
      cases handles with
      | kept response stays used => rfl
      | opened free =>
        obtain ⟨fresh, found⟩ := get_add loop.sockets stack.new
        have used := wired.held other key slot
        have differ : key ≠ (add loop.sockets stack.new).1 := by
          rintro rfl
          rw [fresh] at used
          cases used
        rw [openSlot, found, if_neg differ]
      | changed next found stays =>
        obtain ⟨own, there⟩ := socket_at_eq_some found
        rw [putSocket, get_put there, if_neg]
        rintro rfl
        exact elsewhere (wired.distinct other index _ slot own)
      | closed handle response =>
        unfold closeSlot
        split
        · rfl
        rename_i own taken
        rw [get_remove, if_neg]
        rintro rfl
        exact elsewhere (wired.distinct other index _ slot taken)
    simp only [Option.bind_some, same]

/-! ## One index's turn -/

/-- The turn is skipped, its byte is not the last of a request, or a request is handled. -/
inductive Serving (stack : TcpStack Sock) (loop : ServerLoop Sock) (index : Fin maxSockets)
    (offset : UInt32) (byte : Option UInt8) :
    Option (Nat × SocketResponse) → ServerLoop Sock → Prop
  | skips (held : ¬ loop.Serves index) : Serving stack loop index offset byte none loop
  | waits (serves : loop.Serves index)
      (partly : decode (loop.received index byte) = none) :
      Serving stack loop index offset byte none (loop.setBuf index (loop.received index byte))
  | answers {session consumed : Nat} {request : SocketRequest} {outcome : RequestOutcome}
      {handled : ServerLoop Sock} (bound : loop.liveSessions index = some session)
      (settled : loop.pendingConnectSince index = none)
      (whole : decode (loop.received index byte) = some (request, consumed))
      (handles : Handles stack (loop.setBuf index ((loop.received index byte).drop consumed))
        index request outcome handled) :
      Serving stack loop index offset byte (outcome.addressed session)
        (handled.conclude index offset request outcome)

theorem serving (stack : TcpStack Sock) (loop : ServerLoop Sock) (index : Fin maxSockets)
    (offset : UInt32) (byte : Option UInt8) :
    Serving stack loop index offset byte (loop.serve stack index offset byte).1
      (loop.serve stack index offset byte).2 := by
  unfold serve
  cases bound : loop.liveSessions index with
  | none => exact .skips (by simp [Serves, bound])
  | some session =>
    cases connecting : loop.pendingConnectSince index with
    | some since => exact .skips (by simp [Serves, connecting])
    | none =>
      simp only [Option.isSome_none, Bool.false_eq_true, if_false]
      cases found : decode (loop.received index byte) with
      | none => exact .waits ⟨by simp [bound], connecting⟩ found
      | some pair => exact .answers bound connecting found (handles_pinned _ _ _ _)

theorem release_fields (loop : ServerLoop Sock) (index : Fin maxSockets) (request : SocketRequest) :
    (loop.release index request).sockets = loop.sockets ∧
      (loop.release index request).slots = loop.slots ∧
      (loop.release index request).requestBufs = loop.requestBufs ∧
      (loop.release index request).pendingConnectSince = loop.pendingConnectSince := by
  unfold release
  split_ifs <;> exact ⟨rfl, rfl, rfl, rfl⟩

theorem release_live (loop : ServerLoop Sock) (index : Fin maxSockets) (request : SocketRequest) :
    (loop.release index request).liveSessions =
      if isClose request then update loop.liveSessions index none
      else loop.liveSessions := by
  unfold release
  split_ifs <;> rfl

section Conclusion

variable (loop index) (offset : UInt32) (request outcome)

theorem conclude_fields :
    (loop.conclude index offset request outcome).sockets = loop.sockets ∧
      (loop.conclude index offset request outcome).slots = loop.slots ∧
      (loop.conclude index offset request outcome).requestBufs = loop.requestBufs := by
  cases outcome with
  | immediate response =>
    obtain ⟨sockets, slots, bufs, -⟩ := release_fields loop index request
    exact ⟨sockets, slots, bufs⟩
  | connectPending =>
    obtain ⟨sockets, slots, bufs, -⟩ :=
      release_fields (loop.awaitConnect index offset) index request
    exact ⟨sockets, slots, bufs⟩

theorem conclude_live :
    (loop.conclude index offset request outcome).liveSessions =
      if isClose request then update loop.liveSessions index none
      else loop.liveSessions := by
  cases outcome with
  | immediate response => exact release_live loop index request
  | connectPending => exact release_live (loop.awaitConnect index offset) index request

theorem conclude_pending :
    (loop.conclude index offset request outcome).pendingConnectSince =
      if outcome = .connectPending then
        update loop.pendingConnectSince index (some offset)
      else loop.pendingConnectSince := by
  cases outcome with
  | immediate response => simp [conclude, release_fields]
  | connectPending => simp [conclude, release_fields, awaitConnect]

end Conclusion

theorem Serving.other_socket {offset : UInt32} {byte : Option UInt8}
    (serving : Serving stack loop index offset byte sent handled)
    (wired : Wired loop.sockets loop.slots) (elsewhere : other ≠ index) :
    handled.socketAt other = loop.socketAt other := by
  cases serving with
  | skips held => rfl
  | waits serves partly => rfl
  | answers bound settled whole handles =>
    rename_i session size request outcome next
    obtain ⟨sockets, slots, -⟩ := conclude_fields next index request outcome offset
    have same : (next.conclude index offset request outcome).socketAt other =
        next.socketAt other := by
      rw [socketAt, socketAt, sockets, slots]
    exact same.trans (handles.other_socket wired elsewhere)

end ServerLoop

/-! ## The history of a run -/

inductive LoopStep (Sock : Type) where
  | poll (change : Nat → Sock → Sock)
  | resolve (index : Fin maxSockets) (offset : UInt32)
  | accept (offered : Option Nat)
  | serve (index : Fin maxSockets) (offset : UInt32) (byte : Option UInt8)

/-- A response as it was sent for an index, with the session whose request was the last to be
handled there. -/
structure Reply where
  index : Fin maxSockets
  asker : Option Nat
  recipient : Nat
  response : SocketResponse
deriving DecidableEq, Repr

/-- The loop, with what no array of it keeps: for each index, the session that opened its
socket, the session of the last request and the bytes taken from the session bound there. -/
structure ServerHistory (Sock : Type) where
  loop : ServerLoop Sock
  openers : Fin maxSockets → Option Nat
  askers : Fin maxSockets → Option Nat
  streams : Fin maxSockets → Bytes
  replies : List Reply

namespace ServerHistory

variable (history : ServerHistory Sock)

def ready : ServerHistory Sock where
  loop := .ready
  openers := fun _ => none
  askers := fun _ => none
  streams := fun _ => []
  replies := []

variable (index : Fin maxSockets)

def replied (asker : Option Nat) : Option (Nat × SocketResponse) → List Reply
  | none => history.replies
  | some (recipient, response) => history.replies ++ [⟨index, asker, recipient, response⟩]

/-- The session of the last request at an index, after a turn. -/
def askerAfter (byte : Option UInt8) : Option Nat :=
  if history.loop.Serves index ∧
      (decode (history.loop.received index byte)).isSome then
    history.loop.liveSessions index
  else history.askers index

def openerAfter (slot : Option Nat) : Option Nat :=
  if history.loop.slots index = none ∧ slot.isSome then history.loop.liveSessions index
  else history.openers index

def streamAfter (byte : Option UInt8) : Bytes :=
  if history.loop.Serves index then history.streams index ++ byte.toList
  else history.streams index

def step : LoopStep Sock → ServerHistory Sock
  | .poll change => { history with loop := history.loop.poll change }
  | .resolve index offset =>
    let (sent, loop) := history.loop.resolveConnect stack index offset
    { history with
      loop := loop
      replies := history.replied index (history.askers index) sent }
  | .accept offered =>
    { history with
      loop := history.loop.accept offered
      streams := fun index =>
        if (history.loop.accept offered).liveSessions index = history.loop.liveSessions index
        then history.streams index else [] }
  | .serve index offset byte =>
    let (sent, loop) := history.loop.serve stack index offset byte
    { loop := loop
      openers := update history.openers index
        (history.openerAfter index (loop.slots index))
      askers := update history.askers index (history.askerAfter index byte)
      streams := update history.streams index (history.streamAfter index byte)
      replies := history.replied index (history.askerAfter index byte) sent }

end ServerHistory

/-! ## What is kept for an index -/

def requestsOf (stream : Bytes) : List SocketRequest × Bytes :=
  receive decode [] stream

theorem requests_of_waiting {stream : Bytes} {byte : UInt8}
    (partly : decode ((requestsOf stream).2 ++ [byte]) = none) :
    requestsOf (stream ++ [byte]) = ((requestsOf stream).1, (requestsOf stream).2 ++ [byte]) := by
  unfold requestsOf at partly ⊢
  rw [receive_append]
  simp [receive, push, partly]

theorem requests_of_whole {stream : Bytes} {byte : UInt8} {request : SocketRequest} {size : Nat}
    (whole : decode ((requestsOf stream).2 ++ [byte]) = some (request, size)) :
    requestsOf (stream ++ [byte]) =
      ((requestsOf stream).1 ++ [request], ((requestsOf stream).2 ++ [byte]).drop size) := by
  unfold requestsOf at whole ⊢
  rw [receive_append]
  simp [receive, push, whole]

structure Place where
  live : Option Nat
  slot : Option Nat
  buf : Bytes
  connecting : Option UInt32
  opener : Option Nat
  asker : Option Nat
  stream : Bytes

namespace Place

/-- An index that is not bound is empty, a connect and a socket belong to the session bound
there, and the buffer is the rest of its stream, in which it has not yet closed. -/
structure Lawful (place : Place) : Prop where
  unbound : place.live = none → place.slot = none ∧ place.buf = []
  asker : place.connecting.isSome → place.slot.isSome ∧ place.asker = place.live
  opener : place.slot.isSome → place.opener = place.live
  buffered : (requestsOf place.stream).2 = place.buf
  partly : decode place.buf = none
  unclosed : place.live.isSome → ∀ request ∈ (requestsOf place.stream).1, isClose request = false

namespace Lawful

variable {place : Place}

variable (lawful : place.Lawful)

include lawful

theorem waits (bound : place.live.isSome) {byte : Option UInt8}
    (partly : decode (place.buf ++ byte.toList) = none) :
    Lawful { place with
      buf := place.buf ++ byte.toList
      stream := place.stream ++ byte.toList } := by
  cases byte with
  | none => simpa using lawful
  | some byte =>
    have later : requestsOf (place.stream ++ [byte]) =
        ((requestsOf place.stream).1, (requestsOf place.stream).2 ++ [byte]) :=
      requests_of_waiting (by rw [lawful.buffered]; exact partly)
    constructor
    · intro unbound
      rw [show place.live = none from unbound] at bound
      cases bound
    · exact lawful.asker
    · exact lawful.opener
    · rw [Option.toList_some, later, lawful.buffered]
    · exact partly
    · intro _ request member
      rw [Option.toList_some, later] at member
      exact lawful.unclosed bound request member

theorem answers (bound : place.live.isSome) {byte : Option UInt8}
    {request : SocketRequest} {size : Nat}
    (whole : decode (place.buf ++ byte.toList) = some (request, size)) {slot : Option Nat}
    {connecting : Option UInt32} {opener : Option Nat} (emptied : isClose request → slot = none)
    (connects : connecting.isSome → isClose request = false ∧ slot.isSome)
    (opened : slot.isSome → opener = place.live) :
    (place.buf ++ byte.toList).drop size = [] ∧
      Lawful {
        live := if isClose request then none else place.live
        slot := slot
        buf := []
        connecting := connecting
        opener := opener
        asker := place.live
        stream := place.stream ++ byte.toList } := by
  cases byte with
  | none =>
    rw [Option.toList_none, append_nil, lawful.partly] at whole
    cases whole
  | some byte =>
    have all : size = (place.buf ++ [byte]).length :=
      reads.whole_at_last lawful.partly whole
    have drained : (place.buf ++ [byte]).drop size = [] := by
      rw [all, drop_length]
    have later : requestsOf (place.stream ++ [byte]) =
        ((requestsOf place.stream).1 ++ [request],
          ((requestsOf place.stream).2 ++ [byte]).drop size) :=
      requests_of_whole (by rw [lawful.buffered]; exact whole)
    rw [lawful.buffered, drained] at later
    refine ⟨drained, ?_⟩
    constructor
    · intro unbound
      by_cases closes : isClose request
      · exact ⟨emptied closes, rfl⟩
      · simp only [closes, Bool.false_eq_true, if_false] at unbound
        rw [unbound] at bound
        cases bound
    · intro pending
      obtain ⟨stays, held⟩ := connects pending
      exact ⟨held, by simp [stays]⟩
    · intro held
      by_cases closes : isClose request
      · rw [show slot = none from emptied closes] at held
        cases held
      · simpa [closes] using opened held
    · rw [Option.toList_some, later]
    · rfl
    · intro still request' member
      rw [Option.toList_some, later] at member
      rcases mem_append.mp member with earlier | last
      · exact lawful.unclosed bound request' earlier
      rw [mem_singleton.mp last]
      by_contra closes
      rw [if_pos (Bool.not_eq_false _ |>.mp closes)] at still
      cases still

theorem settles : Lawful { place with connecting := none } where
  unbound := lawful.unbound
  asker := nofun
  opener := lawful.opener
  buffered := lawful.buffered
  partly := lawful.partly
  unclosed := lawful.unclosed

theorem accepts (unbound : place.live = none) (session : Nat) :
    Lawful { place with live := some session, stream := [] } := by
  obtain ⟨slot, buf⟩ := lawful.unbound unbound
  constructor
  · nofun
  · intro pending
    have held := (lawful.asker pending).1
    rw [slot] at held
    cases held
  · intro held
    rw [show place.slot = none from slot] at held
    cases held
  · exact buf.symm
  · exact lawful.partly
  · nofun

end Lawful

end Place

namespace ServerHistory

open ServerLoop

variable {stack} {history : ServerHistory Sock}

def place (history : ServerHistory Sock) (index : Fin maxSockets) : Place where
  live := history.loop.liveSessions index
  slot := history.loop.slots index
  buf := history.loop.requestBufs index
  connecting := history.loop.pendingConnectSince index
  opener := history.openers index
  asker := history.askers index
  stream := history.streams index

structure Lawful (history : ServerHistory Sock) : Prop where
  wired : Wired history.loop.sockets history.loop.slots
  places : ∀ index, (history.place index).Lawful
  replies : ∀ reply ∈ history.replies, reply.asker = some reply.recipient

theorem ready_lawful : (ready : ServerHistory Sock).Lawful where
  wired := by
    constructor
    · nofun
    · nofun
    · nofun
  places := by
    intro index
    constructor
    · intro _
      exact ⟨rfl, rfl⟩
    · nofun
    · nofun
    · rfl
    · rfl
    · nofun
  replies := nofun

theorem Lawful.replied (lawful : history.Lawful) {index : Fin maxSockets} {asker : Option Nat}
    (own : ∀ recipient response, sent = some (recipient, response) → asker = some recipient) :
    ∀ reply ∈ history.replied index asker sent, reply.asker = some reply.recipient := by
  cases sent with
  | none => exact lawful.replies
  | some pair =>
    intro reply member
    rcases mem_append.mp member with earlier | last
    · exact lawful.replies reply earlier
    · rw [mem_singleton.mp last]
      exact own pair.1 pair.2 rfl

theorem Lawful.poll (lawful : history.Lawful) (change : Nat → Sock → Sock) :
    (history.step stack (.poll change)).Lawful :=
  ⟨lawful.wired.polled change, lawful.places, lawful.replies⟩

/-! ### The end of a connect -/

theorem resolve_connect_cases (stack : TcpStack Sock) (loop : ServerLoop Sock) (index : Fin maxSockets) (offset : UInt32) :
    loop.resolveConnect stack index offset = (none, loop) ∨
      (loop.pendingConnectSince index).isSome ∧
        (loop.resolveConnect stack index offset).2 = loop.settled index ∧
        ∀ recipient response,
          (loop.resolveConnect stack index offset).1 = some (recipient, response) →
            loop.liveSessions index = some recipient := by
  unfold resolveConnect
  cases loop.pendingConnectSince index with
  | none => exact .inl rfl
  | some since =>
    cases loop.socketAt index with
    | none => exact .inr ⟨rfl, rfl, by simp⟩
    | some pair =>
      cases loop.liveSessions index with
      | none => exact .inr ⟨rfl, rfl, by simp⟩
      | some session =>
        dsimp only
        split_ifs
        · exact .inr ⟨rfl, rfl, by simp +contextual⟩
        · exact .inr ⟨rfl, rfl, by simp +contextual⟩
        · exact .inl rfl

theorem step_resolve_place (stack : TcpStack Sock) (history : ServerHistory Sock)
    (index : Fin maxSockets) (offset : UInt32) (other : Fin maxSockets) :
    (history.step stack (.resolve index offset)).place other = history.place other ∨
      other = index ∧ (history.loop.pendingConnectSince index).isSome ∧
        (history.step stack (.resolve index offset)).place other =
          { history.place other with connecting := none } := by
  have cases := resolve_connect_cases stack history.loop index offset
  dsimp only [step]
  generalize history.loop.resolveConnect stack index offset = result at cases
  obtain ⟨sent, loop⟩ := result
  rcases cases with same | ⟨pending, settled, -⟩
  · cases same
    exact .inl rfl
  obtain rfl : loop = history.loop.settled index := settled
  by_cases here : other = index
  · refine .inr ⟨here, pending, ?_⟩
    simp [place, ServerLoop.settled, here]
  · refine .inl ?_
    simp [place, ServerLoop.settled, here]

theorem Lawful.resolve (lawful : history.Lawful) (index : Fin maxSockets) (offset : UInt32) :
    (history.step stack (.resolve index offset)).Lawful where
  wired := by
    rcases resolve_connect_cases stack history.loop index offset with
      same | ⟨-, settled, -⟩
    · simpa [step, same] using lawful.wired
    · have wired : Wired (history.loop.settled index).sockets (history.loop.settled index).slots :=
        lawful.wired
      simpa [step, settled] using wired
  places := by
    intro other
    rcases step_resolve_place stack history index offset other with
      same | ⟨-, -, settled⟩
    · rw [same]
      exact lawful.places other
    · rw [settled]
      exact (lawful.places other).settles
  replies := by
    apply lawful.replied
    intro recipient response answered
    have sent : (history.loop.resolveConnect stack index offset).1 = some (recipient, response) :=
      answered
    rcases resolve_connect_cases stack history.loop index offset with
      same | ⟨pending, -, own⟩
    · rw [same] at sent
      cases sent
    · exact ((lawful.places index).asker pending).2.trans (own recipient response sent)

/-! ### An accept -/

theorem accept_cases (loop : ServerLoop Sock) (offered : Option Nat) :
    loop.accept offered = loop ∨
      ∃ index session, loop.liveSessions index = none ∧ offered = some session ∧
        loop.accept offered =
          { loop with liveSessions := update loop.liveSessions index (some session) } := by
  unfold ServerLoop.accept
  cases found : loop.freeIndex with
  | none => exact .inl rfl
  | some index =>
    cases offered with
    | none => exact .inl rfl
    | some session =>
      refine .inr ⟨index, session, ?_, rfl, rfl⟩
      simpa using List.find?_some found

theorem Lawful.accept (stack : TcpStack Sock) (lawful : history.Lawful) (offered : Option Nat) :
    (history.step stack (.accept offered)).Lawful := by
  dsimp only [step]
  rcases accept_cases history.loop offered with same | ⟨index, session, free, -, bound⟩
  · rw [same]
    refine ⟨lawful.wired, fun index => ?_, lawful.replies⟩
    simpa [place] using lawful.places index
  rw [bound]
  refine ⟨lawful.wired, fun other => ?_, lawful.replies⟩
  by_cases here : other = index
  · have started := (lawful.places index).accepts free session
    simpa [place, here, free] using started
  · simpa [place, here] using lawful.places other

/-! ### A turn -/

def served (history : ServerHistory Sock) (index : Fin maxSockets) (byte : Option UInt8)
    (sent : Option (Nat × SocketResponse)) (loop : ServerLoop Sock) : ServerHistory Sock where
  loop := loop
  openers := update history.openers index (history.openerAfter index (loop.slots index))
  askers := update history.askers index (history.askerAfter index byte)
  streams := update history.streams index (history.streamAfter index byte)
  replies := history.replied index (history.askerAfter index byte) sent

theorem step_serve (history : ServerHistory Sock) (index : Fin maxSockets) (offset : UInt32)
    (byte : Option UInt8) :
    history.step stack (.serve index offset byte) =
      history.served index byte (history.loop.serve stack index offset byte).1
        (history.loop.serve stack index offset byte).2 := rfl

variable {index : Fin maxSockets} {byte : Option UInt8} {offset : UInt32} {request : SocketRequest}

theorem askerAfter_answers {session size : Nat}
    (bound : history.loop.liveSessions index = some session)
    (settled : history.loop.pendingConnectSince index = none)
    (whole : decode (history.loop.received index byte) = some (request, size)) :
    history.askerAfter index byte = some session := by
  rw [askerAfter, if_pos ⟨⟨by simp [bound], settled⟩, by simp [whole]⟩, bound]

theorem served_other {loop : ServerLoop Sock}
    (serving : Serving stack history.loop index offset byte sent loop) (elsewhere : other ≠ index) :
    (history.served index byte sent loop).place other = history.place other := by
  have kept : loop.liveSessions other = history.loop.liveSessions other ∧
      loop.slots other = history.loop.slots other ∧
      loop.requestBufs other = history.loop.requestBufs other ∧
      loop.pendingConnectSince other = history.loop.pendingConnectSince other := by
    cases serving with
    | skips held => exact ⟨rfl, rfl, rfl, rfl⟩
    | waits serves partly => exact ⟨rfl, rfl, update_of_ne elsewhere _ _, rfl⟩
    | answers bound settled whole handles =>
      rename_i session size request outcome handled
      obtain ⟨-, slots, bufs⟩ := conclude_fields handled index request outcome offset
      obtain ⟨live, handledBufs, pending⟩ := handles.fields
      refine ⟨?_, ?_, ?_, ?_⟩
      · rw [conclude_live, live]
        split_ifs
        · exact update_of_ne elsewhere _ _
        · rfl
      · rw [slots]
        exact handles.other_slot elsewhere
      · rw [bufs, handledBufs]
        exact update_of_ne elsewhere _ _
      · rw [conclude_pending, pending]
        split_ifs
        · exact update_of_ne elsewhere _ _
        · rfl
  obtain ⟨live, slot, buf, pending⟩ := kept
  simp [place, served, live, slot, buf, pending, elsewhere]

theorem openerAfter_same (history : ServerHistory Sock) (index : Fin maxSockets) :
    history.openerAfter index (history.loop.slots index) = history.openers index := by
  rw [openerAfter, if_neg]
  rintro ⟨free, slot⟩
  rw [free] at slot
  cases slot

theorem served_skips_place (held : ¬ history.loop.Serves index) :
    (history.served index byte none history.loop).place index = history.place index := by
  simp [place, served, openerAfter_same, askerAfter, streamAfter, held]

theorem served_waits_place (serves : history.loop.Serves index)
    (partly : decode (history.loop.received index byte) = none) :
    (history.served index byte none
        (history.loop.setBuf index (history.loop.received index byte))).place index =
      { history.place index with
        buf := history.loop.received index byte
        stream := history.streams index ++ byte.toList } := by
  have asker : history.askerAfter index byte = history.askers index := by
    rw [askerAfter, if_neg]
    simp [partly]
  simp [place, served, openerAfter_same, asker, streamAfter, serves, setBuf]

theorem handles_own {loop handled : ServerLoop Sock}
    {outcome : RequestOutcome} (handles : Handles stack loop index request outcome handled) :
    (isClose request → handled.slots index = none) ∧
      (outcome = .connectPending → isClose request = false ∧ (handled.slots index).isSome) := by
  cases handles with
  | kept response stays used => exact ⟨by simp [stays], by simp⟩
  | opened free => exact ⟨by simp [isClose], by simp⟩
  | changed next found stays =>
    have slot := (socket_at_eq_some found).1
    exact ⟨by simp [stays], fun _ => ⟨stays, by simp [putSocket, slot]⟩⟩
  | closed handle response =>
    refine ⟨fun _ => ?_, by simp⟩
    rw [close_slot_slots, update_self]

section Answers

variable {session size : Nat} {request : SocketRequest} {outcome : RequestOutcome}
  {handled : ServerLoop Sock}

theorem served_answers_place (bound : history.loop.liveSessions index = some session)
    (settled : history.loop.pendingConnectSince index = none)
    (whole : decode (history.loop.received index byte) = some (request, size))
    (handles : Handles stack
      (history.loop.setBuf index ((history.loop.received index byte).drop size)) index request
      outcome handled) :
    (history.served index byte (outcome.addressed session)
        (handled.conclude index offset request outcome)).place index =
      { live := if isClose request then none else history.loop.liveSessions index
        slot := handled.slots index
        buf := (history.loop.received index byte).drop size
        connecting := if outcome = .connectPending then some offset else none
        opener := history.openerAfter index (handled.slots index)
        asker := history.loop.liveSessions index
        stream := history.streams index ++ byte.toList } := by
  obtain ⟨-, slots, bufs⟩ := conclude_fields handled index request outcome offset
  obtain ⟨live, handledBufs, pending⟩ := handles.fields
  have serves : history.loop.Serves index := ⟨by simp [bound], settled⟩
  have asker := askerAfter_answers bound settled whole
  have liveAfter : (handled.conclude index offset request outcome).liveSessions index =
      if isClose request then none else history.loop.liveSessions index := by
    rw [conclude_live, live]
    split_ifs
    · exact update_self ..
    · rfl
  have pendingAfter : (handled.conclude index offset request outcome).pendingConnectSince index =
      if outcome = .connectPending then some offset else none := by
    rw [conclude_pending, pending]
    split_ifs
    · exact update_self ..
    · exact settled
  have bufAfter : (handled.conclude index offset request outcome).requestBufs index =
      (history.loop.received index byte).drop size := by
    rw [bufs, handledBufs]
    exact update_self ..
  simp only [place, served, liveAfter, pendingAfter, bufAfter, slots, update_self, asker,
    bound, streamAfter, if_pos serves]

theorem served_answers (lawful : history.Lawful)
    (bound : history.loop.liveSessions index = some session)
    (settled : history.loop.pendingConnectSince index = none)
    (whole : decode (history.loop.received index byte) = some (request, size))
    (handles : Handles stack
      (history.loop.setBuf index ((history.loop.received index byte).drop size)) index request
      outcome handled) :
    ((history.served index byte (outcome.addressed session)
      (handled.conclude index offset request outcome)).place index).Lawful := by
  obtain ⟨emptied, connects⟩ := handles_own handles
  have opened : (handled.slots index).isSome →
      history.openerAfter index (handled.slots index) = history.loop.liveSessions index := by
    intro slot
    by_cases free : history.loop.slots index = none
    · rw [openerAfter, if_pos ⟨free, slot⟩]
    · have before : (history.loop.slots index).isSome := Option.isSome_iff_ne_none.mpr free
      rw [openerAfter, if_neg (by simp [free])]
      exact (lawful.places index).opener before
  have connecting : (if outcome = .connectPending then some offset else none).isSome →
      isClose request = false ∧ (handled.slots index).isSome := by
    intro waits
    split_ifs at waits with pends
    · exact connects pends
    · cases waits
  obtain ⟨drained, answers⟩ := (lawful.places index).answers (by simp [place, bound]) whole
    emptied connecting opened
  have empty : (history.loop.received index byte).drop size = [] := drained
  rw [served_answers_place bound settled whole handles, empty]
  exact answers

end Answers

theorem Lawful.serve (lawful : history.Lawful) (index : Fin maxSockets) (offset : UInt32)
    (byte : Option UInt8) : (history.step stack (.serve index offset byte)).Lawful := by
  have serving := serving stack history.loop index offset byte
  rw [step_serve]
  generalize (history.loop.serve stack index offset byte).1 = sent at serving
  generalize (history.loop.serve stack index offset byte).2 = loop at serving
  refine ⟨?_, fun other => ?_, lawful.replied fun recipient response answered => ?_⟩
  · cases serving with
    | skips held => exact lawful.wired
    | waits serves partly => exact lawful.wired
    | answers bound settled whole handles =>
      obtain ⟨sockets, slots, -⟩ := conclude_fields _ index _ _ offset
      rw [served, sockets, slots]
      exact handles.wired lawful.wired
  · by_cases here : other = index
    · subst here
      cases serving with
      | skips held =>
        rw [served_skips_place held]
        exact lawful.places other
      | waits serves partly =>
        rw [served_waits_place serves partly]
        exact (lawful.places other).waits serves.1 partly
      | answers bound settled whole handles =>
        exact served_answers lawful bound settled whole handles
    · exact served_other serving here ▸ lawful.places other
  · cases serving with
    | skips held => cases answered
    | waits serves partly => cases answered
    | answers bound settled whole handles =>
      rename_i session size request outcome handled
      rw [askerAfter_answers bound settled whole]
      cases outcome with
      | immediate given =>
        cases answered
        rfl
      | connectPending => cases answered

theorem step_serve_nothing (stack : TcpStack Sock) (lawful : history.Lawful)
    (index : Fin maxSockets) (offset : UInt32) :
    (history.loop.serve stack index offset none).1 = none ∧
      ∀ other, (history.step stack (.serve index offset none)).place other =
        history.place other := by
  have serving := serving stack history.loop index offset none
  rw [step_serve]
  generalize (history.loop.serve stack index offset none).1 = sent at serving
  generalize (history.loop.serve stack index offset none).2 = loop at serving
  have own : sent = none ∧ (history.served index none sent loop).place index =
      history.place index := by
    cases serving with
    | skips held => exact ⟨rfl, served_skips_place held⟩
    | waits serves partly =>
      refine ⟨rfl, ?_⟩
      rw [served_waits_place serves partly]
      simp [place, ServerLoop.received]
    | answers bound settled whole handles =>
      have partly : decode (history.loop.requestBufs index) = none :=
        (lawful.places index).partly
      rw [ServerLoop.received, Option.toList_none, append_nil, partly] at whole
      cases whole
  refine ⟨own.1, fun other => ?_⟩
  by_cases here : other = index
  · rw [here, own.2]
  · exact served_other serving here

theorem Lawful.step (lawful : history.Lawful) (event : LoopStep Sock) :
    (history.step stack event).Lawful := by
  cases event with
  | poll change => exact lawful.poll change
  | resolve index offset => exact lawful.resolve index offset
  | accept offered => exact lawful.accept stack offered
  | serve index offset byte => exact lawful.serve index offset byte

theorem run_lawful (stack : TcpStack Sock) (steps : List (LoopStep Sock)) :
    (run (ServerHistory.step stack) ready steps).Lawful :=
  run_invariant _ (fun _ event lawful => lawful.step event) steps ready ready_lawful

/-- At most four sockets are open, each for the session that opened it while that session is
bound to its slot; a turn of one session leaves everything of the others alone; every response
goes to the session whose request it answers; and a session is bound to an index that has no
socket, no pending connect and no bytes. -/
theorem sessions_keep_to_their_slots (stack : TcpStack Sock) (steps : List (LoopStep Sock)) :
    let history := run (ServerHistory.step stack) ready steps
    (keys history.loop.sockets).length ≤ 4 ∧
      (∀ index, (history.loop.slots index).isSome →
        ∃ session, history.loop.liveSessions index = some session ∧
          history.openers index = some session) ∧
      (∀ index offset byte other, other ≠ index →
        (history.step stack (.serve index offset byte)).place other = history.place other ∧
          (history.loop.serve stack index offset byte).2.socketAt other =
            history.loop.socketAt other) ∧
      (∀ reply ∈ history.replies, reply.asker = some reply.recipient) ∧
      ∀ offered index session, history.loop.liveSessions index = none →
        (history.loop.accept offered).liveSessions index = some session →
          (history.loop.accept offered).slots index = none ∧
            (history.loop.accept offered).pendingConnectSince index = none ∧
            (history.loop.accept offered).requestBufs index = [] := by
  intro history
  have lawful : history.Lawful := run_lawful stack steps
  refine ⟨lawful.wired.at_most, fun index held => ?_, fun index offset byte other elsewhere => ?_,
    lawful.replies, fun offered index session free _ => ?_⟩
  · have owner := (lawful.places index).opener held
    cases bound : history.loop.liveSessions index with
    | none =>
      have empty : history.loop.slots index = none := ((lawful.places index).unbound bound).1
      rw [empty] at held
      cases held
    | some session => exact ⟨session, rfl, owner.trans bound⟩
  · have serving := serving stack history.loop index offset byte
    exact ⟨served_other serving elsewhere, serving.other_socket lawful.wired elsewhere⟩
  · obtain ⟨slot, buf⟩ := (lawful.places index).unbound free
    have idle : history.loop.pendingConnectSince index = none := by
      by_contra waits
      have held := ((lawful.places index).asker (Option.isSome_iff_ne_none.mpr waits)).1
      rw [slot] at held
      cases held
    rcases accept_cases history.loop offered with same | ⟨_, _, -, -, same⟩ <;>
      rw [same] <;> exact ⟨slot, idle, buf⟩

end ServerHistory

end Runix.NetDriver
