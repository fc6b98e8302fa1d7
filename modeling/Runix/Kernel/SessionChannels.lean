import Runix.Kernel.Sessions
import Runix.Lib.Tables

/-!
# Session channels

`kernel/src/ipc.rs`, the calls on an open session and the reaping of an exited thread's
sessions.  A session has a lane for each participant's bytes, with a bounded queue and an
advisory lock; a participant writes its own lane and reads the other's.

A call that the source repeats until it can go on (a full queue, a lock that is held) is one
attempt here, and `none` while it cannot.
-/

namespace Runix.Kernel

open Lib.ByteStrings Lib.Tables

def sessionChannelCapacity : Nat := 32

def Role.other : Role → Role
  | .owner => .server
  | .server => .owner

namespace Session

variable (session : Session)

/-- `role_of`. -/
def roleOf (thread : Thread) : Option Role :=
  if session.owner = thread then some .owner
  else if session.server = some thread then some .server
  else none

def queue : Role → Bytes
  | .owner => session.ownerToServer
  | .server => session.serverToOwner

def setQueue (bytes : Bytes) : Role → Session
  | .owner => { session with ownerToServer := bytes }
  | .server => { session with serverToOwner := bytes }

def sendLocked : Role → Bool
  | .owner => session.ownerSendLocked
  | .server => session.serverSendLocked

def setSendLocked (locked : Bool) : Role → Session
  | .owner => { session with ownerSendLocked := locked }
  | .server => { session with serverSendLocked := locked }

def send (byte : UInt8) (session : Session) (role : Role) : Option (Bool × Session) :=
  if (session.queue role).length < sessionChannelCapacity then
    some (true, session.setQueue (session.queue role ++ [byte]) role)
  else none

def tryRecv (role : Role) : Option (Option UInt8 × Session) :=
  match session.queue role.other with
  | [] => some (none, session)
  | byte :: rest => some (some byte, session.setQueue rest role.other)

def beginSend (role : Role) : Option (Bool × Session) :=
  if session.sendLocked role then none else some (true, session.setSendLocked true role)

def endSend (role : Role) : Option (Bool × Session) :=
  some (true, session.setSendLocked false role)

/-! ## Participants -/

/-- The thread that speaks for a role.  An owner that accepts its own session keeps speaking
as the owner, and nobody speaks for the server. -/
def participant : Role → Option Thread
  | .owner => some session.owner
  | .server => session.server.filter fun server => server ≠ session.owner

variable (session : Session)

theorem role_of_eq_some_iff (thread : Thread) (role : Role) :
    session.roleOf thread = some role ↔ session.participant role = some thread := by
  unfold roleOf participant
  by_cases owned : session.owner = thread
  · cases role with
    | owner => simp [owned]
    | server => simp [owned, Option.filter_eq_some_iff]
  · have differ : thread ≠ session.owner := fun same => owned same.symm
    by_cases served : session.server = some thread <;> cases role <;>
      simp [owned, served, differ, Option.filter_eq_some_iff]

theorem participant_server_none {session : Session}
    (silent : ∀ server, session.server = some server → server = session.owner) :
    session.participant .server = none := by
  rw [participant, Option.filter_eq_none_iff]
  intro server accepted
  simpa using silent server accepted

theorem participant_server_some {session : Session} {server : Thread}
    (accepted : session.server = some server) (other : server ≠ session.owner) :
    session.participant .server = some server := by
  rw [participant, accepted, Option.filter_some, if_pos (by simpa using other)]

theorem role_of_eq_none_iff (thread : Thread) :
    session.roleOf thread = none ↔ thread ≠ session.owner ∧ session.server ≠ some thread := by
  unfold roleOf
  by_cases owned : session.owner = thread
  · simp [owned]
  · have differ : thread ≠ session.owner := fun same => owned same.symm
    by_cases served : session.server = some thread <;> simp [owned, served, differ]

structure SameParties (session other : Session) : Prop where
  owner : other.owner = session.owner
  server : other.server = session.server
  port : other.serverPort = session.serverPort

theorem SameParties.participant {session other : Session} (same : SameParties session other)
    (role : Role) : other.participant role = session.participant role := by
  cases role <;> simp [Session.participant, same.owner, same.server]

theorem SameParties.role_of {session other : Session} (same : SameParties session other)
    (thread : Thread) : other.roleOf thread = session.roleOf thread := by
  simp [roleOf, same.owner, same.server]

theorem set_queue_same (bytes : Bytes) (role : Role) :
    SameParties session (session.setQueue bytes role) := by
  cases role <;> exact ⟨rfl, rfl, rfl⟩

theorem set_send_locked_same (locked : Bool) (role : Role) :
    SameParties session (session.setSendLocked locked role) := by
  cases role <;> exact ⟨rfl, rfl, rfl⟩

@[simp]
theorem queue_set_send_locked (locked : Bool) (role lane : Role) :
    (session.setSendLocked locked role).queue lane = session.queue lane := by
  cases role <;> cases lane <;> rfl

@[simp]
theorem queue_set_queue (bytes : Bytes) (role lane : Role) :
    (session.setQueue bytes role).queue lane =
      if lane = role then bytes else session.queue lane := by
  cases role <;> cases lane <;> rfl

theorem send_eq_some {session next : Session} {byte : UInt8} {role : Role} {went : Bool}
    (sent : session.send byte role = some (went, next)) :
    next = session.setQueue (session.queue role ++ [byte]) role := by
  unfold send at sent
  split_ifs at sent
  exact (Prod.mk.inj (Option.some.inj sent)).2.symm

end Session

namespace SessionTable

variable (table : SessionTable) (id : Nat)

def put (session : Session) : SessionTable :=
  { table with
    sessions := table.sessions.map fun entry =>
      if entry.1 = id then (entry.1, session) else entry }

/-- A call on a session: refused for a session that does not exist and for a thread that does
not take part in it, and otherwise what the participant's attempt gives. -/
def asParticipant {Answer : Type} (table : SessionTable) (id : Nat) (caller : Thread)
    (refused : Answer) (attempt : Session → Role → Option (Answer × Session)) :
    Option (Answer × SessionTable) :=
  match table.find id with
  | none => some (refused, table)
  | some session =>
    match session.roleOf caller with
    | none => some (refused, table)
    | some role =>
      (attempt session role).map fun (answer, after) => (answer, table.put id after)

variable (caller : Thread)

def sessionSend (byte : UInt8) : Option (Bool × SessionTable) :=
  table.asParticipant id caller false (Session.send byte)

def sessionTryRecv : Option (Option UInt8 × SessionTable) :=
  table.asParticipant id caller none Session.tryRecv

def sessionBeginSend : Option (Bool × SessionTable) :=
  table.asParticipant id caller false Session.beginSend

def sessionEndSend : Option (Bool × SessionTable) :=
  table.asParticipant id caller false Session.endSend

/-- The queues are purged first, while the table still has the sessions of the thread. -/
def reapSessionsFor (thread : Thread) : SessionTable :=
  { table with
    pending := fun serverPort => (table.pending serverPort).filter fun id =>
      (table.find id).any fun session => session.owner ≠ thread
    sessions := table.sessions.filter fun entry =>
      entry.2.owner ≠ thread ∧ entry.2.server ≠ some thread }

/-! ## What a call finds -/

section Calls

variable {Answer : Type} {table : SessionTable} {id : Nat} {caller : Thread} {refused : Answer}
  {attempt : Session → Role → Option (Answer × Session)}

theorem role_of_eq (table : SessionTable) (id : Nat) (thread : Thread) :
    table.roleOf id thread = (table.find id).bind fun session => session.roleOf thread := rfl

theorem as_participant_refused (outside : table.roleOf id caller = none) :
    table.asParticipant id caller refused attempt = some (refused, table) := by
  rw [role_of_eq] at outside
  unfold asParticipant
  cases found : table.find id with
  | none => rfl
  | some session =>
    rw [found, Option.bind_some] at outside
    simp only [outside]

/-- A call that ends was refused, or went on for a participant of a session. -/
theorem as_participant_cases {answer : Answer} {after : SessionTable}
    (ended : table.asParticipant id caller refused attempt = some (answer, after)) :
    (answer = refused ∧ after = table) ∨
      ∃ session role next, table.find id = some session ∧ session.roleOf caller = some role ∧
        attempt session role = some (answer, next) ∧ after = table.put id next := by
  unfold asParticipant at ended
  cases found : table.find id with
  | none =>
    simp only [found, Option.some.injEq, Prod.mk.injEq] at ended
    exact .inl ⟨ended.1.symm, ended.2.symm⟩
  | some session =>
    cases known : session.roleOf caller with
    | none =>
      simp only [found, known, Option.some.injEq, Prod.mk.injEq] at ended
      exact .inl ⟨ended.1.symm, ended.2.symm⟩
    | some role =>
      simp only [found, known, Option.map_eq_some_iff] at ended
      obtain ⟨⟨given, next⟩, went, same⟩ := ended
      cases same
      exact .inr ⟨session, role, next, rfl, known, went, rfl⟩

end Calls

/-! ## The table after a call -/

section Finding

variable (table : SessionTable)

theorem find_eq_lookup (id : Nat) :
    table.find id = (lookup Prod.fst id table.sessions).map Prod.snd := rfl

theorem find_isSome_iff (id : Nat) :
    (table.find id).isSome ↔ ∃ entry ∈ table.sessions, entry.1 = id := by
  rw [find_eq_lookup, Option.isSome_map, lookup, List.find?_isSome]
  simp

theorem find_map (id wanted : Nat) (change : Session → Session) :
    (SessionTable.mk (table.sessions.map fun entry =>
        if entry.1 = id then (entry.1, change entry.2) else entry) table.pending
        table.nextId).find wanted =
      (table.find wanted).map fun session => if wanted = id then change session else session := by
  rw [find_eq_lookup, find_eq_lookup, lookup_map]
  · cases found : lookup Prod.fst wanted table.sessions with
    | none => rfl
    | some entry =>
      have key : entry.1 = wanted := lookup_key Prod.fst found
      by_cases same : wanted = id <;> simp [key, same]
  · intro entry
    split_ifs <;> rfl

theorem find_put (id wanted : Nat) (session : Session) :
    (table.put id session).find wanted =
      (table.find wanted).map fun old => if wanted = id then session else old :=
  table.find_map id wanted fun _ => session

variable (serverPort id : Nat)

def claimed (rest : List Nat) (server : Thread) : SessionTable :=
  { table with
    sessions := table.bind id server
    pending := Function.update table.pending serverPort rest }

theorem find_claimed (rest : List Nat) (server : Thread) (wanted : Nat) :
    (table.claimed serverPort id rest server).find wanted =
      (table.find wanted).map fun session =>
        if wanted = id then { session with server := some server } else session :=
  table.find_map id wanted fun session => { session with server := some server }

theorem claimed_pending (rest : List Nat) (server : Thread) :
    (table.claimed serverPort id rest server).pending =
      Function.update table.pending serverPort rest := rfl

theorem reaped_pending (thread : Thread) (serverPort : Nat) :
    (table.reapSessionsFor thread).pending serverPort =
      (table.pending serverPort).filter fun id =>
        (table.find id).any fun session => session.owner ≠ thread := rfl

theorem find_reaped (unique : (table.sessions.map Prod.fst).Nodup) (thread : Thread) (id : Nat) :
    (table.reapSessionsFor thread).find id =
      (table.find id).filter fun session =>
        session.owner ≠ thread ∧ session.server ≠ some thread := by
  exact lookup_filter_values unique
    (fun session => decide (session.owner ≠ thread ∧ session.server ≠ some thread)) id

end Finding

/-- A change to the sessions that keeps their identifiers. -/
theorem Issued.map {table : SessionTable} (issued : table.Issued)
    {change : Nat × Session → Nat × Session}
    (keys : ∀ entry ∈ table.sessions, (change entry).1 = entry.1) :
    ∀ entry ∈ table.sessions.map change, entry.1 < table.nextId := by
  intro entry member
  obtain ⟨old, present, rfl⟩ := List.mem_map.mp member
  rw [keys old present]
  exact issued old present

theorem Issued.opened {table : SessionTable} (issued : table.Issued) {owner : Thread}
    (room : table.HasRoom owner) (serverPort : Nat) :
    (table.sessionOpen serverPort owner).2.Issued := by
  rw [session_open_room room]
  intro entry member
  rcases List.mem_append.mp member with earlier | last
  · exact Nat.lt_succ_of_lt (issued entry earlier)
  · rw [List.mem_singleton.mp last]
    exact Nat.lt_succ_self _

theorem find_eq_none_of_issued {table : SessionTable} (issued : table.Issued) {id : Nat}
    (fresh : table.nextId ≤ id) : table.find id = none := by
  rw [← Option.not_isSome_iff_eq_none, find_isSome_iff]
  rintro ⟨entry, member, rfl⟩
  exact Nat.not_lt.mpr fresh (issued entry member)

theorem find_session_open {table : SessionTable} {owner : Thread} (issued : table.Issued)
    (room : table.HasRoom owner) (serverPort wanted : Nat) :
    (table.sessionOpen serverPort owner).2.find wanted =
      if wanted = table.nextId then
        some { ownerToServer := [], serverToOwner := [], ownerSendLocked := false,
               serverSendLocked := false, owner := owner, server := none,
               serverPort := serverPort }
      else table.find wanted := by
  by_cases same : wanted = table.nextId
  · rw [if_pos same, same]
    exact find_opened issued room serverPort
  · have differ : table.nextId ≠ wanted := fun equal => same equal.symm
    rw [if_neg same, session_open_room room, find_eq_lookup, find_eq_lookup,
      lookup_append_single, if_neg differ, Option.or_none]

end SessionTable

end Runix.Kernel
