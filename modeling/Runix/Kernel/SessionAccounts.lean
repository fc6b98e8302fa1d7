import Runix.Kernel.SessionChannels
import Runix.Lib.Runs

/-!
# What a history tells of a session

Any threads make session calls, on any identifiers and ports, in any order, and threads are
reaped between them.  A call that cannot go on yet is tried again and leaves no mark.

What a history says of one identifier is its `Account`: who opened it, who accepted it and
which bytes each thread sent and received on it.  `Live` says that a session of the table is
the one the account tells of; it is kept by everything that can happen to the session, and
what it leaves behind is `Faithful`.
-/

namespace Runix.Kernel

open Lib.ByteStrings Lib.Runs Function List Session

inductive SessionCall where
  | sessionOpen (serverPort : Nat) (owner : Thread)
  | sessionAccept (serverPort : Nat) (server : Thread)
  | sessionSend (id : Nat) (caller : Thread) (byte : UInt8)
  | sessionTryRecv (id : Nat) (caller : Thread)
  | sessionBeginSend (id : Nat) (caller : Thread)
  | sessionEndSend (id : Nat) (caller : Thread)
  | reapSessionsFor (thread : Thread)
deriving DecidableEq, Repr

inductive SessionAnswer where
  | session (id : Option Nat)
  | done (went : Bool)
  | byte (received : Option UInt8)
  | reaped
deriving DecidableEq, Repr

abbrev SessionEvent := SessionCall × SessionAnswer

namespace SessionTable

def boot : SessionTable := { sessions := [], pending := fun _ => [], nextId := 1 }

/-- One attempt at a call: `none` while the caller has to try again. -/
def complete (table : SessionTable) : SessionCall → Option (SessionAnswer × SessionTable)
  | .sessionOpen serverPort owner =>
    some ((table.sessionOpen serverPort owner).map .session id)
  | .sessionAccept serverPort server =>
    some ((table.sessionAccept serverPort server).map .session id)
  | .sessionSend session caller byte =>
    (table.sessionSend session caller byte).map (Prod.map .done id)
  | .sessionTryRecv session caller =>
    (table.sessionTryRecv session caller).map (Prod.map .byte id)
  | .sessionBeginSend session caller =>
    (table.sessionBeginSend session caller).map (Prod.map .done id)
  | .sessionEndSend session caller =>
    (table.sessionEndSend session caller).map (Prod.map .done id)
  | .reapSessionsFor thread => some (.reaped, table.reapSessionsFor thread)

end SessionTable

structure SessionLog where
  past : List SessionEvent
  table : SessionTable

namespace SessionLog

def attempt (log : SessionLog) (call : SessionCall) : SessionLog :=
  match log.table.complete call with
  | none => log
  | some (answer, table) => ⟨log.past ++ [(call, answer)], table⟩

def record (calls : List SessionCall) : SessionLog :=
  run attempt ⟨[], .boot⟩ calls

end SessionLog

/-! ## What a history says of a session -/

structure Account where
  openings : List (Thread × Nat)
  acceptors : List Thread
  sent : Thread → Bytes
  received : Thread → Bytes

namespace Account

def blank : Account :=
  { openings := [], acceptors := [], sent := fun _ => [], received := fun _ => [] }

def send (account : Account) (thread : Thread) (byte : UInt8) : Account :=
  { account with sent := update account.sent thread (account.sent thread ++ [byte]) }

def receive (account : Account) (thread : Thread) (byte : UInt8) : Account :=
  { account with
    received := update account.received thread (account.received thread ++ [byte]) }

section

variable (account : Account) (thread : Thread) (byte : UInt8)

@[simp]
theorem send_sent :
    (account.send thread byte).sent =
      update account.sent thread (account.sent thread ++ [byte]) := rfl

@[simp]
theorem send_received : (account.send thread byte).received = account.received := rfl

@[simp]
theorem receive_sent : (account.receive thread byte).sent = account.sent := rfl

@[simp]
theorem receive_received :
    (account.receive thread byte).received =
      update account.received thread (account.received thread ++ [byte]) := rfl

end

def note (id : Nat) (account : Account) : SessionEvent → Account
  | (.sessionOpen serverPort owner, .session (some given)) =>
    if given = id then { account with openings := account.openings ++ [(owner, serverPort)] }
    else account
  | (.sessionAccept _ server, .session (some given)) =>
    if given = id then { account with acceptors := account.acceptors ++ [server] }
    else account
  | (.sessionSend given caller byte, .done true) =>
    if given = id then account.send caller byte else account
  | (.sessionTryRecv given caller, .byte (some byte)) =>
    if given = id then account.receive caller byte else account
  | _ => account

def TakesPart (account : Account) (thread : Thread) : Prop :=
  thread ∈ account.openings.map Prod.fst ∨ thread ∈ account.acceptors

instance (account : Account) (thread : Thread) : Decidable (account.TakesPart thread) :=
  inferInstanceAs (Decidable (_ ∨ _))

/-- What the history of an identifier comes to: it was opened and accepted at most once, each
participant received a front of what the other sent, nothing was received before it was
accepted, and no other thread sent or received a byte. -/
structure Faithful (account : Account) : Prop where
  opened_once : account.openings.length ≤ 1
  accepted_once : account.acceptors.length ≤ 1
  in_order : ∀ owner ∈ account.openings.map Prod.fst, ∀ server ∈ account.acceptors,
    account.received owner <+: account.sent server ∧
      account.received server <+: account.sent owner
  not_early : account.acceptors = [] → ∀ thread, account.received thread = []
  no_stranger : ∀ thread, ¬ account.TakesPart thread →
    account.sent thread = [] ∧ account.received thread = []

/-- The session in the table is the one its history tells of. -/
structure Live (account : Account) (session : Session) : Prop where
  openings : account.openings = [(session.owner, session.serverPort)]
  acceptors : account.acceptors = session.server.toList
  lanes : ∀ role, (session.participant role).elim [] account.sent =
    (session.participant role.other).elim [] account.received ++ session.queue role
  strangers : ∀ thread, session.roleOf thread = none →
    account.sent thread = [] ∧ account.received thread = []

def Tells (account : Account) : Option Session → Prop
  | none => account.Faithful
  | some session => account.Live session

end Account

variable (past : List SessionEvent)

def account (id : Nat) : Account :=
  past.foldl (Account.note id) .blank

theorem account_snoc (event : SessionEvent) (id : Nat) :
    account (past ++ [event]) id = (account past id).note id event := by
  rw [account, foldl_append]
  rfl

def openedId : SessionEvent → Option Nat
  | (.sessionOpen _ _, .session given) => given
  | _ => none

def openedIds : List Nat := past.filterMap openedId

theorem opened_ids_snoc (event : SessionEvent) :
    openedIds (past ++ [event]) = openedIds past ++ (openedId event).toList := by
  cases told : openedId event <;> simp [told, openedIds]

namespace Account

/-! ## One session, step by step -/

section Live

variable {account : Account} {session : Session}

theorem live_opened (owner : Thread) (serverPort : Nat) :
    Live { blank with openings := [(owner, serverPort)] }
      { ownerToServer := [], serverToOwner := [], ownerSendLocked := false,
        serverSendLocked := false, owner := owner, server := none, serverPort := serverPort } where
  openings := rfl
  acceptors := rfl
  lanes := by
    intro role
    cases role <;> rfl
  strangers := fun _ _ => ⟨rfl, rfl⟩

section

variable (live : Live account session)

include live

theorem Live.takes_part_iff (thread : Thread) :
    account.TakesPart thread ↔ session.owner = thread ∨ session.server = some thread := by
  rw [TakesPart, live.openings, live.acceptors, map_singleton, mem_singleton,
    Option.mem_toList]
  exact or_congr eq_comm Iff.rfl

theorem Live.role_of_stranger {thread : Thread}
    (stranger : ¬ account.TakesPart thread) : session.roleOf thread = none := by
  rw [live.takes_part_iff, not_or] at stranger
  exact (session.role_of_eq_none_iff thread).mpr ⟨fun same => stranger.1 same.symm, stranger.2⟩

theorem Live.accepted (waiting : session.server = none) (server : Thread) :
    Live { account with acceptors := account.acceptors ++ [server] }
      { session with server := some server } where
  openings := live.openings
  acceptors := by rw [live.acceptors, waiting]; rfl
  lanes := by
    -- Nobody has spoken for the server yet, and the accepting thread is still a stranger.
    have silent : session.participant .server = none :=
      participant_server_none (by simp [waiting])
    have toServer : account.sent session.owner = session.ownerToServer := by
      have lane := live.lanes .owner
      rw [Role.other, silent] at lane
      exact lane
    have toOwner : [] = account.received session.owner ++ session.serverToOwner := by
      have lane := live.lanes .server
      rw [silent] at lane
      exact lane
    have heard : ({ session with server := some server } : Session).participant .server = none ∨
        ({ session with server := some server } : Session).participant .server = some server ∧
          account.sent server = [] ∧ account.received server = [] := by
      by_cases same : server = session.owner
      · exact .inl (participant_server_none fun other given =>
          (Option.some.inj given).symm.trans same)
      · exact .inr ⟨participant_server_some rfl same, live.strangers server
          ((session.role_of_eq_none_iff server).mpr ⟨same, by simp [waiting]⟩)⟩
    intro role
    rcases heard with alone | ⟨speaks, sentNothing, readNothing⟩
    · cases role with
      | owner => rw [Role.other, alone]; exact toServer
      | server => rw [alone]; exact toOwner
    · cases role with
      | owner => rw [Role.other, speaks, Option.elim_some, readNothing]; exact toServer
      | server => rw [speaks, Option.elim_some, sentNothing]; exact toOwner
  strangers := by
    intro thread outside
    apply live.strangers
    rw [role_of_eq_none_iff] at outside ⊢
    exact ⟨outside.1, by simp [waiting]⟩

theorem Live.relocked {next : Session} (same : Session.SameParties session next)
    (queues : ∀ role, next.queue role = session.queue role) : Live account next where
  openings := by rw [live.openings, same.owner, same.port]
  acceptors := by rw [live.acceptors, same.server]
  lanes := by
    intro role
    rw [same.participant, same.participant, queues]
    exact live.lanes role
  strangers := by
    intro thread outside
    rw [same.role_of] at outside
    exact live.strangers thread outside

end

theorem elim_update_other {caller : Thread} {role lane : Role}
    (known : session.roleOf caller = some role) (other : lane ≠ role) (told : Thread → Bytes) (bytes : Bytes) :
    (session.participant lane).elim [] (update told caller bytes) =
      (session.participant lane).elim [] told := by
  cases speaks : session.participant lane with
  | none => rfl
  | some thread =>
    have differ : thread ≠ caller := by
      intro same
      rw [same, ← role_of_eq_some_iff, known] at speaks
      exact other (Option.some.inj speaks).symm
    rw [Option.elim_some, Option.elim_some, update_of_ne differ]

theorem eq_of_other_eq {role lane : Role} (same : lane.other = role) : lane = role.other := by
  rw [← same]
  cases lane <;> rfl

section Bytes

variable {caller : Thread} {role : Role} {byte : UInt8} {bytes : Bytes}
  (live : Live account session) (known : session.roleOf caller = some role)
include live known

theorem Live.send :
    Live (account.send caller byte) (session.setQueue (session.queue role ++ [byte]) role) where
  openings := by
    rw [(session.set_queue_same _ role).owner, (session.set_queue_same _ role).port]
    exact live.openings
  acceptors := by
    rw [(session.set_queue_same _ role).server]
    exact live.acceptors
  lanes := by
    intro lane
    rw [(session.set_queue_same _ role).participant, (session.set_queue_same _ role).participant,
      queue_set_queue]
    by_cases here : lane = role
    · subst here
      have speaks := (session.role_of_eq_some_iff caller lane).mp known
      have before := live.lanes lane
      rw [speaks, Option.elim_some] at before ⊢
      rw [if_pos rfl, send_sent, send_received, update_self, before, append_assoc]
    · rw [if_neg here, send_sent, send_received, elim_update_other known here]
      exact live.lanes lane
  strangers := by
    intro thread outside
    rw [(session.set_queue_same _ role).role_of] at outside
    have differ : thread ≠ caller := by
      rintro rfl
      rw [known] at outside
      exact Option.some_ne_none _ outside
    rw [send_sent, send_received, update_of_ne differ]
    exact live.strangers thread outside

theorem Live.receive (front : session.queue role.other = byte :: bytes) :
    Live (account.receive caller byte) (session.setQueue bytes role.other) where
  openings := by
    rw [(session.set_queue_same _ _).owner, (session.set_queue_same _ _).port]
    exact live.openings
  acceptors := by
    rw [(session.set_queue_same _ _).server]
    exact live.acceptors
  lanes := by
    intro lane
    rw [(session.set_queue_same _ _).participant, (session.set_queue_same _ _).participant,
      queue_set_queue]
    have before := live.lanes lane
    by_cases here : lane.other = role
    · obtain rfl := eq_of_other_eq here
      have speaks := (session.role_of_eq_some_iff caller role).mp known
      rw [here, speaks, Option.elim_some, front] at before
      rw [if_pos rfl, receive_sent, receive_received, here, speaks, Option.elim_some,
        update_self, append_assoc, singleton_append]
      exact before
    · have apart : lane ≠ role.other := by
        rintro rfl
        exact here (by cases role <;> rfl)
      rw [if_neg apart, receive_sent, receive_received, elim_update_other known here]
      exact before
  strangers := by
    intro thread outside
    rw [(session.set_queue_same _ _).role_of] at outside
    have differ : thread ≠ caller := by
      rintro rfl
      rw [known] at outside
      exact Option.some_ne_none _ outside
    rw [receive_sent, receive_received, update_of_ne differ]
    exact live.strangers thread outside

end Bytes

theorem Live.faithful (live : Live account session) : account.Faithful where
  opened_once := by rw [live.openings]; exact Nat.le_refl 1
  accepted_once := by rw [live.acceptors]; exact Option.length_toList_le
  in_order := by
    intro owner opened server accepted
    rw [live.openings, map_singleton, mem_singleton] at opened
    rw [live.acceptors, Option.mem_toList] at accepted
    subst opened
    have toServer := live.lanes .owner
    have toOwner := live.lanes .server
    by_cases same : server = session.owner
    · -- The owner accepted its own session: nothing reaches it.
      have silent : session.participant .server = none :=
        participant_server_none fun other given =>
          (Option.some.inj (given.symm.trans accepted)).trans same
      rw [silent] at toOwner
      have nothing : account.received session.owner = [] :=
        (append_eq_nil_iff.mp toOwner.symm).1
      rw [same, nothing]
      exact ⟨ nil_prefix, nil_prefix⟩
    · have speaks := participant_server_some accepted same
      rw [Role.other, speaks, Option.elim_some] at toServer
      rw [speaks, Option.elim_some] at toOwner
      exact ⟨⟨_, toOwner.symm⟩, ⟨_, toServer.symm⟩⟩
  not_early := by
    intro unaccepted thread
    have none : session.server = none := by
      rw [live.acceptors] at unaccepted
      simpa using unaccepted
    by_cases owned : thread = session.owner
    · have toOwner := live.lanes .server
      rw [participant_server_none (by simp [none])] at toOwner
      rw [owned]
      exact (append_eq_nil_iff.mp toOwner.symm).1
    · exact (live.strangers thread
        ((session.role_of_eq_none_iff thread).mpr ⟨owned, by simp [none]⟩)).2
  no_stranger := fun thread outside => live.strangers thread (live.role_of_stranger outside)

theorem blank_faithful : Faithful blank where
  opened_once := Nat.zero_le 1
  accepted_once := Nat.zero_le 1
  in_order := by intro owner opened; cases opened
  not_early := fun _ _ => rfl
  no_stranger := fun _ _ => ⟨rfl, rfl⟩

theorem Tells.faithful {held : Option Session} (tells : account.Tells held) : account.Faithful := by
  cases held with
  | none => exact tells
  | some session => exact Live.faithful tells

end Live

end Account

end Runix.Kernel
