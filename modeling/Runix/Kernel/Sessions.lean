import Runix.Lib.ByteStrings

/-!
# IPC sessions

`kernel/src/ipc.rs`: the table of sessions and the queue of those not yet accepted.
A session is opened by its owner and bound to the server that accepts it.  Nothing but
the exit of one of the two threads takes it out of the table.
-/

namespace Runix.Kernel

open Lib.ByteStrings

/-- `ThreadId`. -/
abbrev Thread := Nat

def maxLiveSessions : Nat := 64

def maxSessionsPerOwner : Nat := 8

structure Session where
  ownerToServer : Bytes
  serverToOwner : Bytes
  ownerSendLocked : Bool
  serverSendLocked : Bool
  owner : Thread
  server : Option Thread
  serverPort : Nat
deriving DecidableEq, Repr

inductive Role where
  | owner
  | server
deriving DecidableEq, Repr

/-- `SESSIONS`, in the order of the identifiers, `PENDING_BY_PORT` and `NEXT_SESSION_ID`. -/
structure SessionTable where
  sessions : List (Nat × Session)
  pending : Nat → List Nat
  nextId : Nat

namespace SessionTable

variable (table : SessionTable)

def ownerCount (owner : Thread) : Nat :=
  (table.sessions.filter fun entry => entry.2.owner = owner).length

def find (id : Nat) : Option Session :=
  (table.sessions.find? fun entry => entry.1 = id).map Prod.snd

def enqueue (serverPort id : Nat) : Nat → List Nat :=
  Function.update table.pending serverPort (table.pending serverPort ++ [id])

def sessionOpen (serverPort : Nat) (owner : Thread) : Option Nat × SessionTable :=
  if maxLiveSessions ≤ table.sessions.length then (none, table)
  else if maxSessionsPerOwner ≤ table.ownerCount owner then (none, table)
  else
    let id := table.nextId
    let session : Session :=
      { ownerToServer := [], serverToOwner := [], ownerSendLocked := false,
        serverSendLocked := false, owner := owner, server := none, serverPort := serverPort }
    (some id,
      { sessions := table.sessions ++ [(id, session)]
        pending := table.enqueue serverPort id
        nextId := id + 1 })

def bind (id : Nat) (server : Thread) : List (Nat × Session) :=
  table.sessions.map fun entry =>
    if entry.1 = id then (entry.1, { entry.2 with server := some server }) else entry

def sessionAccept (serverPort : Nat) (server : Thread) : Option Nat × SessionTable :=
  match table.pending serverPort with
  | [] => (none, table)
  | id :: rest =>
    (some id,
      { table with
        sessions := table.bind id server
        pending := Function.update table.pending serverPort rest })

def roleOf (id : Nat) (thread : Thread) : Option Role :=
  (table.find id).bind fun session =>
    if session.owner = thread then some .owner
    else if session.server = some thread then some .server
    else none

/-! ## Limits -/

def HasRoom (owner : Thread) : Prop :=
  table.sessions.length < maxLiveSessions ∧ table.ownerCount owner < maxSessionsPerOwner

instance (table : SessionTable) (owner : Thread) : Decidable (table.HasRoom owner) :=
  inferInstanceAs (Decidable (_ ∧ _))

def Issued : Prop :=
  ∀ entry ∈ table.sessions, entry.1 < table.nextId

theorem session_open_full {table : SessionTable} {owner : Thread} (full : ¬ table.HasRoom owner)
    (serverPort : Nat) : table.sessionOpen serverPort owner = (none, table) := by
  unfold sessionOpen
  split_ifs with live owned
  · rfl
  · rfl
  · exact absurd ⟨Nat.lt_of_not_le live, Nat.lt_of_not_le owned⟩ full

def admitted (serverPort : Nat) (owner server : Thread) : SessionTable :=
  ((table.sessionOpen serverPort owner).2.sessionAccept serverPort server).2

section Admission

variable {table : SessionTable} {owner : Thread}

theorem session_open_room (room : table.HasRoom owner) (serverPort : Nat) :
    table.sessionOpen serverPort owner =
      (some table.nextId,
        { sessions := table.sessions ++ [(table.nextId,
            { ownerToServer := [], serverToOwner := [], ownerSendLocked := false,
              serverSendLocked := false, owner := owner, server := none,
              serverPort := serverPort })]
          pending := table.enqueue serverPort table.nextId
          nextId := table.nextId + 1 }) := by
  rw [sessionOpen, if_neg (Nat.not_le.mpr room.1), if_neg (Nat.not_le.mpr room.2)]

theorem bind_length (table : SessionTable) (id : Nat) (server : Thread) :
    (table.bind id server).length = table.sessions.length := by
  simp [bind]

theorem bind_owner_count (table : SessionTable) (id : Nat) (server owner : Thread) :
    ((table.bind id server).filter fun entry => entry.2.owner = owner).length =
      table.ownerCount owner := by
  unfold bind ownerCount
  induction table.sessions with
  | nil => rfl
  | cons entry rest ih =>
    by_cases here : entry.1 = id <;> by_cases owned : entry.2.owner = owner <;>
      simp_all

theorem find_opened (issued : table.Issued) (room : table.HasRoom owner) (serverPort : Nat) :
    (table.sessionOpen serverPort owner).2.find table.nextId =
      some { ownerToServer := [], serverToOwner := [], ownerSendLocked := false,
             serverSendLocked := false, owner := owner, server := none,
             serverPort := serverPort } := by
  have before : table.sessions.find? (fun entry => entry.1 = table.nextId) = none := by
    rw [List.find?_eq_none]
    intro entry member same
    exact Nat.lt_irrefl _ (of_decide_eq_true same ▸ issued entry member)
  rw [session_open_room room, find]
  simp [List.find?_append, before]

theorem role_of_opened (issued : table.Issued) (room : table.HasRoom owner) (serverPort : Nat) :
    (table.sessionOpen serverPort owner).2.roleOf table.nextId owner = some .owner := by
  rw [roleOf, find_opened issued room serverPort, Option.bind_some, if_pos rfl]

theorem find_bind (table : SessionTable) (id : Nat) (server : Thread)
    (pending : Nat → List Nat) (nextId : Nat) :
    (SessionTable.mk (table.bind id server) pending nextId).find id =
      (table.find id).map fun session => { session with server := some server } := by
  unfold find bind
  induction table.sessions with
  | nil => rfl
  | cons entry rest ih =>
    by_cases here : entry.1 = id
    · simp [here]
    · simpa [here] using ih

theorem role_of_bind {id : Nat} (role : table.roleOf id owner = some .owner) (server : Thread)
    (pending : Nat → List Nat) (nextId : Nat) :
    (SessionTable.mk (table.bind id server) pending nextId).roleOf id owner = some .owner := by
  unfold roleOf at role ⊢
  rw [find_bind]
  obtain ⟨session, found, checked⟩ := Option.bind_eq_some_iff.mp role
  rw [found]
  by_cases owned : session.owner = owner
  · simp [owned]
  · rw [if_neg owned] at checked
    split_ifs at checked
    simp at checked

variable {serverPort : Nat}

section

variable (idle : table.pending serverPort = []) (room : table.HasRoom owner)

include idle room

theorem opened_pending :
    (table.sessionOpen serverPort owner).2.pending serverPort = [table.nextId] := by
  rw [session_open_room room]
  simp [enqueue, idle]

theorem session_accept_opened (server : Thread) :
    (table.sessionOpen serverPort owner).2.sessionAccept serverPort server =
      (some table.nextId, table.admitted serverPort owner server) := by
  have queue := opened_pending idle room
  rw [admitted, sessionAccept, queue]

theorem admitted_eq (server : Thread) :
    table.admitted serverPort owner server =
      { sessions := (table.sessionOpen serverPort owner).2.bind table.nextId server
        pending := Function.update (table.sessionOpen serverPort owner).2.pending serverPort []
        nextId := table.nextId + 1 } := by
  rw [admitted, sessionAccept, opened_pending idle room, session_open_room room]

end

theorem role_of_admitted (issued : table.Issued) (idle : table.pending serverPort = [])
    (room : table.HasRoom owner) (server : Thread) :
    (table.admitted serverPort owner server).roleOf table.nextId owner = some .owner := by
  rw [admitted_eq idle room]
  exact role_of_bind (role_of_opened issued room serverPort) server _ _

theorem admitted_spec (issued : table.Issued) (idle : table.pending serverPort = [])
    (room : table.HasRoom owner) (server : Thread) :
    (table.admitted serverPort owner server).Issued ∧
      (table.admitted serverPort owner server).pending serverPort = [] ∧
      (table.admitted serverPort owner server).sessions.length = table.sessions.length + 1 ∧
      (table.admitted serverPort owner server).ownerCount owner = table.ownerCount owner + 1 ∧
      (table.admitted serverPort owner server).nextId = table.nextId + 1 := by
  rw [admitted_eq idle room]
  refine ⟨?_, Function.update_self .., ?_, ?_, rfl⟩
  · intro entry member
    obtain ⟨old, present, rfl⟩ := List.mem_map.mp member
    rw [session_open_room room] at present
    have id : old.1 < table.nextId + 1 := by
      rcases List.mem_append.mp present with earlier | last
      · exact Nat.lt_succ_of_lt (issued old earlier)
      · rw [List.mem_singleton.mp last]
        exact Nat.lt_succ_self _
    split_ifs <;> exact id
  · rw [bind_length, session_open_room room]
    simp
  · rw [ownerCount, bind_owner_count, session_open_room room]
    simp [ownerCount]

end Admission

end SessionTable

end Runix.Kernel
