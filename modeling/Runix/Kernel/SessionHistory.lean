import Runix.Kernel.SessionAccounts

/-!
# Histories of the session calls

One relation says what a call that goes through can do to the table.  From it, the three
parts of a lawful log: the limits of the table, the queues of waiting sessions against the
history's openings, and each live session against its account.
-/

namespace Runix.Kernel

open Lib.ByteStrings Lib.Runs Lib.Tables List SessionTable

/-! ## What one call can do -/

/-- The call leaves no mark in any account, and opens nothing. -/
def Silent (event : SessionEvent) : Prop :=
  openedId event = none ∧ ∀ id account, Account.note id account event = account

inductive Change (table : SessionTable) : SessionEvent → SessionTable → Prop
  | quiet {event : SessionEvent} (silent : Silent event) : Change table event table
  | opened (serverPort : Nat) (owner : Thread) (room : table.HasRoom owner) :
      Change table (.sessionOpen serverPort owner, .session (some table.nextId))
        (table.sessionOpen serverPort owner).2
  | accepted (serverPort : Nat) (server : Thread) {id : Nat} {rest : List Nat}
      (waiting : table.pending serverPort = id :: rest) :
      Change table (.sessionAccept serverPort server, .session (some id))
        (table.claimed serverPort id rest server)
  | sent {id : Nat} {caller : Thread} (byte : UInt8) {session : Session} {role : Role}
      (found : table.find id = some session) (known : session.roleOf caller = some role) :
      Change table (.sessionSend id caller byte, .done true)
        (table.put id (session.setQueue (session.queue role ++ [byte]) role))
  | received {id : Nat} {caller : Thread} {byte : UInt8} {session : Session} {role : Role}
      {bytes : Bytes} (found : table.find id = some session)
      (known : session.roleOf caller = some role)
      (front : session.queue role.other = byte :: bytes) :
      Change table (.sessionTryRecv id caller, .byte (some byte))
        (table.put id (session.setQueue bytes role.other))
  | relocked {event : SessionEvent} {id : Nat} {session next : Session} (silent : Silent event)
      (found : table.find id = some session) (same : session.SameParties next)
      (queues : ∀ role, next.queue role = session.queue role) :
      Change table event (table.put id next)
  | reaped (thread : Thread) :
      Change table (.reapSessionsFor thread, .reaped) (table.reapSessionsFor thread)

namespace Change

variable {table after : SessionTable} {id : Nat} {caller : Thread} {went : Bool}

theorem of_send {byte : UInt8} (ended : table.sessionSend id caller byte = some (went, after)) :
    Change table (.sessionSend id caller byte, .done went) after := by
  rcases as_participant_cases ended with
    ⟨rfl, rfl⟩ | ⟨session, role, next, found, known, attempt, rfl⟩
  · exact .quiet ⟨rfl, fun _ _ => rfl⟩
  unfold Session.send at attempt
  split_ifs at attempt
  cases attempt
  exact .sent byte found known

theorem of_try_recv {received : Option UInt8}
    (ended : table.sessionTryRecv id caller = some (received, after)) :
    Change table (.sessionTryRecv id caller, .byte received) after := by
  rcases as_participant_cases ended with
    ⟨rfl, rfl⟩ | ⟨session, role, next, found, known, attempt, rfl⟩
  · exact .quiet ⟨rfl, fun _ _ => rfl⟩
  unfold Session.tryRecv at attempt
  cases front : session.queue role.other with
  | nil =>
    rw [front] at attempt
    cases attempt
    exact .relocked ⟨rfl, fun _ _ => rfl⟩ found ⟨rfl, rfl, rfl⟩ fun _ => rfl
  | cons byte bytes =>
    rw [front] at attempt
    cases attempt
    exact .received found known front

theorem of_begin_send (ended : table.sessionBeginSend id caller = some (went, after)) :
    Change table (.sessionBeginSend id caller, .done went) after := by
  rcases as_participant_cases ended with
    ⟨rfl, rfl⟩ | ⟨session, role, next, found, known, attempt, rfl⟩
  · exact .quiet ⟨rfl, fun _ _ => rfl⟩
  unfold Session.beginSend at attempt
  split_ifs at attempt
  cases attempt
  exact .relocked ⟨rfl, fun _ _ => rfl⟩ found (session.set_send_locked_same true role)
    (session.queue_set_send_locked true role)

theorem of_end_send (ended : table.sessionEndSend id caller = some (went, after)) :
    Change table (.sessionEndSend id caller, .done went) after := by
  rcases as_participant_cases ended with
    ⟨rfl, rfl⟩ | ⟨session, role, next, found, known, attempt, rfl⟩
  · exact .quiet ⟨rfl, fun _ _ => rfl⟩
  · cases attempt
    exact .relocked ⟨rfl, fun _ _ => rfl⟩ found (session.set_send_locked_same false role)
      (session.queue_set_send_locked false role)

theorem of_open (serverPort : Nat) (owner : Thread) :
    Change table (.sessionOpen serverPort owner, .session (table.sessionOpen serverPort owner).1)
      (table.sessionOpen serverPort owner).2 := by
  by_cases room : table.HasRoom owner
  · have given : (table.sessionOpen serverPort owner).1 = some table.nextId := by
      rw [session_open_room room]
    rw [given]
    exact .opened serverPort owner room
  · rw [session_open_full room]
    exact .quiet ⟨rfl, fun _ _ => rfl⟩

theorem of_accept (serverPort : Nat) (server : Thread) :
    Change table
      (.sessionAccept serverPort server, .session (table.sessionAccept serverPort server).1)
      (table.sessionAccept serverPort server).2 := by
  unfold sessionAccept
  cases waiting : table.pending serverPort with
  | nil => exact .quiet ⟨rfl, fun _ _ => rfl⟩
  | cons id rest => exact .accepted serverPort server waiting

/-- A call that goes through does one of these things. -/
theorem of_complete {call : SessionCall} {answer : SessionAnswer}
    (ended : table.complete call = some (answer, after)) : Change table (call, answer) after := by
  cases call with
  | sessionOpen serverPort owner =>
    cases ended
    exact of_open serverPort owner
  | sessionAccept serverPort server =>
    cases ended
    exact of_accept serverPort server
  | sessionSend id caller byte =>
    obtain ⟨⟨went, next⟩, done, ⟨⟩⟩ := Option.map_eq_some_iff.mp ended
    exact of_send done
  | sessionTryRecv id caller =>
    obtain ⟨⟨received, next⟩, done, ⟨⟩⟩ := Option.map_eq_some_iff.mp ended
    exact of_try_recv done
  | sessionBeginSend id caller =>
    obtain ⟨⟨went, next⟩, done, ⟨⟩⟩ := Option.map_eq_some_iff.mp ended
    exact of_begin_send done
  | sessionEndSend id caller =>
    obtain ⟨⟨went, next⟩, done, ⟨⟩⟩ := Option.map_eq_some_iff.mp ended
    exact of_end_send done
  | reapSessionsFor thread =>
    cases ended
    exact .reaped thread

end Change

/-! ## The table's limits -/

namespace SessionTable

structure Bounded (table : SessionTable) : Prop where
  unique : (table.sessions.map Prod.fst).Nodup
  issued : table.Issued
  live : table.sessions.length ≤ maxLiveSessions
  share : ∀ owner, table.ownerCount owner ≤ maxSessionsPerOwner

namespace Bounded

variable {table : SessionTable}

theorem boot : boot.Bounded where
  unique := nodup_nil
  issued := by intro entry member; cases member
  live := Nat.zero_le _
  share := fun _ => Nat.zero_le _

variable (bounded : table.Bounded)

include bounded

/-- A change to the sessions that keeps their identifiers and owners. -/
theorem map {change : Nat × Session → Nat × Session}
    (keys : ∀ entry ∈ table.sessions, (change entry).1 = entry.1)
    (owners : ∀ entry ∈ table.sessions, (change entry).2.owner = entry.2.owner)
    (pending : Nat → List Nat) :
    Bounded { table with sessions := table.sessions.map change, pending := pending } where
  unique := by
    have same : (table.sessions.map change).map Prod.fst = table.sessions.map Prod.fst := by
      rw [map_map]
      exact map_congr_left keys
    rw [same]
    exact bounded.unique
  issued := bounded.issued.map keys
  live := by
    rw [length_map]
    exact bounded.live
  share := by
    intro owner
    have same : (table.sessions.filter fun entry => decide ((change entry).2.owner = owner)) =
        table.sessions.filter fun entry => decide (entry.2.owner = owner) := by
      apply filter_congr
      intro entry member
      rw [owners entry member]
    have count := bounded.share owner
    unfold ownerCount at count ⊢
    rw [filter_map, length_map]
    exact Nat.le_trans (Nat.le_of_eq (congrArg List.length same)) count

theorem entry_of_find {id : Nat} {session : Session}
    (found : table.find id = some session) {entry : Nat × Session}
    (member : entry ∈ table.sessions) (key : entry.1 = id) : entry.2 = session := by
  rw [find_eq_lookup, ← key, lookup_of_mem Prod.fst bounded.unique member] at found
  exact Option.some.inj found

theorem put {id : Nat} {session next : Session} (found : table.find id = some session)
    (same : session.SameParties next) : (table.put id next).Bounded := by
  apply bounded.map
  · intro entry member
    split_ifs <;> rfl
  · intro entry member
    by_cases key : entry.1 = id
    · rw [if_pos key, bounded.entry_of_find found member key]
      exact same.owner
    · rw [if_neg key]

theorem opened {owner : Thread} (room : table.HasRoom owner)
    (serverPort : Nat) : (table.sessionOpen serverPort owner).2.Bounded := by
  have absent : lookup Prod.fst table.nextId table.sessions = none := by
    have gone := find_eq_none_of_issued bounded.issued (Nat.le_refl table.nextId)
    rwa [find_eq_lookup, Option.map_eq_none_iff] at gone
  have issued := bounded.issued.opened room serverPort
  rw [session_open_room room] at issued ⊢
  constructor
  · exact append_fresh_keys_nodup Prod.fst bounded.unique absent rfl
  · exact issued
  · rw [length_append]
    exact room.1
  · intro other
    have count := bounded.share other
    unfold ownerCount at count ⊢
    by_cases same : owner = other
    · subst same
      simpa [ownerCount] using Nat.succ_le_of_lt room.2
    · simpa [same] using count

theorem reaped (thread : Thread) : (table.reapSessionsFor thread).Bounded where
  unique := (filter_sublist.map Prod.fst).nodup bounded.unique
  issued := fun entry member => bounded.issued entry (mem_of_mem_filter member)
  live := Nat.le_trans (length_filter_le _ _) bounded.live
  share := by
    intro owner
    exact Nat.le_trans (List.Sublist.length_le (filter_sublist.filter _))
      (bounded.share owner)

end Bounded

end SessionTable

variable {table after : SessionTable} {event : SessionEvent}

theorem Change.bounded
    (outcome : Change table event after) (bounded : table.Bounded) : after.Bounded := by
  cases outcome with
  | quiet silent => exact bounded
  | opened serverPort owner room => exact bounded.opened room serverPort
  | accepted serverPort server waiting =>
    apply bounded.map
    · intro entry member
      split_ifs <;> rfl
    · intro entry member
      split_ifs <;> rfl
  | sent byte found known => exact bounded.put found (Session.set_queue_same _ _ _)
  | received found known front => exact bounded.put found (Session.set_queue_same _ _ _)
  | relocked silent found same queues => exact bounded.put found same
  | reaped thread => exact bounded.reaped thread

/-! ## The waiting sessions -/

def SessionTable.waits (table : SessionTable) (serverPort id : Nat) : Bool :=
  (table.find id).any fun session => session.serverPort = serverPort ∧ session.server = none

structure Queued (past : List SessionEvent) (table : SessionTable) : Prop where
  ascending : (openedIds past).Pairwise (· < ·)
  issued : ∀ id ∈ openedIds past, id < table.nextId
  queues : ∀ serverPort,
    table.pending serverPort = (openedIds past).filter (table.waits serverPort)

namespace Queued

variable {past : List SessionEvent} {table after : SessionTable} {event : SessionEvent}

theorem boot : Queued [] .boot where
  ascending := List.Pairwise.nil
  issued := by intro id opened; cases opened
  queues := fun _ => rfl

variable (queued : Queued past table)

include queued

section

variable (nothing : openedId event = none)

include nothing

theorem of_queues
    (nextId : after.nextId = table.nextId)
    (queues : ∀ serverPort,
      after.pending serverPort = (openedIds past).filter (after.waits serverPort)) :
    Queued (past ++ [event]) after := by
  have same : openedIds (past ++ [event]) = openedIds past := by
    rw [opened_ids_snoc, nothing]
    exact append_nil _
  constructor
  · rw [same]
    exact queued.ascending
  · rw [same, nextId]
    exact queued.issued
  · rw [same]
    exact queues

theorem unchanged (pending : after.pending = table.pending) (nextId : after.nextId = table.nextId)
    (waits : ∀ serverPort id, after.waits serverPort id = table.waits serverPort id) :
    Queued (past ++ [event]) after := by
  refine queued.of_queues nothing nextId fun serverPort => ?_
  rw [pending, queued.queues serverPort]
  exact filter_congr fun id _ => (waits serverPort id).symm

theorem put {id : Nat} {session next : Session} (found : table.find id = some session)
    (same : session.SameParties next) : Queued (past ++ [event]) (table.put id next) := by
  have waits : ∀ serverPort wanted,
      (table.put id next).waits serverPort wanted = table.waits serverPort wanted := by
    intro serverPort wanted
    unfold waits
    rw [find_put]
    by_cases here : wanted = id
    · simp [here, found, same.port, same.server]
    · simp [here]
  exact queued.unchanged nothing rfl rfl waits

end

theorem opened (bounded : table.Bounded) {owner : Thread}
    (room : table.HasRoom owner) (serverPort : Nat) :
    Queued (past ++ [(.sessionOpen serverPort owner, .session (some table.nextId))])
      (table.sessionOpen serverPort owner).2 := by
  have ids : openedIds
      (past ++ [(.sessionOpen serverPort owner, .session (some table.nextId))]) =
        openedIds past ++ [table.nextId] := opened_ids_snoc past _
  have next : (table.sessionOpen serverPort owner).2.nextId = table.nextId + 1 := by
    rw [session_open_room room]
  have find := find_session_open bounded.issued room serverPort
  constructor
  · rw [ids, pairwise_append]
    refine ⟨queued.ascending, pairwise_singleton _ _, ?_⟩
    intro id earlier last isLast
    rw [mem_singleton.mp isLast]
    exact queued.issued id earlier
  · rw [ids, next]
    intro id member
    rcases mem_append.mp member with earlier | last
    · exact Nat.lt_succ_of_lt (queued.issued id earlier)
    · rw [mem_singleton.mp last]
      exact Nat.lt_succ_self _
  · intro other
    have older : (openedIds past).filter ((table.sessionOpen serverPort owner).2.waits other) =
        table.pending other := by
      rw [queued.queues other]
      apply filter_congr
      intro id member
      unfold waits
      rw [find, if_neg (Nat.ne_of_lt (queued.issued id member))]
    have newest : (table.sessionOpen serverPort owner).2.waits other table.nextId =
        decide (serverPort = other) := by
      unfold waits
      rw [find, if_pos rfl]
      simp
    rw [ids, filter_append, older, filter_singleton, newest,
      session_open_room room]
    by_cases same : serverPort = other
    · subst same
      simp [enqueue]
    · have differ : other ≠ serverPort := fun equal => same equal.symm
      simp [enqueue, same, differ]

theorem head_waits {serverPort id : Nat} {rest : List Nat}
    (waiting : table.pending serverPort = id :: rest) :
    ∃ session, table.find id = some session ∧ session.serverPort = serverPort ∧
      session.server = none := by
  have member : id ∈ (openedIds past).filter (table.waits serverPort) := by
    rw [← queued.queues serverPort, waiting]
    exact mem_cons_self
  have waits := (mem_filter.mp member).2
  rw [SessionTable.waits, Option.any_eq_true] at waits
  obtain ⟨session, found, facts⟩ := waits
  exact ⟨session, found, by simpa using facts⟩

theorem accepted {serverPort id : Nat} {rest : List Nat}
    (waiting : table.pending serverPort = id :: rest) (server : Thread) :
    Queued (past ++ [(.sessionAccept serverPort server, .session (some id))])
      (table.claimed serverPort id rest server) := by
  obtain ⟨session, found, port, unserved⟩ := queued.head_waits waiting
  -- The accepted session no longer waits, and every other one is as before.
  have waits : ∀ other wanted, (table.claimed serverPort id rest server).waits other wanted =
      (table.waits other wanted && decide (wanted ≠ id)) := by
    intro other wanted
    unfold waits
    rw [find_claimed]
    by_cases here : wanted = id
    · simp [here, found]
    · simp [here]
  refine queued.of_queues rfl rfl fun other => ?_
  have filtered : (openedIds past).filter (fun wanted =>
      table.waits other wanted && decide (wanted ≠ id)) =
        (table.pending other).filter fun wanted => decide (wanted ≠ id) := by
    rw [queued.queues other, filter_filter]
    exact filter_congr fun _ _ => Bool.and_comm _ _
  rw [filter_congr fun wanted _ => waits other wanted, filtered]
  by_cases same : other = serverPort
  · subst same
    have ordered : (table.pending other).Pairwise (· < ·) := by
      rw [queued.queues other]
      exact queued.ascending.filter _
    rw [waiting, pairwise_cons] at ordered
    rw [claimed_pending, Function.update_self, waiting,
      filter_cons_of_neg (by simp), filter_eq_self.mpr]
    intro wanted later
    simpa using Nat.ne_of_gt (ordered.1 wanted later)
  · rw [claimed_pending, Function.update_of_ne same, filter_eq_self.mpr]
    intro wanted member
    rw [queued.queues other, mem_filter] at member
    have differ : wanted ≠ id := by
      rintro rfl
      have elsewhere := member.2
      simp only [SessionTable.waits, found, Option.any_some, decide_eq_true_eq] at elsewhere
      exact same (elsewhere.1.symm.trans port)
    simpa using differ

theorem reaped (bounded : table.Bounded) (thread : Thread) :
    Queued (past ++ [(.reapSessionsFor thread, .reaped)]) (table.reapSessionsFor thread) := by
  refine queued.of_queues rfl rfl fun serverPort => ?_
  rw [reaped_pending, queued.queues serverPort, filter_filter]
  apply filter_congr
  intro id member
  unfold waits
  rw [find_reaped table bounded.unique]
  cases found : table.find id with
  | none => rfl
  | some session =>
    -- Only the owner matters, as a waiting session has no server.
    cases served : session.server with
    | none => by_cases owned : session.owner = thread <;> simp [served, owned, Option.filter]
    | some server =>
      rw [Option.filter_some]
      split_ifs <;> simp [served]

end Queued

variable {past : List SessionEvent}

theorem Change.queued (outcome : Change table event after) (bounded : table.Bounded)
    (queued : Queued past table) : Queued (past ++ [event]) after := by
  cases outcome with
  | quiet silent => exact queued.unchanged silent.1 rfl rfl fun _ _ => rfl
  | opened serverPort owner room => exact queued.opened bounded room serverPort
  | accepted serverPort server waiting => exact queued.accepted waiting server
  | sent byte found known => exact queued.put rfl found (Session.set_queue_same _ _ _)
  | received found known front => exact queued.put rfl found (Session.set_queue_same _ _ _)
  | relocked silent found same queues => exact queued.put silent.1 found same
  | reaped thread => exact queued.reaped bounded thread

/-! ## The live sessions -/

structure Told (past : List SessionEvent) (table : SessionTable) : Prop where
  tells : ∀ id, (account past id).Tells (table.find id)
  fresh : ∀ id, table.nextId ≤ id → account past id = .blank

namespace Told

variable {past : List SessionEvent} {table : SessionTable} {event : SessionEvent}

theorem boot : Told [] .boot where
  tells := fun _ => Account.blank_faithful
  fresh := fun _ _ => rfl

variable (told : Told past table)

include told

theorem touched {after : SessionTable} (bounded : table.Bounded)
    {id : Nat} {session : Session} {change : Session → Session}
    (finds : ∀ wanted, after.find wanted =
      (table.find wanted).map fun old => if wanted = id then change old else old)
    (nextId : after.nextId = table.nextId)
    (found : table.find id = some session)
    (others : ∀ other account, other ≠ id → Account.note other account event = account)
    (live : ((account past id).note id event).Live (change session)) :
    Told (past ++ [event]) after where
  tells := by
    intro wanted
    rw [account_snoc, finds]
    by_cases here : wanted = id
    · rw [here, found, Option.map_some, if_pos rfl]
      exact live
    · rw [others wanted _ here]
      simpa [here] using told.tells wanted
  fresh := by
    intro wanted unused
    rw [nextId] at unused
    have here : wanted ≠ id := by
      rintro rfl
      rw [find_eq_none_of_issued bounded.issued unused] at found
      cases found
    rw [account_snoc, others wanted _ here]
    exact told.fresh wanted unused

theorem live_of_find {id : Nat} {session : Session}
    (found : table.find id = some session) : (account past id).Live session := by
  have tells := told.tells id
  rw [found] at tells
  exact tells

theorem opened (bounded : table.Bounded) {owner : Thread}
    (room : table.HasRoom owner) (serverPort : Nat) :
    Told (past ++ [(.sessionOpen serverPort owner, .session (some table.nextId))])
      (table.sessionOpen serverPort owner).2 where
  tells := by
    intro wanted
    rw [account_snoc, find_session_open bounded.issued room]
    by_cases here : wanted = table.nextId
    · rw [here, told.fresh table.nextId (Nat.le_refl _), if_pos rfl, Account.note, if_pos rfl]
      exact Account.live_opened owner serverPort
    · rw [if_neg here, Account.note, if_neg fun same => here same.symm]
      exact told.tells wanted
  fresh := by
    intro wanted unused
    rw [session_open_room room] at unused
    have later : table.nextId < wanted := unused
    rw [account_snoc, Account.note, if_neg (Nat.ne_of_lt later)]
    exact told.fresh wanted (Nat.le_of_lt later)

theorem accepted (bounded : table.Bounded) (queued : Queued past table) {serverPort id : Nat}
    {rest : List Nat} (waiting : table.pending serverPort = id :: rest) (server : Thread) :
    Told (past ++ [(.sessionAccept serverPort server, .session (some id))])
      (table.claimed serverPort id rest server) := by
  obtain ⟨session, found, -, unserved⟩ := queued.head_waits waiting
  apply told.touched bounded (table.find_claimed serverPort id rest server) rfl found
  · exact fun other account apart => if_neg fun same => apart same.symm
  · rw [Account.note, if_pos rfl]
    exact (told.live_of_find found).accepted unserved server

theorem reaped (bounded : table.Bounded) (thread : Thread) :
    Told (past ++ [(.reapSessionsFor thread, .reaped)]) (table.reapSessionsFor thread) where
  tells := by
    intro wanted
    have before := told.tells wanted
    rw [account_snoc, find_reaped table bounded.unique]
    cases found : table.find wanted with
    | none =>
      rw [found] at before
      exact before
    | some session =>
      rw [found] at before
      rw [Option.filter_some]
      split_ifs
      · exact before
      · exact before.faithful
  fresh := by
    intro wanted unused
    rw [account_snoc]
    exact told.fresh wanted unused

end Told

theorem Change.told (outcome : Change table event after) (bounded : table.Bounded)
    (queued : Queued past table) (told : Told past table) : Told (past ++ [event]) after := by
  cases outcome with
  | quiet silent =>
    constructor
    · intro id
      rw [account_snoc, silent.2]
      exact told.tells id
    · intro id unused
      rw [account_snoc, silent.2]
      exact told.fresh id unused
  | opened serverPort owner room => exact told.opened bounded room serverPort
  | accepted serverPort server waiting => exact told.accepted bounded queued waiting server
  | sent byte found known =>
    apply told.touched bounded (fun wanted => table.find_put _ wanted _) rfl found
    · intro other account apart
      exact if_neg fun same => apart same.symm
    · rw [Account.note, if_pos rfl]
      exact (told.live_of_find found).send known
  | received found known front =>
    apply told.touched bounded (fun wanted => table.find_put _ wanted _) rfl found
    · intro other account apart
      exact if_neg fun same => apart same.symm
    · rw [Account.note, if_pos rfl]
      exact (told.live_of_find found).receive known front
  | relocked silent found same queues =>
    apply told.touched bounded (fun wanted => table.find_put _ wanted _) rfl found
    · intro other account apart
      exact silent.2 other account
    · rw [silent.2]
      exact (told.live_of_find found).relocked same queues
  | reaped thread => exact told.reaped bounded thread

/-! ## Whole histories -/

namespace SessionLog

structure Lawful (log : SessionLog) : Prop where
  bounded : log.table.Bounded
  queued : Queued log.past log.table
  told : Told log.past log.table

theorem attempt_lawful (log : SessionLog) (call : SessionCall) (lawful : log.Lawful) :
    (log.attempt call).Lawful := by
  unfold attempt
  cases ended : log.table.complete call with
  | none => exact lawful
  | some result =>
    have outcome := Change.of_complete ended
    exact ⟨outcome.bounded lawful.bounded, outcome.queued lawful.bounded lawful.queued,
      outcome.told lawful.bounded lawful.queued lawful.told⟩

theorem record_lawful (calls : List SessionCall) : (record calls).Lawful :=
  run_invariant attempt attempt_lawful calls _
    ⟨SessionTable.Bounded.boot, Queued.boot, Told.boot⟩

variable {log : SessionLog} {id : Nat} {thread : Thread}

theorem Lawful.role_of_stranger (lawful : log.Lawful)
    (stranger : ¬ (account log.past id).TakesPart thread) : log.table.roleOf id thread = none := by
  rw [role_of_eq]
  cases found : log.table.find id with
  | none => rfl
  | some session => exact (lawful.told.live_of_find found).role_of_stranger stranger

theorem Lawful.find_reaped (lawful : log.Lawful) (thread : Thread) (id : Nat) :
    (log.table.reapSessionsFor thread).find id =
      if (account log.past id).TakesPart thread then none else log.table.find id := by
  rw [SessionTable.find_reaped log.table lawful.bounded.unique]
  cases found : log.table.find id with
  | none => simp
  | some session =>
    have part := (lawful.told.live_of_find found).takes_part_iff thread
    by_cases takes : (account log.past id).TakesPart thread
    · rw [if_pos takes, Option.filter_some, if_neg]
      rw [part] at takes
      simp only [decide_eq_true_eq, not_and_or, not_not]
      exact takes
    · rw [if_neg takes, Option.filter_some, if_pos]
      rw [part, not_or] at takes
      simpa using takes

theorem Lawful.pending_eq (lawful : log.Lawful) (serverPort : Nat) :
    log.table.pending serverPort = (openedIds log.past).filter fun id =>
      (log.table.find id).isSome ∧ serverPort ∈ (account log.past id).openings.map Prod.snd ∧
        (account log.past id).acceptors = [] := by
  rw [lawful.queued.queues serverPort]
  apply filter_congr
  intro id member
  unfold waits
  cases found : log.table.find id with
  | none => simp
  | some session =>
    have live := lawful.told.live_of_find found
    rw [live.openings, live.acceptors]
    simp [eq_comm (a := serverPort)]

end SessionLog

/-- The calls a thread can make on a session, and what each answers when it is refused. -/
inductive RefusedCall (id : Nat) (thread : Thread) : SessionCall → SessionAnswer → Prop
  | send (byte : UInt8) : RefusedCall id thread (.sessionSend id thread byte) (.done false)
  | tryRecv : RefusedCall id thread (.sessionTryRecv id thread) (.byte none)
  | beginSend : RefusedCall id thread (.sessionBeginSend id thread) (.done false)
  | endSend : RefusedCall id thread (.sessionEndSend id thread) (.done false)

theorem RefusedCall.complete {table : SessionTable} {id : Nat} {thread : Thread}
    {call : SessionCall} {answer : SessionAnswer} (refused : RefusedCall id thread call answer)
    (outside : table.roleOf id thread = none) : table.complete call = some (answer, table) := by
  cases refused with
  | send byte =>
    rw [SessionTable.complete, sessionSend, as_participant_refused outside]
    rfl
  | tryRecv =>
    rw [SessionTable.complete, sessionTryRecv, as_participant_refused outside]
    rfl
  | beginSend =>
    rw [SessionTable.complete, sessionBeginSend, as_participant_refused outside]
    rfl
  | endSend =>
    rw [SessionTable.complete, sessionEndSend, as_participant_refused outside]
    rfl

/-- Over every history of session calls: each identifier's account is faithful, whoever takes
no part in a session is refused and changes nothing, the limits hold, each port's queue is
its live sessions not yet accepted in the order of their opening, and reaping a thread
removes its sessions and no others. -/
theorem session_histories_lawful (calls : List SessionCall) : let log := SessionLog.record calls
    (∀ id, (account log.past id).Faithful) ∧
      (∀ id thread, ¬ (account log.past id).TakesPart thread →
        ∀ call answer, RefusedCall id thread call answer →
          log.table.complete call = some (answer, log.table)) ∧
      (log.table.sessions.length ≤ 64 ∧ ∀ owner, log.table.ownerCount owner ≤ 8) ∧
      (∀ serverPort, log.table.pending serverPort = (openedIds log.past).filter fun id =>
        (log.table.find id).isSome ∧ serverPort ∈ (account log.past id).openings.map Prod.snd ∧
          (account log.past id).acceptors = []) ∧
      ∀ thread id, (log.table.reapSessionsFor thread).find id =
        if (account log.past id).TakesPart thread then none else log.table.find id := by
  have lawful := SessionLog.record_lawful calls
  refine ⟨fun id => (lawful.told.tells id).faithful, ?_,
    ⟨lawful.bounded.live, lawful.bounded.share⟩, lawful.pending_eq, lawful.find_reaped⟩
  intro id thread stranger call answer refused
  exact refused.complete (lawful.role_of_stranger stranger)

/-- The owner polls before the server has read its byte, and does not get it back. -/
example :
    let log := SessionLog.record [.sessionOpen 3 7, .sessionSend 1 7 65, .sessionTryRecv 1 7,
      .sessionAccept 3 9, .sessionTryRecv 1 9]
    (account log.past 1).received 7 = [] ∧ (account log.past 1).received 9 = [65] := by
  decide

/-! ## Sessions that have ended -/

/-- No call brings back a session that was opened and is no longer there. -/
theorem Change.ended {id : Nat} (outcome : Change table event after) (bounded : table.Bounded)
    (known : id < table.nextId) (gone : table.find id = none) :
    id < after.nextId ∧ after.find id = none := by
  cases outcome with
  | quiet silent => exact ⟨known, gone⟩
  | opened serverPort owner room =>
    rw [find_session_open bounded.issued room, if_neg (Nat.ne_of_lt known), session_open_room room]
    exact ⟨Nat.lt_succ_of_lt known, gone⟩
  | accepted serverPort server waiting =>
    rw [find_claimed, gone]
    exact ⟨known, rfl⟩
  | sent | received | relocked =>
    rw [find_put, gone]
    exact ⟨known, rfl⟩
  | reaped thread =>
    rw [find_reaped table bounded.unique, gone]
    exact ⟨known, rfl⟩

theorem SessionLog.attempt_ended {id : Nat} (log : SessionLog) (call : SessionCall)
    (before : log.Lawful ∧ id < log.table.nextId ∧ log.table.find id = none) :
    let after := log.attempt call
    after.Lawful ∧ id < after.table.nextId ∧ after.table.find id = none := by
  obtain ⟨lawful, known, gone⟩ := before
  refine ⟨attempt_lawful log call lawful, ?_⟩
  unfold attempt
  cases ended : log.table.complete call with
  | none => exact ⟨known, gone⟩
  | some result => exact (Change.of_complete ended).ended lawful.bounded known gone

/-- Identifiers are given out in ascending order, and once a session has ended every call on it
is refused and changes nothing, whatever calls come in between. -/
theorem ended_sessions_refused (calls : List SessionCall) : let log := SessionLog.record calls
    (openedIds log.past).Pairwise (· < ·) ∧
      ∀ id ∈ openedIds log.past, log.table.find id = none →
        ∀ later thread call answer, RefusedCall id thread call answer →
          let table := (SessionLog.record (calls ++ later)).table
          table.complete call = some (answer, table) := by
  have lawful := SessionLog.record_lawful calls
  refine ⟨lawful.queued.ascending, fun id opened gone later thread call answer refused => ?_⟩
  have stays := run_invariant SessionLog.attempt SessionLog.attempt_ended later _
    ⟨lawful, lawful.queued.issued id opened, gone⟩
  apply refused.complete
  rw [SessionLog.record, run_append, role_of_eq]
  exact congrArg (Option.bind · (·.roleOf thread)) stays.2.2

end Runix.Kernel
