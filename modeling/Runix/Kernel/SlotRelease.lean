import Runix.Kernel.SlotSeats

/-!
# The release of a call's slot

`marshal_client::evaluate` closes its socket on every path but one: it returns at once when its
open is not answered within its polls.  Once all is quiet, the server holds an index exactly
for the calls that took that path.
-/

namespace Runix.Kernel

open Ipc NetDriver Lib Lib.ByteStrings Lib.Reading Lib.Runs SessionTable

namespace CallTraffic

variable {Sock : Type}

/-! ## Calls that gave up on their open -/

theorem isClose_openSocket : isClose .openSocket = false := rfl

variable {asked : List SocketRequest}

theorem asked_ne_open (last : ∃ request ∈ asked, isClose request) : asked ≠ [.openSocket] := by
  rintro rfl
  obtain ⟨request, member, closes⟩ := last
  rw [List.mem_singleton.mp member, isClose_openSocket] at closes
  cases closes

variable {id : Nat} {traffic : CallTraffic Sock}

/-- When all is quiet, an index is held for a call exactly if the call only asked to open. -/
theorem bound_iff_gave_up (lawful : traffic.Lawful)
    (quiet : traffic.Quiescent) (known : (traffic.clients id).isSome) :
    (∃ index, traffic.server.loop.liveSessions index = some id) ↔
      traffic.asked id = [.openSocket] := by
  obtain ⟨⟨call, client⟩, here⟩ := Option.isSome_iff_exists.mp known
  obtain ⟨result, rfl⟩ := quiet.returned id call client here
  obtain ⟨asking, bounded, seat⟩ := lawful.seated id call _ here
  obtain ⟨session, found⟩ := Option.isSome_iff_exists.mp (lawful.found id known)
  have taken : lane traffic.table .owner id = [] := by
    rw [lane, found]
    exact quiet.taken id session found
  have asking : traffic.asked id = [.openSocket] ∨ ∃ request ∈ traffic.asked id, isClose request :=
    asking
  rw [taken] at seat
  cases seat with
  | queued waits words silent =>
    -- Every call has sent something, so the server has accepted its session.
    have nothing : (traffic.asked id).flatMap SocketRequest.encode = [] := words.symm
    rw [List.flatMap_eq_nil_iff] at nothing
    rcases asking with opened | ⟨request, member, closes⟩
    · have never := nothing .openSocket (by simp [opened])
      cases never
    · have never := nothing request member
      cases request <;> simp [SocketRequest.encode] at never
  | bound index live words answer =>
    refine iff_of_true ⟨index, live⟩ (asking.resolve_right ?_)
    rintro ⟨request, member, closes⟩
    have stream : (traffic.server.place index).stream =
        (traffic.asked id).flatMap SocketRequest.encode := by
      simpa [EvaluateState.left] using words
    have unclosed := (lawful.server.places index).unclosed (by rw [live]; rfl) request
    rw [stream, requests_of_words bounded] at unclosed
    rw [unclosed member] at closes
    cases closes
  | closed unqueued unbound last =>
    refine iff_of_false ?_ (asked_ne_open last)
    rintro ⟨index, live⟩
    exact unbound index live

theorem released_iff (lawful : traffic.Lawful) (quiet : traffic.Quiescent) :
    traffic.Released ↔
      ∀ id, (traffic.clients id).isSome → traffic.asked id ≠ [.openSocket] := by
  constructor
  · intro released id known gaveUp
    obtain ⟨index, live⟩ := (bound_iff_gave_up lawful quiet known).mpr gaveUp
    exact (released id known index).1 live
  · intro opened id known index
    have free : traffic.server.loop.liveSessions index ≠ some id := by
      intro live
      exact opened id known ((bound_iff_gave_up lawful quiet known).mp ⟨index, live⟩)
    refine ⟨free, fun held owner => free ?_⟩
    exact ((lawful.server.places index).opener held).symm.trans owner

/-! ### The steps of a call that gives up -/

variable {stack : TcpStack Sock} {thread : Thread} {traffic : CallTraffic Sock}
  {event : TrafficEvent Sock}

theorem step_other (stack : TcpStack Sock) (thread : Thread) (lawful : traffic.Lawful)
    (known : (traffic.clients id).isSome) (other : event ≠ .client id) :
    (traffic.step stack thread event).clients id = traffic.clients id ∧
      (traffic.step stack thread event).asked id = traffic.asked id := by
  have idle : ∀ {next : CallTraffic Sock},
      next.clients id = traffic.clients id ∧ next.asked id = traffic.asked id →
      (traffic.whenIdle next).clients id = traffic.clients id ∧
        (traffic.whenIdle next).asked id = traffic.asked id := by
    intro next same
    unfold whenIdle
    split_ifs
    · exact same
    · exact ⟨rfl, rfl⟩
  cases event with
  | begin owner call =>
    dsimp only [step, begin]
    by_cases room : traffic.table.HasRoom owner
    · have old : id ≠ traffic.table.nextId := by
        rintro rfl
        rw [lawful.client_fresh] at known
        cases known
      rw [session_open_room room]
      exact ⟨Function.update_of_ne old _ _, Function.update_of_ne old _ _⟩
    · rw [session_open_full room]
      exact ⟨rfl, rfl⟩
  | client wanted =>
    have differ : id ≠ wanted := by
      rintro rfl
      exact other rfl
    dsimp only [step, clientStep]
    split
    · exact ⟨Function.update_of_ne differ _ _, Function.update_of_ne differ _ _⟩
    · exact ⟨rfl, rfl⟩
  | poll change => exact idle ⟨rfl, rfl⟩
  | resolve index offset => exact idle ⟨rfl, rfl⟩
  | accept =>
    refine idle ?_
    unfold acceptStep
    split_ifs <;> exact ⟨rfl, rfl⟩
  | serve index offset =>
    refine idle ?_
    unfold serveStep
    split <;> exact ⟨rfl, rfl⟩
  | send =>
    dsimp only [step, sendStep]
    split
    · exact ⟨rfl, rfl⟩
    · exact ⟨rfl, rfl⟩
    · split
      · exact ⟨rfl, rfl⟩
      · split <;> exact ⟨rfl, rfl⟩

variable {call : EvaluateCall} {client : EvaluateState}

theorem step_client (stack : TcpStack Sock) (thread : Thread)
    {session : Session} (known : traffic.clients id = some (call, client))
    (found : traffic.table.find id = some session) :
    (traffic.step stack thread (.client id)).clients id =
        some (call, (call.move client session).1) ∧
      (traffic.step stack thread (.client id)).asked id =
        traffic.asked id ++ call.begun client (call.move client session).1 := by
  simp [step, clientStep, known, found]

/-- The first response that a call decodes is the handle of its socket. -/
theorem opening_hears {pending : List Nat} {places : Fin maxSockets → Place} {polls : Nat} {buf toServer later : Bytes} {byte : UInt8}
    (seated : Seated pending places id asked call (.polling .opening polls buf) toServer
      (byte :: later)) {response : SocketResponse} {size : Nat}
    (whole : SocketResponse.decode (buf ++ [byte]) = some (response, size)) :
    ∃ handle, response = .opened handle := by
  obtain ⟨asking, -, seat⟩ := seated
  cases seat with
  | queued waits words silent => simp [EvaluateState.buf] at silent
  | bound index live words answer =>
    obtain ⟨-, ⟨-, -, silent⟩ | ⟨-, reply⟩⟩ := answer rfl
    · simp [EvaluateState.buf] at silent
    obtain ⟨valid, front, -⟩ := (SocketResponse.reads _ _ _).mp whole
    have longer : response.encode <+: (SocketResponse.opened (ownHandle index)).encode := by
      rw [← reply]
      refine front.trans ⟨later, ?_⟩
      simp [EvaluateState.buf]
    exact ⟨_, SocketResponse.reads.same_front valid trivial longer List.prefix_rfl⟩
  | closed unqueued unbound last =>
    exact absurd (Lawful.opening_asked asking rfl) (asked_ne_open last)

variable {result : Option MarshalResponse}

/-- A call comes to have only asked to open when its polls for the answer are over. -/
theorem gave_up_step (lawful : traffic.Lawful) (known : traffic.clients id = some (call, client))
    {session : Session} (found : traffic.table.find id = some session)
    (returned : (call.move client session).1 = .done result)
    (only : traffic.asked id ++ call.begun client (call.move client session).1 = [.openSocket]) :
    (client = .done result ∧ traffic.asked id = [.openSocket]) ∨
      ∃ buf, client = .polling .opening 0 buf := by
  have seated := lawful.seated id call client known
  rw [lane, lane, found] at seated
  have moves := EvaluateCall.moves call client session
  generalize (call.move client session).1 = next at moves returned only
  generalize (call.move client session).2 = after at moves
  have unclosed : ∀ {stage : EvaluateStage} {polls : Nat} {buf : Bytes},
      client = .polling stage polls buf → next = .done result →
        isClose (call.socketRequest stage) ≠ true := by
    rintro stage polls buf rfl rfl closes
    have ended : call.begun (.polling stage polls buf) (.done result) = [] := rfl
    rw [ended, List.append_nil] at only
    obtain ⟨front, split, -⟩ := seated.asking
    exact asked_ne_open ⟨_, split ▸ List.mem_append_right front List.mem_cons_self, closes⟩ only
  cases moves with
  | stays =>
    subst returned
    exact .inl ⟨rfl, by simpa [EvaluateCall.begun] using only⟩
  | sent stage => cases returned
  | sends stage byte left => cases returned
  | waits stage polls buf => cases returned
  | reads stage polls buf lane => cases returned
  | expires stage buf =>
    have proceeds := EvaluateCall.proceeds call stage none
    rw [returned] at proceeds
    cases proceeds with
    | closed _ closes => exact absurd closes (unclosed rfl returned)
    | unopened first refused => exact .inr ⟨buf, by rw [first]⟩
  | hears stage polls buf lane whole =>
    rename_i byte rest response size
    have proceeds := EvaluateCall.proceeds call stage (some response)
    rw [returned] at proceeds
    cases proceeds with
    | closed _ closes => exact absurd closes (unclosed rfl returned)
    | unopened first refused =>
      subst first
      rw [Option.elim_some, Option.elim_some, lane] at seated
      obtain ⟨handle, rfl⟩ := opening_hears seated whole
      exact absurd rfl (refused handle)

def Opened (traffic : CallTraffic Sock) : Prop :=
  ∀ id call result, traffic.clients id = some (call, .done result) →
    traffic.asked id ≠ [.openSocket]

theorem opened_step (lawful : traffic.Lawful) (opened : traffic.Opened) (answered : traffic.OpenAnswered event) :
    (traffic.step stack thread event).Opened := by
  intro id call result returned only
  cases before : traffic.clients id with
  | none =>
    -- The call has just begun, and its first request is still to be sent.
    cases event with
    | begin owner other =>
      dsimp only [step, begin] at returned
      by_cases room : traffic.table.HasRoom owner
      · rw [session_open_room room] at returned
        by_cases same : id = traffic.table.nextId
        · simp [same, EvaluateCall.start] at returned
        · simp [Function.update_of_ne same, before] at returned
      · rw [session_open_full room] at returned
        simp [before] at returned
    | client wanted =>
      dsimp only [step, clientStep] at returned
      split at returned
      · rename_i known _
        by_cases same : id = wanted
        · rw [← same, before] at known
          cases known
        · simp [Function.update_of_ne same, before] at returned
      · simp [before] at returned
    | poll change => simp [step, whenIdle, serverStep, before, apply_ite CallTraffic.clients] at returned
    | resolve index offset =>
      simp [step, whenIdle, serverStep, before, apply_ite CallTraffic.clients] at returned
    | accept =>
      simp [step, whenIdle, acceptStep, before, apply_ite CallTraffic.clients] at returned
    | serve index offset =>
      dsimp only [step, whenIdle, serveStep] at returned
      split_ifs at returned
      · split at returned <;> simp [serverStep, before] at returned
      · simp [before] at returned
    | send =>
      dsimp only [step, sendStep] at returned
      split at returned
      · simp [before] at returned
      · simp [before] at returned
      · split at returned
        · simp [before] at returned
        · split at returned <;> simp [before] at returned
  | some pair =>
    have known : (traffic.clients id).isSome := by simp [before]
    by_cases own : event = .client id
    · subst own
      obtain ⟨other, client⟩ := pair
      obtain ⟨session, found⟩ := Option.isSome_iff_exists.mp (lawful.found id known)
      obtain ⟨clients, asked⟩ := step_client stack thread before found
      rw [clients] at returned
      obtain ⟨rfl, ended⟩ := Prod.mk.inj (Option.some.inj returned)
      rw [asked] at only
      rcases gave_up_step lawful before found ended only with ⟨rfl, gaveUp⟩ | ⟨buf, rfl⟩
      · exact opened id other result before gaveUp
      · exact answered other buf before
    · obtain ⟨clients, asked⟩ := step_other stack thread lawful known own
      rw [clients] at returned
      rw [asked] at only
      exact opened id call result returned only

theorem gave_up_run (lawful : traffic.Lawful)
    (returned : traffic.clients id = some (call, .done result))
    (only : traffic.asked id = [.openSocket]) (events : List (TrafficEvent Sock)) :
    (run (step stack thread) traffic events).clients id = some (call, .done result) ∧
      (run (step stack thread) traffic events).asked id = [.openSocket] := by
  induction events generalizing traffic with
  | nil => exact ⟨returned, only⟩
  | cons event rest ih =>
    have known : (traffic.clients id).isSome := by simp [returned]
    by_cases own : event = .client id
    · subst own
      obtain ⟨session, found⟩ := Option.isSome_iff_exists.mp (lawful.found id known)
      obtain ⟨clients, asked⟩ := step_client stack thread returned found
      apply ih (lawful.step _)
      · rw [clients]
        rfl
      · rw [asked, only]
        rfl
    · obtain ⟨clients, asked⟩ := step_other stack thread lawful known own
      exact ih (lawful.step _) (clients.trans returned) (asked.trans only)

theorem gave_up_end (stack : TcpStack Sock) (thread : Thread) (lawful : traffic.Lawful)
    {buf : Bytes} (waits : traffic.clients id = some (call, .polling .opening 0 buf))
    (later : List (TrafficEvent Sock)) :
    (run (step stack thread) (traffic.step stack thread (.client id)) later).clients id =
        some (call, .done none) ∧
      (run (step stack thread) (traffic.step stack thread (.client id)) later).asked id =
        [.openSocket] := by
  obtain ⟨session, found⟩ := Option.isSome_iff_exists.mp (lawful.found id (by simp [waits]))
  obtain ⟨clients, asked⟩ := step_client stack thread waits found
  apply gave_up_run (lawful.step _) clients
  rw [asked, Lawful.opening_asked (lawful.seated id call _ waits).asking rfl]
  rfl

/-- When every call has returned and the server has answered all, no index and no socket is
held for a call exactly if no call ran out of polls before its open was answered. -/
theorem slots_released_iff (stack : TcpStack Sock) (thread : Thread)
    (events : List (TrafficEvent Sock))
    (quiet : (run (step stack thread) start events).Quiescent) :
    (run (step stack thread) start events).Released ↔
      EveryStep (step stack thread) OpenAnswered start events := by
  rw [released_iff (run_lawful stack thread events) quiet]
  constructor
  · rintro opened before event ⟨later, rfl⟩
    cases event with
    | client id =>
      intro call buf waits
      obtain ⟨returned, only⟩ :=
        gave_up_end stack thread (run_lawful stack thread before) waits later
      have whole : run (step stack thread) start (before ++ [.client id] ++ later) =
          run (step stack thread) ((run (step stack thread) start before).step stack thread
            (.client id)) later := by
        rw [run_append, run_snoc]
      rw [← whole] at returned only
      exact opened id (by rw [returned]; rfl) only
    | begin owner call => trivial
    | poll change => trivial
    | resolve index offset => trivial
    | accept => trivial
    | serve index offset => trivial
    | send => trivial
  · intro answered id known only
    have preserved : ∀ (traffic : CallTraffic Sock) (event : TrafficEvent Sock),
        traffic.Lawful ∧ traffic.Opened → traffic.OpenAnswered event →
          (traffic.step stack thread event).Lawful ∧ (traffic.step stack thread event).Opened := by
      rintro traffic event ⟨lawful, opened⟩ met
      exact ⟨lawful.step event, opened_step lawful opened met⟩
    have none : (start : CallTraffic Sock).Opened := by
      intro id call result never
      cases never
    have both := run_guarded (step stack thread) preserved events start ⟨start_lawful, none⟩ answered
    obtain ⟨⟨call, client⟩, here⟩ := Option.isSome_iff_exists.mp known
    obtain ⟨result, rfl⟩ := quiet.returned id call client here
    exact both.2 id call result here only

/-! ## Two runs -/

theorem quiescent_of (lawful : traffic.Lawful)
    (returned : ∀ id < traffic.table.nextId, ∀ pair ∈ traffic.clients id, pair.2.stage = none)
    (taken : ∀ entry ∈ traffic.table.sessions, entry.2.ownerToServer = [])
    (answered : traffic.outbox = none)
    (settled : ∀ index, traffic.server.loop.pendingConnectSince index = none) :
    traffic.Quiescent where
  returned := by
    intro id call client known
    have inTable : id < traffic.table.nextId := by
      by_contra fresh
      have found := lawful.found id (by simp [known])
      rw [find_eq_none_of_issued lawful.issued (Nat.le_of_not_lt fresh)] at found
      cases found
    have ended := returned id inTable (call, client) known
    cases client with
    | requesting stage left => cases ended
    | polling stage polls buf => cases ended
    | done result => exact ⟨result, rfl⟩
  taken := by
    intro id session found
    obtain ⟨entry, first, rfl⟩ := Option.map_eq_some_iff.mp found
    exact taken entry (List.mem_of_find?_eq_some first)
  answered := answered
  settled := settled

def shortCall : EvaluateCall := ⟨⟨(10, 0, 2, 2), 9, 50000⟩, ⟨[]⟩, 4⟩

def refusingStack : TcpStack Unit where
  new := ()
  isOpen := fun _ => false
  established := fun _ => false
  closed := fun _ => true
  connect := fun _ _ _ _ => none
  sendSlice := fun _ _ => none
  canRecv := fun _ => false
  recvSlice := fun _ _ => none

def serverThread : Thread := 9

def slotZero : Fin maxSockets := ⟨0, max_sockets_pos⟩

def answeredRequest (sent response : Nat) : List (TrafficEvent Unit) :=
  List.replicate (sent + 1) (.client 0) ++ List.replicate sent (.serve slotZero 0) ++
    List.replicate (response + 1) .send ++ List.replicate response (.client 0)

def answeredRun : List (TrafficEvent Unit) :=
  [.begin 3 shortCall, .accept] ++ answeredRequest 1 2 ++ answeredRequest 10 3 ++
    answeredRequest 2 2

theorem answered_run_quiescent :
    (run (step refusingStack serverThread) start answeredRun).Quiescent := by
  apply quiescent_of (run_lawful refusingStack serverThread answeredRun)
  · decide +kernel
  · decide +kernel
  · decide +kernel
  · decide +kernel

theorem answered_run_releases :
    (run (step refusingStack serverThread) start answeredRun).Quiescent ∧
      ((run (step refusingStack serverThread) start answeredRun).Released ↔
        EveryStep (step refusingStack serverThread) OpenAnswered start answeredRun) :=
  ⟨answered_run_quiescent,
    slots_released_iff refusingStack serverThread answeredRun answered_run_quiescent⟩

def hastyRun : List (TrafficEvent Unit) :=
  .begin 3 shortCall :: List.replicate 7 (.client 0) ++
    [.accept, .serve slotZero 0, .send, .send, .send]

theorem hasty_call_keeps_slot :
    (run (step refusingStack serverThread) start hastyRun).Quiescent ∧
      ¬ (run (step refusingStack serverThread) start hastyRun).Released := by
  constructor
  · apply quiescent_of (run_lawful refusingStack serverThread hastyRun)
    · decide +kernel
    · decide +kernel
    · decide +kernel
    · decide +kernel
  · intro released
    have free := (released 0 (by decide +kernel) slotZero).1
    exact free (by decide +kernel)

end CallTraffic

end Runix.Kernel
