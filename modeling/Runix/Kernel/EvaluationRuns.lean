import Runix.Kernel.Evaluation

/-!
# The runs of an evaluation

Each step of the client or of the server keeps the bytes under way a row of messages, as long
as no poll budget ends inside a response of the receive loop.  A decision that is returned
then begins the bytes that came over the connection.

Without that condition it need not: the rest of a response whose first bytes were dropped is
read as another one, and what the proxy sent inside a refusal is returned as an execution.
-/

namespace Runix.Kernel

open Ipc NetDriver Lib.ByteStrings Lib.Runs List Evaluation MarshalResponse

/-! ## The client -/

variable {arrived buf inbox : Bytes} {stage : EvaluateStage} {request : SocketRequest}
variable {response : SocketResponse}

section Client

variable {call : EvaluateCall} {index : Fin maxSockets} {state : Evaluation}
  {requests : List SocketRequest} {responses : List SocketResponse}

theorem InStep.answered {phase : ServerPhase}
    (inStep : InStep index arrived inbox phase requests (response :: responses)) :
    Names index response ∧ requests = [] ∧ responses = [] ∧ phase ≠ .connecting := by
  rcases inStep.turn with ⟨-, absent, -⟩ | ⟨-, -, absent⟩ | ⟨idle, served, other, only, names⟩
  · cases absent
  · cases absent
  · cases only
    exact ⟨names, served, rfl, idle⟩

theorem InStep.ask {phase : ServerPhase} (unheard : arrived = []) (empty : inbox = [])
    (idle : phase ≠ .connecting) (sends : ∀ handle maxLen, request ≠ .recv handle maxLen) :
    InStep index arrived inbox phase ([] ++ [request]) [] :=
  ⟨unheard, empty, .inl ⟨idle, rfl, request, rfl, sends⟩⟩

theorem chunks_up_to_bounded (size : Nat) (count : Nat) (bytes : Bytes) :
    ∀ chunk ∈ chunksUpTo size count bytes, chunk.length ≤ size := by
  induction count generalizing bytes with
  | zero => simp [chunksUpTo]
  | succ count ih =>
    intro chunk member
    rw [chunksUpTo] at member
    split_ifs at member
    · cases member
    · rcases mem_cons.mp member with rfl | later
      · exact length_take_le _ _
      · exact ih _ _ later

/-- The messages under way while the client holds no part of one. -/
def Evaluation.Row (state : Evaluation) (requests : List SocketRequest)
    (responses : List SocketResponse) : Prop :=
  Linked (state.requestBuf ++ state.session.queue .owner)
    (state.session.queue .server ++ state.phase.rest) requests responses

theorem start_sound (row : state.Row requests responses)
    (bounded : (call.socketRequest stage).Bounded)
    (follows : Follows index state.arrived (inboxOf (state.server.slots index)) state.phase
      (requests ++ [call.socketRequest stage]) responses stage) :
    Sound index { state with client := call.start stage } := by
  have asked := row.ask bounded
  rw [append_assoc] at asked
  exact .working rfl rfl asked follows

variable {result : Option MarshalResponse}

theorem closing_sound (begins : Begins state.arrived result) (handle : UInt8) :
    Sound index { state with client := call.start (.closing handle result) } :=
  .settled rfl begins

theorem receive_sound (row : state.Row requests responses)
    (receiving : Receiving index state.arrived (inboxOf (state.server.slots index)) state.phase
      buf requests responses) (polls : Nat) :
    Sound index { state with client := call.receive (ownHandle index) buf polls } := by
  cases polls with
  | zero => exact closing_sound (begins_none _) _
  | succ polls =>
    refine start_sound row trivial ⟨rfl, ?_, receiving.replies, receiving.idle,
      receiving.accounted⟩
    intro request member
    rcases mem_append.mp member with older | newest
    · exact receiving.polls request older
    · exact ⟨_, _, mem_singleton.mp newest⟩

theorem send_sound (row : state.Row [] []) (unheard : state.arrived = [])
    (empty : inboxOf (state.server.slots index) = []) (idle : state.phase ≠ .connecting)
    {chunks : List Bytes} (bounded : ∀ chunk ∈ chunks, chunk.length ≤ maxPayloadLen) :
    Sound index { state with client := call.send (ownHandle index) chunks } := by
  cases chunks with
  | nil => exact receive_sound row ⟨nofun, nofun, idle, by simp [unheard, empty]⟩ _
  | cons chunk rest =>
    refine start_sound row (bounded chunk mem_cons_self) ⟨rfl, ?_, ?_⟩
    · intro other member
      exact bounded other (mem_cons_of_mem _ member)
    · exact InStep.ask unheard empty idle nofun

section

variable (row : state.Row requests responses)
  (inStep : InStep index state.arrived (inboxOf (state.server.slots index)) state.phase requests
    (response :: responses))

include row inStep

theorem opened_sound :
    Sound index { state with client := call.proceed .opening (some response) } := by
  obtain ⟨names, rfl, rfl, idle⟩ := inStep.answered
  cases response with
  | opened handle =>
    exact start_sound row trivial
      ⟨names, InStep.ask inStep.unheard inStep.empty idle nofun⟩
  | _ => exact .settled rfl (begins_none _)

theorem connected_sound :
    Sound index
      { state with client := call.proceed (.connecting (ownHandle index)) (some response) } := by
  obtain ⟨names, rfl, rfl, idle⟩ := inStep.answered
  cases response with
  | connected answered =>
    rw [EvaluateCall.proceed]
    split_ifs
    · exact send_sound row inStep.unheard inStep.empty idle (chunks_up_to_bounded _ _ _)
    · exact closing_sound (begins_none _) _
  | _ => exact closing_sound (begins_none _) _

end

theorem sent_sound {chunk : Bytes} {rest : List Bytes}
    (bounded : ∀ other ∈ rest, other.length ≤ maxPayloadLen) (row : state.Row requests responses)
    (inStep : InStep index state.arrived (inboxOf (state.server.slots index)) state.phase
      requests (response :: responses)) :
    Sound index { state with
      client := call.proceed (.sending (ownHandle index) chunk rest) (some response) } := by
  obtain ⟨names, rfl, rfl, idle⟩ := inStep.answered
  cases response with
  | sent answered len =>
    rw [EvaluateCall.proceed]
    split_ifs
    · exact send_sound row inStep.unheard inStep.empty idle bounded
    · exact closing_sound (begins_none _) _
  | _ => exact closing_sound (begins_none _) _

theorem complete_begins {rest : Bytes} {response : MarshalResponse} {consumed : Nat}
    (complete : decodeStatus buf = .complete response consumed) :
    Begins (buf ++ rest) (some response) := by
  rw [decode_status_complete_iff] at complete
  have front := ((reads _ _ _).mp complete).2.1
  rintro _ ⟨⟩
  exact .inl (front.trans (prefix_append _ _))

theorem received_sound {polls : Nat} (row : state.Row requests responses)
    (receiving : Receiving index state.arrived (inboxOf (state.server.slots index)) state.phase
      buf requests (response :: responses)) :
    Sound index { state with
      client := call.proceed (.receiving (ownHandle index) polls buf) (some response) } := by
  have later : ∀ other ∈ responses, (∃ data, other = .data (ownHandle index) data) ∨
      ∃ handle cause, other = .error handle cause := by
    intro other member
    exact receiving.replies other (mem_cons_of_mem _ member)
  have accounted := receiving.accounted
  rcases receiving.replies response mem_cons_self with ⟨data, rfl⟩ | ⟨handle, cause, rfl⟩
  · rw [flatMap_cons, append_assoc, ← append_assoc, payload] at accounted
    rw [EvaluateCall.proceed, if_pos rfl]
    cases status : decodeStatus (buf ++ data) with
    | complete response consumed =>
      refine closing_sound ?_ _
      rw [← accounted]
      exact complete_begins status
    | malformed =>
      refine closing_sound ?_ _
      rintro _ ⟨⟩
      exact .inr rfl
    | incomplete =>
      exact receive_sound row ⟨receiving.polls, later, receiving.idle, accounted⟩ _
  · exact receive_sound row ⟨receiving.polls, later, receiving.idle, accounted⟩ _

theorem proceed_sound (state : Evaluation) (row : state.Row requests responses)
    (follows : Follows index state.arrived (inboxOf (state.server.slots index)) state.phase
      requests (response :: responses) stage) :
    Sound index { state with client := call.proceed stage (some response) } := by
  cases stage with
  | opening => exact opened_sound row follows
  | connecting handle =>
    obtain ⟨rfl, inStep⟩ := follows
    exact connected_sound row inStep
  | sending handle chunk rest =>
    obtain ⟨rfl, bounded, inStep⟩ := follows
    exact sent_sound bounded row inStep
  | receiving handle polls buf =>
    obtain ⟨rfl, receiving⟩ := follows
    exact received_sound row receiving
  | closing handle result => cases follows

theorem give_up_sound (spent : state.client = .polling stage 0 buf)
    (whole : state.client.cut = false) (linked : Linked state.asked state.told requests responses)
    (follows : Follows index state.arrived (inboxOf (state.server.slots index)) state.phase
      requests responses stage) : Sound index { state with client := call.proceed stage none } := by
  cases stage with
  | opening => exact .settled rfl (begins_none _)
  | connecting handle => exact closing_sound (begins_none _) _
  | sending handle chunk rest => exact closing_sound (begins_none _) _
  | receiving handle polls kept =>
    obtain ⟨rfl, receiving⟩ := follows
    rw [spent] at whole
    cases buf with
    | nil =>
      simp only [asked, told, spent, EvaluateState.left,
        EvaluateState.buf, append_nil, nil_append] at linked
      exact receive_sound linked receiving _
    | cons byte buf => cases whole
  | closing handle result => cases follows

theorem settled_client_step (call : EvaluateCall) (kept : state.client.Settled result) :
    (state.clientStep call).client.Settled result ∧
      (state.clientStep call).arrived = state.arrived := by
  obtain ⟨client, session, requestBuf, phase, server, arrived⟩ := state
  cases client with
  | requesting stage left =>
    cases stage with
    | closing handle kept' =>
      cases left with
      | nil => exact ⟨kept, rfl⟩
      | cons byte left =>
        dsimp only [clientStep]
        cases session.send byte .owner with
        | none => exact ⟨kept, rfl⟩
        | some sent => exact ⟨kept, rfl⟩
    | _ => cases kept
  | polling stage polls buf =>
    cases stage with
    | closing handle kept' =>
      cases polls with
      | zero => exact ⟨kept, rfl⟩
      | succ polls =>
        dsimp only [clientStep]
        split
        · split
          · exact ⟨kept, rfl⟩
          · exact ⟨kept, rfl⟩
        · exact ⟨kept, rfl⟩
    | _ => cases kept
  | done kept' => exact ⟨kept, rfl⟩

theorem request_byte_sound {byte : UInt8} {left : Bytes}
    (asks : state.client = .requesting stage (byte :: left))
    (linked : Linked state.asked state.told requests responses)
    (follows : Follows index state.arrived (inboxOf (state.server.slots index)) state.phase
      requests responses stage) : Sound index (state.clientStep call) := by
  obtain ⟨client, session, requestBuf, phase, server, arrived⟩ := state
  obtain rfl := asks
  dsimp only [clientStep]
  cases sent : session.send byte .owner with
  | none => exact .working rfl rfl linked follows
  | some answer =>
    obtain ⟨went, next⟩ := answer
    obtain rfl := Session.send_eq_some sent
    refine .working rfl rfl ?_ follows
    simpa [asked, told, EvaluateState.left, EvaluateState.buf] using linked

/-- A poll takes the next byte of the row, if there is one, and goes on when it is the last of
its response. -/
theorem poll_sound {polls : Nat} (waits : state.client = .polling stage (polls + 1) buf)
    (unread : SocketResponse.decode buf = none)
    (linked : Linked state.asked state.told requests responses)
    (follows : Follows index state.arrived (inboxOf (state.server.slots index)) state.phase
      requests responses stage) : Sound index (state.clientStep call) := by
  obtain ⟨client, session, requestBuf, phase, server, arrived⟩ := state
  obtain rfl := waits
  dsimp only [clientStep, Session.tryRecv, Role.other]
  cases lane : session.queue .server with
  | nil => exact .working rfl unread linked follows
  | cons byte rest =>
    have row : Linked (requestBuf ++ session.queue .owner)
        (buf ++ byte :: (rest ++ phase.rest)) requests responses := by
      simpa [asked, told, EvaluateState.left, EvaluateState.buf, lane]
        using linked
    dsimp only
    cases found : SocketResponse.decode (buf ++ [byte]) with
    | none =>
      refine .working rfl found ?_ follows
      simpa [asked, told, EvaluateState.left, EvaluateState.buf] using row
    | some answer =>
      obtain ⟨response, consumed⟩ := answer
      obtain ⟨others, rfl, remain⟩ := row.answered unread found
      refine proceed_sound ⟨.polling stage polls buf, session.setQueue rest .server,
        requestBuf, phase, server, arrived⟩ ?_ follows
      simpa [Evaluation.Row] using remain

theorem client_step_sound (whole : state.client.cut = false) (sound : Sound index state) :
    Sound index (state.clientStep call) := by
  cases sound with
  | settled kept begins =>
    obtain ⟨still, same⟩ := settled_client_step call kept
    exact .settled still (same ▸ begins)
  | @working stage requests responses here unread linked follows =>
    cases client : state.client with
    | requesting stage left =>
      rw [client] at here
      cases here
      cases left with
      | nil =>
        simp only [asked, told, client] at linked
        rw [clientStep, client]
        exact .working rfl rfl linked follows
      | cons byte left => exact request_byte_sound client linked follows
    | polling stage polls buf =>
      rw [client] at here unread
      cases here
      cases polls with
      | zero =>
        rw [clientStep, client]
        exact give_up_sound client whole linked follows
      | succ polls => exact poll_sound client unread linked follows
    | done result =>
      rw [client] at here
      cases here

end Client

/-! ## The server -/

section Server

variable {network : Network} {id : Nat} {index : Fin maxSockets} {state : Evaluation}
  {requests : List SocketRequest} {responses : List SocketResponse}

/-- Stages read of the server's phase only whether it waits for a handshake. -/
theorem Follows.rephase {phase next : ServerPhase}
    (follows : Follows index arrived inbox phase requests responses stage)
    (before : phase ≠ .connecting) (after : next ≠ .connecting) :
    Follows index arrived inbox next requests responses stage := by
  have turned : InStep index arrived inbox phase requests responses →
      InStep index arrived inbox next requests responses := by
    intro inStep
    refine ⟨inStep.unheard, inStep.empty, ?_⟩
    simpa [before, after] using inStep.turn
  cases stage with
  | opening => exact turned follows
  | connecting handle => exact follows.imp_right turned
  | sending handle chunk rest => exact follows.imp_right (And.imp_right turned)
  | receiving handle polls buf =>
    obtain ⟨own, receiving⟩ := follows
    exact ⟨own, receiving.polls, receiving.replies, after, receiving.accounted⟩
  | closing handle result => exact follows

theorem accept_sound (sound : Sound index state) : Sound index (state.accept id index) := by
  have slots : (state.accept id index).server.slots = state.server.slots := by
    unfold accept
    split_ifs <;> rfl
  cases sound with
  | settled kept begins => exact .settled kept begins
  | working here unread linked follows => exact .working here unread linked (slots ▸ follows)

theorem take_sound (sound : Sound index state) : Sound index state.take := by
  obtain ⟨client, session, requestBuf, phase, server, arrived⟩ := state
  dsimp only [Evaluation.take, Session.tryRecv, Role.other]
  cases lane : session.queue .owner with
  | nil => exact sound
  | cons byte rest =>
    cases sound with
    | settled kept begins => exact .settled kept begins
    | working here unread linked follows =>
      refine .working here unread ?_ follows
      simpa [asked, told, lane] using linked

theorem take_phase (state : Evaluation) : state.take.phase = state.phase := by
  unfold Evaluation.take
  split <;> rfl

theorem answer_immediate (reading : state.phase = .reading)
    (handled : (handleSocketRequest network state.server.slots index
      (pinToOwnSession request index)).1 = .immediate response) :
    (state.answer network index request).phase ≠ .connecting ∧
      (state.answer network index request).told = state.told ++ response.encode := by
  have phase : ∃ closes,
      (state.answer network index request).phase = .responding response.encode closes := by
    dsimp only [answer]
    rw [handled]
    exact ⟨_, rfl⟩
  obtain ⟨closes, phase⟩ := phase
  have others : (state.answer network index request).client = state.client ∧
      (state.answer network index request).session = state.session := ⟨rfl, rfl⟩
  constructor
  · rw [phase]
    nofun
  · simp only [told, phase, others, reading, ServerPhase.rest, append_nil,
      append_assoc]

theorem answer_pending (reading : state.phase = .reading)
    (handled : (handleSocketRequest network state.server.slots index
      (pinToOwnSession request index)).1 = .connectPending) :
    (state.answer network index request).phase = .connecting ∧
      (state.answer network index request).told = state.told := by
  have phase : (state.answer network index request).phase = .connecting := by
    dsimp only [answer]
    rw [handled]
  have others : (state.answer network index request).client = state.client ∧
      (state.answer network index request).session = state.session := ⟨rfl, rfl⟩
  refine ⟨phase, ?_⟩
  simp only [told, phase, others, reading, ServerPhase.rest]

theorem answer_arrived (network : Network) (index : Fin maxSockets) (state : Evaluation)
    (sends : ∀ handle maxLen, request ≠ .recv handle maxLen) :
    (state.answer network index request).arrived = state.arrived := by
  cases request with
  | recv handle maxLen => exact absurd rfl (sends handle maxLen)
  | _ => rfl

section

variable (reading : state.phase = .reading)

include reading

theorem answer_in_step
    (linked : Linked state.asked state.told requests responses)
    (inStep : InStep index state.arrived (inboxOf (state.server.slots index)) state.phase
      (request :: requests) responses) :
    ∃ answers,
      Linked state.asked (state.answer network index request).told requests answers ∧
      InStep index (state.answer network index request).arrived
        (inboxOf ((state.answer network index request).server.slots index))
        (state.answer network index request).phase requests answers := by
  rcases inStep.turn with ⟨-, rfl, only, served, sends⟩ | ⟨-, absent, -⟩ | ⟨-, absent, -⟩
  · cases served
    have unheard := (answer_arrived network index state sends).trans inStep.unheard
    have leaves := handled_request network state.server.slots index sends
    have empty := leaves.inbox inStep.empty
    cases handled : (handleSocketRequest network state.server.slots index
        (pinToOwnSession request index)).1 with
    | immediate response =>
      obtain ⟨bounded, names⟩ := leaves.response response handled
      obtain ⟨idle, told⟩ := answer_immediate reading handled
      rw [told]
      exact ⟨_, linked.tell bounded, unheard, empty, .inr (.inr ⟨idle, rfl, _, rfl, names⟩)⟩
    | connectPending =>
      obtain ⟨waits, told⟩ := answer_pending reading handled
      rw [told]
      exact ⟨_, linked, unheard, empty, .inr (.inl ⟨waits, rfl, rfl⟩)⟩
  · cases absent
  · cases absent

theorem answer_receiving
    (linked : Linked state.asked state.told requests responses)
    (receiving : Receiving index state.arrived (inboxOf (state.server.slots index)) state.phase
      buf (request :: requests) responses) :
    ∃ answers,
      Linked state.asked (state.answer network index request).told requests answers ∧
      Receiving index (state.answer network index request).arrived
        (inboxOf ((state.answer network index request).server.slots index))
        (state.answer network index request).phase buf requests answers := by
  obtain ⟨handle, maxLen, rfl⟩ := receiving.polls request mem_cons_self
  obtain ⟨response, handled, bounded, reply, moved⟩ :=
    handled_recv network state.server.slots index handle maxLen
  obtain ⟨idle, told⟩ := answer_immediate reading handled
  rw [told]
  refine ⟨_, linked.tell bounded, ?_, ?_, idle, ?_⟩
  · intro other member
    exact receiving.polls other (mem_cons_of_mem _ member)
  · intro other member
    rcases mem_append.mp member with older | newest
    · exact receiving.replies other older
    · rw [mem_singleton.mp newest]
      exact reply
  · show buf ++ ((responses ++ [response]).flatMap payload ++ _) =
      state.arrived ++ heard network (state.server.slots index)
    rw [← receiving.accounted, flatMap_append, flatMap_singleton, append_assoc]
    simp only [append_assoc]
    exact congrArg (fun tail => buf ++ (responses.flatMap payload ++ tail)) moved

theorem answer_sound (here : state.client.stage = some stage)
    (unread : SocketResponse.decode state.client.buf = none)
    (linked : Linked state.asked state.told requests responses)
    (follows : Follows index state.arrived (inboxOf (state.server.slots index)) state.phase
      (request :: requests) responses stage) :
    Sound index (state.answer network index request) := by
  cases stage with
  | opening =>
    obtain ⟨answers, row, inStep⟩ := answer_in_step reading linked follows
    exact .working here unread row inStep
  | connecting handle =>
    obtain ⟨own, inStep⟩ := follows
    obtain ⟨answers, row, inStep⟩ := answer_in_step reading linked inStep
    exact .working here unread row ⟨own, inStep⟩
  | sending handle chunk rest =>
    obtain ⟨own, bounded, inStep⟩ := follows
    obtain ⟨answers, row, inStep⟩ := answer_in_step reading linked inStep
    exact .working here unread row ⟨own, bounded, inStep⟩
  | receiving handle polls buf =>
    obtain ⟨own, receiving⟩ := follows
    obtain ⟨answers, row, receiving⟩ := answer_receiving reading linked receiving
    exact .working here unread row ⟨own, receiving⟩
  | closing handle result => cases follows

end

theorem answer_grows (network : Network) (index : Fin maxSockets) (state : Evaluation)
    (request : SocketRequest) : state.arrived <+: (state.answer network index request).arrived := by
  cases request with
  | recv handle maxLen => exact prefix_append _ _
  | _ => exact prefix_rfl

theorem serve_sound (reading : state.phase = .reading) (sound : Sound index state) :
    Sound index (state.serve network index) := by
  unfold serve
  cases found : SocketRequest.decode state.requestBuf with
  | none => exact sound
  | some result =>
    obtain ⟨request, consumed⟩ := result
    cases sound with
    | settled kept begins =>
      exact .settled kept (begins.later (answer_grows network index
        { state with requestBuf := state.requestBuf.drop consumed } request))
    | working here unread linked follows =>
      obtain ⟨rest, rfl, remain⟩ := linked.served found
      exact answer_sound reading here unread remain follows

theorem read_step_sound (sound : Sound index state) :
    Sound index (state.readStep network index) := by
  unfold readStep
  split_ifs
  · exact sound
  · cases phase : state.phase with
    | reading => exact serve_sound ((take_phase state).trans phase) (take_sound sound)
    | _ => exact sound

theorem resolved (network : Network) (server : SocketServer) (index : Fin maxSockets) :
    (server.resolveConnect network index).1.Bounded ∧
      Names index (server.resolveConnect network index).1 ∧
      inboxOf ((server.resolveConnect network index).2.slots index) =
        inboxOf (server.slots index) := by
  unfold SocketServer.resolveConnect
  cases network.handshake <;> refine ⟨trivial, trivial, ?_⟩ <;>
    cases server.slots index <;> simp [inboxOf]

theorem InStep.resolve (inStep : InStep index arrived inbox .connecting requests responses)
    (next : ServerPhase) (names : Names index response) (idle : next ≠ .connecting) :
    InStep index arrived inbox next requests (responses ++ [response]) := by
  rcases inStep.turn with ⟨busy, -⟩ | ⟨-, rfl, rfl⟩ | ⟨busy, -⟩
  · exact absurd rfl busy
  · exact ⟨inStep.unheard, inStep.empty, .inr (.inr ⟨idle, rfl, response, rfl, names⟩)⟩
  · exact absurd rfl busy

theorem Follows.resolve (follows : Follows index arrived inbox .connecting requests responses stage)
    (next : ServerPhase) (names : Names index response) (idle : next ≠ .connecting) :
    Follows index arrived inbox next requests (responses ++ [response]) stage := by
  cases stage with
  | opening => exact InStep.resolve follows next names idle
  | connecting handle => exact follows.imp_right fun inStep => inStep.resolve next names idle
  | sending handle chunk rest =>
    exact follows.imp_right (And.imp_right fun inStep => inStep.resolve next names idle)
  | receiving handle polls buf => exact absurd rfl follows.2.idle
  | closing handle result => exact follows

theorem settle_sound (sound : Sound index state) : Sound index (state.settle network index) := by
  obtain ⟨client, session, requestBuf, phase, server, arrived⟩ := state
  cases phase with
  | connecting =>
    obtain ⟨bounded, names, inbox⟩ := resolved network server index
    cases sound with
    | settled kept begins => exact .settled kept begins
    | working here unread linked follows =>
      have row := linked.tell bounded
      simp only [told, ServerPhase.rest, append_nil, append_assoc] at row
      have after := follows.resolve
        (.responding (server.resolveConnect network index).1.encode false) names nofun
      rw [← inbox] at after
      exact .working here unread row after
  | _ => exact sound

theorem respond_sound (sound : Sound index state) : Sound index (state.respond index) := by
  obtain ⟨client, session, requestBuf, phase, server, arrived⟩ := state
  cases phase with
  | responding rest closes =>
    cases rest with
    | nil =>
      have slots : (if closes = true then
          { server with liveSessions := Function.update server.liveSessions index none }
          else server).slots = server.slots := by
        split_ifs <;> rfl
      cases sound with
      | settled kept begins => exact .settled kept begins
      | working here unread linked follows =>
        refine .working here unread linked ?_
        dsimp only [respond]
        rw [slots]
        exact follows.rephase nofun nofun
    | cons byte rest =>
      dsimp only [respond]
      cases sent : session.send byte .server with
      | none => exact sound
      | some answer =>
        obtain ⟨went, next⟩ := answer
        obtain rfl := Session.send_eq_some sent
        cases sound with
        | settled kept begins => exact .settled kept begins
        | working here unread linked follows =>
          refine .working here unread ?_ (follows.rephase nofun nofun)
          simpa [asked, told, ServerPhase.rest] using linked
  | _ => exact sound

end Server

/-! ## Runs -/

section Run

variable (network : Network) (call : EvaluateCall) (id : Nat) (index : Fin maxSockets)

theorem start_of_call_sound (owner : Thread) {server : SocketServer}
    (free : server.slots index = none) : Sound index (opened call owner server) := by
  have empty : inboxOf (server.slots index) = [] := by
    rw [free]
    rfl
  refine .working rfl rfl ?_
    ⟨rfl, empty, .inl ⟨nofun, rfl, .openSocket, rfl, nofun⟩⟩
  exact ⟨rfl, rfl, by simp [SocketRequest.Bounded], nofun⟩

theorem step_sound {state : Evaluation} (event : EvaluationEvent) (whole : state.client.cut = false)
    (sound : Sound index state) : Sound index (state.step network call id index event) := by
  cases event with
  | client => exact client_step_sound whole sound
  | accept => exact accept_sound sound
  | read => exact read_step_sound sound
  | settle => exact settle_sound sound
  | respond => exact respond_sound sound

/-- As long as no poll budget ends inside a response of the receive loop, a decision that is
returned begins what came over the connection. -/
theorem returned_decision_begins_arrived (owner : Thread) (server : SocketServer)
    (free : server.slots index = none) (events : List EvaluationEvent)
    (whole : EveryStep (step network call id index)
      (fun state _ => state.client.cut = false) (opened call owner server) events)
    (outcome : MarshalOutcome) (json : Bytes)
    (returned : (run (step network call id index)
      (opened call owner server) events).client =
        .done (some (.decision outcome json))) :
    (decision outcome json).encode <+:
      (run (step network call id index)
        (opened call owner server) events).arrived := by
  have sound := run_guarded (step network call id index)
    (fun state event sound whole => step_sound network call id index event whole sound) events
    (opened call owner server) (start_of_call_sound call index owner free) whole
  cases sound with
  | working here unread linked follows =>
    rw [returned] at here
    cases here
  | settled kept begins =>
    rw [returned] at kept
    rcases begins _ kept.symm with front | bad
    · exact front
    · cases bad

end Run

/-! ## Two runs -/

def carryingRefusal : MarshalResponse := .decision .refuse [4, 0, 6, 0, 0, 0, 0, 0, 0, 0]

def refusingNetwork : Network where
  handshake := .established
  acked := id
  queue := min
  arrivals _ receives := if receives = 0 then carryingRefusal.encode else []

def proxyCall : EvaluateCall := ⟨⟨(10, 0, 2, 2), 9, 50000⟩, ⟨[]⟩, 5⟩

def freeServer : SocketServer := ⟨9, fun _ => none, fun _ => none⟩

def firstIndex : Fin maxSockets := ⟨0, max_sockets_pos⟩

def exchanged (sent : Nat) (pause : List EvaluationEvent) (answered : Nat) :
    List EvaluationEvent :=
  List.replicate (sent + 1) .client ++ List.replicate sent .read ++ pause ++
    List.replicate (answered + 1) .respond ++ List.replicate answered .client

def untilReceive : List EvaluationEvent :=
  .accept :: exchanged 1 [] 2 ++ exchanged 10 [.settle] 2 ++ exchanged 8 [] 4 ++
    List.replicate 5 .client

def proxyStep : Evaluation → EvaluationEvent → Evaluation :=
  step refusingNetwork proxyCall 1 firstIndex

def wholeRun : List EvaluationEvent :=
  untilReceive ++ List.replicate 4 .read ++ List.replicate 21 .respond ++
    List.replicate 20 .client ++ exchanged 2 [] 2

theorem refusal_begins_arrived :
    EveryStep proxyStep (fun state _ => state.client.cut = false)
        (opened proxyCall 7 freeServer) wholeRun ∧
      carryingRefusal.encode <+:
        (run proxyStep (opened proxyCall 7 freeServer) wholeRun).arrived := by
  have whole : EveryStep proxyStep (fun state _ => state.client.cut = false)
      (opened proxyCall 7 freeServer) wholeRun := by decide +kernel
  exact ⟨whole, returned_decision_begins_arrived refusingNetwork proxyCall 1 firstIndex 7
    freeServer rfl wholeRun whole _ _ (by decide +kernel)⟩

theorem empty_polls (network : Network) (call : EvaluateCall) (id : Nat) (index : Fin maxSockets)
    {left : Nat} (spent : Nat) {state : Evaluation}
    (waits : state.client = .polling stage (spent + left) buf)
    (silent : state.session.queue .server = []) :
    run (step network call id index) state (List.replicate spent .client) =
      { state with client := .polling stage left buf } := by
  induction spent generalizing state with
  | zero =>
    rw [Nat.zero_add] at waits
    rw [← waits]
    rfl
  | succ spent ih =>
    have polled : state.step network call id index .client =
        { state with client := .polling stage (spent + left) buf } := by
      rw [Nat.succ_add] at waits
      simp [step, clientStep, waits, Session.tryRecv, Role.other, silent]
    rw [replicate_succ, run_cons, polled]
    exact ih rfl silent

/-- The server answers when ten polls are left, and the first ten bytes of the answer are
dropped with them. -/
def cutRun : List EvaluationEvent :=
  List.replicate 4 .read ++ List.replicate 21 .respond ++ List.replicate 29 .client ++
    List.replicate 4 .read ++ List.replicate 5 .respond ++ List.replicate 4 .client

theorem refusal_returned_as_execution :
    ∃ events,
      (run proxyStep (opened proxyCall 7 freeServer) events).arrived =
        carryingRefusal.encode ∧
      (run proxyStep (opened proxyCall 7 freeServer) events).client =
        .done (some (.decision .execute [])) ∧
      ∀ later,
        ¬ (decision .execute []).encode <+: carryingRefusal.encode ++ later := by
  have waits : (run proxyStep (opened proxyCall 7 freeServer) untilReceive).client =
      .polling (.receiving 0 4 []) (1990 + 10) [] := by decide +kernel
  have silent : (run proxyStep (opened proxyCall 7 freeServer)
      untilReceive).session.queue .server = [] := by decide +kernel
  have polled : run proxyStep (run proxyStep (opened proxyCall 7 freeServer)
      untilReceive) (List.replicate 1990 .client) = _ :=
    empty_polls refusingNetwork proxyCall 1 firstIndex 1990 waits silent
  refine ⟨untilReceive ++ List.replicate 1990 .client ++ cutRun, ?_⟩
  rw [run_append, run_append, polled]
  refine ⟨by decide +kernel, by decide +kernel, ?_⟩
  intro later front
  simp [encode, carryingRefusal, MarshalOutcome.toByte] at front

end Runix.Kernel
