import Runix.Arm.MarshalAction

/-!
# The relay between the gate and the proxy

`run_marshal_request` of `net-driver-host-arm/src/main.rs` polls a TCP socket and copies
what arrives into a buffer of 8 KiB, which `evaluate_configured` of
`kernel-arm/src/marshal_transport.rs` reads back and classifies.  The TCP stack is the
sequence of polls: what each one sends, what it delivers, and whether the socket is
still open after it.
-/

namespace Runix.Arm

open Citadel Ipc Lib.ByteStrings Lib.Streaming List MarshalResponse

def marshalRequestCapacity : Nat := 8192

def marshalResponseCapacity : Nat := 8192

/-- `net_process::MARSHAL_BUFFER_CAPACITY`: two pages. -/
def marshalBufferCapacity : Nat := 2 * 4096

def relayIterations : Nat := 2000000

/-- One poll of the TCP stack: the bytes `send_slice` would take, none when it cannot send,
the bytes that reach the receive buffer, and `is_open` after it. -/
structure Poll where
  queued : Nat
  arrived : Bytes
  isOpen : Bool

/-- `pending` is the socket's receive buffer. -/
structure Relay where
  sent : Nat
  pending : Bytes
  received : Bytes

namespace Relay

def start : Relay := ⟨0, [], []⟩

variable (relay : Relay)

def send (requestLen : Nat) (poll : Poll) : Relay :=
  if relay.sent < requestLen then
    { relay with sent := relay.sent + min poll.queued (requestLen - relay.sent) }
  else relay

def deliver (poll : Poll) : Relay :=
  { relay with pending := relay.pending ++ poll.arrived }

def receive : Relay :=
  if relay.pending ≠ [] ∧ relay.received.length < marshalResponseCapacity then
    let room := marshalResponseCapacity - relay.received.length
    { relay with
      received := relay.received ++ relay.pending.take room
      pending := relay.pending.drop room }
  else relay

def pass (requestLen : Nat) (poll : Poll) : Relay :=
  ((relay.deliver poll).send requestLen poll).receive

/-- The loop stops once the buffer is full, or the request is sent and the socket closed. -/
def stops (requestLen : Nat) (poll : Poll) : Bool :=
  marshalResponseCapacity ≤ relay.received.length || (requestLen ≤ relay.sent && !poll.isOpen)

def loop (requestLen : Nat) : Relay → List Poll → Relay
  | relay, [] => relay
  | relay, poll :: polls =>
    let next := relay.pass requestLen poll
    if next.stops requestLen poll then next else loop requestLen next polls

end Relay

/-- What surrounds the two functions: the device, the loader, the scheduler and the TCP
stack. -/
structure Excursion where
  hasNet : Bool
  /-- Whether the loader returned a response region. -/
  setup : Except String Bool
  spawned : Bool
  /-- The driver reported back within 64 yields. -/
  finished : Bool
  faulted : Bool
  deviceReady : Bool
  connected : Bool
  polls : Nat → Poll

namespace Excursion

def window (excursion : Excursion) : List Poll :=
  (List.range relayIterations).map excursion.polls

/-- The status, and the bytes of the response region the length covers. -/
def runMarshalRequest (excursion : Excursion) (requestLen : Nat) : Nat × Bytes :=
  if !excursion.deviceReady || !excursion.connected then (1, [])
  else
    let relay := Relay.loop (min requestLen marshalRequestCapacity) .start excursion.window
    if relay.received = [] then (1, []) else (0, relay.received)

end Excursion

/-- `None` in every shipped build. -/
def debugForceLocalFailure : Option (String × LocalFailure) := none

def forcedFailure (action : MarshalAction) : Option LocalFailure :=
  match debugForceLocalFailure, action with
  | some (op, failure), .esim thisOp _ _ => if op = thisOp then some failure else none
  | _, _ => none

def evaluateConfigured (excursion : Excursion) (action : MarshalAction) (principal : String) :
    GateOutcome :=
  match forcedFailure action with
  | some failure => .localFailure failure
  | none =>
    if !excursion.hasNet then .remote .unreachable
    else
      let encoded := MarshalRequest.encode ⟨utf8 (action.kerkeseJson principal)⟩
      match excursion.setup with
      | .error _ => .localFailure .setupFailed
      | .ok false => .localFailure .setupFailed
      | .ok true =>
        if !excursion.spawned then .localFailure .spawnFailed
        else if !excursion.finished then .remote .unreachable
        else if excursion.faulted then .localFailure .excursionFaulted
        else
          let (status, response) :=
            excursion.runMarshalRequest (min encoded.length marshalBufferCapacity)
          if status ≠ 0 ∨ response.length = 0 then .remote .unreachable
          else
            let bytes := response.take (min response.length marshalBufferCapacity)
            .remote (classifyDecode (decodeStatus bytes))

/-! ## What the buffer holds -/

/-- After the bytes `stream` the buffer holds their front, and the socket the rest. -/
structure Relay.Holds (relay : Relay) (stream : Bytes) : Prop where
  received : relay.received = stream.take marshalResponseCapacity
  pending : relay.pending = stream.drop marshalResponseCapacity

namespace Relay

theorem start_holds : start.Holds [] := ⟨rfl, rfl⟩

theorem deliver_send_received (relay : Relay) (requestLen : Nat) (poll : Poll) :
    ((relay.deliver poll).send requestLen poll).received = relay.received ∧
      ((relay.deliver poll).send requestLen poll).pending = relay.pending ++ poll.arrived := by
  unfold send
  split <;> exact ⟨rfl, rfl⟩

variable {relay : Relay}

theorem receive_holds {stream arrived : Bytes}
    (received : relay.received = stream.take marshalResponseCapacity)
    (pending : relay.pending = stream.drop marshalResponseCapacity ++ arrived) :
    relay.receive.Holds (stream ++ arrived) := by
  have taken : relay.received.length = min marshalResponseCapacity stream.length := by
    rw [received, length_take]
  unfold receive
  split_ifs with ready
  · -- There is room, so everything so far was copied and the rest goes on behind it.
    rw [take_of_length_le (by omega)] at received
    rw [drop_of_length_le (by omega), nil_append] at pending
    constructor
    · rw [received, pending, take_append, take_of_length_le (by omega : _ ≤ _)]
    · rw [received, pending, drop_append, drop_of_length_le (by omega : _ ≤ _),
        nil_append]
  · rcases Nat.lt_or_ge stream.length marshalResponseCapacity with short | full
    · have nothing : relay.pending = [] := by
        by_contra some
        exact ready ⟨some, by omega⟩
      rw [pending, append_eq_nil_iff] at nothing
      rw [nothing.2, append_nil] at pending ⊢
      exact ⟨received, pending⟩
    · exact ⟨by rw [received, take_append_of_le_length full],
        by rw [pending, drop_append_of_le_length full]⟩

theorem pass_holds {stream : Bytes} (holds : relay.Holds stream) (requestLen : Nat) (poll : Poll) :
    (relay.pass requestLen poll).Holds (stream ++ poll.arrived) := by
  obtain ⟨received, pending⟩ := deliver_send_received relay requestLen poll
  apply receive_holds
  · rw [received, holds.received]
  · rw [pending, holds.pending]

/-- Nothing arrives after a poll that leaves the socket closed. -/
def ClosesLast (polls : List Poll) : Prop :=
  ∀ before poll after, polls = before ++ poll :: after → poll.isOpen = false →
    after.flatMap Poll.arrived = []

theorem ClosesLast.tail {poll : Poll} {polls : List Poll} (closes : ClosesLast (poll :: polls)) :
    ClosesLast polls := by
  intro before last after split closed
  exact closes (poll :: before) last after (by rw [split, cons_append]) closed

theorem loop_received (requestLen : Nat) {polls : List Poll} (closes : ClosesLast polls) {stream : Bytes} (holds : relay.Holds stream) :
    (loop requestLen relay polls).received =
      (stream ++ polls.flatMap Poll.arrived).take marshalResponseCapacity := by
  induction polls generalizing relay stream with
  | nil => simpa [loop] using holds.received
  | cons poll polls ih =>
    have next := pass_holds holds requestLen poll
    rw [loop, flatMap_cons, ← append_assoc]
    split
    · rename_i stopped
      rw [next.received]
      rcases Bool.or_eq_true _ _ |>.mp stopped with full | closed
      · -- The buffer is full: the bytes to come do not change its front.
        have long : marshalResponseCapacity ≤ (stream ++ poll.arrived).length := by
          have filled := of_decide_eq_true full
          rw [next.received, length_take] at filled
          omega
        rw [take_append_of_le_length long]
      · have ended : poll.isOpen = false := by
          simpa using (Bool.and_eq_true _ _ |>.mp closed).2
        rw [closes [] poll polls rfl ended, append_nil]
    · exact ih closes.tail next

end Relay

/-! ## What the gate makes of a reply -/

/-- The proxy's bytes all arrive, in order, before the socket closes, at a driver that
runs to its end. -/
structure Excursion.Delivers (excursion : Excursion) (reply : Bytes) : Prop where
  hasNet : excursion.hasNet = true
  setup : excursion.setup = .ok true
  spawned : excursion.spawned = true
  finished : excursion.finished = true
  unfaulted : excursion.faulted = false
  deviceReady : excursion.deviceReady = true
  connected : excursion.connected = true
  arrives : excursion.window.flatMap Poll.arrived = reply
  closes : Relay.ClosesLast excursion.window

theorem evaluate_configured_delivered {excursion : Excursion} {reply : Bytes}
    (delivers : excursion.Delivers reply) (nonempty : reply ≠ []) (action : MarshalAction)
    (principal : String) :
    evaluateConfigured excursion action principal =
      .remote (classifyDecode (decodeStatus
        (reply.take marshalResponseCapacity))) := by
  have held : ∀ requestLen, excursion.runMarshalRequest requestLen =
      (0, reply.take marshalResponseCapacity) := by
    intro requestLen
    have received := Relay.loop_received (min requestLen marshalRequestCapacity) delivers.closes
      Relay.start_holds
    rw [nil_append, delivers.arrives] at received
    have some : reply.take marshalResponseCapacity ≠ [] := by
      simp [nonempty, marshalResponseCapacity]
    simp [Excursion.runMarshalRequest, delivers.deviceReady, delivers.connected, received, some]
  have within : (reply.take marshalResponseCapacity).length ≤ marshalBufferCapacity := by
    rw [length_take]
    exact Nat.min_le_left _ _
  have copied : (reply.take marshalResponseCapacity).length ≠ 0 := by
    simp [nonempty, marshalResponseCapacity]
  have unforced : forcedFailure action = none := rfl
  simp only [evaluateConfigured, unforced, delivers.hasNet, delivers.setup, delivers.spawned,
    delivers.finished, delivers.unfaulted, held, copied, Bool.not_true, Bool.false_eq_true,
    if_false, ne_eq, not_true_eq_false, or_self, Nat.min_eq_left within, take_length]

variable (outcome : MarshalOutcome)

theorem decision_encode_length (decisionJson : Bytes) :
    (decision outcome decisionJson).encode.length = decisionJson.length + 6 := by
  simp only [encode, encodeBytes, length_cons, length_append,
    le_bytes_length]
  omega

variable {response : MarshalResponse}

/-- Only a decision is long enough to be cut. -/
theorem decision_of_long (bounded : response.Bounded)
    (long : marshalResponseCapacity < response.encode.length) :
    ∃ outcome decisionJson, response = .decision outcome decisionJson := by
  cases response with
  | decision outcome decisionJson => exact ⟨outcome, decisionJson, rfl⟩
  | error cause =>
    exfalso
    cases cause <;>
      simp [MarshalResponse.Bounded, MarshalError.Bounded, encode,
        MarshalError.encode, MarshalError.body, encodeString, le_bytes_length, maxMessageLen,
        marshalResponseCapacity] at bounded long <;> omega

theorem cut_reply_unreachable (bounded : response.Bounded)
    (long : marshalResponseCapacity < response.encode.length) :
    classifyDecode (decodeStatus
      (response.encode.take marshalResponseCapacity)) = .unreachable := by
  have opened : Open encode MarshalResponse.Bounded
      (response.encode.take marshalResponseCapacity) := by
    refine ⟨response, bounded, take_prefix _ _, ?_⟩
    intro whole
    have lengths := congrArg List.length whole
    rw [length_take] at lengths
    omega
  rw [(decode_status_incomplete_iff _).mpr (.inl opened)]
  rfl

theorem classify_decision_ne_unreachable (decisionJson : Bytes) :
    classifyResponse (some (.decision outcome decisionJson)) ≠ .unreachable := by
  cases outcome <;> simp [classifyResponse]

/-- The outcome is the response's own, and a decision against the action blocks it. -/
structure ReplyHonoured (excursion : Excursion) (action : MarshalAction) (principal : String)
    (response : MarshalResponse) : Prop where
  outcome : evaluateConfigured excursion action principal =
    .remote (classifyResponse (some response))
  blocks : ∀ verdict decisionJson, response = .decision verdict decisionJson →
    verdict = .refuse ∨ verdict = .hardStop →
      enforce action.unreachablePolicy (evaluateConfigured excursion action principal) ≠ .ok ()

/-- A delivered response is honoured exactly when it fits the driver's buffer. -/
theorem delivered_reply_honoured_iff (excursion : Excursion) (action : MarshalAction)
    (principal : String) (response : MarshalResponse) (bounded : response.Bounded)
    (delivers : excursion.Delivers response.encode) :
    ReplyHonoured excursion action principal response ↔
      response.encode.length ≤ marshalResponseCapacity := by
  have evaluated :=
    evaluate_configured_delivered delivers response.encode_ne_nil action principal
  constructor
  · intro honoured
    by_contra above
    have long : marshalResponseCapacity < response.encode.length := Nat.lt_of_not_le above
    obtain ⟨verdict, decisionJson, rfl⟩ := decision_of_long bounded long
    rw [cut_reply_unreachable bounded long, honoured.outcome, GateOutcome.remote.injEq] at evaluated
    exact classify_decision_ne_unreachable verdict decisionJson evaluated
  · intro fits
    have whole := decode_status_encode_append bounded []
    rw [append_nil] at whole
    rw [take_of_length_le fits, whole] at evaluated
    refine ⟨evaluated, ?_⟩
    rintro verdict decisionJson rfl (rfl | rfl) <;> rw [evaluated] <;> simp [classifyDecode,
      classifyResponse, enforce]

/-- A run without failures, whose polls each deliver up to 1024 bytes of the reply; the
driver's side of the socket stays open. -/
def pacedExcursion (reply : Bytes) : Excursion where
  hasNet := true
  setup := .ok true
  spawned := true
  finished := true
  faulted := false
  deviceReady := true
  connected := true
  polls offset := ⟨1024, (reply.drop (1024 * offset)).take 1024, true⟩

theorem paced_arrivals (reply : Bytes) (count : Nat) :
    ((List.range count).map (pacedExcursion reply).polls).flatMap Poll.arrived =
      reply.take (1024 * count) := by
  induction count with
  | zero => simp
  | succ count ih =>
    rw [range_succ, map_append, flatMap_append, ih, Nat.mul_succ, take_add]
    simp [pacedExcursion]

theorem paced_delivers {reply : Bytes} (short : reply.length ≤ 1024 * relayIterations) :
    (pacedExcursion reply).Delivers reply where
  hasNet := rfl
  setup := rfl
  spawned := rfl
  finished := rfl
  unfaulted := rfl
  deviceReady := rfl
  connected := rfl
  arrives := by
    rw [Excursion.window, paced_arrivals, take_of_length_le short]
  closes := by
    intro before poll after split closed
    have member : poll ∈ (pacedExcursion reply).window := by simp [split]
    obtain ⟨offset, -, rfl⟩ := mem_map.mp member
    exact absurd closed (by simp [pacedExcursion])

theorem short_refusal_honoured :
    ReplyHonoured (pacedExcursion (encode (.decision .refuse [123, 125])))
      (.esim "enable" 0 1) "el0:arm-demo" (.decision .refuse [123, 125]) :=
  (delivered_reply_honoured_iff _ _ _ (.decision .refuse [123, 125])
    (show 2 ≤ maxJsonLen by decide) (paced_delivers (by decide))).mpr (by decide)

/-- A refusal of 8193 bytes, all delivered, comes out as unreachable and lets a profile be
enabled. -/
theorem long_refusal_allows_enable : let response := decision .refuse (List.replicate 8187 32)
    response.Bounded ∧ (pacedExcursion response.encode).Delivers response.encode ∧
      evaluateConfigured (pacedExcursion response.encode) (.esim "enable" 0 1) "el0:arm-demo" ≠
        .remote (classifyResponse (some response)) ∧
      enforce (MarshalAction.esim "enable" 0 1).unreachablePolicy
        (evaluateConfigured (pacedExcursion response.encode) (.esim "enable" 0 1)
          "el0:arm-demo") = .ok () := by
  intro response
  have size : response.encode.length = 8193 := by
    rw [decision_encode_length, length_replicate]
  have bounded : response.Bounded := by
    change (List.replicate 8187 (32 : UInt8)).length ≤ maxJsonLen
    rw [length_replicate]
    decide
  have delivers : (pacedExcursion response.encode).Delivers response.encode := by
    apply paced_delivers
    rw [size]
    decide
  have evaluated := evaluate_configured_delivered delivers response.encode_ne_nil
    (.esim "enable" 0 1) "el0:arm-demo"
  rw [cut_reply_unreachable bounded (by rw [size]; decide)] at evaluated
  have refusal : classifyResponse (some response) = .refuse := rfl
  rw [evaluated, refusal]
  exact ⟨bounded, delivers, by decide, rfl⟩

end Runix.Arm
