import Runix.Arm.MarshalAction
import Runix.Desktop.Proxy
import Runix.Kernel.GridSandbox

/-!
# Denials

CITADEL denies with status 403.  The proxy reads the body after the status, and a read
that times out is reported as a timeout, which both kernels take for an outage.
-/

namespace Runix.Desktop

open Citadel Ipc Lib Lib.ByteStrings MarshalResponse

/-! ## Replies delivered whole -/

def ArmAllows (action : Arm.MarshalAction) (reply : Bytes) : Prop := Arm.ReplyAllows reply action

def GridAllows (reply : Bytes) : Prop :=
  ∃ parts : List Bytes, parts.flatten = reply ∧
    Kernel.enforceMarshalDecision (Kernel.shadowOutcome (Kernel.collectReply [] parts)) = .ok ()

theorem classify_eq_shadow (status : ResponseDecode) (settled : status ≠ .incomplete) :
    Arm.classifyDecode status = Kernel.shadowOutcome (Kernel.replyOf status) := by
  rcases status with ⟨_ | _, _⟩ | _ | _
  · rfl
  · rfl
  · exact absurd rfl settled
  · rfl

theorem grid_allows_iff {reply : Bytes} (settled : decodeStatus reply ≠ .incomplete) :
    GridAllows reply ↔ Kernel.enforceMarshalDecision
      (Arm.classifyDecode (decodeStatus reply)) = .ok () := by
  have empty : decodeStatus [] = .incomplete := rfl
  have collected {parts : List Bytes} (whole : parts.flatten = reply) :
      Kernel.collectReply [] parts = Kernel.replyOf (decodeStatus reply) := by
    rw [Kernel.collect_delivered parts empty (by rwa [List.nil_append, whole]),
      List.nil_append, whole]
  rw [classify_eq_shadow _ settled]
  constructor
  · rintro ⟨parts, whole, allowed⟩
    rwa [collected whole] at allowed
  · intro allowed
    have whole : [reply].flatten = reply := by simp
    exact ⟨[reply], whole, by rwa [collected whole]⟩

/-! ## The verdict on what the proxy writes -/

theorem status_bytes_settled (body : Bytes) :
    statusBytes (encodeBytes body) = .error () ∨
      ∃ size, statusBytes (encodeBytes body) = .ok (some size) := by
  have field : (encodeBytes body).take 4 = leBytes 4 body.length := by
    rw [encodeBytes, List.take_left' (le_bytes_length 4 _)]
  have size : (encodeBytes body).length = 4 + body.length := by simp [encodeBytes]
  -- The length field is the length modulo 2 ^ 32, so the bytes it asks for are there.
  have enough : leNat (leBytes 4 body.length) ≤ body.length := le_nat_le_of_front List.prefix_rfl
  unfold statusBytes
  simp only [field, size]
  rw [if_neg (by omega)]
  by_cases above : leNat (leBytes 4 body.length) > maxJsonLen
  · exact .inl (if_pos above)
  · rw [if_neg above, if_neg (by omega)]
    exact .inr ⟨_, rfl⟩

theorem decision_verdict (outcome : MarshalOutcome) (body : Bytes) :
    decodeStatus (decision outcome body).encode = .malformed ∨
      ∃ front consumed, decodeStatus
        (decision outcome body).encode =
          .complete (.decision outcome front) consumed := by
  have code : MarshalOutcome.fromByte outcome.toByte = some outcome :=
    (from_byte_eq_some_iff _ _).mpr rfl
  simp only [decodeStatus, verdict, encode, code,
    Option.isNone_some, Bool.false_eq_true, if_false]
  obtain bad | ⟨size, whole⟩ := status_bytes_settled body
  · exact .inl (by simp [bad, Except.map])
  simp only [whole, Except.map, Option.map_some, decode, code]
  cases decodeBytes (encodeBytes body) with
  | none => exact .inl rfl
  | some found => exact .inr ⟨found.1, 2 + found.2, rfl⟩

theorem error_verdict (cause : MarshalError) (bounded : cause.Bounded) :
    decodeStatus (error cause).encode =
      .complete (.error cause) (error cause).encode.length := by
  have within : (error cause).Bounded := bounded
  have whole := decode_status_encode_append within []
  rwa [List.append_nil] at whole

/-! ## What a denial becomes -/

namespace CitadelProxy

variable {SigningKey VerifyingKey : Type} {proxy : CitadelProxy SigningKey VerifyingKey}

/-- A denial whose body was read, or failed to be read, is translated to a decision not to
execute or to a bad response; one whose body timed out to a timeout. -/
theorem denial_cases {endpoint : String} (configured : proxy.url = some endpoint)
    (body : BodyRead) :
    (body = .timedOut ∧ proxy.submitAndTranslate (.response forbidden body) = .error .timeout) ∨
      body ≠ .timedOut ∧
        ((∃ json, proxy.submitAndTranslate (.response forbidden body) = .decision .refuse json) ∨
          (∃ json,
            proxy.submitAndTranslate (.response forbidden body) = .decision .hardStop json) ∨
          ∃ message, (utf8 message).length ≤ maxMessageLen ∧
            proxy.submitAndTranslate (.response forbidden body) =
              .error (.badResponse message)) := by
  unfold submitAndTranslate
  simp only [Libraries.submit, configured, Libraries.submitAsync, if_true]
  cases body with
  | timedOut => exact .inl ⟨rfl, rfl⟩
  | failed message =>
    exact .inr ⟨by simp, .inr (.inr ⟨_, truncate_message_length message, rfl⟩)⟩
  | complete bytes =>
    refine .inr ⟨by simp, ?_⟩
    simp only [BodyRead.bytes]
    rcases parsed : proxy.libs.parseDecision bytes with text | outcome
    · exact .inr (.inr ⟨_, truncate_message_length _, rfl⟩)
    cases outcome with
    | execute => exact .inr (.inr ⟨_, truncate_message_length _, rfl⟩)
    | refuse => exact .inl ⟨bytes, by simp [parsed, toMarshalOutcome]⟩
    | hardStop => exact .inr (.inl ⟨bytes, by simp [parsed, toMarshalOutcome]⟩)

/-- How both kernels classify a denial delivered whole. -/
theorem denial_verdict {endpoint : String} (configured : proxy.url = some endpoint)
    (body : BodyRead) :
    let status := decodeStatus
      (proxy.submitAndTranslate (.response forbidden body)).encode
    status ≠ .incomplete ∧
      (body = .timedOut ∧ Arm.classifyDecode status = .unreachable ∨
        body ≠ .timedOut ∧ (Arm.classifyDecode status = .refuse ∨
          Arm.classifyDecode status = .hardStop ∨ Arm.classifyDecode status = .faulty)) := by
  obtain ⟨timedOut, response⟩ | ⟨ended, ⟨json, response⟩ | ⟨json, response⟩ |
    ⟨message, bounded, response⟩⟩ := denial_cases configured body
  · rw [response, error_verdict .timeout trivial]
    exact ⟨by simp, .inl ⟨timedOut, rfl⟩⟩
  · rw [response]
    obtain bad | ⟨front, consumed, whole⟩ := decision_verdict .refuse json
    · rw [bad]
      exact ⟨by simp, .inr ⟨ended, .inr (.inr rfl)⟩⟩
    · rw [whole]
      exact ⟨by simp, .inr ⟨ended, .inl rfl⟩⟩
  · rw [response]
    obtain bad | ⟨front, consumed, whole⟩ := decision_verdict .hardStop json
    · rw [bad]
      exact ⟨by simp, .inr ⟨ended, .inr (.inr rfl)⟩⟩
    · rw [whole]
      exact ⟨by simp, .inr ⟨ended, .inr (.inl rfl)⟩⟩
  · rw [response, error_verdict (.badResponse message) bounded]
    exact ⟨by simp, .inr ⟨ended, .inr (.inr rfl)⟩⟩

def Posts (proxy : CitadelProxy SigningKey VerifyingKey) (kerkeseJson : Bytes)
    (executionId : String) (nowUnixSecs : Int) : Prop :=
  ∃ envelope bytes endpoint, proxy.libs.parseEnvelope kerkeseJson = .ok envelope ∧
    check envelope = .ok () ∧
    proxy.libs.serialize (buildEnrichedEnvelope proxy.ed25519 envelope executionId nowUnixSecs
      proxy.signingKey) = .ok bytes ∧
    proxy.url = some endpoint

/-- A denial blocks, unless reading its body timed out: then the spawn goes through, and so
do the actions that stay open. -/
theorem denial_blocks_iff {kerkeseJson : Bytes} {executionId : String} {nowUnixSecs : Int}
    (posts : proxy.Posts kerkeseJson executionId nowUnixSecs) (log : WormLog) (body : BodyRead)
    (action : Arm.MarshalAction) :
    let response := (proxy.buildResponse log kerkeseJson executionId nowUnixSecs
      (.response forbidden body)).1
    (¬ ArmAllows action response.encode ↔ ¬ (body = .timedOut ∧ action.StaysOpen)) ∧
      (¬ GridAllows response.encode ↔ body ≠ .timedOut) := by
  obtain ⟨envelope, bytes, endpoint, parsed, accepted, serialized, configured⟩ := posts
  rw [build_response_submitted parsed accepted serialized]
  dsimp only
  obtain ⟨settled, ⟨timedOut, outcome⟩ | ⟨ended, outcome⟩⟩ := denial_verdict configured body
  · rw [grid_allows_iff settled, ArmAllows, Arm.ReplyAllows, Arm.enforce_remote_iff, outcome]
    simp [timedOut, Kernel.enforceMarshalDecision]
  · rw [grid_allows_iff settled, ArmAllows, Arm.ReplyAllows, Arm.enforce_remote_iff]
    obtain outcome | outcome | outcome := outcome <;>
      simp [outcome, ended, Kernel.enforceMarshalDecision]

end CitadelProxy

theorem agreeable_posts : agreeableProxy.Posts [] "exec-1" 0 :=
  ⟨enableRequest "kernel:esim" "operator", [], "http://citadel", rfl,
    enable_accepted "operator" (by decide), rfl, rfl⟩

theorem cut_denial_blocks_enable :
    ¬ ArmAllows (.esim "enable" 0 1) (agreeableProxy.buildResponse WormLog.new [] "exec-1" 0
      (.response 403 (.failed "connection reset"))).1.encode := by
  have blocks := CitadelProxy.denial_blocks_iff agreeable_posts WormLog.new
    (.failed "connection reset") (.esim "enable" 0 1)
  exact blocks.1.mpr (by simp)

theorem stalled_denial_allows :
    ArmAllows (.esim "enable" 0 1) (agreeableProxy.buildResponse WormLog.new [] "exec-1" 0
        (.response 403 .timedOut)).1.encode ∧
      GridAllows (agreeableProxy.buildResponse WormLog.new [] "exec-1" 0
        (.response 403 .timedOut)).1.encode := by
  have accepted : check (enableRequest "kernel:esim" "operator") = .ok () :=
    enable_accepted "operator" (by decide)
  have timeout : (agreeableProxy.buildResponse WormLog.new [] "exec-1" 0
      (.response 403 .timedOut)).1 = .error .timeout :=
    CitadelProxy.build_response_submitted rfl accepted rfl
  exact ⟨rfl, [[1, 1]], rfl, rfl⟩

end Runix.Desktop
