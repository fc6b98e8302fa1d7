import Runix.Citadel.WormLog
import Runix.Desktop.Enriched
import Runix.Ipc.WireFormats

/-!
# The proxy

`desktop/src/citadel/transport.rs` and the pipeline of `desktop/src/citadel/proxy.rs`:
a request is parsed, checked and recorded, enriched and submitted to CITADEL, and the
answer translated.  JSON, HTTP and the formatting of strings are libraries outside this
repository; what CITADEL answers is an argument.
-/

namespace Runix.Desktop

open Citadel Ipc Lib Lib.ByteStrings

inductive Outcome where
  | execute
  | refuse
  | hardStop
deriving DecidableEq, Repr

inductive TransportError where
  | unreachable (message : String)
  | timeout
  | badResponse (message : String)
  | other (message : String)
deriving DecidableEq, Repr

inductive BodyRead where
  | complete (body : Bytes)
  | timedOut
  | failed (message : String)
deriving DecidableEq, Repr

inductive HttpAnswer where
  | sendTimedOut
  | sendFailed (message : String)
  | response (status : Nat) (body : BodyRead)
deriving DecidableEq, Repr

structure Libraries where
  parseEnvelope : Bytes → Except String KernelMinimalEnvelope
  parseDecision : Bytes → Except String Outcome
  serialize : Kerkese → Except String Bytes
  statusText : Nat → String
  debug : String → String

def runixCitadelUrlEnv : String := "RUNIX_CITADEL_URL"

def forbidden : Nat := 403

def isSuccess (status : Nat) : Prop := 200 ≤ status ∧ status ≤ 299

instance (status : Nat) : Decidable (isSuccess status) := inferInstanceAs (Decidable (_ ∧ _))

def BodyRead.bytes : BodyRead → Except TransportError Bytes
  | .complete body => .ok body
  | .timedOut => .error .timeout
  | .failed message => .error (.badResponse message)

namespace Libraries

variable (libs : Libraries)

def submitAsync (answer : HttpAnswer) : Except TransportError Bytes :=
  match answer with
  | .sendTimedOut => .error .timeout
  | .sendFailed message => .error (.unreachable message)
  | .response status body =>
    if status = forbidden then
      match body.bytes with
      | .error cause => .error cause
      | .ok bytes =>
        match libs.parseDecision bytes with
        | .ok .refuse => .ok bytes
        | .ok .hardStop => .ok bytes
        | _ => .error (.badResponse ("HTTP " ++ libs.statusText status))
    else if ¬ isSuccess status then
      .error (.badResponse ("HTTP " ++ libs.statusText status))
    else body.bytes

/-- Nothing is posted while no endpoint is configured. -/
def submit (url : Option String) (answer : HttpAnswer) : Except TransportError Bytes :=
  match url with
  | none =>
    .error (.unreachable
      (runixCitadelUrlEnv ++ " not configured — refusing to guess a CITADEL endpoint"))
  | some _ => libs.submitAsync answer

end Libraries

def toMarshalOutcome : Outcome → MarshalOutcome
  | .execute => .execute
  | .refuse => .refuse
  | .hardStop => .hardStop

/-- From a length downwards to the first that is a character boundary: those are the
lengths of the fronts that are texts. -/
def truncateFrom (text : String) : Nat → String
  | 0 => ""
  | stop + 1 =>
    match Utf8.fromUtf8 ((utf8 text).take (stop + 1)) with
    | some front => front
    | none => truncateFrom text stop

def truncateMessage (text : String) : String :=
  if (utf8 text).length ≤ maxMessageLen then text else truncateFrom text maxMessageLen

/-- The proxy with its libraries, its keys and its endpoint. -/
structure CitadelProxy (SigningKey VerifyingKey : Type) where
  libs : Libraries
  sha256 : Bytes → Bytes
  ed25519 : Signatures.Scheme SigningKey VerifyingKey
  signingKey : SigningKey
  url : Option String

namespace CitadelProxy

variable {SigningKey VerifyingKey : Type} (proxy : CitadelProxy SigningKey VerifyingKey)

def parseKernelEnvelope (kerkeseJson : Bytes) : Except MarshalResponse KernelMinimalEnvelope :=
  match proxy.libs.parseEnvelope kerkeseJson with
  | .ok envelope => .ok envelope
  | .error text =>
    .error (.error (.badResponse (truncateMessage
      ("kerkese_json was not a well-formed minimal envelope: " ++ text))))

def policyErrorResponse (cause : PolicyError) : MarshalResponse :=
  .error (.policyRefused (truncateMessage (cause.display proxy.libs.debug)))

/-- The result of the check as the evidence log holds it. -/
def verification (envelope : KernelMinimalEnvelope) : WormRecord :=
  { moduleId := envelope.action.auditIds.1
    instanceId := some envelope.action.auditIds.2
    tier := none
    authorized := (check envelope).isOk
    reason := match check envelope with
      | .error cause => some (cause.display proxy.libs.debug)
      | .ok () => none
    shadowMarshal := none }

/-- `build_response` up to the entry in the log: the envelope to vouch for, or the
response to a request that is not vouched for. -/
def vet (log : WormLog) (kerkeseJson : Bytes) :
    Except MarshalResponse KernelMinimalEnvelope × WormLog :=
  match proxy.parseKernelEnvelope kerkeseJson with
  | .error response => (.error response, log)
  | .ok envelope =>
    let (moduleId, instanceId) := envelope.action.auditIds
    match check envelope with
    | .error cause =>
      (.error (proxy.policyErrorResponse cause),
        log.recordProxyVerification proxy.sha256 moduleId instanceId false
          (some (cause.display proxy.libs.debug)))
    | .ok () =>
      (.ok envelope,
        log.recordProxyVerification proxy.sha256 moduleId instanceId true none)

def enrich (envelope : KernelMinimalEnvelope) (executionId : String) (nowUnixSecs : Int) :
    Except MarshalResponse (Kerkese × Bytes) :=
  let enriched :=
    buildEnrichedEnvelope proxy.ed25519 envelope executionId nowUnixSecs proxy.signingKey
  match proxy.libs.serialize enriched with
  | .ok bytes => .ok (enriched, bytes)
  | .error text =>
    .error (.error (.other (truncateMessage
      ("failed to serialize enriched Kerkese envelope: " ++ text))))

def submitAndTranslate (answer : HttpAnswer) : MarshalResponse :=
  match proxy.libs.submit proxy.url answer with
  | .error (.unreachable message) => .error (.unreachable (truncateMessage message))
  | .error .timeout => .error .timeout
  | .error (.badResponse message) => .error (.badResponse (truncateMessage message))
  | .error (.other message) => .error (.other (truncateMessage message))
  | .ok decisionJson =>
    match proxy.libs.parseDecision decisionJson with
    | .ok outcome => .decision (toMarshalOutcome outcome) decisionJson
    | .error text =>
      .error (.badResponse (truncateMessage
        ("response body was not a well-formed Decision: " ++ text)))

/-- One request, with the random id and the clock it is enriched with and the answer of
CITADEL to it. -/
def buildResponse (log : WormLog) (kerkeseJson : Bytes) (executionId : String)
    (nowUnixSecs : Int) (answer : HttpAnswer) : MarshalResponse × WormLog :=
  match proxy.vet log kerkeseJson with
  | (.error response, log) => (response, log)
  | (.ok envelope, log) =>
    match proxy.enrich envelope executionId nowUnixSecs with
    | .error response => (response, log)
    | .ok _ => (proxy.submitAndTranslate answer, log)

end CitadelProxy

/-! ## Messages are cut to the bound -/

theorem truncate_from_length (text : String) (stop : Nat) :
    (utf8 (truncateFrom text stop)).length ≤ stop := by
  induction stop with
  | zero => exact Nat.le_refl 0
  | succ stop ih =>
    rw [truncateFrom]
    split
    · rename_i front found
      rw [Utf8.from_utf8_eq_some_iff.mp found, List.length_take]
      exact Nat.min_le_left _ _
    · exact Nat.le_succ_of_le ih

theorem truncate_message_length (text : String) :
    (utf8 (truncateMessage text)).length ≤ maxMessageLen := by
  unfold truncateMessage
  split_ifs with short
  · exact short
  · exact truncate_from_length text maxMessageLen

namespace CitadelProxy

variable {SigningKey VerifyingKey : Type} {proxy : CitadelProxy SigningKey VerifyingKey}

/-! ## What each stage can do -/

variable {envelope : KernelMinimalEnvelope}

theorem vet_ok {log after : WormLog} {kerkeseJson : Bytes}
    (vetted : proxy.vet log kerkeseJson = (.ok envelope, after)) :
    proxy.libs.parseEnvelope kerkeseJson = .ok envelope ∧ check envelope = .ok () := by
  unfold vet parseKernelEnvelope at vetted
  cases parsed : proxy.libs.parseEnvelope kerkeseJson with
  | error text => simp [parsed] at vetted
  | ok found =>
    simp only [parsed] at vetted
    cases checked : check found with
    | error cause => simp [checked] at vetted
    | ok done =>
      simp only [checked, Prod.mk.injEq, Except.ok.injEq] at vetted
      obtain ⟨rfl, -⟩ := vetted
      exact ⟨rfl, checked⟩

variable {response : MarshalResponse}

theorem vet_error {log after : WormLog} {kerkeseJson : Bytes}
    (vetted : proxy.vet log kerkeseJson = (.error response, after)) :
    ∃ cause : MarshalError, response = .error cause ∧ cause.Bounded := by
  unfold vet parseKernelEnvelope at vetted
  cases parsed : proxy.libs.parseEnvelope kerkeseJson with
  | error text =>
    simp only [parsed, Prod.mk.injEq, Except.error.injEq] at vetted
    exact ⟨_, vetted.1.symm, truncate_message_length _⟩
  | ok found =>
    simp only [parsed] at vetted
    cases checked : check found with
    | error cause =>
      simp only [checked, Prod.mk.injEq, Except.error.injEq] at vetted
      exact ⟨_, vetted.1.symm, truncate_message_length _⟩
    | ok done => simp [checked] at vetted

theorem vet_log (log : WormLog) (kerkeseJson : Bytes) :
    (proxy.vet log kerkeseJson).2 =
      match proxy.libs.parseEnvelope kerkeseJson with
      | .error _ => log
      | .ok envelope => log.record proxy.sha256 (proxy.verification envelope) := by
  unfold vet parseKernelEnvelope verification
  cases parsed : proxy.libs.parseEnvelope kerkeseJson with
  | error text => rfl
  | ok envelope =>
    cases checked : check envelope <;>
      simp [checked, WormLog.recordProxyVerification, Except.isOk, Except.toBool]

variable {executionId : String} {nowUnixSecs : Int}

theorem enrich_ok {kerkese : Kerkese} {bytes : Bytes}
    (enriched : proxy.enrich envelope executionId nowUnixSecs = .ok (kerkese, bytes)) :
    kerkese = buildEnrichedEnvelope proxy.ed25519 envelope executionId nowUnixSecs
        proxy.signingKey ∧
      proxy.libs.serialize kerkese = .ok bytes := by
  unfold enrich at enriched
  simp only at enriched
  split at enriched
  · rename_i serialized
    obtain ⟨rfl, rfl⟩ := enriched
    exact ⟨rfl, serialized⟩
  · simp at enriched

theorem enrich_error (enriched : proxy.enrich envelope executionId nowUnixSecs = .error response) :
    ∃ cause : MarshalError, response = .error cause ∧ cause.Bounded := by
  unfold enrich at enriched
  simp only at enriched
  split at enriched
  · simp at enriched
  · simp only [Except.error.injEq] at enriched
    exact ⟨_, enriched.symm, truncate_message_length _⟩

/-- A body is handed back from a success, or from a denial that is a decision not to
execute. -/
theorem submit_ok {libs : Libraries} {url : Option String} {answer : HttpAnswer} {body : Bytes}
    (submitted : libs.submit url answer = .ok body) :
    ∃ status, answer = .response status (.complete body) ∧
      (isSuccess status ∨
        status = forbidden ∧
          (libs.parseDecision body = .ok .refuse ∨ libs.parseDecision body = .ok .hardStop)) := by
  cases url with
  | none => simp [Libraries.submit] at submitted
  | some endpoint =>
    simp only [Libraries.submit, Libraries.submitAsync] at submitted
    rcases answer with _ | message | ⟨status, read⟩
    · simp at submitted
    · simp at submitted
    simp only at submitted
    have whole {read : BodyRead} (bytes : read.bytes = .ok body) : read = .complete body := by
      cases read <;> simp_all [BodyRead.bytes]
    split_ifs at submitted with denied succeeded
    · split at submitted
      · simp at submitted
      · rename_i bytes found
        split at submitted
        · cases submitted
          exact ⟨status, by rw [whole found], .inr ⟨denied, .inl ‹_›⟩⟩
        · cases submitted
          exact ⟨status, by rw [whole found], .inr ⟨denied, .inr ‹_›⟩⟩
        · simp at submitted
    · exact ⟨status, by rw [whole submitted], .inl succeeded⟩

/-- A decision is the outcome of a body that was handed back; every other response is an
error whose message was cut. -/
theorem translate_cases (proxy : CitadelProxy SigningKey VerifyingKey) (answer : HttpAnswer) :
    (∃ body outcome, proxy.libs.submit proxy.url answer = .ok body ∧
        proxy.libs.parseDecision body = .ok outcome ∧
        proxy.submitAndTranslate answer = .decision (toMarshalOutcome outcome) body) ∨
      ∃ cause : MarshalError, proxy.submitAndTranslate answer = .error cause ∧ cause.Bounded := by
  unfold submitAndTranslate
  cases submitted : proxy.libs.submit proxy.url answer with
  | error cause =>
    refine .inr ?_
    cases cause with
    | unreachable message => exact ⟨_, rfl, truncate_message_length _⟩
    | timeout => exact ⟨_, rfl, trivial⟩
    | badResponse message => exact ⟨_, rfl, truncate_message_length _⟩
    | other message => exact ⟨_, rfl, truncate_message_length _⟩
  | ok body =>
    simp only
    cases parsed : proxy.libs.parseDecision body with
    | error text => exact .inr ⟨_, rfl, truncate_message_length _⟩
    | ok outcome => exact .inl ⟨body, outcome, rfl, parsed, rfl⟩

theorem build_response_submitted {log : WormLog} {kerkeseJson bytes : Bytes} {answer : HttpAnswer}
    (parsed : proxy.libs.parseEnvelope kerkeseJson = .ok envelope)
    (accepted : check envelope = .ok ())
    (serialized : proxy.libs.serialize (buildEnrichedEnvelope proxy.ed25519 envelope executionId
      nowUnixSecs proxy.signingKey) = .ok bytes) :
    (proxy.buildResponse log kerkeseJson executionId nowUnixSecs answer).1 =
      proxy.submitAndTranslate answer := by
  simp [buildResponse, vet, parseKernelEnvelope, parsed, accepted, enrich, serialized]

/-! ## What is written back -/

end CitadelProxy

def agreeableLibraries : Libraries where
  parseEnvelope := fun _ => .ok (enableRequest "kernel:esim" "operator")
  parseDecision := fun _ => .ok .execute
  serialize := fun _ => .ok []
  statusText := toString
  debug := id

def agreeableProxy : CitadelProxy Bytes Bytes where
  libs := agreeableLibraries
  sha256 := id
  ed25519 := Signatures.Scheme.tabulated [] [] []
  signingKey := []
  url := some "http://citadel"

end Runix.Desktop
