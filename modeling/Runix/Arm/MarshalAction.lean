import Runix.Citadel.WormLog
import Runix.Ipc.Marshal

/-!
# The MARSHAL gate decision

`kernel-arm/src/marshal_action.rs`: which outcomes of a remote evaluation let a
governed action proceed.  The evaluation itself runs outside this crate's pure
code; here it is a `GateOutcome`.
-/

namespace Runix.Arm

open Citadel

/-- `op` names the eSIM operation, as the source passes it. -/
inductive MarshalAction where
  | esim (op : String) (slot profile : Nat)
  | mvnoBind (account slot profile : Nat)
  | mvnoSuspend (account : Nat)
  | mvnoReactivate (account : Nat)
  | dataResetUsage (account : Nat)
deriving DecidableEq, Repr

inductive LocalFailure where
  | setupFailed
  | spawnFailed
  | excursionFaulted
deriving DecidableEq, Repr

def LocalFailure.asStr : LocalFailure → String
  | .setupFailed => "SetupFailed"
  | .spawnFailed => "SpawnFailed"
  | .excursionFaulted => "ExcursionFaulted"

inductive GateOutcome where
  | remote (outcome : ShadowMarshalOutcome)
  | localFailure (failure : LocalFailure)
deriving DecidableEq, Repr

inductive UnreachablePolicy where
  | failOpen
  | failClosed
deriving DecidableEq, Repr

inductive Blocked where
  | remote (outcome : ShadowMarshalOutcome)
  | localFailure (failure : LocalFailure)
  | unreachable
  | faulty
deriving DecidableEq, Repr

def Blocked.display : Blocked → String
  | .remote outcome => "MARSHAL " ++ outcome.debug
  | .localFailure failure => "MARSHAL local failure: " ++ failure.asStr
  | .unreachable => "MARSHAL unreachable: fail-closed for this action"
  | .faulty => "MARSHAL faulty reply: fail-closed"

namespace MarshalAction

def actionType : MarshalAction → String
  | .esim op _ _ => "esim." ++ op
  | .mvnoBind _ _ _ => "mvno.bind_profile"
  | .mvnoSuspend _ => "mvno.suspend_account"
  | .mvnoReactivate _ => "mvno.reactivate_account"
  | .dataResetUsage _ => "data.reset_usage"

def actionJson (action : MarshalAction) : String :=
  let fields := match action with
    | .esim _ slot profile =>
      ",\"slot\":" ++ toString slot ++ ",\"profile\":" ++ toString profile
    | .mvnoBind account slot profile =>
      ",\"account\":" ++ toString account ++ ",\"slot\":" ++ toString slot ++
        ",\"profile\":" ++ toString profile
    | .mvnoSuspend account | .mvnoReactivate account | .dataResetUsage account =>
      ",\"account\":" ++ toString account
  "\x7b\"type\":\"" ++ action.actionType ++ "\"" ++ fields ++ "\x7d"

def executionId : MarshalAction → String
  | .esim op slot profile => "esim-" ++ op ++ "-" ++ toString slot ++ "-" ++ toString profile
  | .mvnoBind account slot profile =>
    "mvno-bind-" ++ toString account ++ "-" ++ toString slot ++ "-" ++ toString profile
  | .mvnoSuspend account => "mvno-suspend-" ++ toString account
  | .mvnoReactivate account => "mvno-reactivate-" ++ toString account
  | .dataResetUsage account => "data-reset-" ++ toString account

def kerkeseJson (action : MarshalAction) (principal : String) : String :=
  "\x7b\"kerkese_version\":\"1.0\",\"dry_run\":true,\"action\":" ++ action.actionJson ++
    ",\"actor\":\x7b\"user_id\":\"" ++ principal ++
    "\",\"role\":\"operator\"\x7d,\"execution_id\":\"" ++ action.executionId ++ "\"\x7d"

end MarshalAction

/-- Only enabling a profile, binding and suspending stay open when MARSHAL
cannot be reached. -/
def MarshalAction.unreachablePolicy : MarshalAction → UnreachablePolicy
  | .esim op _ _ => if op = "enable" then .failOpen else .failClosed
  | .mvnoBind _ _ _ => .failOpen
  | .mvnoSuspend _ => .failOpen
  | .mvnoReactivate _ => .failClosed
  | .dataResetUsage _ => .failClosed

def enforce (policy : UnreachablePolicy) (outcome : GateOutcome) : Except Blocked Unit :=
  match outcome with
  | .remote .execute => .ok ()
  | .remote .unreachable =>
    match policy with
    | .failOpen => .ok ()
    | .failClosed => .error .unreachable
  | .remote .faulty => .error .faulty
  | .remote .refuse => .error (.remote .refuse)
  | .remote .hardStop => .error (.remote .hardStop)
  | .localFailure failure => .error (.localFailure failure)

def verdictText (outcome : GateOutcome) : String :=
  match outcome with
  | .remote .execute => "MARSHAL verdict: Execute"
  | .remote .unreachable => "MARSHAL verdict: Unreachable (fail-open: not governed)"
  | .remote .faulty => "MARSHAL verdict: Faulty (blocked: fail-closed)"
  | .remote other => "MARSHAL verdict: " ++ other.debug ++ " (blocked)"
  | .localFailure failure => "MARSHAL verdict: local failure " ++ failure.asStr ++ " (blocked)"

def reasonWithVerdict (base : Option String) (verdict : String) : String :=
  match base with
  | some text => text ++ "; " ++ verdict
  | none => verdict

/-! ## From reply bytes to the gate

`classify_response` and `classify_decode` of `kernel-arm/src/marshal_action.rs` turn
the bytes of a reply into a verdict, and `enforce` the verdict into a decision on the
action.  An incomplete reply counts as an unreachable MARSHAL, so every buffer the
streaming decoder still waits on lets the fail-open actions through. -/

open Ipc Lib.ByteStrings Lib.Streaming MarshalResponse

def classifyResponse (response : Option MarshalResponse) : ShadowMarshalOutcome :=
  match response with
  | some (.decision .execute _) => .execute
  | some (.decision .refuse _) => .refuse
  | some (.decision .hardStop _) => .hardStop
  | some (.error (.policyRefused _)) => .refuse
  | some (.error (.badResponse _)) => .faulty
  | some (.error (.other _)) => .faulty
  | some (.error (.unreachable _)) => .unreachable
  | some (.error .timeout) => .unreachable
  | none => .unreachable

def classifyDecode (status : ResponseDecode) : ShadowMarshalOutcome :=
  match status with
  | .complete response _ => classifyResponse (some response)
  | .malformed => .faulty
  | .incomplete => .unreachable

variable (buf : Bytes) (action : MarshalAction)

def ReplyAllows : Prop :=
  enforce action.unreachablePolicy
    (.remote (classifyDecode (MarshalResponse.decodeStatus buf))) = .ok ()

def MarshalAction.StaysOpen : Prop :=
  (∃ slot profile, action = .esim "enable" slot profile) ∨
    (∃ account slot profile, action = .mvnoBind account slot profile) ∨
      ∃ account, action = .mvnoSuspend account

theorem stays_open_iff : action.StaysOpen ↔ action.unreachablePolicy = .failOpen := by
  unfold MarshalAction.StaysOpen MarshalAction.unreachablePolicy
  cases action with
  | esim op slot profile => by_cases enable : op = "enable" <;> simp [enable]
  | mvnoBind account slot profile => simp
  | mvnoSuspend account => simp
  | mvnoReactivate account => simp
  | dataResetUsage account => simp

/-- Execute is allowed, unreachable is allowed to the actions that stay open, and
nothing else. -/
theorem enforce_remote_iff (outcome : ShadowMarshalOutcome) :
    enforce action.unreachablePolicy (.remote outcome) = .ok () ↔
      outcome = .execute ∨ outcome = .unreachable ∧ action.StaysOpen := by
  rw [stays_open_iff]
  cases outcome <;> cases policy : action.unreachablePolicy <;> simp [enforce]

def BeginsWith (response : MarshalResponse) : Prop :=
  response.Bounded ∧ response.encode <+: buf

theorem begins_with_iff (response : MarshalResponse) : BeginsWith buf response ↔
      ∃ consumed, MarshalResponse.decodeStatus buf = .complete response consumed := by
  simp [BeginsWith, decode_status_complete_iff,
    response_stream.decode_iff]

def Hopeless : Prop :=
  ∀ more response, ¬ BeginsWith (buf ++ more) response

theorem stuck_hopeless {buf : Bytes} (stuck : MarshalResponse.Stuck buf) : Hopeless buf := by
  intro more response begins
  obtain ⟨consumed, complete⟩ := (begins_with_iff _ _).mp begins
  have decoded := (decode_status_complete_iff _ _ _).mp complete
  rw [response_stream.stuck_lost buf more stuck] at decoded
  exact absurd decoded.symm (Option.some_ne_none _)

theorem classify_execute_iff : classifyDecode (MarshalResponse.decodeStatus buf) = .execute ↔
      ∃ decisionJson, BeginsWith buf (.decision .execute decisionJson) := by
  simp only [begins_with_iff]
  cases MarshalResponse.decodeStatus buf with
  | incomplete => simp [classifyDecode]
  | malformed => simp [classifyDecode]
  | complete response consumed =>
    rcases response with ⟨outcome, decisionJson⟩ | cause
    · cases outcome <;> simp [classifyDecode, classifyResponse]
    · cases cause <;> simp [classifyDecode, classifyResponse]

def SaysUnreached : Prop :=
  (∃ message, BeginsWith buf (.error (.unreachable message))) ∨ BeginsWith buf (.error .timeout)

theorem classify_unreachable_iff :
    classifyDecode (MarshalResponse.decodeStatus buf) = .unreachable ↔
      MarshalResponse.decodeStatus buf = .incomplete ∨ SaysUnreached buf := by
  simp only [SaysUnreached, begins_with_iff]
  cases MarshalResponse.decodeStatus buf with
  | incomplete => simp [classifyDecode]
  | malformed => simp [classifyDecode]
  | complete response consumed =>
    rcases response with ⟨outcome, decisionJson⟩ | cause
    · cases outcome <;> simp [classifyDecode, classifyResponse]
    · cases cause <;> simp [classifyDecode, classifyResponse]

/-- What the gate does with a reply, stuck buffers included. -/
theorem reply_allows_iff : ReplyAllows buf action ↔
      (∃ decisionJson, BeginsWith buf (.decision .execute decisionJson)) ∨
        ((Open MarshalResponse.encode MarshalResponse.Bounded buf ∨ MarshalResponse.Stuck buf) ∨
          SaysUnreached buf) ∧ action.StaysOpen := by
  rw [ReplyAllows, enforce_remote_iff, classify_execute_iff, classify_unreachable_iff,
    decode_status_incomplete_iff]

/-- A reply allows an action when it begins with an Execute decision, or when it is a
strict front of a response or says that MARSHAL was not reached and the action stays
open; and a hopeless reply allows nothing. -/
structure ReplyLaw (buf : Bytes) (action : MarshalAction) : Prop where
  allows_iff : ReplyAllows buf action ↔
    (∃ decisionJson, BeginsWith buf (.decision .execute decisionJson)) ∨
      (Open MarshalResponse.encode MarshalResponse.Bounded buf ∨ SaysUnreached buf) ∧
        action.StaysOpen
  hopeless_blocked : Hopeless buf → ¬ ReplyAllows buf action

/-- The gate keeps the law on exactly the replies that are not stuck, and for the actions
that do not stay open. -/
theorem reply_law_iff (buf : Bytes) (action : MarshalAction) :
    ReplyLaw buf action ↔ ¬ (MarshalResponse.Stuck buf ∧ action.StaysOpen) := by
  constructor
  · rintro law ⟨stuck, stays⟩
    apply law.hopeless_blocked (stuck_hopeless stuck)
    exact (reply_allows_iff buf action).mpr (.inr ⟨.inl (.inr stuck), stays⟩)
  · intro free
    have allows : ReplyAllows buf action ↔
        (∃ decisionJson, BeginsWith buf (.decision .execute decisionJson)) ∨
          (Open MarshalResponse.encode MarshalResponse.Bounded buf ∨ SaysUnreached buf) ∧
            action.StaysOpen := by
      rw [reply_allows_iff]
      tauto
    refine ⟨allows, ?_⟩
    intro hopeless allowed
    -- Whatever allows the action begins with a response, or goes on to one.
    have whole : ∀ response, ¬ BeginsWith buf response := by
      intro response begins
      exact hopeless [] response (by rwa [List.append_nil])
    rcases allows.mp allowed with ⟨json, begins⟩ | ⟨opened | unreached, -⟩
    · exact whole _ begins
    · obtain ⟨response, bounded, ⟨more, completed⟩, -⟩ := opened
      exact hopeless more response ⟨bounded, completed ▸ List.prefix_rfl⟩
    · rcases unreached with ⟨message, begins⟩ | begins
      · exact whole _ begins
      · exact whole _ begins

/-- The front of a policy refusal with a byte no text holds, and of a refusal with a length
out of bounds: no bytes complete them, and both let a profile be enabled. -/
theorem garbled_refusals_allow_enable :
    (Hopeless [1, 4, 5, 0, 0xFF] ∧ ReplyAllows [1, 4, 5, 0, 0xFF] (.esim "enable" 0 1)) ∧
      Hopeless [0, 1, 0xFF, 0xFF] ∧ ReplyAllows [0, 1, 0xFF, 0xFF] (.esim "enable" 0 1) := by
  refine ⟨⟨stuck_hopeless (.inr ⟨rfl, by decide, ?_⟩), by unfold ReplyAllows; decide⟩,
    stuck_hopeless (.inl ⟨rfl, by decide, ?_⟩), by unfold ReplyAllows; decide⟩
  · exact ⟨by decide, by decide, by decide, Lib.Utf8.not_begins (by decide) _ _⟩
  · exact ⟨by decide, by decide⟩

end Runix.Arm
