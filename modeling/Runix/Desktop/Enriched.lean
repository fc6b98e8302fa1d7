import Runix.Desktop.Identity
import Runix.Desktop.Policy
import Runix.Lib.Tables
import Runix.Lib.ByteStrings

/-!
# The envelope the proxy vouches for

`build_enriched_envelope` of `desktop/src/citadel/proxy.rs`.  The random execution id and
the clock are arguments.
-/

namespace Runix.Desktop

open Lib Lib.ByteStrings Lib.Tables

/-- The description and the evidence, by the family of the action. -/
def describe (action : KernelMinimalAction) : String × List (String × String) :=
  let account := toString (action.account.getD 0)
  let slot := toString (action.slot.getD 0)
  let profile := toString (action.profile.getD 0)
  if isDataAction action.actionType then
    (action.actionType ++ " account=" ++ account, insert "account" account [])
  else if isMvnoAction action.actionType then
    let extra := insert "account" account []
    if action.actionType == mvnoBindProfileAction then
      (action.actionType ++ " account=" ++ account ++ " slot=" ++ slot ++ " profile=" ++ profile,
        insert "profile" profile (insert "slot" slot extra))
    else (action.actionType ++ " account=" ++ account, extra)
  else if isEsimAction action.actionType then
    (action.actionType ++ " slot=" ++ slot ++ " profile=" ++ profile,
      insert "profile" profile (insert "slot" slot []))
  else
    ("grid_sandbox.spawn_instance module_id=" ++ action.moduleId ++ " instance_id=" ++
        action.instanceId,
      insert "instance_id" action.instanceId (insert "module_id" action.moduleId []))

structure HoldsTarget (extra : List (String × String)) (action : KernelMinimalAction) : Prop where
  account : extra.lookup "account" = action.account.map toString
  slot : extra.lookup "slot" = action.slot.map toString
  profile : extra.lookup "profile" = action.profile.map toString
  moduleId : (extra.lookup "module_id").getD "" = action.moduleId
  instanceId : (extra.lookup "instance_id").getD "" = action.instanceId

structure HoldsUsed (extra : List (String × String)) (action : KernelMinimalAction) : Prop where
  account : extra.lookup "account" =
    if usesAccount action.actionType then some (toString (action.account.getD 0)) else none
  slot : extra.lookup "slot" =
    if usesProfile action.actionType then some (toString (action.slot.getD 0)) else none
  profile : extra.lookup "profile" =
    if usesProfile action.actionType then some (toString (action.profile.getD 0)) else none
  moduleId : (extra.lookup "module_id").getD "" =
    if usesModule action.actionType then action.moduleId else ""
  instanceId : (extra.lookup "instance_id").getD "" =
    if usesModule action.actionType then action.instanceId else ""

theorem describe_used (action : KernelMinimalAction) : HoldsUsed (describe action).2 action := by
  unfold describe
  cases data : isDataAction action.actionType with
  | true =>
    constructor <;> simp [lookup_insert, usesAccount, usesProfile, usesModule, data,
      data_action_only data]
  | false =>
    cases mvno : isMvnoAction action.actionType with
    | true =>
      cases binds : action.actionType == mvnoBindProfileAction <;> constructor <;>
        simp [lookup_insert, usesAccount, usesProfile, usesModule, data, mvno, binds,
          mvno_action_only mvno]
    | false =>
      cases esim : isEsimAction action.actionType <;> constructor <;>
        simp [lookup_insert, usesAccount, usesProfile, usesModule, data, mvno, esim,
          not_bind_of_not_mvno mvno]

theorem number_used {number : Option Nat} {used : Bool} (fits : number.isSome = used) :
    (if used then some (toString (number.getD 0)) else none) = number.map toString := by
  cases number <;> simp [← fits]

theorem text_used {text : String} {used : Bool} {formed : Prop}
    (fits : if used then formed else text = "") : (if used then text else "") = text := by
  cases used with
  | true => rfl
  | false => exact fits.symm

variable {action : KernelMinimalAction}

theorem describe_target (fits : TargetFits action) : HoldsTarget (describe action).2 action := by
  have used := describe_used action
  exact
    { account := used.account.trans (number_used fits.account)
      slot := used.slot.trans (number_used fits.slot)
      profile := used.profile.trans (number_used fits.profile)
      moduleId := used.moduleId.trans (text_used fits.moduleId)
      instanceId := used.instanceId.trans (text_used fits.instanceId) }

section Ed25519

variable {SigningKey VerifyingKey : Type}
variable (ed25519 : Signatures.Scheme SigningKey VerifyingKey)

def buildEnrichedEnvelope (envelope : KernelMinimalEnvelope) (executionId : String)
    (nowUnixSecs : Int) (signingKey : SigningKey) : Kerkese :=
  let tsUtc := formatRfc3339Utc nowUnixSecs
  let (description, extra) := describe envelope.action
  let extra :=
    if !envelope.executionId.isEmpty then
      insert "kernel_execution_id" envelope.executionId extra
    else extra
  let actor : KerkeseActor :=
    { userId := envelope.actor.userId, role := envelope.actor.role, email := none }
  let verifier := KerkeseVerifier.thisProxy
  let sod : KerkeseSoD :=
    { operatorUserId := actor.userId, verifierUserId := verifier.userId }
  let kerkese : Kerkese :=
    { kerkeseVersion := if envelope.kerkeseVersion.isEmpty then "1.0" else envelope.kerkeseVersion
      tsUtc := tsUtc
      projectId := "runix"
      executionId := executionId
      action := { actionType := envelope.action.actionType, description := description }
      actor := actor
      verifier := verifier
      evidence := { extra := extra }
      sod := sod
      dryRun := envelope.dryRun
      sigVerifier := "" }
  let payload := canonicalPayload kerkese
  { kerkese with sigVerifier := signVerifierPayload ed25519 payload signingKey }

/-! ## Nothing of the request is changed -/

/-- The envelope asks for the same action on the same target, for the same actor. -/
structure SameRequest (envelope : KernelMinimalEnvelope) (kerkese : Kerkese) : Prop where
  actionType : kerkese.action.actionType = envelope.action.actionType
  userId : kerkese.actor.userId = envelope.actor.userId
  role : kerkese.actor.role = envelope.actor.role
  dryRun : kerkese.dryRun = envelope.dryRun
  target : HoldsTarget kerkese.evidence.extra envelope.action

theorem HoldsTarget.insert {extra : List (String × String)} {action : KernelMinimalAction}
    (holds : HoldsTarget extra action) (executionId : String) :
    HoldsTarget (Tables.insert "kernel_execution_id" executionId extra) action := by
  obtain ⟨account, slot, profile, moduleId, instanceId⟩ := holds
  constructor <;> simp [lookup_insert, account, slot, profile, moduleId, instanceId]

theorem enriched_same_request {envelope : KernelMinimalEnvelope}
    (accepted : check envelope = .ok ()) (executionId : String) (nowUnixSecs : Int)
    (signingKey : SigningKey) :
    SameRequest envelope
      (buildEnrichedEnvelope ed25519 envelope executionId nowUnixSecs signingKey) := by
  obtain ⟨-, -, fits, -⟩ := (check_ok_iff envelope).mp accepted
  have target := describe_target fits
  refine ⟨rfl, rfl, rfl, rfl, ?_⟩
  simp only [buildEnrichedEnvelope]
  split_ifs
  · exact target.insert envelope.executionId
  · exact target

end Ed25519

/-! ## The operator and the verifier -/

def enableAction : KernelMinimalAction where
  actionType := esimEnableAction
  moduleId := ""
  instanceId := ""
  slot := some 0
  profile := some 1
  account := none

def enableRequest (userId role : String) : KernelMinimalEnvelope where
  kerkeseVersion := "1.0"
  dryRun := false
  action := enableAction
  actor := { userId := userId, role := role }
  executionId := ""
  verifier := none

theorem enable_accepted {userId : String} (role : String)
    (formed : isWellFormedIdentifier userId = true) :
    check (enableRequest userId role) = .ok () := by
  have recognized : enableAction.actionType ∈ recognizedActionTypes := by decide
  have fits : TargetFits enableAction := by
    rw [target_fits_iff]
    decide
  exact (check_ok_iff _).mpr ⟨rfl, recognized, fits, formed⟩

section Ed25519

variable {SigningKey VerifyingKey : Type}
variable (ed25519 : Signatures.Scheme SigningKey VerifyingKey)

def KernelMinimalEnvelope.actedBy (envelope : KernelMinimalEnvelope) (userId : String) :
    KernelMinimalEnvelope :=
  { envelope with actor := { envelope.actor with userId := userId } }

/-- The proxy vouches for an actor other than itself, unless the actor has its name; and
the name is a well-formed one, which the check accepts wherever it accepts another. -/
theorem operator_differs_iff {envelope : KernelMinimalEnvelope} (accepted : check envelope = .ok ())
    (executionId : String) (nowUnixSecs : Int) (signingKey : SigningKey) :
    ((buildEnrichedEnvelope ed25519 envelope executionId nowUnixSecs
          signingKey).sod.operatorUserId ≠
        (buildEnrichedEnvelope ed25519 envelope executionId nowUnixSecs
          signingKey).sod.verifierUserId ↔
      envelope.actor.userId ≠ proxyVerifierUserId) ∧
      check (envelope.actedBy proxyVerifierUserId) = .ok () := by
  refine ⟨Iff.rfl, ?_⟩
  obtain ⟨verifier, recognized, fits, -⟩ := (check_ok_iff envelope).mp accepted
  have formed : isWellFormedIdentifier proxyVerifierUserId = true := by decide
  rw [check_ok_iff]
  exact ⟨verifier, recognized, fits, formed⟩

end Ed25519

theorem kernel_operator_differs :
    check (enableRequest "kernel:esim" "operator") = .ok () ∧
      (buildEnrichedEnvelope (Signatures.Scheme.tabulated [] [] [])
        (enableRequest "kernel:esim" "operator") "exec-1" 0 []).sod.operatorUserId ≠
      (buildEnrichedEnvelope (Signatures.Scheme.tabulated [] [] [])
        (enableRequest "kernel:esim" "operator") "exec-1" 0 []).sod.verifierUserId := by
  have formed : isWellFormedIdentifier "kernel:esim" = true := by decide
  have accepted := enable_accepted "operator" formed
  exact ⟨accepted, (operator_differs_iff _ accepted "exec-1" 0 []).1.mpr (by decide)⟩

theorem proxy_vouches_for_itself :
    check (enableRequest "citadel_proxy:verifier" "operator") = .ok () ∧
      (buildEnrichedEnvelope (Signatures.Scheme.tabulated [] [] [])
        (enableRequest "citadel_proxy:verifier" "operator") "exec-1" 0 []).sod =
        ⟨"citadel_proxy:verifier", "citadel_proxy:verifier"⟩ :=
  ⟨enable_accepted "operator" (by decide), rfl⟩

/-! ## What the signature binds -/

section Ed25519

variable {SigningKey VerifyingKey : Type}
variable (ed25519 : Signatures.Scheme SigningKey VerifyingKey)

theorem enriched_fields_clear {envelope : KernelMinimalEnvelope}
    (accepted : check envelope = .ok ()) {executionId : String} (clear : PipeText.Clear executionId)
    (clearRole : PipeText.Clear envelope.actor.role) (nowUnixSecs : Int) (signingKey : SigningKey) :
    ∀ field ∈ signedFields
      (buildEnrichedEnvelope ed25519 envelope executionId nowUnixSecs signingKey),
      PipeText.Clear field := by
  obtain ⟨-, recognized, -, formed⟩ := (check_ok_iff envelope).mp accepted
  have clearActor := clear_of_well_formed formed
  have clearType := clear_recognized _ recognized
  have clearTime := clear_time nowUnixSecs
  have constants : PipeText.Clear "v1" ∧ PipeText.Clear "" ∧
      PipeText.Clear proxyVerifierUserId ∧ PipeText.Clear proxyVerifierRole := by decide
  obtain ⟨version, changeId, verifierId, verifierRole⟩ := constants
  simp only [signedFields, List.forall_mem_cons]
  exact ⟨version, clear, clearType, changeId, clearActor, clearRole, verifierId, verifierRole,
    clearActor, verifierId, clearTime, fun _ member => absurd member List.not_mem_nil⟩

/-- The fields a signature of the proxy vouches for. -/
structure SameSigned (first second : Kerkese) : Prop where
  executionId : first.executionId = second.executionId
  actionType : first.action.actionType = second.action.actionType
  actorUserId : first.actor.userId = second.actor.userId
  actorRole : first.actor.role = second.actor.role
  verifierUserId : first.verifier.userId = second.verifier.userId
  verifierRole : first.verifier.role = second.verifier.role
  sod : first.sod = second.sod
  tsUtc : first.tsUtc = second.tsUtc

theorem same_signed_of_fields {first second : Kerkese}
    (same : signedFields first = signedFields second) : SameSigned first second := by
  simp only [signedFields, List.cons.injEq, true_and, and_true] at same
  obtain ⟨executionId, actionType, actorId, actorRole, verifierId, verifierRole, operator,
    verifier, time⟩ := same
  refine ⟨executionId, actionType, actorId, actorRole, verifierId, verifierRole, ?_, time⟩
  cases firstSod : first.sod
  cases secondSod : second.sod
  simp_all

/-- Moving the cut between the actor's role and the verifier's id. -/
def Kerkese.recut (k : Kerkese) (role verifierId : String) : Kerkese :=
  { k with
    actor := { k.actor with role := role }
    verifier := { k.verifier with userId := verifierId } }

theorem canonical_payload_recut {k : Kerkese} {front back : String}
    (split : k.actor.role = front ++ "|" ++ back) :
    canonicalPayload (k.recut front (back ++ "|" ++ k.verifier.userId)) = canonicalPayload k := by
  unfold canonicalPayload
  generalize "v1" = version
  generalize "" = changeId
  simp only [Kerkese.recut, split, String.append_assoc]

/-- The signature binds the fields exactly when the actor's role is clear, which the
check does not ask for. -/
theorem payload_binds_iff {envelope : KernelMinimalEnvelope}
    (accepted : check envelope = .ok ()) {executionId : String}
    (clear : PipeText.Clear executionId) (nowUnixSecs : Int) (signingKey : SigningKey) :
    (∀ other, canonicalPayload other = canonicalPayload
        (buildEnrichedEnvelope ed25519 envelope executionId nowUnixSecs signingKey) →
      SameSigned other
        (buildEnrichedEnvelope ed25519 envelope executionId nowUnixSecs signingKey)) ↔
      PipeText.Clear envelope.actor.role := by
  constructor
  · intro binds member
    obtain ⟨front, back, split⟩ := List.append_of_mem member
    have cut : envelope.actor.role = String.ofList front ++ "|" ++ String.ofList back := by
      apply String.toList_injective
      rw [PipeText.to_list_join, String.toList_ofList, String.toList_ofList, split]
    have same := binds _ (canonical_payload_recut
      (k := buildEnrichedEnvelope ed25519 envelope executionId nowUnixSecs signingKey) cut)
    have role : String.ofList front = envelope.actor.role := same.actorRole
    have lengths := congrArg (List.length ∘ String.toList) role
    simp [split] at lengths
  · intro clearRole other same
    apply same_signed_of_fields
    exact signed_fields_unique
      (enriched_fields_clear ed25519 accepted clear clearRole nowUnixSecs signingKey) same

end Ed25519

theorem operator_role_bound :
    PipeText.Clear "exec-1" ∧
      ∀ other, canonicalPayload other = canonicalPayload
          (buildEnrichedEnvelope (Signatures.Scheme.tabulated [] [] [])
            (enableRequest "kernel:esim" "operator") "exec-1" 0 []) →
        SameSigned other
          (buildEnrichedEnvelope (Signatures.Scheme.tabulated [] [] [])
            (enableRequest "kernel:esim" "operator") "exec-1" 0 []) := by
  have clear : PipeText.Clear "exec-1" := by decide
  refine ⟨clear, (payload_binds_iff _ (enable_accepted _ ?_) clear 0 []).mpr ?_⟩
  · decide
  · decide

/-- Signed for the role `viewer|root`, read as vouching for a `viewer` under another
verifier. -/
theorem piped_role_read_otherwise :
    check (enableRequest "kernel:esim" "viewer|root") = .ok () ∧
      PipeText.Clear "exec-1" ∧
      ∃ other : Kerkese,
        canonicalPayload other = canonicalPayload
          (buildEnrichedEnvelope (Signatures.Scheme.tabulated [] [] [])
            (enableRequest "kernel:esim" "viewer|root") "exec-1" 0 []) ∧
        other.actor.role = "viewer" ∧ other.verifier.userId = "root|citadel_proxy:verifier" := by
  have cut : "viewer|root" = "viewer" ++ "|" ++ "root" := rfl
  exact ⟨enable_accepted _ (by decide), by decide, _, canonical_payload_recut cut, rfl, rfl⟩

/-! ## What reaches the evidence -/

/-- At most 256 characters, all of the kind an identifier has. -/
def Plain (text : String) : Prop := text.length ≤ 256 ∧ ∀ c ∈ text.toList, isIdentifierChar c

theorem plain_empty : Plain "" := ⟨by decide, by simp⟩

theorem plain_number {number : Nat} (bound : number < 2 ^ 64) : Plain (toString number) := by
  have digits : number.repr.length ≤ 256 :=
    (Nat.length_repr_le_iff (by decide)).mpr (bound.trans (by decide))
  refine ⟨digits, fun c listed => ?_⟩
  have known : c ∈ number.repr.toList := listed
  rw [Nat.toList_repr] at known
  have digit := Nat.isDigit_of_mem_toDigits (by decide) (by decide) known
  simp [isIdentifierChar, Char.isAlphanum, digit]

theorem plain_of_well_formed {text : String} (formed : isWellFormedIdentifier text = true) :
    Plain text := by
  simp only [isWellFormedIdentifier, Bool.and_eq_true, decide_eq_true_eq, List.all_eq_true]
    at formed
  exact ⟨(Utf8.length_le_utf8 text).trans formed.1.2, formed.2⟩

theorem plain_insert {name value : String} {rows : List (String × String)} (plain : Plain value)
    (others : ∀ row ∈ rows, Plain row.2) : ∀ row ∈ insert name value rows, Plain row.2 := by
  intro row member
  rcases mem_insert member with rfl | old
  · exact plain
  · exact others row old

/-- The numbers of a parsed action are `u64`s. -/
def KernelMinimalAction.Words (action : KernelMinimalAction) : Prop :=
  ∀ number ∈ [action.account, action.slot, action.profile], number.getD 0 < 2 ^ 64

theorem describe_plain (fits : TargetFits action)
    (words : action.Words) : ∀ row ∈ (describe action).2, Plain row.2 := by
  simp only [KernelMinimalAction.Words, List.forall_mem_cons] at words
  have account := plain_number words.1
  have slot := plain_number words.2.1
  have profile := plain_number words.2.2.1
  have nothing : ∀ row ∈ ([] : List (String × String)), Plain row.2 := List.forall_mem_nil _
  unfold describe
  split_ifs with data mvno binds esim
  · exact plain_insert account nothing
  · exact plain_insert profile (plain_insert slot (plain_insert account nothing))
  · exact plain_insert account nothing
  · exact plain_insert profile (plain_insert slot nothing)
  · have used : usesModule action.actionType = true := by
      simp_all [usesModule, usesAccount, usesProfile, not_bind_of_not_mvno]
    have moduleId := fits.moduleId
    have instanceId := fits.instanceId
    rw [if_pos used] at moduleId instanceId
    exact plain_insert (plain_of_well_formed instanceId)
      (plain_insert (plain_of_well_formed moduleId) nothing)

section Ed25519

variable {SigningKey VerifyingKey : Type}
variable (ed25519 : Signatures.Scheme SigningKey VerifyingKey)

/-- The evidence is plain exactly when the kernel's execution id is, which the check does not
look at. -/
theorem evidence_plain_iff {envelope : KernelMinimalEnvelope} (words : envelope.action.Words)
    (accepted : check envelope = .ok ()) (executionId : String) (nowUnixSecs : Int)
    (signingKey : SigningKey) :
    (∀ row ∈ (buildEnrichedEnvelope ed25519 envelope executionId nowUnixSecs
        signingKey).evidence.extra, Plain row.2) ↔ Plain envelope.executionId := by
  obtain ⟨-, -, fits, -⟩ := (check_ok_iff envelope).mp accepted
  have described := describe_plain fits words
  simp only [buildEnrichedEnvelope]
  split_ifs with named
  · exact ⟨fun plain => plain _ (mem_insert_self ..), fun plain => plain_insert plain described⟩
  · have empty : envelope.executionId = "" := by simpa using named
    rw [empty]
    exact ⟨fun _ => plain_empty, fun _ => described⟩

end Ed25519

theorem unnamed_evidence_plain :
    check (enableRequest "kernel:esim" "operator") = .ok () ∧
      ∀ row ∈ (buildEnrichedEnvelope (Signatures.Scheme.tabulated [] [] [])
        (enableRequest "kernel:esim" "operator") "exec-1" 0 []).evidence.extra, Plain row.2 := by
  have accepted := @enable_accepted "kernel:esim" "operator" (by decide)
  have words : enableAction.Words := by simp [KernelMinimalAction.Words, enableAction]
  exact ⟨accepted, (evidence_plain_iff _ words accepted "exec-1" 0 []).mpr plain_empty⟩

/-- The execution id is forwarded as it came. -/
theorem free_text_in_evidence :
    let envelope := { enableRequest "kernel:esim" "operator" with executionId := "any text\n" }
    check envelope = .ok () ∧
      ("kernel_execution_id", "any text\n") ∈ (buildEnrichedEnvelope
        (Signatures.Scheme.tabulated [] [] []) envelope "exec-1" 0 []).evidence.extra ∧
      ¬ Plain "any text\n" :=
  ⟨enable_accepted "operator" (by decide), by decide,
    fun plain => absurd (plain.2 ' ' (by simp)) (by decide)⟩

end Runix.Desktop
