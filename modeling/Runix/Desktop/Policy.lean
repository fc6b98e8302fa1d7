import Runix.Lib.PipeText

/-!
# The proxy's policy check

`desktop/src/citadel/policy.rs`: what the proxy looks at in the kernel's envelope before
it vouches for it.  Texts printed with `{:?}` go through `debug`, the formatting of a
string by the standard library.
-/

namespace Runix.Desktop

open Lib Lib.ByteStrings

def esimEnableAction : String := "esim.enable"
def esimDeleteAction : String := "esim.delete"
def mvnoBindProfileAction : String := "mvno.bind_profile"
def mvnoSuspendAccountAction : String := "mvno.suspend_account"
def mvnoReactivateAccountAction : String := "mvno.reactivate_account"
def dataResetUsageAction : String := "data.reset_usage"

def recognizedActionTypes : List String :=
  ["grid_sandbox.spawn_instance", esimEnableAction, esimDeleteAction, mvnoBindProfileAction,
    mvnoSuspendAccountAction, mvnoReactivateAccountAction, dataResetUsageAction]

variable (actionType : String)

def isDataAction : Bool := actionType == dataResetUsageAction

def isMvnoAction : Bool :=
  actionType == mvnoBindProfileAction || actionType == mvnoSuspendAccountAction ||
    actionType == mvnoReactivateAccountAction

def isEsimAction : Bool :=
  actionType == esimEnableAction || actionType == esimDeleteAction

structure KernelMinimalAction where
  actionType : String
  moduleId : String
  instanceId : String
  slot : Option Nat
  profile : Option Nat
  account : Option Nat
deriving DecidableEq, Repr

structure KernelMinimalActor where
  userId : String
  role : String
deriving DecidableEq, Repr

/-- The `verifier` is the text of a JSON value that nothing reads. -/
structure KernelMinimalEnvelope where
  kerkeseVersion : String
  dryRun : Bool
  action : KernelMinimalAction
  actor : KernelMinimalActor
  executionId : String
  verifier : Option String
deriving DecidableEq, Repr

variable (action : KernelMinimalAction)

/-- The module and the instance a verification entry is attributed to. -/
def KernelMinimalAction.auditIds : String × String :=
  let part := fun (value : Option Nat) => value.elim "" toString
  if isDataAction action.actionType then
    ("data", "account-" ++ part action.account)
  else if isMvnoAction action.actionType then
    let inst :=
      if action.actionType == mvnoBindProfileAction then
        "account-" ++ part action.account ++ "-slot-" ++ part action.slot ++ "-profile-" ++
          part action.profile
      else "account-" ++ part action.account
    ("mvno", inst)
  else if isEsimAction action.actionType then
    ("esim", "slot-" ++ part action.slot ++ "-profile-" ++ part action.profile)
  else (action.moduleId, action.instanceId)

inductive PolicyError where
  | unrecognizedActionType (actionType : String)
  | emptyIdentifier (field : String)
  | missingField (field : String)
  | unexpectedField (field : String)
  | malformedIdentifier (field value : String)
  | kernelAssertedVerifier
deriving DecidableEq, Repr

def PolicyError.display (debug : String → String) : PolicyError → String
  | .unrecognizedActionType actionType =>
    "POLICY_REFUSE: action type " ++ debug actionType ++ " is not one this proxy recognizes"
  | .emptyIdentifier field => "POLICY_REFUSE: " ++ field ++ " is empty"
  | .missingField field => "POLICY_REFUSE: " ++ field ++ " is required for this action type"
  | .unexpectedField field => "POLICY_REFUSE: " ++ field ++ " is not valid for this action type"
  | .malformedIdentifier field value =>
    "POLICY_REFUSE: " ++ field ++ " " ++ debug value ++
      " contains characters outside [A-Za-z0-9._:-]"
  | .kernelAssertedVerifier =>
    "POLICY_REFUSE: request already carries a verifier field — only this proxy may attach one"

def isIdentifierChar (c : Char) : Bool :=
  c.isAlphanum || c == '-' || c == '_' || c == '.' || c == ':'

def isWellFormedIdentifier (text : String) : Bool :=
  !text.isEmpty && (utf8 text).length ≤ 256 && text.toList.all isIdentifierChar

/-! The checks of one field, as `check` repeats them for every family. -/

def requireField (field : String) (value : Option Nat) : Except PolicyError Unit :=
  if value.isNone then .error (.missingField field) else .ok ()

def refuseField (field : String) (value : Option Nat) : Except PolicyError Unit :=
  if value.isSome then .error (.unexpectedField field) else .ok ()

def refuseText (field value : String) : Except PolicyError Unit :=
  if !value.isEmpty then .error (.unexpectedField field) else .ok ()

def requireIdentifier (field value : String) : Except PolicyError Unit :=
  if value.isEmpty then .error (.emptyIdentifier field)
  else if !isWellFormedIdentifier value then .error (.malformedIdentifier field value)
  else .ok ()

/-- The fields that identify the target, by the family of the action. -/
def checkTarget : Except PolicyError Unit :=
  if isDataAction action.actionType then do
    requireField "account" action.account
    refuseField "slot" action.slot
    refuseField "profile" action.profile
    refuseText "module_id" action.moduleId
    refuseText "instance_id" action.instanceId
  else if isMvnoAction action.actionType then do
    requireField "account" action.account
    if action.actionType == mvnoBindProfileAction then do
      requireField "slot" action.slot
      requireField "profile" action.profile
    else do
      refuseField "slot" action.slot
      refuseField "profile" action.profile
    refuseText "module_id" action.moduleId
    refuseText "instance_id" action.instanceId
  else if isEsimAction action.actionType then do
    refuseField "account" action.account
    requireField "slot" action.slot
    requireField "profile" action.profile
    refuseText "module_id" action.moduleId
    refuseText "instance_id" action.instanceId
  else do
    refuseField "account" action.account
    refuseField "slot" action.slot
    refuseField "profile" action.profile
    requireIdentifier "module_id" action.moduleId
    requireIdentifier "instance_id" action.instanceId

def check (envelope : KernelMinimalEnvelope) : Except PolicyError Unit := do
  if envelope.verifier.isSome then
    .error .kernelAssertedVerifier
  else if !recognizedActionTypes.contains envelope.action.actionType then
    .error (.unrecognizedActionType envelope.action.actionType)
  else
    checkTarget envelope.action
    requireIdentifier "actor.user_id" envelope.actor.userId

/-! ## What is accepted -/

def usesAccount : Bool := isDataAction actionType || isMvnoAction actionType

def usesProfile : Bool :=
  isEsimAction actionType || actionType == mvnoBindProfileAction

def usesModule : Bool := !usesAccount actionType && !usesProfile actionType

/-- A field is there exactly when the action type uses it. -/
structure TargetFits (action : KernelMinimalAction) : Prop where
  account : action.account.isSome = usesAccount action.actionType
  slot : action.slot.isSome = usesProfile action.actionType
  profile : action.profile.isSome = usesProfile action.actionType
  moduleId : if usesModule action.actionType then isWellFormedIdentifier action.moduleId = true
    else action.moduleId = ""
  instanceId : if usesModule action.actionType then
      isWellFormedIdentifier action.instanceId = true
    else action.instanceId = ""

theorem require_field_ok_iff {field : String} {value : Option Nat} :
    requireField field value = .ok () ↔ value.isSome = true := by
  cases value <;> simp [requireField]

theorem refuse_field_ok_iff {field : String} {value : Option Nat} :
    refuseField field value = .ok () ↔ value.isSome = false := by
  cases value <;> simp [refuseField]

theorem refuse_text_ok_iff {field value : String} :
    refuseText field value = .ok () ↔ value = "" := by
  unfold refuseText
  split_ifs with nonempty <;> simp_all

theorem require_identifier_ok_iff {field value : String} :
    requireIdentifier field value = .ok () ↔ isWellFormedIdentifier value = true := by
  unfold requireIdentifier
  split_ifs with empty malformed
  · simp_all [isWellFormedIdentifier]
  · simp_all
  · simp_all

theorem bind_ok_iff {first second : Except PolicyError Unit} :
    (first >>= fun _ => second) = .ok () ↔ first = .ok () ∧ second = .ok () := by
  cases first <;> simp [bind, Except.bind]

theorem target_fits_iff :
    TargetFits action ↔
      action.account.isSome = usesAccount action.actionType ∧
      action.slot.isSome = usesProfile action.actionType ∧
      action.profile.isSome = usesProfile action.actionType ∧
      (if usesModule action.actionType then isWellFormedIdentifier action.moduleId = true
        else action.moduleId = "") ∧
      (if usesModule action.actionType then isWellFormedIdentifier action.instanceId = true
        else action.instanceId = "") :=
  ⟨fun fits => ⟨fits.1, fits.2, fits.3, fits.4, fits.5⟩,
    fun ⟨account, slot, profile, moduleId, instanceId⟩ =>
      ⟨account, slot, profile, moduleId, instanceId⟩⟩

variable {actionType : String}

theorem data_action_only (data : isDataAction actionType = true) :
    isEsimAction actionType = false ∧ (actionType == mvnoBindProfileAction) = false := by
  have type : actionType = dataResetUsageAction := by simpa [isDataAction] using data
  rw [type]
  decide

theorem mvno_action_only (mvno : isMvnoAction actionType = true) :
    isEsimAction actionType = false := by
  simp only [isMvnoAction, Bool.or_eq_true, beq_iff_eq] at mvno
  obtain (type | type) | type := mvno <;> rw [type] <;> decide

theorem not_bind_of_not_mvno (other : isMvnoAction actionType = false) :
    (actionType == mvnoBindProfileAction) = false := by
  simp only [isMvnoAction, Bool.or_eq_false_iff] at other
  exact other.1.1

theorem check_target_ok_iff : checkTarget action = .ok () ↔ TargetFits action := by
  rw [target_fits_iff]
  unfold checkTarget usesModule usesAccount usesProfile
  cases data : isDataAction action.actionType with
  | true =>
    simp [data_action_only data, bind_ok_iff, require_field_ok_iff, refuse_field_ok_iff,
      refuse_text_ok_iff]
  | false =>
    cases mvno : isMvnoAction action.actionType with
    | true =>
      cases binds : action.actionType == mvnoBindProfileAction <;>
        simp [mvno_action_only mvno, bind_ok_iff, require_field_ok_iff,
          refuse_field_ok_iff, refuse_text_ok_iff]
    | false =>
      cases esim : isEsimAction action.actionType <;>
        simp [not_bind_of_not_mvno mvno, bind_ok_iff, require_field_ok_iff,
          refuse_field_ok_iff, refuse_text_ok_iff, require_identifier_ok_iff]

theorem check_ok_iff (envelope : KernelMinimalEnvelope) :
    check envelope = .ok () ↔
      envelope.verifier = none ∧ envelope.action.actionType ∈ recognizedActionTypes ∧
        TargetFits envelope.action ∧ isWellFormedIdentifier envelope.actor.userId = true := by
  unfold check
  split_ifs with asserted unknown
  · have present : envelope.verifier ≠ none := Option.isSome_iff_ne_none.mp asserted
    simp [present]
  · simp_all
  · rw [bind_ok_iff, check_target_ok_iff, require_identifier_ok_iff]
    simp_all

/-! ## Accepted texts are clear -/

theorem clear_of_well_formed {text : String} (formed : isWellFormedIdentifier text = true) :
    PipeText.Clear text := by
  intro member
  simp only [isWellFormedIdentifier, Bool.and_eq_true, List.all_eq_true] at formed
  have allowed := formed.2 _ member
  revert allowed
  decide

theorem clear_recognized : ∀ actionType ∈ recognizedActionTypes, PipeText.Clear actionType := by
  decide

end Runix.Desktop
