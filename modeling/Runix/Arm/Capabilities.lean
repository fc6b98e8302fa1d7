import Runix.Arm.Svc
import Runix.Lib.Numerals

/-!
# Capabilities of kernel-arm

`capabilities.rs` names each operation by a text, issues tokens for such texts and looks for one
among the tokens the EL0 context holds.  The texts are fields between colons, so two of them are
the same only if all their fields are.  A token for a window of device registers covers every
window that the one it names contains.
-/

namespace Runix.Arm

open Lib Lib.Words Lib.Numerals Capability

/-! ## Windows of device registers -/

def mmioWindowResource (base len : Nat) : String :=
  "mmio:" ++ hexText base ++ ":" ++ hexText len

def parseMmioWindow (resource : String) : Option (Nat × Nat) := do
  let rest ← dropFront "mmio:".toList resource.toList
  let (baseStr, lenStr) ← splitOnce ':' rest
  let base ← fromStrRadix16 (← dropFront "0x".toList baseStr)
  let len ← fromStrRadix16 (← dropFront "0x".toList lenStr)
  return (base, len)

def virtioMmioBase : Nat := 0x0a000000

def virtioMmioSlotStride : Nat := 0x200

def slotCount : Nat := 32

def slotBase (slot : Nat) : Nat := virtioMmioBase + slot * virtioMmioSlotStride

def virtioMmioSlotResource (slot : Nat) : String :=
  mmioWindowResource (slotBase slot) virtioMmioSlotStride

def mmioWindowContains (grantedBase grantedLen requestedBase requestedLen : Nat) : Bool :=
  match checkedAdd grantedBase grantedLen, checkedAdd requestedBase requestedLen with
  | some grantedEnd, some requestedEnd => grantedBase ≤ requestedBase ∧ requestedEnd ≤ grantedEnd
  | _, _ => false

section Ed25519

variable {SigningKey VerifyingKey : Type} (ed25519 : Signatures.Scheme SigningKey VerifyingKey)

def checkMmioWindow (verifyingKey : VerifyingKey) (token : CapabilityToken)
    (requestedBase requestedLen now : Nat) : Except CapabilityError Unit := do
  token.verify ed25519 verifyingKey token.resource now
  match parseMmioWindow token.resource with
  | some (grantedBase, grantedLen) =>
    if mmioWindowContains grantedBase grantedLen requestedBase requestedLen then .ok ()
    else .error .wrongResource
  | none => .error .wrongResource

def issueMmioToken (signingKey : SigningKey) (ticksPerSec : Nat) (resource : String) (now : Nat) :
    CapabilityToken :=
  CapabilityToken.issue ed25519 "el0:arm-demo" resource now (now + 60 * ticksPerSec) "demo-key"
    signingKey

end Ed25519

/-! ## Names of operations -/

inductive Resource
  | ril (channel : Nat)
  | ipc (channel : Nat)
  | sim (slot : Nat)
  | simProfile (slot profile : Nat)
  | simDelete (slot profile : Nat)
  | mvnoAccount (account : Nat)
  | mvnoSuspend (account : Nat)
  | dataSession (account : Nat)
  | dataUsage (account : Nat)
  | dataReset (account : Nat)
  | dataResetEarly (account : Nat)
  | dataReconcile
  | mmioWindow (base len : Nat)

namespace Resource

open Nat (toDigits)

def name : Resource → String
  | ril channel => rilResource channel
  | ipc channel => ipcResource channel
  | sim slot => simResource slot
  | simProfile slot profile => simProfileResource slot profile
  | simDelete slot profile => simDeleteResource slot profile
  | mvnoAccount account => mvnoAccountResource account
  | mvnoSuspend account => mvnoSuspendResource account
  | dataSession account => dataSessionResource account
  | dataUsage account => dataUsageResource account
  | dataReset account => dataResetResource account
  | dataResetEarly account => dataResetEarlyResource account
  | dataReconcile => dataReconcileResource
  | mmioWindow base len => mmioWindowResource base len

/-- The parts between the colons. -/
def fields : Resource → List (List Char)
  | ril channel => ["ril".toList, toDigits 10 channel]
  | ipc channel => ["ipc".toList, toDigits 10 channel]
  | sim slot => ["sim".toList, toDigits 10 slot]
  | simProfile slot profile => ["sim".toList, toDigits 10 slot, toDigits 10 profile]
  | simDelete slot profile =>
    ["sim".toList, "delete".toList, toDigits 10 slot, toDigits 10 profile]
  | mvnoAccount account => ["mvno".toList, "account".toList, toDigits 10 account]
  | mvnoSuspend account => ["mvno".toList, "suspend".toList, toDigits 10 account]
  | dataSession account => ["data".toList, "session".toList, toDigits 10 account]
  | dataUsage account => ["data".toList, "usage".toList, toDigits 10 account]
  | dataReset account => ["data".toList, "reset".toList, toDigits 10 account]
  | dataResetEarly account => ["data".toList, "reset-early".toList, toDigits 10 account]
  | dataReconcile => ["data".toList, "reconcile".toList]
  | mmioWindow base len =>
    ["mmio".toList, "0x".toList ++ toDigits 16 base, "0x".toList ++ toDigits 16 len]

theorem toList_name (resource : Resource) :
    resource.name.toList = [':'].intercalate resource.fields := by
  cases resource
  all_goals
    dsimp only [name, fields]
    delta rilResource ipcResource simResource simProfileResource simDeleteResource
      mvnoAccountResource mvnoSuspendResource dataSessionResource dataUsageResource
      dataResetResource dataResetEarlyResource dataReconcileResource mmioWindowResource
    simp [hexText, List.intercalate]

theorem fields_clear (resource : Resource) : ∀ field ∈ resource.fields, ':' ∉ field := by
  have ten : ∀ number, ':' ∉ toDigits 10 number :=
    not_mem_toDigits (by decide) (by decide) (by decide)
  have sixteen : ∀ number, ':' ∉ toDigits 16 number :=
    not_mem_toDigits (by decide) (by decide) (by decide)
  cases resource <;> simp [fields, ten, sixteen]

theorem fields_injective : Function.Injective fields := by
  have ten : ∀ {m n}, toDigits 10 m = toDigits 10 n ↔ m = n :=
    (toDigits_injective (by decide) (by decide)).eq_iff
  have sixteen : ∀ {m n}, toDigits 16 m = toDigits 16 n ↔ m = n :=
    (toDigits_injective (by decide) (by decide)).eq_iff
  intro first second same
  cases first <;> cases second <;> simp_all [fields]

theorem name_injective : Function.Injective name := by
  intro first second same
  have split : ∀ resource : Resource, resource.name.toList.splitOn ':' = resource.fields := by
    intro resource
    rw [toList_name, List.splitOn_intercalate ':' resource.fields_clear]
    cases resource <;> exact List.cons_ne_nil _ _
  apply fields_injective
  rw [← split, ← split, same]

end Resource

section Ed25519

variable {SigningKey VerifyingKey : Type} (ed25519 : Signatures.Scheme SigningKey VerifyingKey)

def issueAndHold (signingKey : SigningKey) (ticksPerSec : Nat) (held : List CapabilityToken)
    (resource : String) (now : Nat) : List CapabilityToken :=
  held ++ [issueMmioToken ed25519 signingKey ticksPerSec resource now]

/-- The search over the held tokens, with the last error. -/
def checkFrom (verifyingKey : VerifyingKey) (resource : String) (now : Nat)
    (lastErr : CapabilityError) : List CapabilityToken → Except CapabilityError Unit
  | [] => .error lastErr
  | token :: rest =>
    match token.verify ed25519 verifyingKey resource now with
    | .ok () => .ok ()
    | .error error => checkFrom verifyingKey resource now error rest

def check (verifyingKey : VerifyingKey) (held : List CapabilityToken) (resource : String)
    (now : Nat) : Except CapabilityError Unit :=
  checkFrom ed25519 verifyingKey resource now .invalidSignature held

variable {ed25519} {verifyingKey : VerifyingKey}

theorem checkFrom_ok {held : List CapabilityToken} {resource : String} {now : Nat}
    {lastErr : CapabilityError}
    (passes : checkFrom ed25519 verifyingKey resource now lastErr held = .ok ()) :
    ∃ token ∈ held, token.verify ed25519 verifyingKey resource now = .ok () := by
  induction held generalizing lastErr with
  | nil => cases passes
  | cons token rest ih =>
    cases verified : token.verify ed25519 verifyingKey resource now with
    | ok done => exact ⟨token, List.mem_cons_self, verified⟩
    | error error =>
      rw [checkFrom, verified] at passes
      obtain ⟨found, listed, verifies⟩ := ih passes
      exact ⟨found, List.mem_cons_of_mem _ listed, verifies⟩

/-- The tokens held after some issues, each of a resource at a time. -/
def heldAfter (ed25519 : Signatures.Scheme SigningKey VerifyingKey) (signingKey : SigningKey)
    (ticksPerSec : Nat) (issues : List (Resource × Nat)) : List CapabilityToken :=
  issues.foldl (fun held (resource, now) =>
    issueAndHold ed25519 signingKey ticksPerSec held resource.name now) []

theorem mem_heldAfter {signingKey : SigningKey} {ticksPerSec : Nat} {issues : List (Resource × Nat)}
    {token : CapabilityToken} (held : token ∈ heldAfter ed25519 signingKey ticksPerSec issues) :
    ∃ issue ∈ issues, token.resource = issue.1.name ∧
      token.expiresAt = issue.2 + 60 * ticksPerSec := by
  induction issues using List.reverseRecOn with
  | nil => cases held
  | append_singleton earlier issue ih =>
    rw [heldAfter, List.foldl_append] at held
    rcases List.mem_append.mp held with before | last
    · obtain ⟨found, listed, known⟩ := ih before
      exact ⟨found, List.mem_append_left _ listed, known⟩
    · rw [List.mem_singleton.mp last]
      exact ⟨issue, List.mem_append_right _ List.mem_cons_self, rfl, rfl⟩

/-- Every operation has a name of its own, so a check passes only for what a token was issued
for and has not expired. -/
theorem operation_authorized (ed25519 : Signatures.Scheme SigningKey VerifyingKey)
    (signingKey : SigningKey) (verifyingKey : VerifyingKey) (ticksPerSec : Nat) :
    (∀ first second : Resource, first.name = second.name → first = second) ∧
      ∀ (issues : List (Resource × Nat)) (operation : Resource) (now : Nat),
        check ed25519 verifyingKey (heldAfter ed25519 signingKey ticksPerSec issues)
            operation.name now = .ok () →
          ∃ issuedAt, (operation, issuedAt) ∈ issues ∧ now ≤ issuedAt + 60 * ticksPerSec := by
  refine ⟨fun _ _ same => Resource.name_injective same, fun issues operation now passes => ?_⟩
  obtain ⟨token, held, verifies⟩ := checkFrom_ok passes
  obtain ⟨unexpired, named, -⟩ := (verify_ok_iff token _ _ _).mp verifies
  obtain ⟨⟨resource, issuedAt⟩, listed, same, expires⟩ := mem_heldAfter held
  obtain rfl := Resource.name_injective (same.symm.trans named)
  exact ⟨issuedAt, listed, expires ▸ unexpired⟩

end Ed25519

end Runix.Arm
