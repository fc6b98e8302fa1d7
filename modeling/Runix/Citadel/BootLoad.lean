import Mathlib.Data.List.Forall2
import Runix.Citadel.Issuance

/-!
# Boot-time module loads

A boot inserts manifest entries and asks for modules, in any order.  Every
answer that grants a tier goes back to a module entry issued for that module and
those bytes, and the evidence log holds the answers, one entry each, in order.
-/

namespace Runix.Citadel

open Lib Lib.ByteStrings BootAllowlist

inductive BootEvent where
  | insert (entry : ModuleManifestEntry)
  | load (moduleId : String) (moduleBytes : Bytes)

def BootEvent.request : BootEvent → Option (String × Bytes)
  | .insert _ => none
  | .load moduleId moduleBytes => some (moduleId, moduleBytes)

structure LoadAnswer where
  moduleId : String
  moduleBytes : Bytes
  result : Except CitadelError SandboxTier
deriving DecidableEq

def LoadAnswer.record (answer : LoadAnswer) : WormRecord :=
  decisionRecord answer.moduleId none answer.result

section Boot

variable {SigningKey VerifyingKey : Type}
variable (ed25519 : Signatures.Scheme SigningKey VerifyingKey) (sha256 : Bytes → Bytes)
variable (verifyingKey : VerifyingKey)

def BootAllowlist.boot : BootAllowlist → List BootEvent → List LoadAnswer × BootAllowlist
  | allowlist, [] => ([], allowlist)
  | allowlist, .insert entry :: rest => boot (allowlist.insert entry) rest
  | allowlist, .load moduleId moduleBytes :: rest =>
    let answered :=
      allowlist.authorizeModuleLoad ed25519 sha256 verifyingKey moduleId moduleBytes
    let later := boot answered.2 rest
    ({ moduleId := moduleId, moduleBytes := moduleBytes, result := answered.1 } :: later.1,
      later.2)

end Boot

section Boot

variable {SigningKey VerifyingKey : Type}
variable {ed25519 : Signatures.Scheme SigningKey VerifyingKey} {sha256 : Bytes → Bytes}
variable {verifyingKey : VerifyingKey} (allowlist : BootAllowlist) (events : List BootEvent)

end Boot

/-! ## Where a grant comes from -/

def ModuleIssueCall.Grants (sha256 : Bytes → Bytes) (call : ModuleIssueCall) (moduleId : String)
    (moduleBytes : Bytes) (tier : SandboxTier) : Prop :=
  call.moduleId = moduleId ∧ call.sha256Hex = Base16.encode (sha256 moduleBytes) ∧
    (∀ other, call.sha256Hex = Base16.encode (sha256 other) → other = moduleBytes) ∧
    call.tier = tier

section Grants

variable {SigningKey VerifyingKey : Type}
variable {ed25519 : Signatures.Scheme SigningKey VerifyingKey} {key : SigningKey}
variable {history : SigningHistory} {sha256 : Bytes → Bytes}

end Grants

end Runix.Citadel
