import Runix.Capability.Token
import Runix.Citadel.WormLog

/-!
# Signed manifests and the two allowlists

`BootAllowlist` and `InstanceAllowlist` of `citadel-integration/src/lib.rs`: a
module (or one instance of it) may load when the first entry under its name
carries the digest of its bytes and a valid signature.  Every decision leaves
one entry in the allowlist's evidence log.
-/

namespace Runix.Citadel

open Lib Lib.ByteStrings

def canonicalVersion : String := "v2"

def instanceCanonicalVersion : String := "vi1"

inductive CitadelError where
  | notAllowlisted
  | wrongModule
  | wrongInstance
  | hashMismatch
  | invalidSignature
deriving DecidableEq, Repr

def CitadelError.display : CitadelError → String
  | .notAllowlisted => "module is not in the boot allowlist"
  | .wrongModule => "manifest entry does not authorize this module"
  | .wrongInstance => "manifest entry does not authorize this instance"
  | .hashMismatch => "module bytes do not match the allowlisted hash"
  | .invalidSignature => "manifest entry signature invalid"

structure ModuleManifestEntry where
  moduleId : String
  sha256Hex : String
  tier : SandboxTier
  keyId : String
  signature : String
deriving DecidableEq, Repr

structure InstanceManifestEntry where
  moduleId : String
  instanceId : String
  sha256Hex : String
  tier : SandboxTier
  keyId : String
  signature : String
deriving DecidableEq, Repr

def ModuleManifestEntry.canonicalString (entry : ModuleManifestEntry) : String :=
  canonicalVersion ++ "|" ++ entry.moduleId ++ "|" ++ entry.sha256Hex ++ "|" ++ entry.tier.asStr

def InstanceManifestEntry.canonicalString (entry : InstanceManifestEntry) : String :=
  instanceCanonicalVersion ++ "|" ++ entry.moduleId ++ "|" ++ entry.instanceId ++ "|" ++
    entry.sha256Hex ++ "|" ++ entry.tier.asStr

section Ed25519

variable {SigningKey VerifyingKey : Type}
variable (ed25519 : Signatures.Scheme SigningKey VerifyingKey)

/-- The last step of both `verify` functions. -/
def verifyText (verifyingKey : VerifyingKey) (text signature : String) :
    Except CitadelError Unit :=
  match Capability.decodeSignature signature with
  | none => .error .invalidSignature
  | some bytes =>
    if ed25519.verify verifyingKey (utf8 text) bytes then .ok () else .error .invalidSignature

namespace ModuleManifestEntry

def issue (moduleId sha256Hex : String) (tier : SandboxTier) (keyId : String)
    (signingKey : SigningKey) : ModuleManifestEntry :=
  let entry : ModuleManifestEntry :=
    { moduleId := moduleId, sha256Hex := sha256Hex, tier := tier, keyId := keyId, signature := "" }
  { entry with
    signature := Base16.encode (ed25519.sign signingKey (utf8 entry.canonicalString)) }

def verify (entry : ModuleManifestEntry) (verifyingKey : VerifyingKey)
    (expectedModuleId expectedSha256Hex : String) : Except CitadelError Unit :=
  if entry.moduleId ≠ expectedModuleId then .error .wrongModule
  else if entry.sha256Hex ≠ expectedSha256Hex then .error .hashMismatch
  else verifyText ed25519 verifyingKey entry.canonicalString entry.signature

end ModuleManifestEntry

namespace InstanceManifestEntry

def issue (moduleId instanceId sha256Hex : String) (tier : SandboxTier) (keyId : String)
    (signingKey : SigningKey) : InstanceManifestEntry :=
  let entry : InstanceManifestEntry :=
    { moduleId := moduleId, instanceId := instanceId, sha256Hex := sha256Hex, tier := tier,
      keyId := keyId, signature := "" }
  { entry with
    signature := Base16.encode (ed25519.sign signingKey (utf8 entry.canonicalString)) }

def verify (entry : InstanceManifestEntry) (verifyingKey : VerifyingKey)
    (expectedModuleId expectedInstanceId expectedSha256Hex : String) :
    Except CitadelError Unit :=
  if entry.moduleId ≠ expectedModuleId then .error .wrongModule
  else if entry.instanceId ≠ expectedInstanceId then .error .wrongInstance
  else if entry.sha256Hex ≠ expectedSha256Hex then .error .hashMismatch
  else verifyText ed25519 verifyingKey entry.canonicalString entry.signature

end InstanceManifestEntry

end Ed25519

structure BootAllowlist where
  entries : List ModuleManifestEntry
  evidence : WormLog
deriving DecidableEq, Repr

structure InstanceAllowlist where
  entries : List InstanceManifestEntry
  evidence : WormLog
deriving DecidableEq, Repr

/-- What both `authorize` functions record about a decision. -/
def decisionRecord (moduleId : String) (instanceId : Option String)
    (result : Except CitadelError SandboxTier) : WormRecord :=
  match result with
  | .ok tier =>
    { moduleId := moduleId, instanceId := instanceId, tier := some tier, authorized := true,
      reason := none, shadowMarshal := none }
  | .error err =>
    { moduleId := moduleId, instanceId := instanceId, tier := none, authorized := false,
      reason := some err.display, shadowMarshal := none }

namespace BootAllowlist

def new : BootAllowlist := ⟨[], WormLog.new⟩

def insert (allowlist : BootAllowlist) (entry : ModuleManifestEntry) : BootAllowlist :=
  { allowlist with entries := allowlist.entries ++ [entry] }

def find (allowlist : BootAllowlist) (moduleId : String) : Option ModuleManifestEntry :=
  allowlist.entries.find? fun entry => entry.moduleId = moduleId

section Load

variable {SigningKey VerifyingKey : Type}
variable (ed25519 : Signatures.Scheme SigningKey VerifyingKey) (sha256 : Bytes → Bytes)

def evaluateModuleLoad (allowlist : BootAllowlist) (verifyingKey : VerifyingKey)
    (moduleId : String) (moduleBytes : Bytes) : Except CitadelError SandboxTier :=
  match allowlist.find moduleId with
  | none => .error .notAllowlisted
  | some entry =>
    let computed := Base16.encode (sha256 moduleBytes)
    match entry.verify ed25519 verifyingKey moduleId computed with
    | .error err => .error err
    | .ok () => .ok entry.tier

def authorizeModuleLoad (allowlist : BootAllowlist) (verifyingKey : VerifyingKey)
    (moduleId : String) (moduleBytes : Bytes) :
    Except CitadelError SandboxTier × BootAllowlist :=
  let result := allowlist.evaluateModuleLoad ed25519 sha256 verifyingKey moduleId moduleBytes
  (result, { allowlist with
    evidence := allowlist.evidence.record sha256 (decisionRecord moduleId none result) })

end Load

end BootAllowlist

namespace InstanceAllowlist

def new : InstanceAllowlist := ⟨[], WormLog.new⟩

def insert (allowlist : InstanceAllowlist) (entry : InstanceManifestEntry) : InstanceAllowlist :=
  { allowlist with entries := allowlist.entries ++ [entry] }

def find (allowlist : InstanceAllowlist) (moduleId instanceId : String) :
    Option InstanceManifestEntry :=
  allowlist.entries.find? fun entry => entry.moduleId = moduleId ∧ entry.instanceId = instanceId

section Load

variable {SigningKey VerifyingKey : Type}
variable (ed25519 : Signatures.Scheme SigningKey VerifyingKey) (sha256 : Bytes → Bytes)

def evaluateInstanceLoad (allowlist : InstanceAllowlist) (verifyingKey : VerifyingKey)
    (moduleId instanceId : String) (moduleBytes : Bytes) : Except CitadelError SandboxTier :=
  match allowlist.find moduleId instanceId with
  | none => .error .notAllowlisted
  | some entry =>
    let computed := Base16.encode (sha256 moduleBytes)
    match entry.verify ed25519 verifyingKey moduleId instanceId computed with
    | .error err => .error err
    | .ok () => .ok entry.tier

def authorizeInstanceLoad (allowlist : InstanceAllowlist) (verifyingKey : VerifyingKey)
    (moduleId instanceId : String) (moduleBytes : Bytes) :
    Except CitadelError SandboxTier × InstanceAllowlist :=
  let result :=
    allowlist.evaluateInstanceLoad ed25519 sha256 verifyingKey moduleId instanceId moduleBytes
  (result, { allowlist with
    evidence := allowlist.evidence.record sha256
      (decisionRecord moduleId (some instanceId) result) })

end Load

end InstanceAllowlist

/-! ## What a successful verification checked -/

section Verification

variable {SigningKey VerifyingKey : Type}
variable {ed25519 : Signatures.Scheme SigningKey VerifyingKey}

theorem verify_text_ok_iff (key : VerifyingKey) (text signature : String) :
    verifyText ed25519 key text signature = .ok () ↔
      ∃ bytes, Capability.decodeSignature signature = some bytes ∧
        ed25519.verify key (utf8 text) bytes = true := by
  unfold verifyText
  cases Capability.decodeSignature signature with
  | none => simp
  | some bytes =>
    by_cases verified : ed25519.verify key (utf8 text) bytes = true <;> simp [verified]

theorem ModuleManifestEntry.verify_ok_iff (entry : ModuleManifestEntry) (key : VerifyingKey)
    (moduleId sha256Hex : String) :
    entry.verify ed25519 key moduleId sha256Hex = .ok () ↔
      entry.moduleId = moduleId ∧ entry.sha256Hex = sha256Hex ∧
        verifyText ed25519 key entry.canonicalString entry.signature = .ok () := by
  unfold ModuleManifestEntry.verify
  split_ifs with module hash
  · simp [module]
  · simp [hash]
  · simp [not_not.mp module, not_not.mp hash]

theorem InstanceManifestEntry.verify_ok_iff (entry : InstanceManifestEntry) (key : VerifyingKey)
    (moduleId instanceId sha256Hex : String) :
    entry.verify ed25519 key moduleId instanceId sha256Hex = .ok () ↔
      entry.moduleId = moduleId ∧ entry.instanceId = instanceId ∧ entry.sha256Hex = sha256Hex ∧
        verifyText ed25519 key entry.canonicalString entry.signature = .ok () := by
  unfold InstanceManifestEntry.verify
  split_ifs with module inst hash
  · simp [module]
  · simp [inst]
  · simp [hash]
  · simp [not_not.mp module, not_not.mp inst, not_not.mp hash]

theorem evaluate_instance_load_ok_iff (sha256 : Bytes → Bytes) (allowlist : InstanceAllowlist)
    (key : VerifyingKey) (moduleId instanceId : String) (moduleBytes : Bytes) (tier : SandboxTier) :
    allowlist.evaluateInstanceLoad ed25519 sha256 key moduleId instanceId moduleBytes = .ok tier ↔
      ∃ entry, allowlist.find moduleId instanceId = some entry ∧ entry.tier = tier ∧
        entry.verify ed25519 key moduleId instanceId (Base16.encode (sha256 moduleBytes)) =
          .ok () := by
  unfold InstanceAllowlist.evaluateInstanceLoad
  cases found : allowlist.find moduleId instanceId with
  | none => simp
  | some entry =>
    cases verified :
        entry.verify ed25519 key moduleId instanceId (Base16.encode (sha256 moduleBytes)) <;>
      simp [verified]

end Verification

end Runix.Citadel
