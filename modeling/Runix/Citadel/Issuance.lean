import Runix.Capability.Token
import Runix.Citadel.Manifest
import Runix.Lib.Sha256

/-!
# What signed manifests vouch for

One key signs capability tokens, module entries and instance entries.  The three
texts differ in their version field, so none stands for another.  A module entry
ends in fields without separators, which pins the module id down; an instance
entry has two free-form names side by side, and the signature vouches only for
their joined text.
-/

namespace Runix.Citadel

open Lib Lib.ByteStrings Signatures.Scheme Capability InstanceManifestEntry InstanceAllowlist

/-- The arguments of a `ModuleManifestEntry::issue` call. -/
structure ModuleIssueCall where
  moduleId : String
  sha256Hex : String
  tier : SandboxTier
  keyId : String
deriving DecidableEq, Repr

/-- The arguments of an `InstanceManifestEntry::issue` call. -/
structure InstanceIssueCall where
  moduleId : String
  instanceId : String
  sha256Hex : String
  tier : SandboxTier
  keyId : String
deriving DecidableEq, Repr

def ModuleIssueCall.unsigned (call : ModuleIssueCall) : ModuleManifestEntry where
  moduleId := call.moduleId
  sha256Hex := call.sha256Hex
  tier := call.tier
  keyId := call.keyId
  signature := ""

def InstanceIssueCall.unsigned (call : InstanceIssueCall) : InstanceManifestEntry where
  moduleId := call.moduleId
  instanceId := call.instanceId
  sha256Hex := call.sha256Hex
  tier := call.tier
  keyId := call.keyId
  signature := ""

def ModuleIssueCall.message (call : ModuleIssueCall) : Bytes :=
  utf8 call.unsigned.canonicalString

def InstanceIssueCall.message (call : InstanceIssueCall) : Bytes :=
  utf8 call.unsigned.canonicalString

section Entries

variable {SigningKey VerifyingKey : Type}
variable (ed25519 : Signatures.Scheme SigningKey VerifyingKey) (key : SigningKey)

def ModuleIssueCall.entry (call : ModuleIssueCall) : ModuleManifestEntry :=
  ModuleManifestEntry.issue ed25519 call.moduleId call.sha256Hex call.tier call.keyId key

def InstanceIssueCall.entry (call : InstanceIssueCall) : InstanceManifestEntry :=
  issue ed25519 call.moduleId call.instanceId call.sha256Hex call.tier
    call.keyId key

end Entries

structure SigningHistory where
  tokens : List Capability.IssueCall
  modules : List ModuleIssueCall
  instances : List InstanceIssueCall

def SigningHistory.messages (history : SigningHistory) : List Bytes :=
  history.tokens.map Capability.IssueCall.message ++
    history.modules.map ModuleIssueCall.message ++
    history.instances.map InstanceIssueCall.message

theorem SigningHistory.mem_messages_iff (history : SigningHistory) (message : Bytes) :
    message ∈ history.messages ↔
      (∃ call ∈ history.tokens, call.message = message) ∨
        (∃ call ∈ history.modules, call.message = message) ∨
        ∃ call ∈ history.instances, call.message = message := by
  simp [messages]

/-! ## The three texts -/

theorem clear_tier (tier : SandboxTier) : PipeText.Clear tier.asStr := by
  cases tier <;> decide

theorem tier_as_str_injective : Function.Injective SandboxTier.asStr := by
  intro first second same
  cases first <;> cases second <;> first | rfl | (revert same; decide)

/-- A version, the signed names as one text, and a tier. -/
def versionedText (version names : String) (tier : SandboxTier) : String :=
  version ++ "|" ++ names ++ "|" ++ tier.asStr

theorem versioned_text_eq_iff (version names names' : String) (tier tier' : SandboxTier) :
    versionedText version names tier = versionedText version names' tier' ↔
      names = names' ∧ tier = tier' := by
  constructor
  · intro same
    obtain ⟨beforeTier, tiers⟩ := PipeText.cut_last (clear_tier _) (clear_tier _) same
    exact ⟨PipeText.join_cancel version beforeTier, tier_as_str_injective tiers⟩
  · rintro ⟨rfl, rfl⟩
    rfl

variable (entry : InstanceManifestEntry)

theorem instance_text :
    entry.canonicalString =
      versionedText instanceCanonicalVersion
        (entry.moduleId ++ "|" ++ entry.instanceId ++ "|" ++ entry.sha256Hex) entry.tier := by
  simp only [canonicalString, versionedText, String.append_assoc]

theorem ne_of_second {first second : String} {c d : Char} (inFirst : first.toList[1]? = some c)
    (inSecond : second.toList[1]? = some d) (different : c ≠ d) : first ≠ second := by
  rintro rfl
  exact different (Option.some.inj (inFirst.symm.trans inSecond))

theorem token_text_second (token : Capability.CapabilityToken) :
    token.canonicalString.toList[1]? = some '1' := by
  simp [Capability.CapabilityToken.canonicalString, Capability.canonicalVersion]

theorem module_text_second (entry : ModuleManifestEntry) :
    entry.canonicalString.toList[1]? = some '2' := by
  simp [ModuleManifestEntry.canonicalString, canonicalVersion]

theorem instance_text_second :
    entry.canonicalString.toList[1]? = some 'i' := by
  simp [canonicalString, instanceCanonicalVersion]

section Signed

variable {SigningKey VerifyingKey : Type}
variable {ed25519 : Signatures.Scheme SigningKey VerifyingKey} {key : SigningKey}
variable {history : SigningHistory} {sha256 : Bytes → Bytes}

theorem instance_text_issued (unforgeable : ed25519.Unforgeable key history.messages)
    {entry : InstanceManifestEntry}
    (verified : verifyText ed25519 (ed25519.verifyingKey key) entry.canonicalString
      entry.signature = .ok ()) :
    ∃ call ∈ history.instances,
      entry.moduleId ++ "|" ++ entry.instanceId ++ "|" ++ entry.sha256Hex =
          call.moduleId ++ "|" ++ call.instanceId ++ "|" ++ call.sha256Hex ∧
        entry.tier = call.tier := by
  obtain ⟨bytes, -, signed⟩ := (verify_text_ok_iff _ _ _).mp verified
  rcases (history.mem_messages_iff _).mp (unforgeable _ bytes signed) with
    ⟨call, -, same⟩ | ⟨call, -, same⟩ | ⟨call, listed, same⟩
  · exact absurd (utf8_injective same)
      (ne_of_second (token_text_second _) (instance_text_second _) (by decide))
  · exact absurd (utf8_injective same)
      (ne_of_second (module_text_second _) (instance_text_second _) (by decide))
  refine ⟨call, listed, ?_⟩
  have texts := (utf8_injective same).symm
  rw [instance_text, instance_text, versioned_text_eq_iff] at texts
  exact texts

/-! ## Instances -/

def InstanceIssueCall.Grants (call : InstanceIssueCall) (moduleId instanceId sha256Hex : String)
    (tier : SandboxTier) : Prop :=
  call.moduleId = moduleId ∧ call.instanceId = instanceId ∧ call.sha256Hex = sha256Hex ∧
    call.tier = tier

instance (call : InstanceIssueCall) (moduleId instanceId sha256Hex : String)
    (tier : SandboxTier) : Decidable (call.Grants moduleId instanceId sha256Hex tier) :=
  inferInstanceAs (Decidable (_ ∧ _ ∧ _ ∧ _))

/-- Every way of cutting an issued `module|instance|hash` into two names and the
digest of some bytes was issued, at the same tier. -/
def InstanceCutClosed (sha256 : Bytes → Bytes) (issued : List InstanceIssueCall) : Prop :=
  ∀ call ∈ issued, ∀ (moduleId instanceId : String) (moduleBytes : Bytes),
    moduleId ++ "|" ++ instanceId ++ "|" ++ Base16.encode (sha256 moduleBytes) =
        call.moduleId ++ "|" ++ call.instanceId ++ "|" ++ call.sha256Hex →
      ∃ other ∈ issued,
        other.Grants moduleId instanceId (Base16.encode (sha256 moduleBytes)) call.tier

theorem instance_cut_closed_of_clear {issued : List InstanceIssueCall}
    (clear : ∀ call ∈ issued, PipeText.Clear call.moduleId ∧ PipeText.Clear call.instanceId ∧
      PipeText.Clear call.sha256Hex) : InstanceCutClosed sha256 issued := by
  intro call listed moduleId instanceId moduleBytes same
  obtain ⟨clearModule, clearInstance, clearHash⟩ := clear call listed
  obtain ⟨names, hash⟩ := PipeText.cut_last (PipeText.clear_encode _) clearHash same
  obtain ⟨rfl, rfl⟩ := PipeText.cut_unique clearModule clearInstance names
  exact ⟨call, listed, rfl, rfl, hash.symm, rfl⟩

theorem single_entry_authorized (entry : InstanceManifestEntry) {verifyingKey : VerifyingKey}
    {moduleBytes : Bytes} (hash : entry.sha256Hex = Base16.encode (sha256 moduleBytes))
    (verified : verifyText ed25519 verifyingKey entry.canonicalString entry.signature = .ok ()) :
    (authorizeInstanceLoad ed25519 sha256 (new.insert entry)
      verifyingKey entry.moduleId entry.instanceId moduleBytes).1 = .ok entry.tier := by
  refine (evaluate_instance_load_ok_iff _ _ _ _ _ _ _).mpr ⟨entry, ?_, rfl,
    (verify_ok_iff _ _ _ _ _).mpr ⟨rfl, rfl, hash, verified⟩⟩
  simp [InstanceAllowlist.find, InstanceAllowlist.insert, InstanceAllowlist.new]

theorem recut_instance_authorized
    (correct : ed25519.Correct signatureBytes key history.messages)
    {call : InstanceIssueCall} (listed : call ∈ history.instances)
    {moduleId instanceId sha256Hex : String} {moduleBytes : Bytes}
    (hash : sha256Hex = Base16.encode (sha256 moduleBytes))
    (same : moduleId ++ "|" ++ instanceId ++ "|" ++ sha256Hex =
      call.moduleId ++ "|" ++ call.instanceId ++ "|" ++ call.sha256Hex) :
    (authorizeInstanceLoad ed25519 sha256
      (new.insert
        { call.entry ed25519 key with
          moduleId := moduleId
          instanceId := instanceId
          sha256Hex := sha256Hex })
      (ed25519.verifyingKey key) moduleId instanceId moduleBytes).1 = .ok call.tier := by
  have signed : call.message ∈ history.messages :=
    (history.mem_messages_iff _).mpr (.inr (.inr ⟨call, listed, rfl⟩))
  have text : canonicalString
      { call.entry ed25519 key with
        moduleId := moduleId
        instanceId := instanceId
        sha256Hex := sha256Hex } = call.unsigned.canonicalString := by
    rw [instance_text, instance_text, versioned_text_eq_iff]
    exact ⟨same, rfl⟩
  refine single_entry_authorized (mk moduleId instanceId _ _ _ _) hash ?_
  rw [text]
  exact (verify_text_ok_iff _ _ _).mpr ⟨ed25519.sign key call.message,
    decode_signature_encode (correct.length _ signed), correct.verifies _ signed⟩

/-- Every authorized instance load was issued for exactly that module, instance,
digest and tier, exactly when every cut of every issued instance text was issued. -/
theorem instance_load_issued_iff (correct : ed25519.Correct signatureBytes key history.messages)
    (unforgeable : ed25519.Unforgeable key history.messages) :
    (∀ (allowlist : InstanceAllowlist) (moduleId instanceId : String) (moduleBytes : Bytes)
        (tier : SandboxTier),
      (allowlist.authorizeInstanceLoad ed25519 sha256 (ed25519.verifyingKey key) moduleId
        instanceId moduleBytes).1 = .ok tier →
      ∃ call ∈ history.instances,
        call.Grants moduleId instanceId (Base16.encode (sha256 moduleBytes)) tier) ↔
      InstanceCutClosed sha256 history.instances := by
  constructor
  · intro vouched call listed moduleId instanceId moduleBytes same
    exact vouched _ moduleId instanceId moduleBytes call.tier
      (recut_instance_authorized correct listed rfl same)
  · intro closed allowlist moduleId instanceId moduleBytes tier authorized
    obtain ⟨entry, -, rfl, verified⟩ :=
      (evaluate_instance_load_ok_iff _ _ _ _ _ _ _).mp authorized
    obtain ⟨rfl, rfl, hash, signed⟩ :=
      (verify_ok_iff _ _ _ _ _).mp verified
    obtain ⟨call, listed, names, tiers⟩ := instance_text_issued unforgeable signed
    rw [hash] at names
    rw [tiers]
    exact closed call listed entry.moduleId entry.instanceId moduleBytes names

end Signed

theorem grid_digest : Base16.encode (Sha256.sha256 (utf8 "grid")) =
    "0f2a693e93e2ed7008feb5b7714bbab236e3907e64188199e3be1ae367f49c40" := by
  decide +kernel

def hostCall (instanceId : String) : InstanceIssueCall where
  moduleId := "host"
  instanceId := instanceId
  sha256Hex := "0f2a693e93e2ed7008feb5b7714bbab236e3907e64188199e3be1ae367f49c40"
  tier := .t2Trusted
  keyId := "demo-key"

def hostHistory (instanceId : String) : SigningHistory := ⟨[], [], [hostCall instanceId]⟩

def hostScheme (instanceId signature : String) : Signatures.Scheme Bytes Bytes :=
  .tabulated demoSecret demoShared
    [((hostCall instanceId).message, Base16.bytesOf signature)]

def appScheme : Signatures.Scheme Bytes Bytes :=
  hostScheme "app" "fbb92e9e19cc402359f2d8ca08372cc35672a3f604eb7b09955b59a52aa9134db3fd8cf1f2fa477b2c48ecdb1877c51bc13a856a0381b6d059b33c87b9ea690e"

theorem app_correct :
    appScheme.Correct signatureBytes demoSecret
      (hostHistory "app").messages :=
  tabulated_correct (by decide +kernel)

theorem app_unforgeable : appScheme.Unforgeable demoSecret (hostHistory "app").messages :=
  tabulated_unforgeable

/-- With one plainly named instance issued, its load is authorized as issued. -/
theorem app_load_issued :
    ∃ call ∈ (hostHistory "app").instances,
      call.Grants "host" "app" (Base16.encode (Sha256.sha256 (utf8 "grid"))) .t2Trusted :=
  (instance_load_issued_iff app_correct app_unforgeable).mpr
    (instance_cut_closed_of_clear (by decide)) _ "host" "app" (utf8 "grid") .t2Trusted
    (recut_instance_authorized app_correct List.mem_cons_self grid_digest.symm rfl)

def pipedInstanceScheme : Signatures.Scheme Bytes Bytes :=
  hostScheme "app|1" "b4cd3db9d445fb06b47722698213ff1b7b537cda16cd80ff268e369e5505fa9a2be9967126166879127c28258a32c3775810d150036b1a211c7b764ba5bcfd06"

theorem piped_instance_correct :
    pipedInstanceScheme.Correct signatureBytes demoSecret
      (hostHistory "app|1").messages :=
  tabulated_correct (by decide +kernel)

/-- The entry issued for instance `app|1` of `host` authorizes instance `1` of a
module `host|app`, for which nothing was issued. -/
theorem piped_instance_authorizes_other_pair :
    pipedInstanceScheme.Correct signatureBytes demoSecret
        (hostHistory "app|1").messages ∧
      pipedInstanceScheme.Unforgeable demoSecret (hostHistory "app|1").messages ∧
      ((new.insert
          { (hostCall "app|1").entry pipedInstanceScheme demoSecret with
            moduleId := "host|app"
            instanceId := "1" }).authorizeInstanceLoad pipedInstanceScheme Sha256.sha256
        (pipedInstanceScheme.verifyingKey demoSecret) "host|app" "1"
        (utf8 "grid")).1 = .ok .t2Trusted ∧
      ¬ ∃ call ∈ (hostHistory "app|1").instances,
        call.Grants "host|app" "1" (Base16.encode (Sha256.sha256 (utf8 "grid"))) .t2Trusted := by
  refine ⟨piped_instance_correct, tabulated_unforgeable, ?moved, by decide⟩
  case moved =>
    exact recut_instance_authorized piped_instance_correct List.mem_cons_self grid_digest.symm
      (by decide)

end Runix.Citadel
