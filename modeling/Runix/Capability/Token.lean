import Runix.Lib.PipeText
import Runix.Lib.Signatures

/-!
# Capability tokens

`CapabilityToken` of `capability-manager/src/lib.rs`: a token is signed over the
text `v1|subject|resource|issued_at|expires_at`.  The Ed25519 implementation is
outside this repository, so it is a `Signatures.Scheme`.
-/

namespace Runix.Capability

open Lib Lib.ByteStrings PipeText

def canonicalVersion : String := "v1"

/-- The size of an Ed25519 signature. -/
def signatureBytes : Nat := 64

inductive CapabilityError where
  | expired
  | wrongResource
  | invalidSignature
deriving DecidableEq, Repr

def CapabilityError.display : CapabilityError → String
  | .expired => "capability token expired"
  | .wrongResource => "capability token is not authorized for this resource"
  | .invalidSignature => "capability token signature invalid"

structure CapabilityToken where
  subject : String
  resource : String
  issuedAt : Nat
  expiresAt : Nat
  keyId : String
  signature : String
deriving DecidableEq, Repr

/-- `hex::decode(..).ok()` followed by `try_into` a 64-byte array. -/
def decodeSignature (text : String) : Option Bytes :=
  (Base16.decode text).filter fun bytes => bytes.length = signatureBytes

namespace CapabilityToken

def canonicalString (token : CapabilityToken) : String :=
  canonicalVersion ++ "|" ++ token.subject ++ "|" ++ token.resource ++ "|" ++
    toString token.issuedAt ++ "|" ++ toString token.expiresAt

section Ed25519

variable {SigningKey VerifyingKey : Type}
variable (ed25519 : Signatures.Scheme SigningKey VerifyingKey)

def issue (subject resource : String) (issuedAt expiresAt : Nat) (keyId : String)
    (signingKey : SigningKey) : CapabilityToken :=
  let token : CapabilityToken :=
    { subject := subject, resource := resource, issuedAt := issuedAt, expiresAt := expiresAt,
      keyId := keyId, signature := "" }
  { token with
    signature := Base16.encode (ed25519.sign signingKey (utf8 token.canonicalString)) }

def verify (token : CapabilityToken) (verifyingKey : VerifyingKey) (resource : String)
    (now : Nat) : Except CapabilityError Unit :=
  if now > token.expiresAt then .error .expired
  else if token.resource ≠ resource then .error .wrongResource
  else
    match decodeSignature token.signature with
    | none => .error .invalidSignature
    | some bytes =>
      if ed25519.verify verifyingKey (utf8 token.canonicalString) bytes then .ok ()
      else .error .invalidSignature

end Ed25519

end CapabilityToken

structure IssueCall where
  subject : String
  resource : String
  issuedAt : Nat
  expiresAt : Nat
  keyId : String
deriving DecidableEq, Repr

namespace IssueCall

def unsigned (call : IssueCall) : CapabilityToken where
  subject := call.subject
  resource := call.resource
  issuedAt := call.issuedAt
  expiresAt := call.expiresAt
  keyId := call.keyId
  signature := ""

def message (call : IssueCall) : Bytes := utf8 call.unsigned.canonicalString

def Grants (call : IssueCall) (subject resource : String) (issuedAt expiresAt : Nat) : Prop :=
  call.subject = subject ∧ call.resource = resource ∧ call.issuedAt = issuedAt ∧
    call.expiresAt = expiresAt

instance (call : IssueCall) (subject resource : String) (issuedAt expiresAt : Nat) :
    Decidable (call.Grants subject resource issuedAt expiresAt) :=
  inferInstanceAs (Decidable (_ ∧ _ ∧ _ ∧ _))

section Ed25519

variable {SigningKey VerifyingKey : Type}
variable (ed25519 : Signatures.Scheme SigningKey VerifyingKey)

def token (call : IssueCall) (signingKey : SigningKey) : CapabilityToken :=
  CapabilityToken.issue ed25519 call.subject call.resource call.issuedAt call.expiresAt call.keyId
    signingKey

end Ed25519

end IssueCall

/-! ## What a signed text says -/

/-- Two tokens sign the same text exactly when their times agree and their
subjects and resources agree as one joined text. -/
theorem canonical_string_eq_iff (first second : CapabilityToken) :
    first.canonicalString = second.canonicalString ↔
      first.subject ++ "|" ++ first.resource = second.subject ++ "|" ++ second.resource ∧
        first.issuedAt = second.issuedAt ∧ first.expiresAt = second.expiresAt := by
  unfold CapabilityToken.canonicalString
  constructor
  · intro same
    obtain ⟨beforeExpiry, expiry⟩ := cut_last (clear_decimal _)
      (clear_decimal _) same
    obtain ⟨beforeIssue, issue⟩ := cut_last (clear_decimal _)
      (clear_decimal _) beforeExpiry
    refine ⟨?_, decimal_injective issue, decimal_injective expiry⟩
    apply join_cancel canonicalVersion
    simpa only [String.append_assoc] using beforeIssue
  · rintro ⟨names, issue, expiry⟩
    have joined := congrArg (fun text => canonicalVersion ++ "|" ++ text) names
    simp only [← String.append_assoc] at joined
    rw [joined, issue, expiry]

theorem decode_signature_encode {bytes : Bytes} (size : bytes.length = signatureBytes) :
    decodeSignature (Base16.encode bytes) = some bytes := by
  simp [decodeSignature, Base16.decode_encode, size]

section Verification

variable {SigningKey VerifyingKey : Type}
variable {ed25519 : Signatures.Scheme SigningKey VerifyingKey}

theorem verify_ok_iff (token : CapabilityToken) (key : VerifyingKey) (resource : String)
    (now : Nat) :
    token.verify ed25519 key resource now = .ok () ↔
      now ≤ token.expiresAt ∧ token.resource = resource ∧
        ∃ bytes, decodeSignature token.signature = some bytes ∧
          ed25519.verify key (utf8 token.canonicalString) bytes = true := by
  unfold CapabilityToken.verify
  split_ifs with expired wrong
  · simp [Nat.not_le.mpr expired]
  · simp [wrong]
  rw [not_not] at wrong
  cases decoded : decodeSignature token.signature with
  | none => simp
  | some bytes =>
    by_cases verified : ed25519.verify key (utf8 token.canonicalString) bytes = true
    · simp [verified, wrong, Nat.not_lt.mp expired]
    · simp [verified]

end Verification

/-! ## Which fields a verified token vouches for

A signature vouches for the joined text of subject and resource, not for the
place where one ends and the other begins.  A verified token carries the fields
of an `issue` call exactly when every other cut of every issued text was issued
as well. -/

open Signatures.Scheme IssueCall

/-- Every way of cutting an issued `subject|resource` in two was issued, with the
same times. -/
def CutClosed (issued : List IssueCall) : Prop :=
  ∀ call ∈ issued, ∀ subject resource : String,
    subject ++ "|" ++ resource = call.subject ++ "|" ++ call.resource →
      ∃ other ∈ issued, other.Grants subject resource call.issuedAt call.expiresAt

theorem cut_closed_of_clear {issued : List IssueCall}
    (clear : ∀ call ∈ issued, PipeText.Clear call.subject ∧ PipeText.Clear call.resource) :
    CutClosed issued := by
  intro call listed subject resource same
  obtain ⟨clearSubject, clearResource⟩ := clear call listed
  obtain ⟨rfl, rfl⟩ := PipeText.cut_unique clearSubject clearResource same
  exact ⟨call, listed, rfl, rfl, rfl, rfl⟩

section Regrouping

variable {SigningKey VerifyingKey : Type}
variable {ed25519 : Signatures.Scheme SigningKey VerifyingKey} {key : SigningKey}
variable {issued : List IssueCall}

theorem verify_ok_issued (unforgeable : ed25519.Unforgeable key (issued.map message))
    {token : CapabilityToken} {resource : String} {now : Nat}
    (verified : token.verify ed25519 (ed25519.verifyingKey key) resource now = .ok ()) :
    token.resource = resource ∧ ∃ call ∈ issued,
      token.subject ++ "|" ++ token.resource = call.subject ++ "|" ++ call.resource ∧
        token.issuedAt = call.issuedAt ∧ token.expiresAt = call.expiresAt := by
  obtain ⟨-, same, bytes, -, signed⟩ := (verify_ok_iff token _ resource now).mp verified
  obtain ⟨call, listed, message⟩ := List.mem_map.mp (unforgeable _ bytes signed)
  exact ⟨same, call, listed, (canonical_string_eq_iff token call.unsigned).mp
    (utf8_injective message).symm⟩

theorem recut_verify_ok (correct : ed25519.Correct signatureBytes key (issued.map message))
    {call : IssueCall} (listed : call ∈ issued) {subject resource : String}
    (same : subject ++ "|" ++ resource = call.subject ++ "|" ++ call.resource) {now : Nat}
    (unexpired : now ≤ call.expiresAt) :
    CapabilityToken.verify ed25519
      { call.token ed25519 key with subject := subject, resource := resource }
      (ed25519.verifyingKey key) resource now = .ok () := by
  have signed : call.message ∈ issued.map message := List.mem_map_of_mem listed
  have text : CapabilityToken.canonicalString
      { call.token ed25519 key with subject := subject, resource := resource } =
        call.unsigned.canonicalString :=
    (canonical_string_eq_iff _ _).mpr ⟨same, rfl, rfl⟩
  refine (verify_ok_iff _ _ _ _).mpr ⟨unexpired, rfl, ed25519.sign key call.message,
    decode_signature_encode (correct.length _ signed), ?_⟩
  rw [text]
  exact correct.verifies _ signed

/-- Every verified token carries the fields of an `issue` call exactly when every
cut of every issued text was issued. -/
theorem verified_token_issued_iff
    (correct : ed25519.Correct signatureBytes key (issued.map message))
    (unforgeable : ed25519.Unforgeable key (issued.map message)) :
    (∀ (token : CapabilityToken) (resource : String) (now : Nat),
      token.verify ed25519 (ed25519.verifyingKey key) resource now = .ok () →
        ∃ call ∈ issued, call.Grants token.subject resource token.issuedAt token.expiresAt) ↔
      CutClosed issued := by
  constructor
  · intro vouched call listed subject resource same
    exact vouched _ resource call.expiresAt (recut_verify_ok correct listed same (Nat.le_refl _))
  · intro closed token resource now verified
    obtain ⟨rfl, call, listed, names, issue, expiry⟩ := verify_ok_issued unforgeable verified
    rw [issue, expiry]
    exact closed call listed token.subject token.resource names

end Regrouping

/-! ## Ed25519 under one key -/

def demoSecret : Bytes := List.replicate 32 7

def demoShared : Bytes :=
  Base16.bytesOf "ea4a6c63e29c520abef5507b132ec5f9954776aebebe7b92421eea691446d22c"

def notesCall : IssueCall where
  subject := "app"
  resource := "file:notes"
  issuedAt := 0
  expiresAt := 100
  keyId := "demo-key"

def notesScheme : Signatures.Scheme Bytes Bytes :=
  .tabulated demoSecret demoShared
    [(utf8 "v1|app|file:notes|0|100",
      Base16.bytesOf "385d11d76ba7239d00f02f3d2698e17389d2b8cf3c66f39deac26d5de280a627bffa32c9b0e56f2a26a0a82edbf9fdf1d99deed1731c4e37d09054574e0ba90d")]

theorem notes_correct : notesScheme.Correct signatureBytes demoSecret ([notesCall].map message) :=
  tabulated_correct (by decide +kernel)

theorem notes_unforgeable : notesScheme.Unforgeable demoSecret ([notesCall].map message) :=
  tabulated_unforgeable

/-- With only a token for `file:notes` issued, whatever verifies was issued. -/
theorem notes_token_issued : ∃ call ∈ [notesCall], call.Grants "app" "file:notes" 0 100 :=
  (verified_token_issued_iff notes_correct notes_unforgeable).mpr
    (cut_closed_of_clear (by decide)) (notesCall.token notesScheme demoSecret) "file:notes" 50
    (recut_verify_ok notes_correct List.mem_cons_self rfl (by decide))

def pipedCall : IssueCall := { notesCall with resource := "file:notes|file:secret" }

def pipedScheme : Signatures.Scheme Bytes Bytes :=
  .tabulated demoSecret demoShared
    [(utf8 "v1|app|file:notes|file:secret|0|100",
      Base16.bytesOf "e9a751ef3d83d3e720767e60f67e1abbd4cf332175b1cfa9438234a7fc9190ce121c6e4a10484476bc130848f6205fbb47b3203d04089e829f2f47a596b00304")]

theorem piped_correct : pipedScheme.Correct signatureBytes demoSecret ([pipedCall].map message) :=
  tabulated_correct (by decide +kernel)

/-- Presented with the cut moved, the token opens `file:secret`, for which
nothing was issued. -/
theorem moved_cut_accepted :
    pipedScheme.Correct signatureBytes demoSecret ([pipedCall].map message) ∧
      pipedScheme.Unforgeable demoSecret ([pipedCall].map message) ∧
      CapabilityToken.verify pipedScheme
        { pipedCall.token pipedScheme demoSecret with
          subject := "app|file:notes"
          resource := "file:secret" }
        (pipedScheme.verifyingKey demoSecret) "file:secret" 50 = .ok () ∧
      ¬ ∃ call ∈ [pipedCall], call.Grants "app|file:notes" "file:secret" 0 100 :=
  ⟨piped_correct, tabulated_unforgeable,
    recut_verify_ok piped_correct List.mem_cons_self (by decide) (by decide), by decide⟩

end Runix.Capability
