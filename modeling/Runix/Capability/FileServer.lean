import Mathlib
import Runix.Capability.Revocation
import Runix.Lib.Words

/-!
# The file server's token check

Every file request carries a token.  `verify_file_token_with` of
`blk-driver-host/src/lib.rs` verifies it and then asks the kernel for its
signature's fingerprint with `SYS_CAP_IS_REVOKED`, whose arm of `dispatch`
(`kernel/src/syscall.rs`) answers from the revocation list.
-/

namespace Runix.Capability

open Lib

/-- What the kernel reads of the calling thread: its own token and the extra ones. -/
structure Holdings where
  capability : Option CapabilityToken
  extraCapabilities : List CapabilityToken
deriving DecidableEq, Repr

def revocationQueryResource : String := "revocation:query"

def fileResource (name : String) : String := "file:" ++ name

section Ed25519

variable {SigningKey VerifyingKey : Type}
variable (ed25519 : Signatures.Scheme SigningKey VerifyingKey)

variable (revocations : RevocationList) (demoKey : VerifyingKey)

/-- `authorized_for_resource`; the kernel checks against its own demo key. -/
def authorizedForResource (ticks : Nat) (caller : Holdings) (resource : String) : Bool :=
  let tokenAuthorizes := fun token : CapabilityToken =>
    !revocations.isRevoked token && (token.verify ed25519 demoKey resource ticks).isOk
  caller.capability.any tokenAuthorizes || caller.extraCapabilities.any tokenAuthorizes

/-- The `SYS_CAP_IS_REVOKED` arm of `dispatch`. -/
def capIsRevoked (ticks : Nat) (caller : Holdings) (fingerprint : Nat) : Nat :=
  if !authorizedForResource ed25519 revocations demoKey ticks caller revocationQueryResource then
    Words.u64Max
  else
    (revocations.isFingerprintRevoked fingerprint).toNat

def verifyFileTokenWith (token : CapabilityToken) (verifyingKey : VerifyingKey)
    (expectedResource : String) (now : Nat) (revocationQuery : Nat → Nat) : Bool :=
  match token.verify ed25519 verifyingKey expectedResource now with
  | .error _ => false
  | .ok () =>
    match signatureFingerprint token.signature with
    | some fingerprint => revocationQuery fingerprint == 0
    | none => false

/-- `verify_file_token` of `blk-driver-host/src/main.rs`: the time is a syscall too,
taken before the query. -/
def verifyFileToken (ticks queryTicks : Nat)
    (caller : Holdings) (token : CapabilityToken) (name : String) : Bool :=
  verifyFileTokenWith ed25519 token demoKey (fileResource name) ticks
    (capIsRevoked ed25519 revocations demoKey queryTicks caller)

end Ed25519

section Checks

variable {SigningKey VerifyingKey : Type}
variable {ed25519 : Signatures.Scheme SigningKey VerifyingKey}

theorem verify_file_token_with_iff (token : CapabilityToken) (key : VerifyingKey)
    (resource : String) (now : Nat) (query : Nat → Nat) :
    verifyFileTokenWith ed25519 token key resource now query = true ↔
      token.verify ed25519 key resource now = .ok () ∧
        ∃ fingerprint, signatureFingerprint token.signature = some fingerprint ∧
          query fingerprint = 0 := by
  unfold verifyFileTokenWith
  cases token.verify ed25519 key resource now with
  | error kind => simp
  | ok _ => cases signatureFingerprint token.signature <;> simp

/-- The kernel answers zero only to a caller it authorizes, and only for a
fingerprint that is not revoked. -/
theorem cap_is_revoked_eq_zero_iff (revocations : RevocationList) (demoKey : VerifyingKey)
    (ticks : Nat) (caller : Holdings) (fingerprint : Nat) :
    capIsRevoked ed25519 revocations demoKey ticks caller fingerprint = 0 ↔
      authorizedForResource ed25519 revocations demoKey ticks caller revocationQueryResource =
          true ∧
        revocations.isFingerprintRevoked fingerprint = false := by
  unfold capIsRevoked
  cases authorizedForResource ed25519 revocations demoKey ticks caller revocationQueryResource with
  | false => simp [Words.u64Max]
  | true => simp

theorem file_token_refused_of_reply {token : CapabilityToken} {fingerprint : Nat}
    {query : Nat → Nat} (own : signatureFingerprint token.signature = some fingerprint)
    (reply : query fingerprint ≠ 0) (key : VerifyingKey) (resource : String) (now : Nat) :
    verifyFileTokenWith ed25519 token key resource now query = false := by
  rw [Bool.eq_false_iff, Ne, verify_file_token_with_iff]
  rintro ⟨-, asked, read, zero⟩
  rw [own, Option.some.injEq] at read
  exact reply (read ▸ zero)

/-- A token that carries the signature bytes of a revoked one is refused, whether
or not the kernel answers the query. -/
theorem revoked_bytes_refused {tokens : List CapabilityToken} {token revoked : CapabilityToken}
    {bytes : ByteStrings.Bytes} (listed : revoked ∈ tokens)
    (decoded : decodeSignature revoked.signature = some bytes)
    (respelled : decodeSignature token.signature = some bytes) (key demoKey : VerifyingKey)
    (resource : String) (now ticks : Nat) (caller : Holdings) :
    verifyFileTokenWith ed25519 token key resource now
      (capIsRevoked ed25519 (RevocationList.new.revokeAll tokens) demoKey ticks caller) =
        false := by
  obtain ⟨fingerprint, own, indexed⟩ :=
    fingerprint_revoked_in_every_spelling listed decoded respelled
  apply file_token_refused_of_reply own
  rw [Ne, cap_is_revoked_eq_zero_iff, indexed]
  rintro ⟨-, clear⟩
  exact Bool.noConfusion clear

/-- After any revocations, the file server accepts a token only when it verifies
for the resource, is unexpired and the query answers zero for its fingerprint.  The
kernel's own answer then refuses every spelling of a revoked signature, and no
reply besides zero accepts anything. -/
theorem file_server_honours_revocations (tokens : List CapabilityToken) (token : CapabilityToken)
    (key demoKey : VerifyingKey) (resource : String) (now ticks : Nat) (caller : Holdings) :
    (∀ query : Nat → Nat, verifyFileTokenWith ed25519 token key resource now query = true →
      token.verify ed25519 key resource now = .ok () ∧ token.resource = resource ∧
        now ≤ token.expiresAt ∧
          ∃ fingerprint, signatureFingerprint token.signature = some fingerprint ∧
            query fingerprint = 0) ∧
    (∀ (revoked : CapabilityToken) (bytes : ByteStrings.Bytes), revoked ∈ tokens →
      decodeSignature revoked.signature = some bytes →
      decodeSignature token.signature = some bytes →
      verifyFileTokenWith ed25519 token key resource now
        (capIsRevoked ed25519 (RevocationList.new.revokeAll tokens) demoKey ticks caller) =
          false) ∧
    (authorizedForResource ed25519 (RevocationList.new.revokeAll tokens) demoKey ticks caller
        revocationQueryResource = false →
      verifyFileTokenWith ed25519 token key resource now
        (capIsRevoked ed25519 (RevocationList.new.revokeAll tokens) demoKey ticks caller) =
          false) ∧
    ∀ (query : Nat → Nat) (fingerprint : Nat),
      signatureFingerprint token.signature = some fingerprint → query fingerprint ≠ 0 →
      verifyFileTokenWith ed25519 token key resource now query = false := by
  refine ⟨?accepted, ?revoked, ?denied, ?unexpected⟩
  case accepted =>
    intro query accepted
    obtain ⟨verified, zero⟩ := (verify_file_token_with_iff ..).mp accepted
    obtain ⟨unexpired, exact_resource, -⟩ := (verify_ok_iff ..).mp verified
    exact ⟨verified, exact_resource, unexpired, zero⟩
  case revoked =>
    intro revoked bytes listed decoded respelled
    exact revoked_bytes_refused listed decoded respelled key demoKey resource now ticks caller
  case denied =>
    intro denied
    rw [Bool.eq_false_iff, Ne, verify_file_token_with_iff]
    rintro ⟨-, fingerprint, -, zero⟩
    obtain ⟨authorized, -⟩ := (cap_is_revoked_eq_zero_iff ..).mp zero
    exact Bool.noConfusion (denied.symm.trans authorized)
  case unexpected =>
    intro query fingerprint own reply
    exact file_token_refused_of_reply own reply key resource now

end Checks

def CapabilityToken.inCapitals (token : CapabilityToken) : CapabilityToken :=
  { token with signature := token.signature.map Char.toUpper }

theorem same_letters_in_capitals (token : CapabilityToken) :
    SameLetters token.inCapitals.signature token.signature := by
  simp [SameLetters, CapabilityToken.inCapitals, String.toList_map]

/-- What `blk_driver_extra_capabilities` issues to the file server. -/
def queryCall : IssueCall where
  subject := "blk-driver-host"
  resource := revocationQueryResource
  issuedAt := 0
  expiresAt := 1000000
  keyId := "demo-key"

def serverScheme : Signatures.Scheme ByteStrings.Bytes ByteStrings.Bytes :=
  .tabulated demoSecret demoShared
    [(notesCall.message,
      Base16.bytesOf "385d11d76ba7239d00f02f3d2698e17389d2b8cf3c66f39deac26d5de280a627bffa32c9b0e56f2a26a0a82edbf9fdf1d99deed1731c4e37d09054574e0ba90d"),
     (queryCall.message,
      Base16.bytesOf "4c349198746df1834e04f69d0bca5004278ff17a3d8d1eecb6997a085dba7427e57427893edf72dea6cfc212bad96ee16b22b722e24e829de2fa12584dc84f01")]

theorem server_correct :
    serverScheme.Correct signatureBytes demoSecret
      ([notesCall, queryCall].map IssueCall.message) :=
  Signatures.Scheme.tabulated_correct (by decide +kernel)

/-- A token revoked in small letters and presented in capitals is refused by a file
server that holds the token for the query. -/
theorem capitals_refused_by_file_server :
    verifyFileToken serverScheme
      (RevocationList.new.revokeAll [notesCall.token serverScheme demoSecret])
      (serverScheme.verifyingKey demoSecret) 50 50
      ⟨none, [queryCall.token serverScheme demoSecret]⟩
      (notesCall.token serverScheme demoSecret).inCapitals "notes" = false := by
  have decoded : decodeSignature (notesCall.token serverScheme demoSecret).signature =
      some (serverScheme.sign demoSecret notesCall.message) :=
    decode_signature_encode (server_correct.length notesCall.message List.mem_cons_self)
  exact (file_server_honours_revocations [notesCall.token serverScheme demoSecret]
    (notesCall.token serverScheme demoSecret).inCapitals
    (serverScheme.verifyingKey demoSecret) (serverScheme.verifyingKey demoSecret)
    (fileResource "notes") 50 50 _).2.1 _ _ (List.mem_singleton.mpr rfl) decoded
    ((decode_signature_same_iff decoded).mpr (same_letters_in_capitals _))

end Runix.Capability
