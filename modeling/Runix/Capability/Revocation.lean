import Mathlib.Data.Finset.Insert
import Runix.Capability.Token

/-!
# Revocation

`RevocationList` of `capability-manager/src/lib.rs` keeps the revoked signatures
as texts, while verification reads a signature text as hexadecimal digits of
either case.  The two agree on a token exactly when every spelling of a revoked
signature has been revoked; the fingerprint index does not have this gap.
-/

namespace Runix.Capability

open Lib Lib.ByteStrings List

/-- The little-endian value of a byte string. -/
def leValue (bytes : Bytes) : Nat := bytes.foldr (fun byte value => byte.toNat + 256 * value) 0

/-- The source takes the first 16 bytes of the text; when they are hexadecimal
digits they are its first 16 characters. -/
def signatureFingerprint (signatureHex : String) : Option Nat :=
  let head := signatureHex.toList.take 16
  if head.length = 16 then (Base16.decodeChars head).map leValue else none

structure RevocationList where
  revokedSignatures : Finset String
  revokedFingerprints : Finset Nat

namespace RevocationList

def new : RevocationList := ⟨∅, ∅⟩

variable (list : RevocationList) (tokens : List CapabilityToken) (token : CapabilityToken)

def revoke : RevocationList where
  revokedSignatures := insert token.signature list.revokedSignatures
  revokedFingerprints :=
    match signatureFingerprint token.signature with
    | some fingerprint => insert fingerprint list.revokedFingerprints
    | none => list.revokedFingerprints

def isRevoked : Bool :=
  token.signature ∈ list.revokedSignatures

def isFingerprintRevoked (fingerprint : Nat) : Bool :=
  fingerprint ∈ list.revokedFingerprints

def revokeAll : RevocationList :=
  tokens.foldl revoke list

theorem revoke_all_signatures (text : String) : text ∈ (list.revokeAll tokens).revokedSignatures ↔
      text ∈ list.revokedSignatures ∨ ∃ token ∈ tokens, token.signature = text := by
  induction tokens generalizing list with
  | nil => simp [revokeAll]
  | cons token rest ih =>
    have later := ih (list.revoke token)
    simp only [revokeAll, foldl_cons] at later ⊢
    rw [later]
    simp only [revoke, Finset.mem_insert, mem_cons, exists_eq_or_imp]
    rw [eq_comm, or_comm (a := token.signature = text), or_assoc]

theorem revoke_all_fingerprints (fingerprint : Nat) :
    fingerprint ∈ (list.revokeAll tokens).revokedFingerprints ↔
      fingerprint ∈ list.revokedFingerprints ∨
        ∃ token ∈ tokens, signatureFingerprint token.signature = some fingerprint := by
  induction tokens generalizing list with
  | nil => simp [revokeAll]
  | cons token rest ih =>
    have later := ih (list.revoke token)
    simp only [revokeAll, foldl_cons] at later ⊢
    rw [later]
    simp only [mem_cons, exists_eq_or_imp]
    cases own : signatureFingerprint token.signature with
    | none => simp [revoke, own]
    | some value =>
      simp only [revoke, own, Finset.mem_insert, Option.some.injEq]
      rw [eq_comm, or_comm (a := value = fingerprint), or_assoc]

theorem is_revoked_after : (new.revokeAll tokens).isRevoked token = true ↔
      ∃ revoked ∈ tokens, revoked.signature = token.signature := by
  rw [isRevoked, decide_eq_true_iff, revoke_all_signatures]
  simp [new]

end RevocationList

/-! ## Spellings -/

def SameLetters (first second : String) : Prop :=
  first.toList.map Char.toLower = second.toList.map Char.toLower

theorem decode_signature_eq_some_iff (text : String) (bytes : Bytes) :
    decodeSignature text = some bytes ↔
      text.toList.map Char.toLower = Base16.encodeChars bytes ∧
        bytes.length = signatureBytes := by
  rw [decodeSignature, Option.filter_eq_some_iff, Base16.decode,
    Base16.decode_chars_eq_some_iff, decide_eq_true_iff]

variable {bytes : Bytes}

theorem decode_signature_same_iff {first second : String}
    (decoded : decodeSignature first = some bytes) :
    decodeSignature second = some bytes ↔ SameLetters second first := by
  obtain ⟨letters, size⟩ := (decode_signature_eq_some_iff first bytes).mp decoded
  rw [decode_signature_eq_some_iff, SameLetters, letters]
  exact and_iff_left size

theorem verify_spelling {SigningKey VerifyingKey : Type}
    (ed25519 : Signatures.Scheme SigningKey VerifyingKey) (token : CapabilityToken)
    {text : String} (same : decodeSignature text = decodeSignature token.signature)
    (key : VerifyingKey) (resource : String) (now : Nat) :
    CapabilityToken.verify ed25519 { token with signature := text } key resource now =
      token.verify ed25519 key resource now := by
  simp only [CapabilityToken.verify, same]
  rfl

/-- Every spelling of a well-formed revoked signature was revoked. -/
def SpellingClosed (tokens : List CapabilityToken) : Prop :=
  ∀ revoked ∈ tokens, (decodeSignature revoked.signature).isSome →
    ∀ text, SameLetters text revoked.signature → ∃ other ∈ tokens, other.signature = text

/-- After any sequence of revocations, every token that carries the signature
bytes of a revoked one is reported revoked exactly when every spelling of the
revoked signatures was revoked. -/
theorem revoked_in_every_spelling_iff (tokens : List CapabilityToken) :
    (∀ (token revoked : CapabilityToken) (bytes : Bytes), revoked ∈ tokens →
      decodeSignature revoked.signature = some bytes →
      decodeSignature token.signature = some bytes →
      (RevocationList.new.revokeAll tokens).isRevoked token = true) ↔ SpellingClosed tokens := by
  simp only [RevocationList.is_revoked_after]
  constructor
  · intro reported revoked listed wellFormed text same
    obtain ⟨bytes, decoded⟩ := Option.isSome_iff_exists.mp wellFormed
    exact reported { revoked with signature := text } revoked bytes listed decoded
      ((decode_signature_same_iff decoded).mpr same)
  · intro closed token revoked bytes listed decoded respelled
    exact closed revoked listed (Option.isSome_of_eq_some decoded) token.signature
      ((decode_signature_same_iff decoded).mp respelled)

def notesInCapitals : CapabilityToken :=
  { notesCall.token notesScheme demoSecret with
    signature := (notesCall.token notesScheme demoSecret).signature.map Char.toUpper }

def notesDigits : List Char := Base16.encodeChars (notesScheme.sign demoSecret notesCall.message)

theorem notes_in_capitals_to_list :
    notesInCapitals.signature.toList = notesDigits.map Char.toUpper := by
  change (String.map Char.toUpper (String.ofList notesDigits)).toList = _
  rw [String.toList_map, String.toList_ofList]

/-- Verification accepts the same token with its signature in capitals, and the
revocation of the token does not cover it. -/
theorem capitals_not_revoked :
    decodeSignature notesInCapitals.signature =
        decodeSignature (notesCall.token notesScheme demoSecret).signature ∧
      notesInCapitals.verify notesScheme (notesScheme.verifyingKey demoSecret) "file:notes" 50 =
        .ok () ∧
      (RevocationList.new.revokeAll [notesCall.token notesScheme demoSecret]).isRevoked
        notesInCapitals = false := by
  -- Evaluated on characters: a string is read back from its UTF-8 bytes, which is slow.
  have letters : (notesDigits.map Char.toUpper).map Char.toLower = notesDigits.map Char.toLower ∧
      notesDigits ≠ notesDigits.map Char.toUpper := by
    decide +kernel
  have decoded := decode_signature_encode
    (notes_correct.length notesCall.message mem_cons_self)
  have spelled : decodeSignature notesInCapitals.signature =
      decodeSignature (notesCall.token notesScheme demoSecret).signature := by
    refine ((decode_signature_same_iff decoded).mpr ?_).trans decoded.symm
    rw [SameLetters, notes_in_capitals_to_list, Base16.encode, String.toList_ofList]
    exact letters.1
  refine ⟨spelled, ?verified, ?unlisted⟩
  case verified =>
    have issued := verify_spelling notesScheme (notesCall.token notesScheme demoSecret) spelled
      (notesScheme.verifyingKey demoSecret) "file:notes" 50
    exact issued.trans (recut_verify_ok notes_correct mem_cons_self rfl (by decide))
  case unlisted =>
    rw [Bool.eq_false_iff, Ne, RevocationList.is_revoked_after]
    rintro ⟨revoked, listed, same⟩
    obtain rfl := mem_singleton.mp listed
    apply letters.2
    rw [← notes_in_capitals_to_list, ← same]
    exact String.toList_ofList.symm

/-! ## The fingerprint index -/

theorem signature_fingerprint_decoded {text : String}
    (decoded : decodeSignature text = some bytes) :
    signatureFingerprint text = some (leValue (bytes.take 8)) := by
  obtain ⟨letters, size⟩ := (decode_signature_eq_some_iff text bytes).mp decoded
  have lengths := congrArg List.length letters
  rw [length_map, Base16.encode_chars_length, size, signatureBytes] at lengths
  have head : Base16.decodeChars (text.toList.take 16) = some (bytes.take 8) := by
    rw [Base16.decode_chars_eq_some_iff, map_take, letters]
    exact Base16.encode_chars_take bytes 8
  have long : (text.toList.take 16).length = 16 := by
    rw [length_take]
    omega
  simp [signatureFingerprint, long, head]

/-- The index does report every spelling of a revoked signature. -/
theorem fingerprint_revoked_in_every_spelling {tokens : List CapabilityToken}
    {token revoked : CapabilityToken} (listed : revoked ∈ tokens)
    (decoded : decodeSignature revoked.signature = some bytes)
    (respelled : decodeSignature token.signature = some bytes) :
    ∃ fingerprint, signatureFingerprint token.signature = some fingerprint ∧
      (RevocationList.new.revokeAll tokens).isFingerprintRevoked fingerprint = true := by
  refine ⟨leValue (bytes.take 8), signature_fingerprint_decoded respelled, ?_⟩
  rw [RevocationList.isFingerprintRevoked, decide_eq_true_iff,
    RevocationList.revoke_all_fingerprints]
  exact .inr ⟨revoked, listed, signature_fingerprint_decoded decoded⟩

end Runix.Capability
