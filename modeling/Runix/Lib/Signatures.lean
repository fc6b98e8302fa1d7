import Runix.Lib.ByteStrings

/-!
# Signature schemes

A scheme signs and verifies byte strings.  The two assumptions are about one key
and the messages signed with it: those verify, and nothing else does.
-/

namespace Runix.Lib.Signatures

open Lib.ByteStrings

structure Scheme (SigningKey VerifyingKey : Type) where
  verifyingKey : SigningKey → VerifyingKey
  sign : SigningKey → Bytes → Bytes
  verify : VerifyingKey → Bytes → Bytes → Bool

namespace Scheme

section Assumptions

variable {SigningKey VerifyingKey : Type} (scheme : Scheme SigningKey VerifyingKey)

/-- Signatures have a fixed size and verify over the message they were made for. -/
structure Correct (size : Nat) (key : SigningKey) (signed : List Bytes) : Prop where
  length : ∀ message ∈ signed, (scheme.sign key message).length = size
  verifies : ∀ message ∈ signed,
    scheme.verify (scheme.verifyingKey key) message (scheme.sign key message) = true

/-- Whatever verifies under the key was signed with it. -/
def Unforgeable (key : SigningKey) (signed : List Bytes) : Prop :=
  ∀ message signature,
    scheme.verify (scheme.verifyingKey key) message signature = true → message ∈ signed

end Assumptions

/-- The scheme of one key pair and the signatures made with it. -/
def tabulated (secret shared : Bytes) (made : List (Bytes × Bytes)) : Scheme Bytes Bytes where
  verifyingKey := fun key => if key = secret then shared else key
  sign := fun key message => if key = secret then (made.lookup message).getD [] else []
  verify := fun key message signature => key = shared ∧ (message, signature) ∈ made

section Tabulated

variable {secret shared : Bytes} {made : List (Bytes × Bytes)}

theorem tabulated_verify_iff (message signature : Bytes) :
    (tabulated secret shared made).verify ((tabulated secret shared made).verifyingKey secret)
      message signature = true ↔ (message, signature) ∈ made := by
  simp [tabulated]

theorem tabulated_unforgeable :
    (tabulated secret shared made).Unforgeable secret (made.map Prod.fst) := by
  intro message signature verified
  rw [tabulated_verify_iff] at verified
  exact List.mem_map_of_mem verified

theorem tabulated_sign_mem {message : Bytes} (signed : message ∈ made.map Prod.fst) :
    (message, (tabulated secret shared made).sign secret message) ∈ made := by
  have made_signature : ∃ signature, made.lookup message = some signature := by
    rw [← Option.isSome_iff_exists, List.lookup_isSome_iff]
    obtain ⟨row, listed, rfl⟩ := List.mem_map.mp signed
    exact ⟨row, listed, by simp⟩
  obtain ⟨signature, found⟩ := made_signature
  simp only [tabulated, if_true, found, Option.getD_some]
  obtain ⟨before, after, split, -⟩ := List.lookup_eq_some_iff.mp found
  rw [split]
  simp

theorem tabulated_correct {size : Nat} (sizes : ∀ row ∈ made, row.2.length = size) :
    (tabulated secret shared made).Correct size secret (made.map Prod.fst) where
  length := fun message signed =>
    sizes (message, (tabulated secret shared made).sign secret message)
      (tabulated_sign_mem signed)
  verifies := fun _ signed => (tabulated_verify_iff _ _).mpr (tabulated_sign_mem signed)

end Tabulated

end Scheme

end Runix.Lib.Signatures
