import Runix.Lib.PipeText
import Runix.Lib.Signatures

/-!
# The proxy's identity

`desktop/src/citadel/identity.rs`: the envelope the proxy forwards, and the text its
signature is over.
-/

namespace Runix.Desktop

open Lib Lib.ByteStrings

def proxyVerifierUserId : String := "citadel_proxy:verifier"

def proxyVerifierRole : String := "auditor"

structure KerkeseActor where
  userId : String
  role : String
  email : Option String
deriving DecidableEq, Repr

structure KerkeseVerifier where
  userId : String
  role : String
  email : Option String
deriving DecidableEq, Repr

def KerkeseVerifier.thisProxy : KerkeseVerifier :=
  { userId := proxyVerifierUserId, role := proxyVerifierRole, email := none }

structure KerkeseSoD where
  operatorUserId : String
  verifierUserId : String
deriving DecidableEq, Repr

structure KerkeseAction where
  actionType : String
  description : String
deriving DecidableEq, Repr

/-- The `extra` of the source is a `BTreeMap`: its pairs in the order of the keys. -/
structure KerkeseEvidence where
  extra : List (String × String)
deriving DecidableEq, Repr

structure Kerkese where
  kerkeseVersion : String
  tsUtc : String
  projectId : String
  executionId : String
  action : KerkeseAction
  actor : KerkeseActor
  verifier : KerkeseVerifier
  evidence : KerkeseEvidence
  sod : KerkeseSoD
  dryRun : Bool
  sigVerifier : String
deriving DecidableEq, Repr

def canonicalPayload (k : Kerkese) : String :=
  "v1" ++ "|" ++ k.executionId ++ "|" ++ k.action.actionType ++ "|" ++ "" ++ "|" ++
    k.actor.userId ++ "|" ++ k.actor.role ++ "|" ++ k.verifier.userId ++ "|" ++
    k.verifier.role ++ "|" ++ k.sod.operatorUserId ++ "|" ++ k.sod.verifierUserId ++ "|" ++
    k.tsUtc

def signVerifierPayload {SigningKey VerifyingKey : Type}
    (ed25519 : Signatures.Scheme SigningKey VerifyingKey) (payload : String)
    (signingKey : SigningKey) : String :=
  Base16.encode (ed25519.sign signingKey (utf8 payload))

/-! ## The printed time -/

/-- The year, the month and the day of a day counted from 1970-01-01.  Division of an
`i64` rounds towards zero. -/
def civilFromDays (days : Int) : Int × Nat × Nat :=
  let z := days + 719468
  let era := (if z ≥ 0 then z else z - 146096).tdiv 146097
  let doe := z - era * 146097
  let yoe := (doe - doe.tdiv 1460 + doe.tdiv 36524 - doe.tdiv 146096).tdiv 365
  let y := yoe + era * 400
  let doy := doe - (365 * yoe + yoe.tdiv 4 - yoe.tdiv 100)
  let mp := (5 * doy + 2).tdiv 153
  let d := (doy - (153 * mp + 2).tdiv 5 + 1).toNat
  let m := (if mp < 10 then mp + 3 else mp - 9).toNat
  let y := if m ≤ 2 then y + 1 else y
  (y, m, d)

/-- `{value:0width}`. -/
def zeroPadded (width : Nat) (value : Int) : String :=
  let sign := if value < 0 then "-" else ""
  let digits := toString value.natAbs
  sign ++ String.ofList (List.replicate (width - (sign.length + digits.length)) '0') ++ digits

def formatRfc3339Utc (unixSecs : Int) : String :=
  let days := unixSecs / 86400
  let secsOfDay := unixSecs % 86400
  let (year, month, day) := civilFromDays days
  let hour := secsOfDay.tdiv 3600
  let minute := (secsOfDay.tmod 3600).tdiv 60
  let second := secsOfDay.tmod 60
  zeroPadded 4 year ++ "-" ++ zeroPadded 2 month ++ "-" ++ zeroPadded 2 day ++ "T" ++
    zeroPadded 2 hour ++ ":" ++ zeroPadded 2 minute ++ ":" ++ zeroPadded 2 second ++ "Z"

theorem clear_append {first second : String} :
    PipeText.Clear (first ++ second) ↔ PipeText.Clear first ∧ PipeText.Clear second := by
  simp [PipeText.Clear, not_or]

theorem clear_zero_padded (width : Nat) (value : Int) :
    PipeText.Clear (zeroPadded width value) := by
  have sign : PipeText.Clear (if value < 0 then "-" else "") := by
    split_ifs <;> decide
  have zeros (count : Nat) : PipeText.Clear (String.ofList (List.replicate count '0')) := by
    simp [PipeText.Clear]
  exact clear_append.mpr ⟨clear_append.mpr ⟨sign, zeros _⟩, PipeText.clear_decimal _⟩

theorem clear_time (unixSecs : Int) : PipeText.Clear (formatRfc3339Utc unixSecs) := by
  have dash : PipeText.Clear "-" := by decide
  have colon : PipeText.Clear ":" := by decide
  have marks : PipeText.Clear "T" ∧ PipeText.Clear "Z" := by decide
  simp only [formatRfc3339Utc, clear_append, clear_zero_padded, dash, colon, marks, and_self]

example : formatRfc3339Utc 1775383200 = "2026-04-05T10:00:00Z" := by decide +kernel

/-! ## The signed fields -/

def signedFields (k : Kerkese) : List String :=
  ["v1", k.executionId, k.action.actionType, "", k.actor.userId, k.actor.role,
    k.verifier.userId, k.verifier.role, k.sod.operatorUserId, k.sod.verifierUserId, k.tsUtc]

theorem canonical_payload_to_list (k : Kerkese) :
    (canonicalPayload k).toList = ['|'].intercalate ((signedFields k).map String.toList) := by
  unfold canonicalPayload signedFields
  generalize "v1" = version
  generalize "" = changeId
  simp only [PipeText.to_list_join, List.map_cons, List.map_nil, List.intercalate_cons_cons,
    List.intercalate_singleton, List.append_assoc, List.cons_append, List.nil_append]

theorem signed_fields_unique {k other : Kerkese}
    (clear : ∀ field ∈ signedFields k, PipeText.Clear field)
    (same : canonicalPayload other = canonicalPayload k) : signedFields other = signedFields k := by
  have lists := congrArg String.toList same
  rw [canonical_payload_to_list, canonical_payload_to_list] at lists
  have fields := Framing.join_unique '|' (by simpa [PipeText.Clear] using clear)
    (by simp [signedFields]) lists
  have injective : Function.Injective String.toList := fun _ _ => String.toList_injective
  exact List.map_injective_iff.mpr injective fields

end Runix.Desktop
