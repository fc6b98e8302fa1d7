import Runix.Lib.ByteStrings
import Runix.Lib.HashChain
import Runix.Lib.Sha256

/-!
# The evidence log

`WormLog` of `citadel-integration/src/lib.rs`: an append-only, hash-chained list
of decisions.  SHA-256 is outside this repository, so it is a parameter from
byte strings to byte strings; every definition that hashes takes it.
-/

namespace Runix.Citadel

open Lib Lib.ByteStrings

inductive SandboxTier where
  | t1Critical
  | t2Trusted
  | t3Untrusted
deriving DecidableEq, Repr

def SandboxTier.asStr : SandboxTier → String
  | .t1Critical => "t1"
  | .t2Trusted => "t2"
  | .t3Untrusted => "t3"

inductive ShadowMarshalOutcome where
  | execute
  | refuse
  | hardStop
  | unreachable
  | faulty
deriving DecidableEq, Repr

def ShadowMarshalOutcome.asStr : ShadowMarshalOutcome → String
  | .execute => "execute"
  | .refuse => "refuse"
  | .hardStop => "hard_stop"
  | .unreachable => "unreachable"
  | .faulty => "faulty"

def ShadowMarshalOutcome.debug : ShadowMarshalOutcome → String
  | .execute => "Execute"
  | .refuse => "Refuse"
  | .hardStop => "HardStop"
  | .unreachable => "Unreachable"
  | .faulty => "Faulty"

/-- What a caller records; the log adds the position and the two digests. -/
@[ext]
structure WormRecord where
  moduleId : String
  instanceId : Option String
  tier : Option SandboxTier
  authorized : Bool
  reason : Option String
  shadowMarshal : Option ShadowMarshalOutcome
deriving DecidableEq, Repr

structure WormEntry extends WormRecord where
  seq : Nat
  prevHash : Bytes
  entryHash : Bytes
deriving DecidableEq, Repr

structure WormLog where
  entries : List WormEntry
deriving DecidableEq, Repr

def zeroHash : Bytes := List.replicate 32 0

/-- The bytes fed to the hasher, in order.  The optional identifier and tier
have a presence byte; the optional reason has none. -/
def hashInput (prevHash : Bytes) (seq : Nat) (record : WormRecord) : Bytes :=
  prevHash ++ leBytes 8 seq ++ utf8 record.moduleId ++
    [flagByte record.instanceId.isSome] ++ (record.instanceId.elim [] utf8) ++
    [flagByte record.tier.isSome] ++ (record.tier.elim [] fun t => utf8 t.asStr) ++
    [flagByte record.authorized] ++ (record.reason.elim [] utf8) ++
    [flagByte record.shadowMarshal.isSome] ++
    (record.shadowMarshal.elim [] fun sm => utf8 sm.asStr)

section Hashing

variable (sha256 : Bytes → Bytes)

def computeHash (prevHash : Bytes) (seq : Nat) (record : WormRecord) : Bytes :=
  sha256 (hashInput prevHash seq record)

def WormEntry.recomputed (entry : WormEntry) : Bytes :=
  computeHash sha256 entry.prevHash entry.seq entry.toWormRecord

namespace WormLog

def new : WormLog := ⟨[]⟩

variable (log : WormLog)

def nextEntry (record : WormRecord) : WormEntry :=
  let seq := log.entries.length
  let prevHash := HashChain.tip WormEntry.entryHash zeroHash log.entries
  { toWormRecord := record
    seq := seq
    prevHash := prevHash
    entryHash := computeHash sha256 prevHash seq record }

def record (log : WormLog) (record : WormRecord) : WormLog :=
  ⟨log.entries ++ [log.nextEntry sha256 record]⟩

def recordShadowMarshalEvaluation (moduleId instanceId : String)
    (outcome : ShadowMarshalOutcome) : WormLog :=
  log.record sha256
    { moduleId := moduleId, instanceId := some instanceId, tier := none,
      authorized := false, reason := none, shadowMarshal := some outcome }

def recordProxyVerification (moduleId instanceId : String)
    (authorized : Bool) (reason : Option String) : WormLog :=
  log.record sha256
    { moduleId := moduleId, instanceId := some instanceId, tier := none,
      authorized := authorized, reason := reason, shadowMarshal := none }

def lifecycleReason (reason : Option String) (fromState toState : String) : String :=
  match reason with
  | some text => text ++ " [" ++ fromState ++ " -> " ++ toState ++ "]"
  | none => "[" ++ fromState ++ " -> " ++ toState ++ "]"

def recordLifecycleTransition (subjectId fromState toState : String)
    (authorized : Bool) (reason : Option String) : WormLog :=
  log.record sha256
    { moduleId := subjectId, instanceId := none, tier := none, authorized := authorized,
      reason := some (lifecycleReason reason fromState toState), shadowMarshal := none }

def verifyChain : Bool :=
  HashChain.verifyFrom WormEntry.prevHash WormEntry.entryHash (WormEntry.recomputed sha256)
    zeroHash log.entries

def recordAll (records : List WormRecord) : WormLog :=
  records.foldl (fun log record => log.record sha256 record) log

def edit (position : Nat) (record : WormRecord) : WormLog :=
  ⟨log.entries.modify position fun entry => { entry with toWormRecord := record }⟩

end WormLog

end Hashing

namespace WormLog

variable {sha256 : Bytes → Bytes}

theorem new_verify_chain : new.verifyChain sha256 = true := rfl

variable {log : WormLog}

theorem record_verify_chain (verified : log.verifyChain sha256 = true)
    (record : WormRecord) : (log.record sha256 record).verifyChain sha256 = true := by
  unfold verifyChain WormLog.record
  rw [HashChain.verify_from_snoc_iff]
  exact ⟨verified, rfl, rfl⟩

theorem record_entries (log : WormLog) (record : WormRecord) :
    (log.record sha256 record).entries = log.entries ++ [log.nextEntry sha256 record] := rfl

theorem record_all_verify_chain (verified : log.verifyChain sha256 = true)
    (records : List WormRecord) : (log.recordAll sha256 records).verifyChain sha256 = true := by
  induction records generalizing log with
  | nil => exact verified
  | cons record rest ih => exact ih (record_verify_chain verified record)

theorem record_all_records (log : WormLog) (records : List WormRecord) :
    (log.recordAll sha256 records).entries.map WormEntry.toWormRecord =
      log.entries.map WormEntry.toWormRecord ++ records := by
  induction records generalizing log with
  | nil => simp [recordAll]
  | cons record rest ih =>
    have tail := ih (log.record sha256 record)
    rw [record_entries, List.map_append] at tail
    simpa [recordAll, nextEntry] using tail

/-- Editing an entry of a verified log goes unnoticed exactly when the new fields
hash like the old ones. -/
theorem edit_verify_chain_iff (verified : log.verifyChain sha256 = true) {position : Nat}
    {entry : WormEntry} (found : log.entries[position]? = some entry) (record : WormRecord) :
    (log.edit position record).verifyChain sha256 = true ↔
      computeHash sha256 entry.prevHash entry.seq record =
        computeHash sha256 entry.prevHash entry.seq entry.toWormRecord := by
  obtain ⟨inside, isEntry⟩ := List.getElem?_eq_some_iff.mp found
  have split : log.entries =
      log.entries.take position ++ entry :: log.entries.drop (position + 1) := by
    rw [← isEntry, ← List.drop_eq_getElem_cons inside, List.take_append_drop]
  unfold verifyChain at verified ⊢
  rw [split] at verified
  have sound : entry.recomputed sha256 = entry.entryHash :=
    (HashChain.verify_from_edit_iff _ _ _ rfl rfl verified).mp verified
  unfold edit
  rw [List.modify_eq_take_cons_drop inside, isEntry]
  have previous : WormEntry.prevHash { entry with toWormRecord := record } = entry.prevHash := rfl
  have stored : WormEntry.entryHash { entry with toWormRecord := record } = entry.entryHash := rfl
  rw [HashChain.verify_from_edit_iff _ _ _ previous stored verified, stored, ← sound]
  rfl

end WormLog

/-! ## Rearranged logs

`verify_chain` of `citadel-integration/src/lib.rs` compares each entry with its
neighbour only.  If the digests of a log's entries do not collide and are never the
zero block, the entries of the log pass in their recorded order, from the first one
on without a gap, and in no other arrangement. -/

open List HashChain

/-- What is assumed of the digest: its 32 bytes tell the entries of the log apart,
and none of them is the zero block. -/
structure DigestBinds (sha256 : Bytes → Bytes) (log : WormLog) : Prop where
  length : ∀ message, (sha256 message).length = 32
  injective : ∀ first ∈ log.entries, ∀ second ∈ log.entries,
    first.recomputed sha256 = second.recomputed sha256 →
      hashInput first.prevHash first.seq first.toWormRecord =
        hashInput second.prevHash second.seq second.toWormRecord
  nonzero : ∀ entry ∈ log.entries, entry.recomputed sha256 ≠ zeroHash

theorem hash_input_prev_hash {first second : Bytes} {firstSeq secondSeq : Nat}
    {firstRecord secondRecord : WormRecord} (lengths : first.length = second.length)
    (same : hashInput first firstSeq firstRecord = hashInput second secondSeq secondRecord) :
    first = second := by
  unfold hashInput at same
  simp only [append_assoc] at same
  exact append_inj_left same lengths

namespace WormLog

variable {sha256 : Bytes → Bytes} {log : WormLog}

theorem entry_hash_eq_recomputed (verified : log.verifyChain sha256 = true) {entry : WormEntry}
    (listed : entry ∈ log.entries) : entry.entryHash = entry.recomputed sha256 := by
  obtain ⟨before, after, split⟩ := append_of_mem listed
  rw [verifyChain, split, verify_from_append_iff, verify_from_cons_iff]
    at verified
  exact verified.2.2.1.symm

theorem prev_hash_length (length : ∀ message, (sha256 message).length = 32)
    (verified : log.verifyChain sha256 = true) {entry : WormEntry}
    (listed : entry ∈ log.entries) : entry.prevHash.length = 32 := by
  obtain ⟨before, after, split⟩ := append_of_mem listed
  rw [previous_eq_tip verified split]
  cases before using List.reverseRecOn with
  | nil => simp [HashChain.tip, zeroHash]
  | append_singleton rest last =>
    have inside : last ∈ log.entries := by
      rw [split]
      simp
    rw [tip_snoc, entry_hash_eq_recomputed verified inside]
    exact length _

theorem bound_of_digest_binds (verified : log.verifyChain sha256 = true)
    (digest : DigestBinds sha256 log) :
    HashChain.Bound WormEntry.prevHash WormEntry.entryHash (WormEntry.recomputed sha256) zeroHash
      log.entries where
  verified := verified
  fresh := by
    intro entry listed
    rw [entry_hash_eq_recomputed verified listed]
    exact digest.nonzero entry listed
  binding := by
    intro first inFirst second inSecond same
    rw [entry_hash_eq_recomputed verified inFirst,
      entry_hash_eq_recomputed verified inSecond] at same
    have lengths : first.prevHash.length = second.prevHash.length := by
      rw [prev_hash_length digest.length verified inFirst,
        prev_hash_length digest.length verified inSecond]
    exact hash_input_prev_hash lengths (digest.injective first inFirst second inSecond same)

/-- Entries taken from a recorded log, with any deletions, repetitions and
reorderings, verify exactly when they are a prefix of it.  So leaving out an entry
before the end, exchanging two entries and inserting a copy of one are noticed. -/
theorem rearranged_verifies_iff_front (records : List WormRecord)
    (digest : DigestBinds sha256 (new.recordAll sha256 records)) :
    (∀ entries : List WormEntry,
      (∀ entry ∈ entries, entry ∈ (new.recordAll sha256 records).entries) →
      (verifyChain sha256 ⟨entries⟩ = true ↔
        entries <+: (new.recordAll sha256 records).entries)) ∧
    (∀ (before after : List WormEntry) (entry next : WormEntry),
      (new.recordAll sha256 records).entries = before ++ entry :: next :: after →
      verifyChain sha256 ⟨before ++ next :: after⟩ = false) ∧
    (∀ (before middle after : List WormEntry) (first second : WormEntry),
      (new.recordAll sha256 records).entries = before ++ first :: (middle ++ second :: after) →
      verifyChain sha256 ⟨before ++ second :: (middle ++ first :: after)⟩ = false) ∧
    ∀ (before after : List WormEntry) (entry : WormEntry),
      (new.recordAll sha256 records).entries = before ++ after →
      entry ∈ (new.recordAll sha256 records).entries →
      verifyChain sha256 ⟨before ++ entry :: after⟩ = false := by
  have bound := bound_of_digest_binds (record_all_verify_chain new_verify_chain records) digest
  generalize (new.recordAll sha256 records).entries = recorded at bound ⊢
  have drawn : ∀ entries : List WormEntry, (∀ entry ∈ entries, entry ∈ recorded) →
      (verifyChain sha256 ⟨entries⟩ = true ↔ entries <+: recorded) := by
    intro entries fromLog
    exact verify_from_drawn_iff bound fromLog
  refine ⟨drawn, ?dropped, ?exchanged, ?copied⟩
  case dropped =>
    rintro before after entry next rfl
    rw [Bool.eq_false_iff, Ne, drawn _ (by simp; tauto), prefix_append_right_inj,
      cons_prefix_cons]
    rintro ⟨rfl, -⟩
    exact not_repeated bound before [] after next rfl
  case exchanged =>
    rintro before middle after first second rfl
    rw [Bool.eq_false_iff, Ne, drawn _ (by simp; tauto), prefix_append_right_inj,
      cons_prefix_cons]
    rintro ⟨rfl, -⟩
    exact not_repeated bound before middle after second rfl
  case copied =>
    rintro before after entry rfl listed
    have fromLog : ∀ other ∈ before ++ entry :: after, other ∈ before ++ after := by
      intro other inside
      rcases mem_append.mp inside with early | late
      · exact mem_append_left after early
      · rcases mem_cons.mp late with rfl | later
        · exact listed
        · exact mem_append_right before later
    rw [Bool.eq_false_iff, Ne, drawn _ fromLog]
    intro front
    have shorter := front.length_le
    simp only [length_append, length_cons] at shorter
    omega

def refusedThenDenied : List WormRecord :=
  [{ moduleId := "grid-sandbox-host", instanceId := some "app", tier := none,
     authorized := false, reason := none, shadowMarshal := some .refuse },
   { moduleId := "grid-sandbox-host", instanceId := some "app", tier := some .t2Trusted,
     authorized := false, reason := some "denied", shadowMarshal := none }]

/-- Leaving out the refusal before the denial is noticed. -/
theorem refusal_left_out_noticed :
    verifyChain Sha256.sha256
      ⟨(new.recordAll Sha256.sha256 refusedThenDenied).entries.drop 1⟩ = false := by
  have digest : DigestBinds Sha256.sha256 (new.recordAll Sha256.sha256 refusedThenDenied) :=
    ⟨Sha256.sha256_length, by decide +kernel, by decide +kernel⟩
  exact (rearranged_verifies_iff_front refusedThenDenied digest).2.1 [] [] _ _ rfl

end WormLog

end Runix.Citadel
