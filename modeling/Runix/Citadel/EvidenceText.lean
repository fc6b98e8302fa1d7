import Runix.Citadel.WormLog
import Runix.Lib.PipeText
import Runix.Lib.Sha256

/-!
# What an evidence digest pins down

The hasher sees one text: the module id, a presence flag and the instance id, a
presence flag and the tier, the authorized flag, the reason, and a presence flag
with the shadow outcome.  The flags are the characters U+0000 and U+0001, nothing
marks the presence of a reason, and no field carries its length.  The shadow
outcome can be read back from the end; the rest can be read back exactly when
the text has a single place for its two presence flags and the reason is not
empty.
-/

namespace Runix.Citadel

open Lib Lib.ByteStrings List WormLog

def flagChar (flag : Bool) : Char := if flag then '\x01' else '\x00'

def tierWord (tier : Option SandboxTier) : List Char :=
  flagChar tier.isSome :: tier.elim [] fun t => t.asStr.toList

def shadowWord (outcome : Option ShadowMarshalOutcome) : List Char :=
  flagChar outcome.isSome :: outcome.elim [] fun sm => sm.asStr.toList

namespace WormRecord

variable (record : WormRecord)

def instanceText : List Char := record.instanceId.elim [] String.toList

def reasonText : List Char := record.reason.elim [] String.toList

def rest : List Char :=
  tierWord record.tier ++ flagChar record.authorized :: record.reasonText

def body : List Char :=
  record.moduleId.toList ++ flagChar record.instanceId.isSome ::
    (record.instanceText ++ record.rest)

def instancePosition : Nat := record.moduleId.toList.length

def tierPosition : Nat :=
  record.instancePosition + 1 + record.instanceText.length

end WormRecord

/-! ## From bytes to text -/

theorem utf8_flag_char (flag : Bool) : utf8 (String.ofList [flagChar flag]) = [flagByte flag] := by
  cases flag <;> rfl

theorem utf8_cons (flag : Bool) (chars : List Char) :
    utf8 (String.ofList (flagChar flag :: chars)) =
      flagByte flag :: utf8 (String.ofList chars) := by
  rw [← singleton_append, String.ofList_append, utf8_append, utf8_flag_char]
  rfl

theorem utf8_of_list_append (first second : List Char) :
    utf8 (String.ofList (first ++ second)) =
      utf8 (String.ofList first) ++ utf8 (String.ofList second) := by
  rw [String.ofList_append, utf8_append]

theorem utf8_optional {Field : Type} (field : Option Field) (text : Field → String) :
    utf8 (String.ofList (field.elim [] fun f => (text f).toList)) =
      field.elim [] fun f => utf8 (text f) := by
  cases field with
  | none => rfl
  | some f => simp only [Option.elim_some, String.ofList_toList]

/-- The hasher's input is one UTF-8 text behind the previous hash and the
sequence number. -/
theorem hash_input_text (prevHash : Bytes) (seq : Nat) (record : WormRecord) :
    hashInput prevHash seq record =
      prevHash ++ leBytes 8 seq ++
        utf8 (String.ofList (record.body ++ shadowWord record.shadowMarshal)) := by
  have instanceText := utf8_optional record.instanceId id
  have tierText := utf8_optional record.tier SandboxTier.asStr
  have reasonText := utf8_optional record.reason id
  have shadowText := utf8_optional record.shadowMarshal ShadowMarshalOutcome.asStr
  simp only [id_eq] at instanceText reasonText
  simp only [hashInput, WormRecord.body, WormRecord.rest, WormRecord.instanceText,
    WormRecord.reasonText, tierWord, shadowWord, utf8_of_list_append, utf8_cons,
    append_assoc, cons_append, nil_append, String.ofList_toList, instanceText,
    tierText, reasonText, shadowText]

/-! ## Reading the text back -/

theorem tier_word_prefix_free : Framing.PrefixFree tierWord := by
  intro x y
  rcases x with _ | x <;> rcases y with _ | y
  · simp
  · cases y <;> decide
  · cases x <;> decide
  · cases x <;> cases y <;> decide

theorem shadow_word_suffix_free : Framing.SuffixFree shadowWord := by
  intro x y
  rcases x with _ | x <;> rcases y with _ | y
  · simp
  · cases y <;> decide
  · cases x <;> decide
  · cases x <;> cases y <;> decide

theorem flag_char_injective : Function.Injective flagChar := by
  intro first second same
  cases first <;> cases second <;> simp_all [flagChar]

/-- Two records hash the same bytes exactly when their texts up to the shadow
outcome and their shadow outcomes agree. -/
theorem hash_input_eq_iff (prevHash : Bytes) (seq : Nat) (first second : WormRecord) :
    hashInput prevHash seq first = hashInput prevHash seq second ↔
      first.body = second.body ∧ first.shadowMarshal = second.shadowMarshal := by
  rw [hash_input_text, hash_input_text, append_cancel_left_eq]
  constructor
  · intro same
    exact shadow_word_suffix_free.split (String.ofList_injective (utf8_injective same))
  · rintro ⟨bodies, outcomes⟩
    rw [bodies, outcomes]

/-- The text can be read with its instance flag at one position and its tier flag
at the other. -/
def FlagsAt (text : List Char) (instanceFlag tierFlag : Nat) : Prop :=
  ∃ present tier authorized,
    text[instanceFlag]? = some (flagChar present) ∧ instanceFlag < tierFlag ∧
      (present = false → tierFlag = instanceFlag + 1) ∧
      tierWord tier ++ [flagChar authorized] <+: text.drop tierFlag

theorem FlagsAt.split {text : List Char} {instanceFlag tierFlag : Nat}
    (flags : FlagsAt text instanceFlag tierFlag) :
    ∃ left middle reason present tier authorized,
      text = left ++ flagChar present ::
        (middle ++ (tierWord tier ++ flagChar authorized :: reason)) ∧
      left.length = instanceFlag ∧ instanceFlag + 1 + middle.length = tierFlag ∧
      (present = false → middle = []) := by
  obtain ⟨present, tier, authorized, flag, ordered, adjacent, reason, fromTier⟩ := flags
  obtain ⟨inside, flagEq⟩ := List.getElem?_eq_some_iff.mp flag
  have tierInside : tierFlag < text.length := by
    by_contra beyond
    rw [drop_eq_nil_of_le (not_lt.mp beyond)] at fromTier
    simp [tierWord] at fromTier
  obtain ⟨gap, rfl⟩ := Nat.exists_eq_add_of_le (Nat.succ_le_of_lt ordered)
  have middleSplit := take_append_drop gap (text.drop (instanceFlag + 1))
  rw [drop_drop, ← fromTier, append_assoc (tierWord tier), singleton_append]
    at middleSplit
  refine ⟨text.take instanceFlag, (text.drop (instanceFlag + 1)).take gap, reason, present, tier,
    authorized, ?_, ?_, ?_, ?_⟩
  · calc text = text.take instanceFlag ++ text.drop instanceFlag :=
          (take_append_drop instanceFlag text).symm
      _ = text.take instanceFlag ++ flagChar present :: text.drop (instanceFlag + 1) := by
          rw [drop_eq_getElem_cons inside, flagEq]
      _ = _ := congrArg (fun tail => text.take instanceFlag ++ flagChar present :: tail)
          middleSplit.symm
  · rw [length_take]
    omega
  · rw [length_take, length_drop]
    omega
  · intro absent
    have none : gap = 0 := by
      have next := adjacent absent
      omega
    rw [none, take_zero]

namespace WormRecord

variable {record first second : WormRecord}

theorem body_eq (record : WormRecord) :
    record.body = (record.moduleId.toList ++ flagChar record.instanceId.isSome ::
      record.instanceText) ++ record.rest := by
  simp [body]

theorem body_flags (record : WormRecord) :
    FlagsAt record.body record.instancePosition record.tierPosition := by
  refine ⟨record.instanceId.isSome, record.tier, record.authorized, ?_, ?_, ?_, ?_⟩
  · simp [body, instancePosition]
  · unfold tierPosition
    omega
  · intro absent
    have empty : record.instanceId = none := by simpa using absent
    simp [tierPosition, instanceText, empty]
  · have dropped : record.body.drop record.tierPosition = record.rest := by
      rw [body_eq]
      apply drop_left'
      simp only [tierPosition, instancePosition, length_append, length_cons]
      omega
    rw [dropped, rest]
    exact ⟨record.reasonText, by simp⟩

theorem exists_of_flags_at {text : List Char} {instanceFlag tierFlag : Nat}
    (flags : FlagsAt text instanceFlag tierFlag) (outcome : Option ShadowMarshalOutcome) :
    ∃ record : WormRecord, record.body = text ∧ record.instancePosition = instanceFlag ∧
      record.tierPosition = tierFlag ∧ record.shadowMarshal = outcome := by
  obtain ⟨left, middle, reason, present, tier, authorized, rfl, rfl, rfl, absent⟩ := flags.split
  have instanceId : ∃ id : Option String,
      id.isSome = present ∧ id.elim [] String.toList = middle := by
    cases present with
    | true => exact ⟨some (String.ofList middle), rfl, String.toList_ofList⟩
    | false => exact ⟨none, rfl, (absent rfl).symm⟩
  obtain ⟨id, rfl, rfl⟩ := instanceId
  refine ⟨⟨String.ofList left, id, tier, authorized, some (String.ofList reason), outcome⟩,
    ?_, ?_, ?_, rfl⟩
  · simp [body, rest, instanceText, reasonText]
  · simp [instancePosition]
  · simp [tierPosition, instancePosition, instanceText]

/-- With both flags in the same places, only the presence of an empty reason is
left open. -/
theorem eq_up_to_reason (bodies : first.body = second.body)
    (instancePlace : first.instancePosition = second.instancePosition)
    (tierPlace : first.tierPosition = second.tierPosition) :
    first.moduleId = second.moduleId ∧ first.instanceId = second.instanceId ∧
      first.tier = second.tier ∧ first.authorized = second.authorized ∧
      first.reasonText = second.reasonText := by
  obtain ⟨modules, afterModule⟩ := append_inj bodies instancePlace
  obtain ⟨present, afterFlag⟩ := List.cons.inj afterModule
  have lengths : first.instanceText.length = second.instanceText.length := by
    unfold tierPosition at tierPlace
    omega
  obtain ⟨instances, rests⟩ := append_inj afterFlag lengths
  obtain ⟨tiers, afterTier⟩ := tier_word_prefix_free.split rests
  obtain ⟨authorized, reasons⟩ := List.cons.inj afterTier
  refine ⟨String.toList_injective modules, ?_, tiers, flag_char_injective authorized, reasons⟩
  have presence := flag_char_injective present
  unfold instanceText at instances
  cases firstId : first.instanceId with
  | none => cases secondId : second.instanceId <;> simp_all
  | some id =>
    cases secondId : second.instanceId with
    | none => simp_all
    | some other =>
      rw [firstId, secondId] at instances
      exact congrArg some (String.toList_injective instances)

def SingleReading (record : WormRecord) : Prop :=
  ∀ instanceFlag tierFlag, FlagsAt record.body instanceFlag tierFlag →
    instanceFlag = record.instancePosition ∧ tierFlag = record.tierPosition

/-- The digest of such a record pins down all of its fields. -/
def Legible (record : WormRecord) : Prop :=
  record.reasonText ≠ [] ∧ record.SingleReading

theorem reason_eq_of_text (nonempty : first.reasonText ≠ [])
    (same : first.reasonText = second.reasonText) : first.reason = second.reason := by
  unfold reasonText at nonempty same
  cases firstReason : first.reason with
  | none => simp [firstReason] at nonempty
  | some text =>
    cases secondReason : second.reason with
    | none => simp_all
    | some other =>
      rw [firstReason, secondReason] at same
      exact congrArg some (String.toList_injective same)

theorem Legible.eq_of_body (legible : first.Legible) (bodies : first.body = second.body)
    (outcomes : first.shadowMarshal = second.shadowMarshal) : first = second := by
  obtain ⟨nonempty, single⟩ := legible
  obtain ⟨instancePlace, tierPlace⟩ := single _ _ (bodies ▸ second.body_flags)
  obtain ⟨modules, instances, tiers, authorized, reasons⟩ :=
    eq_up_to_reason bodies instancePlace.symm tierPlace.symm
  exact WormRecord.ext modules instances tiers authorized (reason_eq_of_text nonempty reasons)
    outcomes

theorem exists_other_of_not_legible (illegible : ¬ record.Legible) :
    ∃ other : WormRecord, other ≠ record ∧ other.body = record.body ∧
      other.shadowMarshal = record.shadowMarshal := by
  by_cases empty : record.reasonText = []
  · -- An absent reason and an empty one hash alike.
    have flipped : ∃ reason : Option String, reason ≠ record.reason ∧
        reason.elim [] String.toList = [] := by
      cases present : record.reason with
      | none => exact ⟨some "", by simp, rfl⟩
      | some text => exact ⟨none, by simp, rfl⟩
    obtain ⟨reason, different, blank⟩ := flipped
    refine ⟨{ record with reason := reason }, fun same => ?_, ?_, rfl⟩
    · exact different (congrArg WormRecord.reason same)
    · have same : reasonText { record with reason := reason } = record.reasonText :=
        blank.trans empty.symm
      unfold body rest
      rw [same]
      rfl
  · have several : ¬ record.SingleReading := fun single => illegible ⟨empty, single⟩
    unfold SingleReading at several
    push Not at several
    obtain ⟨instanceFlag, tierFlag, flags, elsewhere⟩ := several
    obtain ⟨other, bodies, instancePlace, tierPlace, outcomes⟩ :=
      exists_of_flags_at flags record.shadowMarshal
    refine ⟨other, ?_, bodies, outcomes⟩
    rintro rfl
    exact elsewhere instancePlace.symm tierPlace.symm

theorem legible_iff (record : WormRecord) :
    record.Legible ↔ ∀ other : WormRecord, record.body = other.body →
      record.shadowMarshal = other.shadowMarshal → other = record := by
  constructor
  · intro legible other bodies outcomes
    exact (legible.eq_of_body bodies outcomes).symm
  · intro alone
    by_contra illegible
    obtain ⟨other, different, bodies, outcomes⟩ := exists_other_of_not_legible illegible
    exact different (alone other bodies.symm outcomes.symm)

/-! ### Ordinary texts -/

def isFlag (c : Char) : Bool := c == flagChar false || c == flagChar true

def plain (record : WormRecord) : Bool :=
  record.moduleId.toList.countP isFlag + record.instanceText.countP isFlag +
    record.reasonText.countP isFlag == 0

theorem is_flag_flag_char (flag : Bool) : isFlag (flagChar flag) = true := by
  cases flag <;> rfl

theorem count_flags (left middle reason : List Char) (present authorized : Bool)
    (tier : Option SandboxTier) :
    (left ++ flagChar present ::
        (middle ++ (tierWord tier ++ flagChar authorized :: reason))).countP isFlag =
      left.countP isFlag + middle.countP isFlag + reason.countP isFlag + 3 := by
  have word : (tierWord tier).countP isFlag = 1 := by
    rcases tier with _ | tier
    · rfl
    · cases tier <;> rfl
  simp only [countP_append, countP_cons, is_flag_flag_char, if_true, word]
  omega

/-- A plain record has as many flag characters as flags, so every reading puts
them in the same places. -/
theorem single_reading_of_plain (plainRecord : record.plain = true) : record.SingleReading := by
  intro instanceFlag tierFlag flags
  obtain ⟨left, middle, reason, present, tier, authorized, text, rfl, rfl, -⟩ := flags.split
  have counts := congrArg (List.countP isFlag) text
  unfold body rest at counts text
  rw [count_flags, count_flags] at counts
  have none := beq_iff_eq.mp plainRecord
  -- The other reading has three flags as well, which leaves none for its fields.
  have clear : ∀ field : List Char, field.countP isFlag = 0 →
      ∀ c ∈ field, ¬ isFlag c = true := by
    intro field zero
    exact countP_eq_zero.mp zero
  obtain ⟨modules, -, afterModule⟩ := Framing.split_first (isFlag · = true)
    (clear _ (by omega)) (clear left (by omega)) (is_flag_flag_char _) (is_flag_flag_char _) text
  obtain ⟨instances, -, -⟩ := Framing.split_first (isFlag · = true)
    (clear _ (by omega)) (clear middle (by omega)) (is_flag_flag_char _) (is_flag_flag_char _)
    afterModule
  simp [tierPosition, instancePosition, modules, instances]

end WormRecord

/-! ## Digests and the chain -/

section Binding

variable {sha256 : Bytes → Bytes}

theorem compute_hash_eq_iff (injective : Function.Injective sha256) (prevHash : Bytes) (seq : Nat)
    (first second : WormRecord) :
    computeHash sha256 prevHash seq first = computeHash sha256 prevHash seq second ↔
      first.body = second.body ∧ first.shadowMarshal = second.shadowMarshal :=
  injective.eq_iff.trans (hash_input_eq_iff prevHash seq first second)

theorem record_all_entry (sha256 : Bytes → Bytes) {records : List WormRecord} {position : Nat}
    {record : WormRecord} (found : records[position]? = some record) :
    ∃ entry, (new.recordAll sha256 records).entries[position]? = some entry ∧
      entry.toWormRecord = record := by
  have all : (new.recordAll sha256 records).entries.map WormEntry.toWormRecord = records :=
    record_all_records new records
  rw [← all, List.getElem?_map, Option.map_eq_some_iff] at found
  exact found

/-- With an injective hash: a digest determines the record it was computed from,
and no edit of a recorded entry goes unnoticed, exactly when the record is
legible. -/
theorem evidence_digest_binds_iff (injective : Function.Injective sha256) :
    (∀ prevHash seq record,
      (∀ other, computeHash sha256 prevHash seq record = computeHash sha256 prevHash seq other →
        other = record) ↔ record.Legible) ∧
    ∀ (records : List WormRecord) position record, records[position]? = some record →
      ((∀ other, other ≠ record →
        ((new.recordAll sha256 records).edit position other).verifyChain sha256 = false) ↔
        record.Legible) := by
  constructor
  · intro prevHash seq record
    simp only [compute_hash_eq_iff injective, and_imp]
    exact record.legible_iff.symm
  · intro records position record found
    obtain ⟨entry, listed, rfl⟩ := record_all_entry sha256 found
    have verified : (new.recordAll sha256 records).verifyChain sha256 = true :=
      record_all_verify_chain new_verify_chain records
    rw [entry.toWormRecord.legible_iff]
    constructor
    · intro noticed other bodies outcomes
      by_contra different
      have passes := (edit_verify_chain_iff verified listed other).mpr
        ((compute_hash_eq_iff injective _ _ _ _).mpr ⟨bodies.symm, outcomes.symm⟩)
      rw [noticed other different] at passes
      exact Bool.false_ne_true passes
    · intro alone other different
      rw [← Bool.not_eq_true, edit_verify_chain_iff verified listed]
      intro same
      obtain ⟨bodies, outcomes⟩ := (compute_hash_eq_iff injective _ _ _ _).mp same
      exact different (alone other bodies.symm outcomes.symm)

end Binding

/-- A denial as `BootAllowlist` records it. -/
def recordedDenial (moduleId : String) : WormRecord where
  moduleId := moduleId
  instanceId := none
  tier := none
  authorized := false
  reason := some "module is not in the boot allowlist"
  shadowMarshal := none

def gridDenialHash : Bytes → Bytes :=
  Sha256.tabulated
    [hashInput zeroHash 0 (recordedDenial "grid"),
      hashInput zeroHash 0 { recordedDenial "grid" with authorized := true }]

/-- Turning the denial of a plain module id into an authorization is noticed. -/
theorem grid_denial_edit_noticed :
    ((new.recordAll gridDenialHash [recordedDenial "grid"]).edit 0
      { recordedDenial "grid" with authorized := true }).verifyChain gridDenialHash = false :=
  ((evidence_digest_binds_iff
      (Sha256.tabulated_injective (by decide +kernel))).2 _ 0 (recordedDenial "grid") rfl).mpr
    ⟨by decide +kernel, WormRecord.single_reading_of_plain (by decide +kernel)⟩ _ (by decide +kernel)

/-- A denial whose module id holds flag characters, and the authorization at the
critical tier that hashes the same. -/
def disguisedDenial : WormRecord := recordedDenial "grid\x00\x01t1\x01"

def disguisedGrant : WormRecord where
  moduleId := "grid"
  instanceId := none
  tier := some .t1Critical
  authorized := true
  reason := some "\x00\x00\x00module is not in the boot allowlist"
  shadowMarshal := none

def disguisedHash : Bytes → Bytes :=
  Sha256.tabulated [hashInput zeroHash 0 disguisedDenial]

/-- The recorded denial can be rewritten into the grant, and the chain still
verifies; so can an absent reason into an empty one. -/
theorem disguised_denial_edit_unnoticed :
    Function.Injective disguisedHash ∧ disguisedGrant ≠ disguisedDenial ∧
      computeHash disguisedHash zeroHash 0 disguisedDenial =
        computeHash disguisedHash zeroHash 0 disguisedGrant ∧
      ((new.recordAll disguisedHash [disguisedDenial]).edit 0
        disguisedGrant).verifyChain disguisedHash = true ∧
      hashInput zeroHash 0 { disguisedDenial with reason := none } =
        hashInput zeroHash 0 { disguisedDenial with reason := some "" } :=
  ⟨Sha256.tabulated_injective (by decide +kernel), by decide, by decide +kernel,
    by decide +kernel, rfl⟩

end Runix.Citadel
