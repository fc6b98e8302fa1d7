import Runix.Lib.Streaming
import Runix.Lib.ByteStrings

/-!
# The MARSHAL wire format

`ipc/src/marshal.rs`: requests and responses as a tag byte and length-prefixed fields.
A response is read twice: `decode` builds it, and `decode_status` tells a partial
buffer from a bad one.
-/

namespace Runix.Ipc

open Lib Lib.ByteStrings Lib.Streaming

def maxJsonLen : Nat := 16384

def maxMessageLen : Nat := 256

def encodeBytes (bytes : Bytes) : Bytes := leBytes 4 bytes.length ++ bytes

variable (buf : Bytes)

def decodeBytes : Option (Bytes × Nat) :=
  if buf.length < 4 then none
  else
    let len := leNat (buf.take 4)
    if len > maxJsonLen then none
    else if buf.length < 4 + len then none
    else some ((buf.drop 4).take len, 4 + len)

def encodeString (text : String) : Bytes := leBytes 2 (utf8 text).length ++ utf8 text

def decodeString : Option (String × Nat) :=
  if buf.length < 2 then none
  else
    let len := leNat (buf.take 2)
    if len > maxMessageLen then none
    else if buf.length < 2 + len then none
    else (Utf8.fromUtf8 ((buf.drop 2).take len)).map fun text => (text, 2 + len)

def statusBytes : Step :=
  if buf.length < 4 then .ok none
  else
    let len := leNat (buf.take 4)
    if len > maxJsonLen then .error ()
    else if buf.length < 4 + len then .ok none
    else .ok (some (4 + len))

def statusString : Step :=
  if buf.length < 2 then .ok none
  else
    let len := leNat (buf.take 2)
    if len > maxMessageLen then .error ()
    else if buf.length < 2 + len then .ok none
    else if (Utf8.fromUtf8 ((buf.drop 2).take len)).isNone then .error ()
    else .ok (some (2 + len))

structure MarshalRequest where
  kerkeseJson : Bytes
deriving DecidableEq, Repr

namespace MarshalRequest

def encode (request : MarshalRequest) : Bytes := encodeBytes request.kerkeseJson

def decode (buf : Bytes) : Option (MarshalRequest × Nat) :=
  (decodeBytes buf).map fun found => (⟨found.1⟩, found.2)

end MarshalRequest

inductive MarshalOutcome where
  | execute
  | refuse
  | hardStop
deriving DecidableEq, Repr

namespace MarshalOutcome

def toByte : MarshalOutcome → UInt8
  | .execute => 0
  | .refuse => 1
  | .hardStop => 2

def fromByte (byte : UInt8) : Option MarshalOutcome :=
  match byte with
  | 0 => some .execute
  | 1 => some .refuse
  | 2 => some .hardStop
  | _ => none

end MarshalOutcome

inductive MarshalError where
  | unreachable (message : String)
  | timeout
  | badResponse (message : String)
  | other (message : String)
  | policyRefused (message : String)
deriving DecidableEq, Repr

namespace MarshalError

def tag : MarshalError → UInt8
  | .unreachable _ => 0
  | .timeout => 1
  | .badResponse _ => 2
  | .other _ => 3
  | .policyRefused _ => 4

def body : MarshalError → Bytes
  | .unreachable message => encodeString message
  | .timeout => []
  | .badResponse message => encodeString message
  | .other message => encodeString message
  | .policyRefused message => encodeString message

def encode (error : MarshalError) : Bytes := error.tag :: error.body

def decode (buf : Bytes) : Option (MarshalError × Nat) :=
  match buf with
  | [] => none
  | tag :: rest =>
    match tag with
    | 0 => (decodeString rest).map fun found => (.unreachable found.1, 1 + found.2)
    | 1 => some (.timeout, 1)
    | 2 => (decodeString rest).map fun found => (.badResponse found.1, 1 + found.2)
    | 3 => (decodeString rest).map fun found => (.other found.1, 1 + found.2)
    | 4 => (decodeString rest).map fun found => (.policyRefused found.1, 1 + found.2)
    | _ => none

def status (buf : Bytes) : Step :=
  match buf with
  | [] => .ok none
  | tag :: rest =>
    match tag with
    | 1 => .ok (some 1)
    | 0 | 2 | 3 | 4 => (statusString rest).map fun found => found.map (1 + ·)
    | _ => .error ()

end MarshalError

inductive MarshalResponse where
  | decision (outcome : MarshalOutcome) (decisionJson : Bytes)
  | error (cause : MarshalError)
deriving DecidableEq, Repr

/-- `Complete` carries the response and the bytes consumed. -/
inductive ResponseDecode where
  | complete (response : MarshalResponse) (consumed : Nat)
  | incomplete
  | malformed
deriving DecidableEq, Repr

namespace MarshalResponse

def encode : MarshalResponse → Bytes
  | .decision outcome decisionJson => 0 :: outcome.toByte :: encodeBytes decisionJson
  | .error cause => 1 :: cause.encode

def decode (buf : Bytes) : Option (MarshalResponse × Nat) :=
  match buf with
  | [] => none
  | tag :: rest =>
    match tag with
    | 0 =>
      match rest with
      | [] => none
      | outcomeByte :: json =>
        match MarshalOutcome.fromByte outcomeByte with
        | none => none
        | some outcome =>
          (decodeBytes json).map fun found => (.decision outcome found.1, 2 + found.2)
    | 1 => (MarshalError.decode rest).map fun found => (.error found.1, 1 + found.2)
    | _ => none

/-- The framing verdict of `decode_status`, before the response is built. -/
def verdict (buf : Bytes) : Except Unit (Option Unit) :=
  match buf with
  | [] => .ok none
  | tag :: rest =>
    match tag with
    | 0 =>
      match rest with
      | [] => .ok none
      | outcomeByte :: json =>
        if (MarshalOutcome.fromByte outcomeByte).isNone then .error ()
        else (statusBytes json).map fun found => found.map fun _ => ()
    | 1 => (MarshalError.status rest).map fun found => found.map fun _ => ()
    | _ => .error ()

def decodeStatus (buf : Bytes) : ResponseDecode :=
  match verdict buf with
  | .error () => .malformed
  | .ok none => .incomplete
  | .ok (some ()) =>
    match decode buf with
    | some (response, consumed) => .complete response consumed
    | none => .malformed

end MarshalResponse

/-! ## The format -/

def MarshalError.Bounded : MarshalError → Prop
  | .unreachable message => (utf8 message).length ≤ maxMessageLen
  | .timeout => True
  | .badResponse message => (utf8 message).length ≤ maxMessageLen
  | .other message => (utf8 message).length ≤ maxMessageLen
  | .policyRefused message => (utf8 message).length ≤ maxMessageLen

def MarshalResponse.Bounded : MarshalResponse → Prop
  | .decision _ decisionJson => decisionJson.length ≤ maxJsonLen
  | .error cause => cause.Bounded

/-- The bytes of a length received so far exceed the bound already. -/
def StuckBytes (buf : Bytes) : Prop := buf.length < 4 ∧ maxJsonLen < leNat buf

/-- The bytes of a message received so far do not begin a text of the length given. -/
def StuckString (buf : Bytes) : Prop :=
  2 ≤ buf.length ∧ leNat (buf.take 2) ≤ maxMessageLen ∧ buf.length < 2 + leNat (buf.take 2) ∧
    ¬ Utf8.Begins (leNat (buf.take 2)) (buf.drop 2)

theorem bytes_format :
    BlobFormat 4 maxJsonLen leNat (leBytes 4) (some : Bytes → Option Bytes) id where
  header_length := le_bytes_length 4
  length_header := by
    intro size bound
    apply le_nat_le_bytes
    exact Nat.lt_of_le_of_lt bound (by decide)
  header_of_length := fun _ full => le_bytes_of_le_nat full
  parse_iff := by
    intro letters value
    rw [Option.some.injEq, id_eq, eq_comm]
  sizes := fun size _ => ⟨List.replicate size 0, by simp⟩

theorem string_format : BlobFormat 2 maxMessageLen leNat (leBytes 2) Utf8.fromUtf8 utf8 where
  header_length := le_bytes_length 2
  length_header := by
    intro size bound
    apply le_nat_le_bytes
    exact Nat.lt_of_le_of_lt bound (by decide)
  header_of_length := fun _ full => le_bytes_of_le_nat full
  parse_iff := fun _ _ => Utf8.from_utf8_eq_some_iff
  sizes := fun size _ => Utf8.exists_text_of_size size

variable (buf : Bytes)

theorem stuck_bytes_iff :
    blobStuck 4 maxJsonLen leNat (leBytes 4) (id : Bytes → Bytes) buf ↔ StuckBytes buf := by
  constructor
  · rintro (⟨short, above⟩ | ⟨-, -, short, stops⟩)
    · rw [le_front_iff (Nat.le_of_lt short)] at above
      exact ⟨short, Nat.lt_of_not_le above⟩
    · -- Any bytes go on to a body of any larger size.
      refine absurd ⟨buf.drop 4 ++ List.replicate
        (leNat (buf.take 4) - (buf.drop 4).length) 0, ?_, List.prefix_append _ _⟩ stops
      simp only [id_eq, List.length_append, List.length_replicate, List.length_drop]
      omega
  · rintro ⟨short, above⟩
    refine .inl ⟨short, ?_⟩
    rw [le_front_iff (Nat.le_of_lt short)]
    exact Nat.not_le_of_lt above

theorem stuck_string_iff :
    blobStuck 2 maxMessageLen leNat (leBytes 2) utf8 buf ↔ StuckString buf := by
  have begins : (∃ text, (utf8 text).length = leNat (buf.take 2) ∧ buf.drop 2 <+: utf8 text) ↔
      Utf8.Begins (leNat (buf.take 2)) (buf.drop 2) := by
    simp only [Utf8.Begins, and_comm]
  unfold blobStuck StuckString
  rw [begins]
  refine or_iff_right ?_
  rintro ⟨short, above⟩
  -- One byte of the length is below the bound.
  rw [le_front_iff (Nat.le_of_lt short)] at above
  match buf, short with
  | [], _ => exact above (Nat.zero_le _)
  | [byte], _ =>
    have small := byte.toNat_lt
    simp only [leNat, maxMessageLen] at above
    omega

theorem bytes_stream :
    Streams statusBytes decodeBytes encodeBytes (fun bytes => bytes.length ≤ maxJsonLen)
      StuckBytes := by
  have status : statusBytes = blobStatus 4 maxJsonLen leNat (some : Bytes → Option Bytes) := by
    funext buf
    simp [statusBytes, blobStatus]
  have decode : decodeBytes = blobDecode 4 maxJsonLen leNat (some : Bytes → Option Bytes) := by
    funext buf
    simp [decodeBytes, blobDecode]
  exact (streams_blob bytes_format).congr (fun _ => Iff.rfl) stuck_bytes_iff

theorem string_stream :
    Streams statusString decodeString encodeString
      (fun text => (utf8 text).length ≤ maxMessageLen) StuckString :=
  (streams_blob string_format).congr (fun _ => Iff.rfl) stuck_string_iff

/-! An error: a tag, then a message for every kind but the timeout. -/

def errorStatus (tag : UInt8) : Bytes → Step :=
  match tag with
  | 1 => fun _ => .ok (some 0)
  | 0 | 2 | 3 | 4 => statusString
  | _ => fun _ => .error ()

def errorDecode (tag : UInt8) : Bytes → Option (MarshalError × Nat) :=
  match tag with
  | 0 => fun rest => (decodeString rest).map fun found => (.unreachable found.1, found.2)
  | 1 => fun _ => some (.timeout, 0)
  | 2 => fun rest => (decodeString rest).map fun found => (.badResponse found.1, found.2)
  | 3 => fun rest => (decodeString rest).map fun found => (.other found.1, found.2)
  | 4 => fun rest => (decodeString rest).map fun found => (.policyRefused found.1, found.2)
  | _ => fun _ => none

def CarriesMessage (tag : UInt8) : Prop := tag = 0 ∨ tag = 2 ∨ tag = 3 ∨ tag = 4

instance (tag : UInt8) : Decidable (CarriesMessage tag) :=
  inferInstanceAs (Decidable (_ ∨ _ ∨ _ ∨ _))

theorem error_status_eq : MarshalError.status = dispatchStatus errorStatus := by
  funext buf
  cases buf with
  | nil => rfl
  | cons tag rest =>
    simp only [MarshalError.status, dispatchStatus, errorStatus]
    split <;> rfl

theorem error_decode_eq : MarshalError.decode = dispatchDecode errorDecode := by
  funext buf
  cases buf with
  | nil => rfl
  | cons tag rest =>
    simp only [MarshalError.decode, dispatchDecode, errorDecode]
    split <;> simp [Function.comp_def]

theorem message_stream {tag : UInt8} (carries : CarriesMessage tag) (kind : String → MarshalError)
    (body : ∀ message, (kind message).body = encodeString message)
    (valid : ∀ cause : MarshalError, cause.tag = tag ∧ cause.Bounded ↔
      ∃ message, cause = kind message ∧ (utf8 message).length ≤ maxMessageLen) :
    Streams statusString
      (fun rest => (decodeString rest).map fun found => (kind found.1, found.2))
      MarshalError.body (fun cause => cause.tag = tag ∧ cause.Bounded)
      (fun rest => CarriesMessage tag ∧ StuckString rest) := by
  simp only [carries, true_and]
  exact string_stream.wrap kind MarshalError.body _ body valid

theorem error_body_stream (tag : UInt8) :
    Streams (errorStatus tag) (errorDecode tag) MarshalError.body
      (fun cause => cause.tag = tag ∧ cause.Bounded)
      (fun rest => CarriesMessage tag ∧ StuckString rest) := by
  by_cases carries : CarriesMessage tag
  · obtain rfl | rfl | rfl | rfl := carries
    · apply message_stream (by decide) .unreachable (fun _ => rfl)
      rintro (_ | _ | _ | _ | _) <;> simp [MarshalError.tag, MarshalError.Bounded]
    · apply message_stream (by decide) .badResponse (fun _ => rfl)
      rintro (_ | _ | _ | _ | _) <;> simp [MarshalError.tag, MarshalError.Bounded]
    · apply message_stream (by decide) .other (fun _ => rfl)
      rintro (_ | _ | _ | _ | _) <;> simp [MarshalError.tag, MarshalError.Bounded]
    · apply message_stream (by decide) .policyRefused (fun _ => rfl)
      rintro (_ | _ | _ | _ | _) <;> simp [MarshalError.tag, MarshalError.Bounded]
  · by_cases timeout : tag = 1
    · subst timeout
      have stream : Streams (fun _ => .ok (some 0)) (fun _ => some (MarshalError.timeout, 0))
          MarshalError.body (fun cause => cause = .timeout) fun _ => False := streams_empty rfl
      apply stream.congr
      · rintro (_ | _ | _ | _ | _) <;> simp [MarshalError.tag, MarshalError.Bounded]
      · simp [carries]
    · have status : errorStatus tag = fun _ => .error () := by
        unfold errorStatus
        split <;> simp_all [CarriesMessage]
      have decode : errorDecode tag = fun _ => none := by
        unfold errorDecode
        split <;> simp_all [CarriesMessage]
      rw [status, decode]
      apply (streams_refused MarshalError.body).congr
      · rintro (_ | _ | _ | _ | _) <;>
          simp_all [MarshalError.tag, MarshalError.Bounded, CarriesMessage, eq_comm]
      · simp [carries]

theorem error_stream :
    Streams MarshalError.status MarshalError.decode MarshalError.encode MarshalError.Bounded
      (dispatchStuck fun tag rest => CarriesMessage tag ∧ StuckString rest) := by
  rw [error_status_eq, error_decode_eq]
  exact streams_dispatch ⟨.timeout, trivial⟩ error_body_stream

/-! A decision: an outcome byte, then the JSON. -/

theorem from_byte_eq_some_iff (byte : UInt8) (outcome : MarshalOutcome) :
    MarshalOutcome.fromByte byte = some outcome ↔ outcome.toByte = byte := by
  unfold MarshalOutcome.fromByte
  split <;> cases outcome <;> simp_all [MarshalOutcome.toByte, eq_comm]

variable (outcomeByte : UInt8)

def decisionStatus : Bytes → Step :=
  if (MarshalOutcome.fromByte outcomeByte).isNone then fun _ => .error () else statusBytes

def decisionDecode : Bytes → Option ((MarshalOutcome × Bytes) × Nat) :=
  match MarshalOutcome.fromByte outcomeByte with
  | none => fun _ => none
  | some outcome => fun json => (decodeBytes json).map fun found => ((outcome, found.1), found.2)

def StuckDecision (json : Bytes) : Prop :=
  (MarshalOutcome.fromByte outcomeByte).isSome ∧ StuckBytes json

theorem decision_stream :
    Streams (dispatchStatus decisionStatus) (dispatchDecode decisionDecode)
      (fun decision => decision.1.toByte :: encodeBytes decision.2)
      (fun decision => decision.2.length ≤ maxJsonLen) (dispatchStuck StuckDecision) := by
  apply streams_dispatch ⟨(.execute, []), Nat.zero_le _⟩
  intro byte
  cases outcome : MarshalOutcome.fromByte byte with
  | none =>
    have status : decisionStatus byte = fun _ => .error () := by
      simp [decisionStatus, outcome]
    have decode : decisionDecode byte = fun _ => none := by
      simp [decisionDecode, outcome]
    rw [status, decode]
    apply (streams_refused _).congr
    · intro decision
      refine iff_of_false id ?_
      rintro ⟨same, -⟩
      rw [← from_byte_eq_some_iff, outcome] at same
      simp at same
    · simp [StuckDecision, outcome]
  | some known =>
    have status : decisionStatus byte = statusBytes := by
      simp [decisionStatus, outcome]
    have decode : decisionDecode byte =
        fun json => (decodeBytes json).map fun found => ((known, found.1), found.2) := by
      simp [decisionDecode, outcome]
    rw [status, decode]
    have wrapped := bytes_stream.wrap (fun json => (known, json))
      (fun decision => encodeBytes decision.2)
      (fun decision => decision.1.toByte = byte ∧ decision.2.length ≤ maxJsonLen)
      (fun _ => rfl) (by
        rintro ⟨other, json⟩
        rw [← from_byte_eq_some_iff, outcome]
        simp [eq_comm])
    exact wrapped.congr (fun _ => Iff.rfl) (by simp [StuckDecision, outcome])

/-! A response: a tag, then a decision or an error. -/

namespace MarshalResponse

def tag : MarshalResponse → UInt8
  | .decision .. => 0
  | .error _ => 1

def body : MarshalResponse → Bytes
  | .decision outcome decisionJson => outcome.toByte :: encodeBytes decisionJson
  | .error cause => cause.encode

def bodyStatus (tag : UInt8) : Bytes → Step :=
  match tag with
  | 0 => dispatchStatus decisionStatus
  | 1 => MarshalError.status
  | _ => fun _ => .error ()

def bodyDecode (tag : UInt8) : Bytes → Option (MarshalResponse × Nat) :=
  match tag with
  | 0 => fun rest => (dispatchDecode decisionDecode rest).map fun found =>
    (.decision found.1.1 found.1.2, found.2)
  | 1 => fun rest => (MarshalError.decode rest).map fun found => (.error found.1, found.2)
  | _ => fun _ => none

def StuckBody (tag : UInt8) (rest : Bytes) : Prop :=
  (tag = 0 ∧ dispatchStuck StuckDecision rest) ∨
    tag = 1 ∧ dispatchStuck (fun kind message => CarriesMessage kind ∧ StuckString message) rest

theorem body_stream (tag : UInt8) :
    Streams (bodyStatus tag) (bodyDecode tag) body
      (fun response => response.tag = tag ∧ response.Bounded) (StuckBody tag) := by
  by_cases decision : tag = 0
  · subst decision
    have wrapped := decision_stream.wrap (fun found => .decision found.1 found.2) body
      (fun response => response.tag = 0 ∧ response.Bounded) (fun _ => rfl) (by
        rintro (⟨outcome, json⟩ | cause) <;> simp [MarshalResponse.tag, Bounded])
    exact wrapped.congr (fun _ => Iff.rfl) (by simp [StuckBody])
  by_cases failure : tag = 1
  · subst failure
    have wrapped := error_stream.wrap .error body
      (fun response => response.tag = 1 ∧ response.Bounded) (fun _ => rfl) (by
        rintro (⟨outcome, json⟩ | cause) <;> simp [MarshalResponse.tag, Bounded])
    exact wrapped.congr (fun _ => Iff.rfl) (by simp [StuckBody])
  have status : bodyStatus tag = fun _ => .error () := by
    unfold bodyStatus
    split <;> simp_all
  have decode : bodyDecode tag = fun _ => none := by
    unfold bodyDecode
    split <;> simp_all
  rw [status, decode]
  apply (streams_refused body).congr
  · rintro (⟨outcome, json⟩ | cause) <;>
      simp_all [MarshalResponse.tag, eq_comm]
  · simp [StuckBody, decision, failure]

/-- The decoder still waits, although what it received of a length or of a message
cannot be completed within the format. -/
def Stuck (buf : Bytes) : Prop :=
  match buf with
  | tag :: kind :: rest =>
    (tag = 0 ∧ (MarshalOutcome.fromByte kind).isSome ∧ StuckBytes rest) ∨
      tag = 1 ∧ CarriesMessage kind ∧ StuckString rest
  | _ => False

theorem stuck_iff : dispatchStuck StuckBody buf ↔ Stuck buf := by
  match buf with
  | [] => exact Iff.rfl
  | [tag] => simp [dispatchStuck, StuckBody, Stuck]
  | tag :: kind :: rest => exact Iff.rfl

variable (response : MarshalResponse)

theorem encode_eq : response.encode = response.tag :: response.body := by
  cases response <;> rfl

theorem encode_ne_nil : response.encode ≠ [] := by
  rw [encode_eq]
  exact List.cons_ne_nil _ _

theorem decode_eq : decode = dispatchDecode bodyDecode := by
  funext buf
  cases buf with
  | nil => rfl
  | cons tag rest =>
    simp only [decode, dispatchDecode, bodyDecode]
    split
    · cases rest with
      | nil => rfl
      | cons outcomeByte json =>
        cases outcome : MarshalOutcome.fromByte outcomeByte with
        | none => simp [decisionDecode, outcome]
        | some known =>
          simp [decisionDecode, outcome, Function.comp_def, ← Nat.add_assoc]
    · simp [Function.comp_def]
    · rfl

theorem verdict_eq :
    verdict buf = (dispatchStatus bodyStatus buf).map fun found => found.map fun _ => () := by
  cases buf with
  | nil => rfl
  | cons tag rest =>
    simp only [verdict, dispatchStatus, bodyStatus]
    split
    · cases rest with
      | nil => rfl
      | cons outcomeByte json =>
        simp only [dispatchStatus, decisionStatus]
        split_ifs with unknown
        · rfl
        · cases statusBytes json with
          | error bad => rfl
          | ok found => cases found <;> rfl
    · cases MarshalError.status rest with
      | error bad => rfl
      | ok found => cases found <;> rfl
    · rfl

theorem response_stream : Streams (dispatchStatus bodyStatus) decode encode Bounded Stuck := by
  have encoding : encode = fun response => response.tag :: response.body := funext encode_eq
  rw [decode_eq, encoding]
  exact (streams_dispatch ⟨.error .timeout, trivial⟩ body_stream).congr (fun _ => Iff.rfl)
    stuck_iff

/-! ## The streaming verdict -/

theorem decode_status_cases :
    (dispatchStatus bodyStatus buf = .error () ∧ decodeStatus buf = .malformed) ∨
    (dispatchStatus bodyStatus buf = .ok none ∧ decodeStatus buf = .incomplete) ∨
    ∃ response consumed, dispatchStatus bodyStatus buf = .ok (some consumed) ∧
      decode buf = some (response, consumed) ∧
      decodeStatus buf = .complete response consumed := by
  unfold decodeStatus
  rw [verdict_eq]
  cases status : dispatchStatus bodyStatus buf with
  | error bad => exact .inl ⟨rfl, rfl⟩
  | ok found =>
    cases found with
    | none => exact .inr (.inl ⟨rfl, rfl⟩)
    | some consumed =>
      obtain ⟨response, decoded⟩ := (response_stream.done_iff buf consumed).mp status
      exact .inr (.inr ⟨response, consumed, rfl, decoded, by
        simp [Except.map, decoded]⟩)

theorem decode_status_complete_iff (consumed : Nat) :
    decodeStatus buf = .complete response consumed ↔ decode buf = some (response, consumed) := by
  have done := response_stream.done_iff buf consumed
  obtain ⟨status, verdict⟩ | ⟨status, verdict⟩ | ⟨found, size, -, decoded, verdict⟩ :=
    decode_status_cases buf
  · rw [status] at done
    simp only [verdict, reduceCtorEq, false_iff] at done ⊢
    exact fun decoded => done ⟨response, decoded⟩
  · rw [status] at done
    simp only [verdict, reduceCtorEq, Except.ok.injEq, false_iff] at done ⊢
    exact fun decoded => done ⟨response, decoded⟩
  · simp [verdict, decoded]

theorem decode_status_incomplete_iff :
    decodeStatus buf = .incomplete ↔ Open encode Bounded buf ∨ Stuck buf := by
  rw [← response_stream.waits_iff]
  obtain ⟨status, verdict⟩ | ⟨status, verdict⟩ | ⟨found, size, status, -, verdict⟩ :=
    decode_status_cases buf <;> simp [status, verdict]

theorem decode_status_malformed_iff :
    decodeStatus buf = .malformed ↔ dispatchStatus bodyStatus buf = .error () := by
  obtain ⟨status, verdict⟩ | ⟨status, verdict⟩ | ⟨found, size, status, -, verdict⟩ :=
    decode_status_cases buf <;> simp [status, verdict]

/-- What a complete reply is classified as does not depend on what follows it. -/
theorem decode_status_encode_append {response : MarshalResponse} (bounded : response.Bounded)
    (rest : Bytes) :
    decodeStatus (response.encode ++ rest) = .complete response response.encode.length :=
  (decode_status_complete_iff _ _ _).mpr (response_stream.decode_encode bounded rest)

/-- The status and the decoder agree on every buffer; a verdict other than
`Incomplete` is final; and every proper front of a response within the bounds is
`Incomplete`. -/
theorem decode_status_agrees_with_decode :
    (∀ buf response consumed,
      decodeStatus buf = .complete response consumed ↔
        decode buf = some (response, consumed)) ∧
    (∀ buf more, decodeStatus buf = .malformed → decodeStatus (buf ++ more) = .malformed) ∧
    (∀ buf more response consumed, decodeStatus buf = .complete response consumed →
      decodeStatus (buf ++ more) = .complete response consumed) ∧
    ∀ response front, Bounded response → front <+: encode response → front ≠ encode response →
      decodeStatus front = .incomplete := by
  refine ⟨decode_status_complete_iff, ?malformed, ?complete, ?started⟩
  case malformed =>
    intro buf more malformed
    rw [decode_status_malformed_iff] at malformed ⊢
    exact response_stream.bad_append buf more malformed
  case complete =>
    intro buf more response consumed complete
    rw [decode_status_complete_iff] at complete ⊢
    exact response_stream.decode_append complete more
  case started =>
    intro response front bounded isFront short
    exact (decode_status_incomplete_iff front).mpr (.inl ⟨response, bounded, isFront, short⟩)

/-- The first three bytes of a refusal are incomplete. -/
theorem refusal_front_incomplete : decodeStatus [0, 1, 2] = .incomplete :=
  decode_status_agrees_with_decode.2.2.2 (.decision .refuse [123, 125]) [0, 1, 2]
    (show 2 ≤ maxJsonLen by decide) (by decide) (by decide)

end MarshalResponse

end Runix.Ipc
