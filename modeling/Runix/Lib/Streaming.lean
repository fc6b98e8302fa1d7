import Mathlib.Data.List.Infix

/-!
# Streaming decoders

A wire format gives each valid value a word.  A typed decoder reads a value off the
front of a buffer; a status function says of the same buffer that it holds a word,
that more bytes are needed, or that it is bad.  `Streams` says that the two agree with
the format and with each other: the decoder reads exactly the valid words, a bad buffer
stays bad, and more bytes are asked for exactly before the end of a word and on the
`stuck` buffers, which no bytes complete although the status function still waits.

Formats are built from tagged choices, so the rules below are about those.
-/

namespace Runix.Lib.Streaming

open List

variable {Letter Value : Type*}

/-- `Result<Option<usize>, ()>`: bad, more bytes needed, or the size of the word. -/
abbrev Step := Except Unit (Option Nat)

/-- Some bytes of a valid word are still missing. -/
def Open (encode : Value → List Letter) (Valid : Value → Prop) (buf : List Letter) : Prop :=
  ∃ value, Valid value ∧ buf <+: encode value ∧ buf ≠ encode value

structure Streams (status : List Letter → Step) (decode : List Letter → Option (Value × Nat))
    (encode : Value → List Letter) (Valid : Value → Prop) (stuck : List Letter → Prop) :
    Prop where
  decode_iff : ∀ buf value size, decode buf = some (value, size) ↔
    Valid value ∧ encode value <+: buf ∧ size = (encode value).length
  done_iff : ∀ buf size, status buf = .ok (some size) ↔ ∃ value, decode buf = some (value, size)
  bad_append : ∀ buf more, status buf = .error () → status (buf ++ more) = .error ()
  waits_iff : ∀ buf, status buf = .ok none ↔ Open encode Valid buf ∨ stuck buf
  stuck_lost : ∀ buf more, stuck buf → decode (buf ++ more) = none

variable {buf : List Letter}

namespace Streams

variable {status : List Letter → Step} {decode : List Letter → Option (Value × Nat)}
  {encode : Value → List Letter} {Valid : Value → Prop} {stuck : List Letter → Prop}

variable (streams : Streams status decode encode Valid stuck)

include streams

theorem decode_append {value : Value} {size : Nat} (found : decode buf = some (value, size))
    (more : List Letter) : decode (buf ++ more) = some (value, size) := by
  obtain ⟨valid, front, rfl⟩ := (streams.decode_iff buf value size).mp found
  exact (streams.decode_iff _ _ _).mpr ⟨valid, front.trans (prefix_append buf more), rfl⟩

theorem decode_encode {value : Value} (valid : Valid value) (rest : List Letter) :
    decode (encode value ++ rest) = some (value, (encode value).length) :=
  (streams.decode_iff _ _ _).mpr ⟨valid, prefix_append _ _, rfl⟩

theorem congr {Valid' : Value → Prop}
    {stuck' : List Letter → Prop} (valid : ∀ value, Valid value ↔ Valid' value)
    (same : ∀ buf, stuck buf ↔ stuck' buf) : Streams status decode encode Valid' stuck' := by
  obtain rfl : Valid = Valid' := funext fun value => propext (valid value)
  obtain rfl : stuck = stuck' := funext fun buf => propext (same buf)
  exact streams

end Streams

/-! ## Building formats -/

theorem streams_refused (encode : Value → List Letter) :
    Streams (fun _ => .error ()) (fun _ => none) encode (fun _ => False) fun _ => False where
  decode_iff := by simp
  done_iff := by simp
  bad_append := fun _ _ _ => rfl
  waits_iff := by simp [Open]
  stuck_lost := by simp

variable {encode : Value → List Letter}

theorem streams_empty {only : Value} (empty : encode only = []) :
    Streams (fun _ => .ok (some 0)) (fun _ => some (only, 0)) encode (fun value => value = only)
      fun _ => False where
  decode_iff := by
    intro buf value size
    constructor
    · intro found
      cases found
      exact ⟨rfl, by simp [empty], by simp [empty]⟩
    · rintro ⟨rfl, -, rfl⟩
      simp [empty]
  done_iff := by
    intro buf size
    simp [eq_comm]
  bad_append := by simp
  waits_iff := by
    intro buf
    simp [Open, empty]
  stuck_lost := by simp

theorem Streams.wrap {Whole : Type*} {status : List Letter → Step}
    {decode : List Letter → Option (Value × Nat)} {Valid : Value → Prop}
    {stuck : List Letter → Prop} (streams : Streams status decode encode Valid stuck)
    (wrap : Value → Whole) (encodeWhole : Whole → List Letter) (ValidWhole : Whole → Prop)
    (encoded : ∀ value, encodeWhole (wrap value) = encode value)
    (valid : ∀ whole, ValidWhole whole ↔ ∃ value, whole = wrap value ∧ Valid value) :
    Streams status (fun buf => (decode buf).map fun found => (wrap found.1, found.2)) encodeWhole
      ValidWhole stuck where
  decode_iff := by
    intro buf whole size
    rw [Option.map_eq_some_iff]
    constructor
    · rintro ⟨⟨value, size⟩, found, same⟩
      cases same
      obtain ⟨good, front, rfl⟩ := (streams.decode_iff _ _ _).mp found
      rw [encoded]
      exact ⟨(valid _).mpr ⟨value, rfl, good⟩, front, rfl⟩
    · rintro ⟨good, front, rfl⟩
      obtain ⟨value, rfl, validValue⟩ := (valid whole).mp good
      rw [encoded] at front ⊢
      exact ⟨(value, _), (streams.decode_iff _ _ _).mpr ⟨validValue, front, rfl⟩, rfl⟩
  done_iff := by
    intro buf size
    rw [streams.done_iff]
    constructor
    · rintro ⟨value, found⟩
      exact ⟨wrap value, by rw [found]; rfl⟩
    · rintro ⟨whole, found⟩
      obtain ⟨⟨value, same⟩, decoded, pair⟩ := Option.map_eq_some_iff.mp found
      cases pair
      exact ⟨value, decoded⟩
  bad_append := streams.bad_append
  waits_iff := by
    intro buf
    rw [streams.waits_iff]
    apply or_congr_left
    constructor
    · rintro ⟨value, good, front, short⟩
      exact ⟨wrap value, (valid _).mpr ⟨value, rfl, good⟩, by rwa [encoded], by rwa [encoded]⟩
    · rintro ⟨whole, good, front, short⟩
      obtain ⟨value, rfl, validValue⟩ := (valid whole).mp good
      rw [encoded] at front short
      exact ⟨value, validValue, front, short⟩
  stuck_lost := by
    intro buf more stopped
    rw [streams.stuck_lost buf more stopped, Option.map_none]

section Dispatch

def dispatchStatus (status : Letter → List Letter → Step) : List Letter → Step
  | [] => .ok none
  | tag :: rest => (status tag rest).map fun found => found.map (1 + ·)

def dispatchDecode (decode : Letter → List Letter → Option (Value × Nat)) :
    List Letter → Option (Value × Nat)
  | [] => none
  | tag :: rest => (decode tag rest).map fun found => (found.1, 1 + found.2)

def dispatchStuck (stuck : Letter → List Letter → Prop) : List Letter → Prop
  | [] => False
  | tag :: rest => stuck tag rest

variable {step : Step}

theorem shift_done_iff {size : Nat} :
    (step.map fun found => found.map (1 + ·)) = .ok (some size) ↔
      ∃ inner, step = .ok (some inner) ∧ size = 1 + inner := by
  cases step with
  | error bad => simp [Except.map]
  | ok found => cases found <;> simp [Except.map, eq_comm]

theorem shift_waits_iff :
    (step.map fun found => found.map (1 + ·)) = .ok none ↔ step = .ok none := by
  cases step with
  | error bad => simp [Except.map]
  | ok found => cases found <;> simp [Except.map]

theorem shift_bad_iff :
    (step.map fun found => found.map (1 + ·)) = .error () ↔ step = .error () := by
  cases step with
  | error bad => simp [Except.map]
  | ok found => cases found <;> simp [Except.map]

variable {status : Letter → List Letter → Step}
  {decode : Letter → List Letter → Option (Value × Nat)} {tag : Value → Letter}
  {body : Value → List Letter} {Valid : Value → Prop} {stuck : Letter → List Letter → Prop}

/-- A choice by the first byte among formats, one for the values with each tag. -/
theorem streams_dispatch (inhabited : ∃ value, Valid value)
    (each : ∀ letter, Streams (status letter) (decode letter) body
      (fun value => tag value = letter ∧ Valid value) (stuck letter)) :
    Streams (dispatchStatus status) (dispatchDecode decode) (fun value => tag value :: body value)
      Valid (dispatchStuck stuck) where
  decode_iff := by
    intro buf value size
    cases buf with
    | nil => simp [dispatchDecode]
    | cons letter rest =>
      rw [dispatchDecode, Option.map_eq_some_iff, cons_prefix_cons, length_cons]
      constructor
      · rintro ⟨⟨found, length⟩, decoded, same⟩
        cases same
        obtain ⟨⟨tagged, valid⟩, front, rfl⟩ := ((each letter).decode_iff _ _ _).mp decoded
        exact ⟨valid, ⟨tagged, front⟩, Nat.add_comm _ _⟩
      · rintro ⟨valid, ⟨tagged, front⟩, rfl⟩
        exact ⟨(value, (body value).length),
          ((each letter).decode_iff _ _ _).mpr ⟨⟨tagged, valid⟩, front, rfl⟩,
          by rw [Nat.add_comm]⟩
  done_iff := by
    intro buf size
    cases buf with
    | nil => simp [dispatchStatus, dispatchDecode]
    | cons letter rest =>
      rw [dispatchStatus, dispatchDecode, shift_done_iff]
      simp only [(each letter).done_iff, Option.map_eq_some_iff, Prod.mk.injEq]
      constructor
      · rintro ⟨inner, ⟨value, decoded⟩, rfl⟩
        exact ⟨value, (value, inner), decoded, rfl, rfl⟩
      · rintro ⟨value, ⟨found, inner⟩, decoded, rfl, rfl⟩
        exact ⟨inner, ⟨found, decoded⟩, rfl⟩
  bad_append := by
    intro buf more bad
    cases buf with
    | nil => simp [dispatchStatus] at bad
    | cons letter rest =>
      rw [cons_append, dispatchStatus, shift_bad_iff]
      exact (each letter).bad_append rest more (shift_bad_iff.mp bad)
  waits_iff := by
    intro buf
    cases buf with
    | nil =>
      obtain ⟨value, valid⟩ := inhabited
      exact iff_of_true rfl (.inl ⟨value, valid, nil_prefix, by simp⟩)
    | cons letter rest =>
      rw [dispatchStatus, shift_waits_iff, (each letter).waits_iff]
      apply or_congr_left
      constructor
      · rintro ⟨value, ⟨rfl, valid⟩, front, short⟩
        exact ⟨value, valid, (prefix_cons_inj _).mpr front, by simpa using short⟩
      · rintro ⟨value, valid, front, short⟩
        obtain ⟨rfl, inner⟩ := cons_prefix_cons.mp front
        exact ⟨value, ⟨rfl, valid⟩, inner, by simpa using short⟩
  stuck_lost := by
    intro buf more stopped
    cases buf with
    | nil => exact absurd stopped id
    | cons letter rest =>
      rw [cons_append, dispatchDecode, (each letter).stuck_lost rest more stopped,
        Option.map_none]

end Dispatch

section Blob

variable (width limit : Nat) (length : List Letter → Nat)

/-- A length field of `width` letters, at most `limit`, and a body of that length. -/
def blobStatus (parse : List Letter → Option Value) (buf : List Letter) : Step :=
  if buf.length < width then .ok none
  else if length (buf.take width) > limit then .error ()
  else if buf.length < width + length (buf.take width) then .ok none
  else if (parse ((buf.drop width).take (length (buf.take width)))).isNone then .error ()
  else .ok (some (width + length (buf.take width)))

def blobDecode (parse : List Letter → Option Value) (buf : List Letter) : Option (Value × Nat) :=
  if buf.length < width then none
  else if length (buf.take width) > limit then none
  else if buf.length < width + length (buf.take width) then none
  else (parse ((buf.drop width).take (length (buf.take width)))).map fun value =>
    (value, width + length (buf.take width))

/-- The length field cannot end within the limit, or the body cannot go on to its end,
and neither is complete yet. -/
def blobStuck (header : Nat → List Letter)
    (body : Value → List Letter) (buf : List Letter) : Prop :=
  (buf.length < width ∧ ¬ ∃ size ≤ limit, buf <+: header size) ∨
    width ≤ buf.length ∧ length (buf.take width) ≤ limit ∧
      buf.length < width + length (buf.take width) ∧
        ¬ ∃ value, (body value).length = length (buf.take width) ∧ buf.drop width <+: body value

variable {width limit : Nat} {length : List Letter → Nat} {header : Nat → List Letter}
  {parse : List Letter → Option Value} {body : Value → List Letter}

/-- The length field and the body are written and read by inverse functions, and a body
of every size up to the limit exists. -/
structure BlobFormat (width limit : Nat) (length : List Letter → Nat)
    (header : Nat → List Letter) (parse : List Letter → Option Value)
    (body : Value → List Letter) : Prop where
  header_length : ∀ size, (header size).length = width
  length_header : ∀ size ≤ limit, length (header size) = size
  header_of_length : ∀ letters, letters.length = width → header (length letters) = letters
  parse_iff : ∀ letters value, parse letters = some value ↔ body value = letters
  sizes : ∀ size ≤ limit, ∃ value, (body value).length = size

theorem short_or_split (width : Nat) (buf : List Letter) :
    buf.length < width ∨ ∃ field rest, field.length = width ∧ buf = field ++ rest := by
  rcases Nat.lt_or_ge buf.length width with short | long
  · exact .inl short
  · exact .inr ⟨buf.take width, buf.drop width, by simp [long], (take_append_drop ..).symm⟩

theorem append_prefix_append_iff {first second rest rest' : List Letter}
    (lengths : first.length = second.length) :
    first ++ rest <+: second ++ rest' ↔ first = second ∧ rest <+: rest' := by
  constructor
  · rintro ⟨more, same⟩
    rw [append_assoc] at same
    obtain ⟨rfl, tails⟩ := append_inj same lengths
    exact ⟨rfl, more, tails⟩
  · rintro ⟨rfl, more, rfl⟩
    exact ⟨more, append_assoc ..⟩

theorem blob_status_short (short : buf.length < width) :
    blobStatus width limit length parse buf = .ok none :=
  if_pos short

theorem blob_decode_short (short : buf.length < width) :
    blobDecode width limit length parse buf = none :=
  if_pos short

variable {field : List Letter}

theorem blob_status_append (full : field.length = width) (rest : List Letter) :
    blobStatus width limit length parse (field ++ rest) =
      if length field > limit then .error ()
      else if rest.length < length field then .ok none
      else if (parse (rest.take (length field))).isNone then .error ()
      else .ok (some (width + length field)) := by
  subst full
  have long : ¬ field.length + rest.length < field.length := by omega
  simp [blobStatus, long]

theorem blob_decode_append (full : field.length = width) (rest : List Letter) :
    blobDecode width limit length parse (field ++ rest) =
      if length field > limit then none
      else if rest.length < length field then none
      else (parse (rest.take (length field))).map fun value => (value, width + length field) := by
  subst full
  have long : ¬ field.length + rest.length < field.length := by omega
  simp [blobDecode, long]

theorem blob_stuck_append (full : field.length = width) (rest : List Letter) :
    blobStuck width limit length header body (field ++ rest) ↔
      length field ≤ limit ∧ rest.length < length field ∧
        ¬ ∃ value, (body value).length = length field ∧ rest <+: body value := by
  subst full
  have long : ¬ field.length + rest.length < field.length := by omega
  simp [blobStuck, long]

variable (format : BlobFormat width limit length header parse body)

include format

theorem BlobFormat.header_eq_iff (full : field.length = width) {size : Nat} (bound : size ≤ limit) :
    header size = field ↔ length field = size := by
  constructor
  · rintro rfl
    exact format.length_header size bound
  · rintro rfl
    exact format.header_of_length field full

theorem BlobFormat.decode_iff (buf : List Letter) (value : Value) (size : Nat) :
    blobDecode width limit length parse buf = some (value, size) ↔
      (body value).length ≤ limit ∧ header (body value).length ++ body value <+: buf ∧
        size = (header (body value).length ++ body value).length := by
  rcases short_or_split width buf with short | ⟨field, rest, full, rfl⟩
  · rw [blob_decode_short short]
    refine iff_of_false (by simp) ?_
    rintro ⟨-, front, -⟩
    have longer := front.length_le
    rw [length_append, format.header_length] at longer
    omega
  have lengths : (header (body value).length).length = field.length :=
    (format.header_length _).trans full.symm
  rw [blob_decode_append full, append_prefix_append_iff lengths, length_append,
    format.header_length]
  split_ifs with above short
  · refine iff_of_false (by simp) ?_
    rintro ⟨bound, ⟨same, -⟩, -⟩
    rw [format.header_eq_iff full bound] at same
    omega
  · refine iff_of_false (by simp) ?_
    rintro ⟨bound, ⟨same, front⟩, -⟩
    rw [format.header_eq_iff full bound] at same
    have longer := front.length_le
    omega
  simp only [Option.map_eq_some_iff, Prod.mk.injEq, format.parse_iff]
  constructor
  · rintro ⟨found, parsed, rfl, rfl⟩
    have size : (body found).length = length field := by
      rw [parsed, length_take]
      omega
    rw [size]
    refine ⟨by omega, ⟨format.header_of_length field full, ?_⟩, rfl⟩
    rw [parsed]
    exact take_prefix _ _
  · rintro ⟨bound, ⟨same, front⟩, rfl⟩
    rw [format.header_eq_iff full bound] at same
    exact ⟨value, by rw [same]; exact prefix_iff_eq_take.mp front, rfl, by rw [same]⟩

theorem BlobFormat.waits_short (short : buf.length < width) :
    Open (fun value => header (body value).length ++ body value)
        (fun value => (body value).length ≤ limit) buf ∨
      blobStuck width limit length header body buf := by
  by_cases fits : ∃ size ≤ limit, buf <+: header size
  · obtain ⟨size, bound, front⟩ := fits
    obtain ⟨value, rfl⟩ := format.sizes size bound
    refine .inl ⟨value, bound, front.trans (prefix_append _ _), ?_⟩
    intro whole
    have lengths := congrArg List.length whole
    simp only [length_append, format.header_length] at lengths
    omega
  · exact .inr (.inl ⟨short, fits⟩)

/-- After it, a buffer is open when its body is a proper front of a body of the length
given. -/
theorem BlobFormat.open_append_iff (full : field.length = width) (rest : List Letter) :
    Open (fun value => header (body value).length ++ body value)
        (fun value => (body value).length ≤ limit) (field ++ rest) ↔
      length field ≤ limit ∧ rest.length < length field ∧
        ∃ value, (body value).length = length field ∧ rest <+: body value := by
  constructor
  · rintro ⟨value, bound, front, proper⟩
    simp only at front proper
    rw [append_prefix_append_iff (full.trans (format.header_length _).symm), eq_comm,
      format.header_eq_iff full bound] at front
    have shorter : rest.length < (body value).length := by
      refine Nat.lt_of_le_of_ne front.2.length_le fun same => proper ?_
      rw [front.2.eq_of_length same, (format.header_eq_iff full bound).mpr front.1]
    exact ⟨by omega, by omega, value, front.1.symm, front.2⟩
  · rintro ⟨within, short, value, size, front⟩
    refine ⟨value, by omega, ?_, ?_⟩
    · simp only [size, format.header_of_length field full]
      exact (prefix_append_right_inj field).mpr front
    · intro whole
      have lengths := congrArg List.length whole
      simp only [length_append, format.header_length] at lengths
      omega

theorem streams_blob :
    Streams (blobStatus width limit length parse) (blobDecode width limit length parse)
      (fun value => header (body value).length ++ body value)
      (fun value => (body value).length ≤ limit)
      (blobStuck width limit length header body) where
  decode_iff := format.decode_iff
  done_iff := by
    intro buf size
    rcases short_or_split width buf with short | ⟨field, rest, full, rfl⟩
    · simp [blob_status_short short, blob_decode_short short]
    · rw [blob_status_append full, blob_decode_append full]
      cases parsed : parse (rest.take (length field)) <;> split_ifs <;> simp_all
  bad_append := by
    intro buf more bad
    rcases short_or_split width buf with short | ⟨field, rest, full, rfl⟩
    · simp [blob_status_short short] at bad
    rw [append_assoc, blob_status_append full]
    rw [blob_status_append full] at bad
    split_ifs at bad with above short none
    · rw [if_pos above]
    have enough : ¬ (rest ++ more).length < length field := by
      rw [length_append]
      omega
    rw [if_neg above, if_neg enough, take_append_of_le_length (by omega), if_pos none]
  waits_iff := by
    intro buf
    rcases short_or_split width buf with short | ⟨field, rest, full, rfl⟩
    · rw [blob_status_short short]
      exact iff_of_true rfl (format.waits_short short)
    rw [blob_status_append full, blob_stuck_append full, format.open_append_iff full]
    by_cases goes : ∃ value, (body value).length = length field ∧ rest <+: body value
    · split_ifs <;> simp [goes] <;> omega
    · split_ifs <;> simp [goes] <;> omega
  stuck_lost := by
    intro buf more stopped
    apply Option.eq_none_iff_forall_ne_some.mpr
    rintro ⟨value, size⟩ decoded
    obtain ⟨bound, front, -⟩ := (format.decode_iff _ _ _).mp decoded
    rcases short_or_split width buf with short | ⟨field, rest, full, rfl⟩
    · rcases stopped with ⟨-, none⟩ | ⟨long, -⟩
      · -- The length field begins with the buffer.
        refine none ⟨(body value).length, bound, ?_⟩
        apply prefix_of_prefix_length_le (prefix_append buf more)
          ((prefix_append _ _).trans front)
        rw [format.header_length]
        exact Nat.le_of_lt short
      · omega
    · rw [blob_stuck_append full] at stopped
      rw [append_assoc, append_prefix_append_iff ((format.header_length _).trans full.symm),
        format.header_eq_iff full bound] at front
      refine stopped.2.2 ⟨value, front.1.symm, ?_⟩
      apply prefix_of_prefix_length_le (prefix_append rest more) front.2
      omega

end Blob

end Runix.Lib.Streaming
