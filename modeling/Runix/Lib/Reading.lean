import Runix.Lib.Streaming

/-!
# Reading words off a buffer

A decoder of a wire format reads the word of a value off the front of a buffer and says
how long the word was.  `Reads` says that it reads exactly the words of the valid values.
Then no word is a proper front of another, and a receiver that appends one letter at a
time and decodes after each gets back every sequence of values it is sent.
-/

namespace Runix.Lib.Reading

open Lib.Streaming List

variable {Letter Value : Type*}

/-- The decoder finds a value exactly when the buffer begins with its word. -/
def Reads (decode : List Letter → Option (Value × Nat)) (encode : Value → List Letter)
    (Valid : Value → Prop) : Prop :=
  ∀ buf value size, decode buf = some (value, size) ↔
    Valid value ∧ encode value <+: buf ∧ size = (encode value).length

section Rules

variable {decode : List Letter → Option (Value × Nat)} {encode : Value → List Letter}
  {Valid : Value → Prop}

/-- A decoder that reads back every word, and finds nothing but words. -/
theorem reads_of_round_trip
    (round : ∀ value, Valid value → ∀ rest,
      decode (encode value ++ rest) = some (value, (encode value).length))
    (sound : ∀ buf value size, decode buf = some (value, size) →
      Valid value ∧ encode value <+: buf) :
    Reads decode encode Valid := by
  intro buf value size
  constructor
  · intro found
    obtain ⟨valid, rest, rfl⟩ := sound buf value size found
    rw [round value valid rest, Option.some.injEq, Prod.mk.injEq] at found
    exact ⟨valid, prefix_append _ _, found.2.symm⟩
  · rintro ⟨valid, ⟨rest, rfl⟩, rfl⟩
    exact round value valid rest

variable {buf : List Letter} {value : Value}

namespace Reads

variable (reads : Reads decode encode Valid)

include reads

theorem decode_encode (valid : Valid value) (rest : List Letter) :
    decode (encode value ++ rest) = some (value, (encode value).length) :=
  (reads _ _ _).mpr ⟨valid, prefix_append _ _, rfl⟩

theorem same_front {first second : Value} (firstValid : Valid first) (secondValid : Valid second)
    (firstFront : encode first <+: buf) (secondFront : encode second <+: buf) : first = second := by
  have one := (reads buf first _).mpr ⟨firstValid, firstFront, rfl⟩
  have other := (reads buf second _).mpr ⟨secondValid, secondFront, rfl⟩
  rw [one, Option.some.injEq, Prod.mk.injEq] at other
  exact other.1

theorem front_none (valid : Valid value) {front : List Letter} (isFront : front <+: encode value)
    (proper : front ≠ encode value) : decode front = none := by
  cases found : decode front with
  | none => rfl
  | some result =>
    obtain ⟨other, size⟩ := result
    obtain ⟨otherValid, word, -⟩ := (reads _ _ _).mp found
    obtain rfl := reads.same_front otherValid valid (word.trans isFront) prefix_rfl
    exact absurd (isFront.eq_of_length_le word.length_le) proper

theorem first_word (nothing : decode [] = none) {words : List Value}
    (valid : ∀ word ∈ words, Valid word) {later : List Letter}
    (stream : buf ++ later = words.flatMap encode) {size : Nat}
    (found : decode buf = some (value, size)) :
    ∃ rest, words = value :: rest ∧ buf.drop size ++ later = rest.flatMap encode := by
  obtain ⟨known, ⟨tail, rfl⟩, rfl⟩ := (reads _ _ _).mp found
  cases words with
  | nil =>
    have empty := (append_eq_nil_iff.mp stream).1
    rw [empty, nothing] at found
    cases found
  | cons word rest =>
    rw [flatMap_cons, append_assoc] at stream
    have front : encode value <+: encode word ++ rest.flatMap encode := ⟨tail ++ later, stream⟩
    obtain rfl : value = word :=
      reads.same_front known (valid word mem_cons_self) front (prefix_append _ _)
    exact ⟨rest, rfl, by rw [drop_left]; exact append_cancel_left stream⟩

theorem whole_at_last {letter : Letter} (waits : decode buf = none) {size : Nat}
    (found : decode (buf ++ [letter]) = some (value, size)) : size = (buf ++ [letter]).length := by
  obtain ⟨known, front, rfl⟩ := (reads _ _ _).mp found
  rcases prefix_concat_iff.mp front with whole | shorter
  · rw [whole]
  · rw [(reads _ _ _).mpr ⟨known, shorter, rfl⟩] at waits
    cases waits

end Reads

/-! ## Putting decoders together -/

/-- One value, then another after it. -/
def readPair {Next : Type*} (first : List Letter → Option (Value × Nat))
    (second : List Letter → Option (Next × Nat)) (buf : List Letter) :
    Option ((Value × Next) × Nat) :=
  (first buf).bind fun found =>
    (second (buf.drop found.2)).map fun next => ((found.1, next.1), found.2 + next.2)

theorem Reads.pair {Next : Type*} {second : List Letter → Option (Next × Nat)}
    {encodeNext : Next → List Letter} {ValidNext : Next → Prop}
    (first : Reads decode encode Valid) (next : Reads second encodeNext ValidNext) :
    Reads (readPair decode second) (fun both => encode both.1 ++ encodeNext both.2)
      (fun both => Valid both.1 ∧ ValidNext both.2) := by
  apply reads_of_round_trip
  · rintro ⟨value, other⟩ ⟨valid, otherValid⟩ rest
    simp only [readPair, append_assoc, first.decode_encode valid, Option.bind_some,
      drop_left, next.decode_encode otherValid, Option.map_some, length_append]
  · rintro buf ⟨value, other⟩ size found
    simp only [readPair, Option.bind_eq_some_iff, Option.map_eq_some_iff, Prod.mk.injEq] at found
    obtain ⟨⟨_, _⟩, firstFound, ⟨_, _⟩, nextFound, ⟨rfl, rfl⟩, -⟩ := found
    obtain ⟨valid, ⟨rest, rfl⟩, rfl⟩ := (first _ _ _).mp firstFound
    rw [drop_left] at nextFound
    obtain ⟨otherValid, front, -⟩ := (next _ _ _).mp nextFound
    exact ⟨⟨valid, otherValid⟩, (prefix_append_right_inj _).mpr front⟩

theorem Reads.wrap {Whole : Type*} (reads : Reads decode encode Valid) (build : Value → Whole)
    {encodeWhole : Whole → List Letter} {ValidWhole : Whole → Prop}
    (words : ∀ value, encodeWhole (build value) = encode value)
    (valid : ∀ whole, ValidWhole whole ↔ ∃ value, whole = build value ∧ Valid value) :
    Reads (fun buf => (decode buf).map fun found => (build found.1, found.2)) encodeWhole
      ValidWhole := by
  intro buf whole size
  simp only [Option.map_eq_some_iff, Prod.mk.injEq, Prod.exists, reads buf]
  constructor
  · rintro ⟨value, _, ⟨isValid, front, rfl⟩, rfl, rfl⟩
    rw [valid, words]
    exact ⟨⟨value, rfl, isValid⟩, front, rfl⟩
  · rintro ⟨isValid, front, rfl⟩
    obtain ⟨value, rfl, valueValid⟩ := (valid whole).mp isValid
    rw [words] at front ⊢
    exact ⟨value, _, ⟨valueValid, front, rfl⟩, rfl, rfl⟩

theorem Reads.restrict (reads : Reads decode encode Valid) (Check : Value → Prop)
    [DecidablePred Check] :
    Reads (fun buf => (decode buf).filter fun found => Check found.1) encode
      (fun value => Valid value ∧ Check value) := by
  intro buf value size
  simp only [Option.filter_eq_some_iff, reads buf, decide_eq_true_eq]
  tauto

theorem reads_none (encode : Value → List Letter) :
    Reads (fun _ => none) encode fun _ => False := by
  intro buf value size
  simp

theorem Reads.congr (reads : Reads decode encode Valid) {Valid' : Value → Prop}
    (same : ∀ value, Valid value ↔ Valid' value) : Reads decode encode Valid' := by
  intro buf value size
  rw [reads buf value size, same]

variable {body : Value → List Letter}

theorem reads_dispatch {bodyDecode : Letter → List Letter → Option (Value × Nat)}
    {tag : Value → Letter}
    (reads : ∀ letter, Reads (bodyDecode letter) body
      fun value => tag value = letter ∧ Valid value) :
    Reads (dispatchDecode bodyDecode) (fun value => tag value :: body value) Valid := by
  intro buf value size
  cases buf with
  | nil => simp [dispatchDecode]
  | cons letter rest =>
    simp only [dispatchDecode, Option.map_eq_some_iff, Prod.mk.injEq, Prod.exists,
      reads letter rest, cons_prefix_cons, length_cons]
    constructor
    · rintro ⟨_, _, ⟨⟨rfl, valid⟩, front, rfl⟩, rfl, rfl⟩
      exact ⟨valid, ⟨rfl, front⟩, Nat.add_comm ..⟩
    · rintro ⟨valid, ⟨rfl, front⟩, rfl⟩
      exact ⟨value, _, ⟨⟨rfl, valid⟩, front, rfl⟩, rfl, Nat.add_comm ..⟩

theorem reads_blob {width limit : Nat} {length : List Letter → Nat}
    {header : Nat → List Letter} {parse : List Letter → Option Value} (format : BlobFormat width limit length header parse body) :
    Reads (blobDecode width limit length parse)
      (fun value => header (body value).length ++ body value)
      (fun value => (body value).length ≤ limit) :=
  format.decode_iff

/-! ## The receiver -/

/-- One letter appended, and what is decoded then taken off the front. -/
def push (decode : List Letter → Option (Value × Nat)) (buf : List Letter) (letter : Letter) :
    Option Value × List Letter :=
  match decode (buf ++ [letter]) with
  | some (value, size) => (some value, (buf ++ [letter]).drop size)
  | none => (none, buf ++ [letter])

/-- The values received in order, and the letters still waiting. -/
def receive (decode : List Letter → Option (Value × Nat)) :
    List Letter → List Letter → List Value × List Letter
  | buf, [] => ([], buf)
  | buf, letter :: rest =>
    let pushed := push decode buf letter
    let later := receive decode pushed.2 rest
    (pushed.1.toList ++ later.1, later.2)

section

variable (reads : Reads decode encode Valid)

include reads

/-- The letters of a word up to its last one only wait. -/
theorem receive_front (valid : Valid value) (letters : List Letter) {rest : List Letter}
    {last : Letter} (word : encode value = buf ++ letters ++ [last]) :
    receive decode buf (letters ++ rest) = receive decode (buf ++ letters) rest := by
  induction letters generalizing buf with
  | nil => simp
  | cons letter letters ih =>
    have waits : decode (buf ++ [letter]) = none := by
      refine reads.front_none valid ⟨letters ++ [last], by simp [word]⟩ ?_
      intro whole
      rw [word] at whole
      simp at whole
    have later : encode value = buf ++ [letter] ++ letters ++ [last] := by simp [word]
    rw [cons_append, receive, push, waits]
    simp [ih later]

theorem receive_word (valid : Valid value) (nonempty : encode value ≠ []) (rest : List Letter) :
    receive decode [] (encode value ++ rest) =
      (value :: (receive decode [] rest).1, (receive decode [] rest).2) := by
  obtain ⟨letters, last, word⟩ := (eq_nil_or_concat (encode value)).resolve_left nonempty
  have whole := reads.decode_encode valid []
  rw [append_nil] at whole
  rw [concat_eq_append] at word
  have front : receive decode [] (encode value ++ rest) =
      receive decode letters (last :: rest) := by
    have shape : encode value = [] ++ letters ++ [last] := word
    have moved : receive decode [] (letters ++ last :: rest) =
        receive decode ([] ++ letters) (last :: rest) := receive_front reads valid letters shape
    rw [nil_append] at moved
    rw [← moved, word, append_assoc, singleton_append]
  have taken : push decode letters last = (some value, []) := by
    rw [push, ← word, whole]
    simp
  rw [front, receive, taken]
  rfl

theorem receive_words (nonempty : ∀ value, encode value ≠ [])
    (values : List Value) (valid : ∀ value ∈ values, Valid value) :
    receive decode [] (values.flatMap encode) = (values, []) := by
  induction values with
  | nil => rfl
  | cons value values ih =>
    have later := ih fun other member => valid other (mem_cons_of_mem _ member)
    rw [flatMap_cons, receive_word reads (valid value mem_cons_self) (nonempty value),
      later]

end

theorem receive_append (decode : List Letter → Option (Value × Nat))
    (buf first second : List Letter) :
    receive decode buf (first ++ second) =
      ((receive decode buf first).1 ++ (receive decode (receive decode buf first).2 second).1,
        (receive decode (receive decode buf first).2 second).2) := by
  induction first generalizing buf with
  | nil => simp [receive]
  | cons letter first ih => simp [receive, ih, append_assoc]

variable (reads : Reads decode encode Valid)

include reads

/-- Nothing is lost: the words received and the letters that wait are the stream. -/
theorem receive_whole (buf letters : List Letter) :
    (∀ value ∈ (receive decode buf letters).1, Valid value) ∧
      (receive decode buf letters).1.flatMap encode ++ (receive decode buf letters).2 =
        buf ++ letters := by
  induction letters generalizing buf with
  | nil => simp [receive]
  | cons letter letters ih =>
    obtain ⟨valid, whole⟩ := ih (push decode buf letter).2
    rw [receive]
    cases found : decode (buf ++ [letter]) with
    | none =>
      rw [push, found] at valid whole ⊢
      refine ⟨by simpa using valid, ?_⟩
      simpa using whole
    | some pair =>
      obtain ⟨value, size⟩ := pair
      obtain ⟨known, ⟨rest, split⟩, rfl⟩ := (reads _ _ _).mp found
      have taken : push decode buf letter = (some value, rest) := by
        rw [push, found, ← split]
        simp
      rw [taken] at valid whole ⊢
      refine ⟨by simpa [known] using valid, ?_⟩
      simp only [Option.toList_some, singleton_append, flatMap_cons,
        append_assoc, whole]
      rw [← append_assoc, split, append_assoc, singleton_append]

theorem receive_words_append (nonempty : ∀ value, encode value ≠ []) {values : List Value}
    (valid : ∀ value ∈ values, Valid value) (rest : List Letter) :
    receive decode [] (values.flatMap encode ++ rest) =
      (values ++ (receive decode [] rest).1, (receive decode [] rest).2) := by
  rw [receive_append, receive_words reads nonempty values valid]

theorem receive_unread (letters : List Letter) (unread : decode (buf ++ letters) = none) :
    receive decode buf letters = ([], buf ++ letters) := by
  induction letters generalizing buf with
  | nil => simp [receive]
  | cons letter letters ih =>
    have split : buf ++ letter :: letters = buf ++ [letter] ++ letters := by simp
    have waits : push decode buf letter = (none, buf ++ [letter]) := by
      cases found : decode (buf ++ [letter]) with
      | none => rw [push, found]
      | some pair =>
        obtain ⟨valid, front, -⟩ := (reads _ _ _).mp found
        have longer : encode pair.1 <+: buf ++ letter :: letters := by
          rw [split]
          exact front.trans (prefix_append _ _)
        rw [(reads _ _ _).mpr ⟨valid, longer, rfl⟩] at unread
        cases unread
    have later : receive decode (buf ++ [letter]) letters = ([], buf ++ [letter] ++ letters) :=
      ih (by rw [← split]; exact unread)
    rw [receive, waits]
    simp [later]

end Rules

/-- What a receiver relies on: words are read back whatever follows them, no proper front
of one is read, what is read is the front of the buffer, and every sequence of words is
received letter by letter. -/
structure Exact (decode : List Letter → Option (Value × Nat)) (encode : Value → List Letter)
    (Valid : Value → Prop) : Prop where
  read_back : ∀ value, Valid value → ∀ rest,
    decode (encode value ++ rest) = some (value, (encode value).length)
  front_unread : ∀ value, Valid value → ∀ front, front <+: encode value →
    front ≠ encode value → decode front = none
  read_front : ∀ buf value size, decode buf = some (value, size) →
    size ≤ buf.length ∧ encode value = buf.take size
  received : ∀ values : List Value, (∀ value ∈ values, Valid value) →
    receive decode [] (values.flatMap encode) = (values, [])

theorem Reads.exact {decode : List Letter → Option (Value × Nat)} {encode : Value → List Letter}
    {Valid : Value → Prop} (reads : Reads decode encode Valid)
    (nonempty : ∀ value, encode value ≠ []) : Exact decode encode Valid where
  read_back := fun _ valid rest => reads.decode_encode valid rest
  front_unread := fun _ valid _ isFront proper => reads.front_none valid isFront proper
  read_front := by
    intro buf value size found
    obtain ⟨-, word, rfl⟩ := (reads _ _ _).mp found
    exact ⟨word.length_le, prefix_iff_eq_take.mp word⟩
  received := receive_words reads nonempty

end Runix.Lib.Reading
