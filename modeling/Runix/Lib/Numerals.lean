import Runix.Lib.ByteStrings
import Runix.Lib.Words

/-!
# Hexadecimal text

Encoding writes two lower-case digits per byte.  Decoding reads digits of either
case and refuses an odd number of characters and any other character.
-/

namespace Runix.Lib.Base16

open Lib.ByteStrings List

def digitValue (c : Char) : Option Nat :=
  if '0' ≤ c ∧ c ≤ '9' then some (c.toNat - '0'.toNat)
  else if 'a' ≤ c ∧ c ≤ 'f' then some (c.toNat - 'a'.toNat + 10)
  else if 'A' ≤ c ∧ c ≤ 'F' then some (c.toNat - 'A'.toNat + 10)
  else none

def digitChar (value : Nat) : Char :=
  if value < 10 then Char.ofNat ('0'.toNat + value) else Char.ofNat ('a'.toNat + (value - 10))

def encodeByte (byte : UInt8) : List Char :=
  [digitChar (byte.toNat / 16), digitChar (byte.toNat % 16)]

variable (bytes : Bytes)

def encodeChars : List Char := bytes.flatMap encodeByte

def encode : String := String.ofList (encodeChars bytes)

def decodeChars : List Char → Option Bytes
  | [] => some []
  | [_] => none
  | high :: low :: rest =>
    match digitValue high, digitValue low, decodeChars rest with
    | some h, some l, some bytes => some (UInt8.ofNat (16 * h + l) :: bytes)
    | _, _, _ => none

def decode (text : String) : Option Bytes := decodeChars text.toList

def bytesOf (text : String) : Bytes := (decode text).getD []

/-! ## Digits -/

variable {value : Nat}

theorem digit_value_lt {c : Char} (digit : digitValue c = some value) : value < 16 := by
  unfold digitValue at digit
  split_ifs at digit with decimal lower upper
  · have high : c.toNat ≤ '9'.toNat := decimal.2
    have top : '9'.toNat = 57 := rfl
    have low : '0'.toNat = 48 := rfl
    rw [Option.some.injEq] at digit
    omega
  · have high : c.toNat ≤ 'f'.toNat := lower.2
    have top : 'f'.toNat = 102 := rfl
    have low : 'a'.toNat = 97 := rfl
    rw [Option.some.injEq] at digit
    omega
  · have high : c.toNat ≤ 'F'.toNat := upper.2
    have top : 'F'.toNat = 70 := rfl
    have low : 'A'.toNat = 65 := rfl
    rw [Option.some.injEq] at digit
    omega

theorem digit_value_digit_char : ∀ value < 16, digitValue (digitChar value) = some value := by
  decide

/-- Below 128 a character is a digit of some value exactly when its lower-case
form is the digit written for that value. -/
theorem digit_value_ascii : ∀ code < 128, ∀ value < 16,
    digitValue (Char.ofNat code) = some value ↔ (Char.ofNat code).toLower = digitChar value := by
  decide +kernel

theorem digit_char_ascii : ∀ value < 16, (digitChar value).toNat < 128 := by
  decide

theorem digit_value_toNat_lt {c : Char} (digit : digitValue c = some value) : c.toNat < 128 := by
  unfold digitValue at digit
  split_ifs at digit with decimal lower upper
  · exact Nat.lt_of_le_of_lt (show c.toNat ≤ '9'.toNat from decimal.2) (by decide)
  · exact Nat.lt_of_le_of_lt (show c.toNat ≤ 'f'.toNat from lower.2) (by decide)
  · exact Nat.lt_of_le_of_lt (show c.toNat ≤ 'F'.toNat from upper.2) (by decide)

theorem to_lower_eq_self {c : Char} (beyond : 128 ≤ c.toNat) : c.toLower = c := by
  unfold Char.toLower
  split_ifs with letter
  · have bound : c.toNat ≤ 'Z'.toNat := letter.2
    exact absurd (Nat.le_trans beyond bound) (by decide)
  · rfl

theorem digit_value_eq_some_iff (c : Char) (small : value < 16) :
    digitValue c = some value ↔ c.toLower = digitChar value := by
  have ascii : c.toNat < 128 → _ := fun below => digit_value_ascii c.toNat below value small
  rw [Char.ofNat_toNat] at ascii
  constructor
  · intro digit
    exact (ascii (digit_value_toNat_lt digit)).mp digit
  · intro lower
    refine (ascii ?_).mpr lower
    by_contra beyond
    rw [to_lower_eq_self (Nat.le_of_not_lt beyond)] at lower
    exact beyond (lower ▸ digit_char_ascii value small)

theorem digit_char_ne_separator : ∀ value < 16, digitChar value ≠ '|' := by
  decide

theorem nibbles_lt (byte : UInt8) : byte.toNat / 16 < 16 ∧ byte.toNat % 16 < 16 := by
  have bound := byte.toNat_lt
  omega

@[simp]
theorem encode_chars_length : (encodeChars bytes).length = 2 * bytes.length := by
  induction bytes with
  | nil => rfl
  | cons byte rest ih =>
    simp only [encodeChars, encodeByte, flatMap_cons, length_append,
      length_cons, length_nil] at ih ⊢
    omega

theorem encode_chars_take (count : Nat) :
    (encodeChars bytes).take (2 * count) = encodeChars (bytes.take count) := by
  induction bytes generalizing count with
  | nil => simp [encodeChars]
  | cons byte rest ih =>
    cases count with
    | zero => rfl
    | succ count =>
      have tail := ih count
      simp only [encodeChars] at tail
      simp [encodeChars, encodeByte, Nat.mul_succ, tail]

/-! ## Round trip -/

theorem decode_chars_encode_chars : decodeChars (encodeChars bytes) = some bytes := by
  induction bytes with
  | nil => rfl
  | cons byte rest ih =>
    have digits := nibbles_lt byte
    have tail : decodeChars (rest.flatMap encodeByte) = some rest := ih
    simp only [encodeChars, flatMap_cons, encodeByte, cons_append,
      nil_append, decodeChars, digit_value_digit_char _ digits.1,
      digit_value_digit_char _ digits.2, tail]
    rw [Nat.div_add_mod, UInt8.ofNat_toNat]

theorem decode_encode : decode (encode bytes) = some bytes := by
  unfold decode encode
  rw [String.toList_ofList]
  exact decode_chars_encode_chars bytes

theorem decode_chars_cons_iff (high low : Char) (rest : List Char) (byte : UInt8) (tail : Bytes) :
    decodeChars (high :: low :: rest) = some (byte :: tail) ↔
      digitValue high = some (byte.toNat / 16) ∧ digitValue low = some (byte.toNat % 16) ∧
        decodeChars rest = some tail := by
  constructor
  · intro decoded
    simp only [decodeChars] at decoded
    split at decoded
    · rename_i h l bytes highDigit lowDigit restBytes
      obtain ⟨rfl, rfl⟩ := List.cons.inj (Option.some.inj decoded)
      have highBound := digit_value_lt highDigit
      have lowBound := digit_value_lt lowDigit
      have value : (UInt8.ofNat (16 * h + l)).toNat = 16 * h + l := by
        rw [UInt8.toNat_ofNat']
        omega
      rw [value, highDigit, lowDigit, restBytes]
      refine ⟨congrArg some ?_, congrArg some ?_, rfl⟩ <;> omega
    · simp at decoded
  · rintro ⟨highDigit, lowDigit, restBytes⟩
    simp only [decodeChars, highDigit, lowDigit, restBytes]
    rw [Nat.div_add_mod, UInt8.ofNat_toNat]

/-- Decoding undoes encoding up to letter case, and accepts nothing else. -/
theorem decode_chars_eq_some_iff : ∀ (text : List Char) (bytes : Bytes),
    decodeChars text = some bytes ↔ text.map Char.toLower = encodeChars bytes
  | [], [] => by simp [decodeChars, encodeChars]
  | [], byte :: tail => by simp [decodeChars, encodeChars, encodeByte]
  | [c], [] => by simp [decodeChars, encodeChars]
  | [c], byte :: tail => by simp [decodeChars, encodeChars, encodeByte]
  | high :: low :: rest, [] => by
      simp only [decodeChars, encodeChars, flatMap_nil, map_cons, reduceCtorEq, iff_false]
      split <;> simp
  | high :: low :: rest, byte :: tail => by
      have digits := nibbles_lt byte
      rw [decode_chars_cons_iff, digit_value_eq_some_iff _ digits.1,
        digit_value_eq_some_iff _ digits.2, decode_chars_eq_some_iff rest tail]
      simp [encodeChars, encodeByte]

theorem separator_not_mem_encode : '|' ∉ (encode bytes).toList := by
  unfold encode encodeChars
  rw [String.toList_ofList, mem_flatMap]
  rintro ⟨byte, -, digit⟩
  have digits := nibbles_lt byte
  rcases mem_cons.mp digit with high | low
  · exact digit_char_ne_separator _ digits.1 high.symm
  · rw [mem_singleton] at low
    exact digit_char_ne_separator _ digits.2 low.symm

end Runix.Lib.Base16

/-! ## Numbers in text

The digits of a number, without leading zeros, are read back as the number.  The reader takes
digits of either case and one leading plus sign, and refuses what is larger than the type. -/

namespace Runix.Lib.Numerals

open Lib.Base16 Lib.Words List

def digitsValue (radix : Nat) (digits : List Char) : Option Nat :=
  digits.foldlM (fun value digit => ((digitValue digit).filter (· < radix)).map (radix * value + ·)) 0

/-- `from_str_radix` of an unsigned integer type with the given maximum. -/
def fromStrRadix (radix max : Nat) : List Char → Option Nat
  | [] => none
  | ['+'] => none
  | '+' :: digits => (digitsValue radix digits).filter (· ≤ max)
  | digits => (digitsValue radix digits).filter (· ≤ max)

def fromStrRadix16 : List Char → Option Nat := fromStrRadix 16 u64Max

/-- `strip_prefix`. -/
def dropFront (front text : List Char) : Option (List Char) :=
  if front.isPrefixOf text then some (text.drop front.length) else none

def splitOnce (separator : Char) (text : List Char) : Option (List Char × List Char) :=
  match text.dropWhile (· ≠ separator) with
  | [] => none
  | _ :: rest => some (text.takeWhile (· ≠ separator), rest)

theorem digitValue_digitChar : ∀ value < 16, digitValue value.digitChar = some value := by
  decide

section Radix

variable {radix : Nat} (large : 1 < radix) (small : radix ≤ 16)

include large small

theorem digitsValue_toDigits (number : Nat) :
    digitsValue radix (Nat.toDigits radix number) = some number := by
  have read : ∀ value < radix,
      (digitValue value.digitChar).filter (· < radix) = some value := by
    intro value below
    rw [digitValue_digitChar value (Nat.lt_of_lt_of_le below small)]
    simp [below]
  unfold digitsValue
  induction number using Nat.strongRecOn with
  | ind number ih =>
    by_cases single : number < radix
    · simp [Nat.toDigits_of_lt_base single, read number single]
    have shorter : number / radix < number := Nat.div_lt_self (by omega) large
    rw [Nat.toDigits_of_base_le large (Nat.not_lt.mp single), foldlM_append, ih _ shorter]
    simp [read _ (Nat.mod_lt number (by omega)), Nat.div_add_mod]

theorem mem_toDigits {number : Nat} {c : Char} (member : c ∈ Nat.toDigits radix number) :
    ∃ value < 16, c = value.digitChar := by
  induction number using Nat.strongRecOn with
  | ind number ih =>
    by_cases single : number < radix
    · rw [Nat.toDigits_of_lt_base single, mem_singleton] at member
      exact ⟨number, Nat.lt_of_lt_of_le single small, member⟩
    have shorter : number / radix < number := Nat.div_lt_self (by omega) large
    rw [Nat.toDigits_of_base_le large (Nat.not_lt.mp single), mem_append, mem_singleton] at member
    rcases member with front | last
    · exact ih _ shorter front
    · exact ⟨_, Nat.lt_of_lt_of_le (Nat.mod_lt number (by omega)) small, last⟩

theorem not_mem_toDigits {c : Char} (other : ∀ value < 16, value.digitChar ≠ c) (number : Nat) :
    c ∉ Nat.toDigits radix number := by
  intro member
  obtain ⟨value, below, rfl⟩ := mem_toDigits large small member
  exact other value below rfl

theorem toDigits_injective : Function.Injective (Nat.toDigits radix) := by
  intro first second same
  have value := digitsValue_toDigits large small first
  rw [same, digitsValue_toDigits large small second] at value
  exact (Option.some.inj value).symm

end Radix

end Runix.Lib.Numerals
