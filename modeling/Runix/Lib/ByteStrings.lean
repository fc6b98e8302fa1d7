import Mathlib.Algebra.Group.Nat.Defs
import Mathlib.Data.List.Basic

/-!
# Byte strings

Byte strings are lists of bytes.  `utf8` is the encoding a text is hashed or
signed under; it is injective and takes concatenation to concatenation.
-/

namespace Runix.Lib.ByteStrings

abbrev Bytes := List UInt8

def utf8 (text : String) : Bytes := text.toByteArray.data.toList

theorem utf8_append (first second : String) :
    utf8 (first ++ second) = utf8 first ++ utf8 second := by
  simp [utf8, String.toByteArray_append]

theorem utf8_injective : Function.Injective utf8 := by
  intro first second same
  have data : first.toByteArray.data = second.toByteArray.data := Array.toList_inj.mp same
  exact String.toByteArray_inj.mp (ByteArray.ext data)

def leBytes : Nat → Nat → Bytes
  | 0, _ => []
  | width + 1, value => UInt8.ofNat (value % 256) :: leBytes width (value / 256)

@[simp]
theorem le_bytes_length (width value : Nat) : (leBytes width value).length = width := by
  induction width generalizing value with
  | zero => rfl
  | succ width ih => simp [leBytes, ih]

def leNat : Bytes → Nat
  | [] => 0
  | byte :: rest => byte.toNat + 256 * leNat rest

theorem le_nat_le_bytes {width value : Nat} (small : value < 256 ^ width) :
    leNat (leBytes width value) = value := by
  induction width generalizing value with
  | zero =>
    rw [Nat.pow_zero] at small
    simp only [leBytes, leNat]
    omega
  | succ width ih =>
    have high : value / 256 < 256 ^ width := by
      omega
    have low : (UInt8.ofNat (value % 256)).toNat = value % 256 :=
      UInt8.toNat_ofNat_of_lt' (Nat.mod_lt _ (by decide))
    rw [leBytes, leNat, ih high, low]
    omega

variable {bytes : Bytes}

theorem le_bytes_le_nat {width : Nat} (short : bytes.length ≤ width) :
    bytes <+: leBytes width (leNat bytes) := by
  induction bytes generalizing width with
  | nil => exact List.nil_prefix
  | cons byte rest ih =>
    cases width with
    | zero => simp at short
    | succ width =>
      have bound := byte.toNat_lt
      have low : (byte.toNat + 256 * leNat rest) % 256 = byte.toNat := by omega
      have high : (byte.toNat + 256 * leNat rest) / 256 = leNat rest := by omega
      rw [leNat, leBytes, low, high, UInt8.ofNat_toNat, List.prefix_cons_inj]
      exact ih (Nat.le_of_succ_le_succ short)

theorem le_bytes_of_le_nat {width : Nat} (full : bytes.length = width) :
    leBytes width (leNat bytes) = bytes := by
  have front := le_bytes_le_nat (Nat.le_of_eq full)
  exact (front.eq_of_length (by rw [full, le_bytes_length])).symm

theorem le_nat_lt (bytes : Bytes) : leNat bytes < 256 ^ bytes.length := by
  induction bytes with
  | nil => exact Nat.one_pos
  | cons byte rest ih =>
    have bound := byte.toNat_lt
    rw [leNat, List.length_cons, Nat.pow_succ]
    omega

theorem le_nat_le_of_front {width value : Nat}
    (front : bytes <+: leBytes width value) : leNat bytes ≤ value := by
  induction bytes generalizing width value with
  | nil => exact Nat.zero_le _
  | cons byte rest ih =>
    cases width with
    | zero => simp [leBytes] at front
    | succ width =>
      rw [leBytes, List.cons_prefix_cons] at front
      obtain ⟨rfl, later⟩ := front
      have low : (UInt8.ofNat (value % 256)).toNat = value % 256 :=
        UInt8.toNat_ofNat_of_lt' (Nat.mod_lt _ (by decide))
      have high := ih later
      rw [leNat, low]
      omega

/-- Some of the bytes of a number up to the limit, exactly when they do not exceed it
already. -/
theorem le_front_iff {width limit : Nat} (short : bytes.length ≤ width) :
    (∃ value ≤ limit, bytes <+: leBytes width value) ↔ leNat bytes ≤ limit := by
  constructor
  · rintro ⟨value, bound, front⟩
    exact Nat.le_trans (le_nat_le_of_front front) bound
  · intro bound
    exact ⟨leNat bytes, bound, le_bytes_le_nat short⟩

/-- `byte as u8` of a flag. -/
def flagByte (flag : Bool) : UInt8 := if flag then 1 else 0

end Runix.Lib.ByteStrings

/-! ## Texts in buffers

Texts are read from the bytes of their UTF-8 encoding.  A buffer that is received byte by byte
begins a text of a given size, or has a byte that no text goes on with. -/

namespace Runix.Lib.Utf8

open Lib.ByteStrings

theorem utf8_of_list (chars : List Char) :
    utf8 (String.ofList chars) = chars.flatMap String.utf8EncodeChar := by
  simp [utf8, String.toByteArray_ofList, List.utf8Encode]

theorem length_le_utf8 (text : String) : text.length ≤ (utf8 text).length := by
  rw [← String.length_toList]
  nth_rewrite 2 [← String.ofList_toList (s := text)]
  rw [utf8_of_list]
  induction text.toList with
  | nil => exact Nat.le_refl 0
  | cons c rest ih =>
    have first := List.length_pos_of_ne_nil (String.utf8EncodeChar_ne_nil (c := c))
    rw [List.flatMap_cons, List.length_append, List.length_cons]
    omega

def Begins (size : Nat) (bytes : Bytes) : Prop :=
  ∃ text, bytes <+: utf8 text ∧ (utf8 text).length = size

theorem exists_text_of_size (size : Nat) : ∃ text, (utf8 text).length = size := by
  refine ⟨String.ofList (List.replicate size 'a'), ?_⟩
  rw [utf8_of_list]
  induction size with
  | zero => rfl
  | succ size ih =>
    rw [List.replicate_succ, List.flatMap_cons, List.length_append, ih]
    exact Nat.add_comm 1 size

theorem not_begins {byte : UInt8} (never : ¬ byte.IsUTF8FirstByte) (size : Nat) (rest : Bytes) :
    ¬ Begins size (byte :: rest) := by
  rintro ⟨text, front, -⟩
  rw [← String.ofList_toList (s := text), utf8_of_list] at front
  cases chars : text.toList with
  | nil =>
    rw [chars] at front
    exact absurd front.length_le (Nat.not_succ_le_zero _)
  | cons c later =>
    have starts := UInt8.isUTF8FirstByte_getElem_zero_utf8EncodeChar (c := c)
    cases encoded : String.utf8EncodeChar c with
    | nil => exact String.utf8EncodeChar_ne_nil encoded
    | cons first tail =>
      rw [chars, List.flatMap_cons, encoded, List.cons_append, List.cons_prefix_cons] at front
      simp only [encoded, List.getElem_cons_zero] at starts
      exact never (front.1 ▸ starts)

def fromUtf8 (bytes : Bytes) : Option String := String.fromUTF8? ⟨bytes.toArray⟩

theorem from_utf8_eq_some_iff {bytes : Bytes} {text : String} :
    fromUtf8 bytes = some text ↔ utf8 text = bytes := by
  unfold fromUtf8 String.fromUTF8?
  constructor
  · intro decoded
    split_ifs at decoded with valid
    rw [← Option.some.inj decoded]
    rfl
  · rintro rfl
    have valid : (ByteArray.mk (utf8 text).toArray).IsValidUTF8 := text.isValidUTF8
    rw [dif_pos valid]
    rfl

end Runix.Lib.Utf8
