import Runix.Lib.Numerals
import Mathlib.Algebra.GroupWithZero.Nat
import Mathlib.Data.List.Infix

/-!
# Splitting concatenated words

When a word can be split off a longer text.  A family of words none of which is
a prefix (a suffix) of another can be read off the front (the back); a field
that does not contain the separator can be read off either end.
-/

namespace Runix.Lib.Framing

open List

variable {Index Letter : Type*}

def PrefixFree (word : Index → List Letter) : Prop :=
  ∀ x y, word x <+: word y → x = y

def SuffixFree (word : Index → List Letter) : Prop :=
  ∀ x y, word x <:+ word y → x = y

section

variable {rest rest' : List Letter} {word : Index → List Letter}

theorem PrefixFree.split (free : PrefixFree word) {x y : Index}
    (same : word x ++ rest = word y ++ rest') : x = y ∧ rest = rest' := by
  have first : word x <+: word y ++ rest' := ⟨rest, same⟩
  have second : word y <+: word y ++ rest' := prefix_append _ _
  have index : x = y := by
    rcases prefix_or_prefix_of_prefix first second with shorter | longer
    · exact free x y shorter
    · exact (free y x longer).symm
  subst index
  exact ⟨rfl, append_cancel_left same⟩

theorem SuffixFree.split (free : SuffixFree word) {x y : Index}
    (same : rest ++ word x = rest' ++ word y) : rest = rest' ∧ x = y := by
  have first : word x <:+ rest' ++ word y := ⟨rest, same⟩
  have second : word y <:+ rest' ++ word y := suffix_append _ _
  have index : x = y := by
    rcases suffix_or_suffix_of_suffix first second with shorter | longer
    · exact free x y shorter
    · exact (free y x longer).symm
  subst index
  exact ⟨append_cancel_right same, rfl⟩

variable {field field' : List Letter}

theorem split_first (separates : Letter → Prop) {mark mark' : Letter}
    (clear : ∀ letter ∈ field, ¬ separates letter) (clear' : ∀ letter ∈ field', ¬ separates letter)
    (marks : separates mark) (marks' : separates mark')
    (same : field ++ mark :: rest = field' ++ mark' :: rest') :
    field = field' ∧ mark = mark' ∧ rest = rest' := by
  induction field generalizing field' with
  | nil =>
    cases field' with
    | nil => exact ⟨rfl, List.cons.inj same⟩
    | cons letter letters =>
      obtain ⟨rfl, -⟩ := List.cons.inj same
      exact absurd marks (clear' mark mem_cons_self)
  | cons letter letters ih =>
    cases field' with
    | nil =>
      obtain ⟨rfl, -⟩ := List.cons.inj same
      exact absurd marks' (clear letter mem_cons_self)
    | cons letter' letters' =>
      obtain ⟨rfl, tails⟩ := List.cons.inj same
      obtain ⟨rfl, rests⟩ := ih (fun l member => clear l (mem_cons_of_mem _ member))
        (fun l member => clear' l (mem_cons_of_mem _ member)) tails
      exact ⟨rfl, rests⟩

theorem split_last {separator : Letter} (clear : separator ∉ field)
    (clear' : separator ∉ field') (same : rest ++ separator :: field = rest' ++ separator :: field') :
    rest = rest' ∧ field = field' := by
  have reversed := congrArg List.reverse same
  simp only [reverse_append, reverse_cons, append_assoc, singleton_append]
    at reversed
  obtain ⟨fields, -, rests⟩ := split_first (· = separator)
    (fun letter member isMark => clear (isMark ▸ mem_reverse.mp member))
    (fun letter member isMark => clear' (isMark ▸ mem_reverse.mp member)) rfl rfl reversed
  exact ⟨reverse_injective rests, reverse_injective fields⟩

end

/-! ## Joined fields -/

section Joins

variable [DecidableEq Letter] (mark : Letter)

theorem count_join (fields : List (List Letter)) :
    ([mark].intercalate fields).count mark =
      (fields.map (List.count mark)).sum + (fields.length - 1) := by
  induction fields with
  | nil => rfl
  | cons field rest ih =>
    cases rest with
    | nil => simp
    | cons next rest =>
      rw [intercalate_cons_cons, count_append, count_append, ih]
      simp
      omega

/-- As many fields as a join of clear fields has, joined to the same text: the other
fields are clear too, as the separators are all used up between them. -/
theorem join_unique {fields fields' : List (List Letter)}
    (clear : ∀ field ∈ fields, mark ∉ field) (lengths : fields'.length = fields.length)
    (same : [mark].intercalate fields' = [mark].intercalate fields) : fields' = fields := by
  have none : (fields.map (List.count mark)).sum = 0 := by
    rw [List.sum_eq_zero_iff_forall_eq_nat]
    intro count member
    obtain ⟨field, listed, rfl⟩ := mem_map.mp member
    exact count_eq_zero.mpr (clear field listed)
  have counts := congrArg (List.count mark) same
  rw [count_join, count_join, none, lengths] at counts
  have clear' : ∀ field ∈ fields', mark ∉ field := by
    intro field listed
    have zero : (fields'.map (List.count mark)).sum = 0 := by omega
    exact count_eq_zero.mp
      (List.sum_eq_zero_iff_forall_eq_nat.mp zero _ (mem_map_of_mem listed))
  by_cases empty : fields = []
  · subst empty
    exact length_eq_zero_iff.mp lengths
  have nonempty : fields' ≠ [] := by
    rintro rfl
    exact empty (length_eq_zero_iff.mp lengths.symm)
  rw [← splitOn_intercalate mark clear' nonempty, same,
    splitOn_intercalate mark clear empty]

end Joins
end Runix.Lib.Framing

/-! ## Pipe-joined texts

Fields joined with the character `|`.  A field that cannot contain it, such as a
decimal number or a hexadecimal digest, can be read off the end of the text;
between two free-form fields the text does not say where the cut is. -/

namespace Runix.Lib.PipeText

def Clear (field : String) : Prop := '|' ∉ field.toList

instance (field : String) : Decidable (Clear field) :=
  inferInstanceAs (Decidable ('|' ∉ field.toList))

theorem to_list_join (head field : String) :
    (head ++ "|" ++ field).toList = head.toList ++ '|' :: field.toList := by
  simp

variable {head head' field field' : String}

theorem cut_last (clear : Clear field) (clear' : Clear field')
    (same : head ++ "|" ++ field = head' ++ "|" ++ field') : head = head' ∧ field = field' := by
  have lists := congrArg String.toList same
  rw [to_list_join, to_list_join] at lists
  obtain ⟨heads, fields⟩ := Framing.split_last clear clear' lists
  exact ⟨String.toList_injective heads, String.toList_injective fields⟩

theorem cut_unique (clearHead : Clear head) (clear : Clear field)
    (same : head' ++ "|" ++ field' = head ++ "|" ++ field) : head' = head ∧ field' = field := by
  have lists := congrArg String.toList same
  rw [to_list_join, to_list_join, eq_comm,
    List.append_cons_inj_of_notMem clearHead clear] at lists
  exact ⟨(String.toList_injective lists.1).symm, (String.toList_injective lists.2.2).symm⟩

theorem join_cancel (head : String) {rest rest' : String}
    (same : head ++ "|" ++ rest = head ++ "|" ++ rest') : rest = rest' := by
  have lists := congrArg String.toList same
  rw [to_list_join, to_list_join, List.append_cancel_left_eq] at lists
  exact String.toList_injective (List.cons.inj lists).2

/-! ## Clear fields -/

theorem clear_decimal (n : Nat) : Clear (toString n) := by
  intro member
  have digits : '|' ∈ Nat.toDigits 10 n := by
    rw [← Nat.toList_repr]
    exact member
  have isDigit := Nat.isDigit_of_mem_toDigits (by decide) (by decide) digits
  simp [Char.isDigit] at isDigit

theorem decimal_injective {m n : Nat} (same : toString m = toString n) : m = n := by
  have digits : Nat.toDigits 10 m = Nat.toDigits 10 n := by
    rw [← Nat.toList_repr, ← Nat.toList_repr]
    exact congrArg String.toList same
  rw [← Nat.ofDigitChars_ten_toDigits (n := m), digits, Nat.ofDigitChars_ten_toDigits]

theorem clear_encode (bytes : ByteStrings.Bytes) : Clear (Base16.encode bytes) :=
  Base16.separator_not_mem_encode bytes

end Runix.Lib.PipeText
