import Mathlib.Data.List.Nodup

/-!
# Keyed tables

A table is a list of rows with a key projection.  Lookups return the first row
with a key, updates rewrite the first row with a key, and deletion removes the
first row with a key.  Nothing here assumes that keys are unique unless a lemma
says so.
-/

namespace Runix.Lib.Tables

open List

variable {Row Key : Type*} [DecidableEq Key] (key : Row → Key)

variable (wanted : Key)

def lookup (rows : List Row) : Option Row :=
  rows.find? fun row => decide (key row = wanted)

def update (wanted : Key) (change : Row → Row) : List Row → List Row
  | [] => []
  | row :: rest =>
    if key row = wanted then change row :: rest
    else row :: update wanted change rest

/-- Rewrite the first row with the key, or append a fresh one while the table
has room; `none` when it is full. -/
def upsert (limit : Nat) (wanted : Key) (change : Row → Row) (fresh : Row)
    (rows : List Row) : Option (List Row) :=
  if (lookup key wanted rows).isSome then some (update key wanted change rows)
  else if rows.length ≥ limit then none
  else some (rows ++ [fresh])

def remove (rows : List Row) : List Row :=
  rows.eraseP fun row => decide (key row = wanted)

/-! ## Lookup -/

@[simp]
theorem lookup_nil : lookup key wanted [] = none := rfl

theorem lookup_cons (row : Row) (rest : List Row) :
    lookup key wanted (row :: rest) =
      if key row = wanted then some row else lookup key wanted rest := by
  unfold lookup
  by_cases same : key row = wanted <;> simp [same]

variable {rows : List Row} {wanted : Key} {row : Row}

theorem lookup_mem (found : lookup key wanted rows = some row) : row ∈ rows :=
  mem_of_find?_eq_some found

theorem lookup_key (found : lookup key wanted rows = some row) : key row = wanted := by
  simpa using List.find?_some found

theorem lookup_eq_none_iff : lookup key wanted rows = none ↔ ∀ row ∈ rows, key row ≠ wanted := by
  simp [lookup]

theorem lookup_isSome_iff : (∃ row, lookup key wanted rows = some row) ↔ wanted ∈ rows.map key := by
  rw [← Option.isSome_iff_exists, lookup, List.find?_isSome]
  simp [mem_map]

theorem lookup_of_mem (unique : (rows.map key).Nodup) (member : row ∈ rows) : lookup key (key row) rows = some row := by
  induction rows with
  | nil => simp at member
  | cons head tail ih =>
    rw [map_cons, nodup_cons] at unique
    rw [lookup_cons]
    rcases mem_cons.mp member with rfl | inTail
    · simp
    have different : key head ≠ key row := by
      intro same
      exact unique.1 (same ▸ mem_map_of_mem inTail)
    rw [if_neg different]
    exact ih unique.2 inTail

theorem lookup_append_single (rows : List Row) (row : Row) : lookup key wanted (rows ++ [row]) =
      (lookup key wanted rows).or (if key row = wanted then some row else none) := by
  unfold lookup
  by_cases same : key row = wanted <;> simp [same]

theorem lookup_map {change : Row → Row} (sameKey : ∀ row, key (change row) = key row)
    (wanted : Key) (rows : List Row) :
    lookup key wanted (rows.map change) = (lookup key wanted rows).map change := by
  unfold lookup
  rw [List.find?_map]
  congr 2
  funext row
  simp [sameKey row]

theorem lookup_filter_values {Value : Type*} {rows : List (Key × Value)}
    (unique : (rows.map Prod.fst).Nodup) (keep : Value → Bool) (wanted : Key) :
    (lookup Prod.fst wanted (rows.filter fun row => keep row.2)).map Prod.snd =
      ((lookup Prod.fst wanted rows).map Prod.snd).filter keep := by
  induction rows with
  | nil => rfl
  | cons row rest ih =>
    rw [map_cons, nodup_cons] at unique
    rw [filter_cons]
    by_cases same : row.1 = wanted
    · have absent : lookup Prod.fst wanted rest = none := by
        rw [lookup_eq_none_iff]
        intro other member found
        exact unique.1 (same.trans found.symm ▸ mem_map_of_mem member)
      have later := ih unique.2
      rw [absent] at later
      by_cases kept : keep row.2
      · simp [lookup_cons, kept, same, Option.filter]
      · rw [if_neg kept, later, lookup_cons, if_pos same]
        simp [kept, Option.filter]
    · by_cases kept : keep row.2
      · rw [if_pos kept, lookup_cons, lookup_cons, if_neg same, if_neg same]
        exact ih unique.2
      · rw [if_neg kept, lookup_cons, if_neg same]
        exact ih unique.2

/-! ## Update -/

section Update

variable {change : Row → Row} (sameKey : ∀ row, key (change row) = key row)
include sameKey

theorem update_keys (wanted : Key) (rows : List Row) :
    (update key wanted change rows).map key = rows.map key := by
  induction rows with
  | nil => rfl
  | cons row rest ih =>
    unfold update
    split_ifs
    · simp [sameKey row]
    · simp [ih]

theorem update_length (wanted : Key) (rows : List Row) :
    (update key wanted change rows).length = rows.length := by
  have keys := congrArg List.length (update_keys key sameKey wanted rows)
  simpa using keys

theorem lookup_update_same (wanted : Key) (rows : List Row) :
    lookup key wanted (update key wanted change rows) =
      (lookup key wanted rows).map change := by
  induction rows with
  | nil => rfl
  | cons row rest ih =>
    unfold update
    split_ifs with same
    · simp [lookup_cons, sameKey row, same]
    · simp [lookup_cons, same, ih]

theorem lookup_update_other {wanted other : Key} (different : other ≠ wanted) (rows : List Row) :
    lookup key other (update key wanted change rows) = lookup key other rows := by
  induction rows with
  | nil => rfl
  | cons row rest ih =>
    unfold update
    split_ifs with same
    · have notOther : key row ≠ other := fun found => different (found.symm.trans same)
      simp [lookup_cons, sameKey row, notOther]
    · simp [lookup_cons, ih]

end Update

theorem mem_update {change : Row → Row} (member : row ∈ update key wanted change rows) :
    row ∈ rows ∨ ∃ old ∈ rows, key old = wanted ∧ row = change old := by
  induction rows with
  | nil => exact .inl member
  | cons head tail ih =>
    unfold update at member
    split_ifs at member with same
    · rcases mem_cons.mp member with rfl | inTail
      · exact .inr ⟨head, mem_cons_self, same, rfl⟩
      · exact .inl (mem_cons_of_mem _ inTail)
    · rcases mem_cons.mp member with rfl | inTail
      · exact .inl mem_cons_self
      · rcases ih inTail with old | ⟨old, oldMember, oldKey, rfl⟩
        · exact .inl (mem_cons_of_mem _ old)
        · exact .inr ⟨old, mem_cons_of_mem _ oldMember, oldKey, rfl⟩

/-! ## Insertion -/

theorem append_fresh_keys_nodup
    (unique : (rows.map key).Nodup) (absent : lookup key wanted rows = none)
    (rowKey : key row = wanted) : ((rows ++ [row]).map key).Nodup := by
  rw [lookup_eq_none_iff] at absent
  rw [map_append, map_singleton, rowKey]
  refine nodup_append.mpr ⟨unique, nodup_singleton wanted, ?_⟩
  intro other listed new isNew same
  rw [mem_singleton] at isNew
  obtain ⟨old, member, oldKey⟩ := mem_map.mp listed
  exact absent old member (oldKey.trans (same.trans isNew))

section Upsert

variable {limit : Nat} {wanted : Key} {change : Row → Row} {fresh : Row}
  {rows after : List Row} (done : upsert key limit wanted change fresh rows = some after)
include done

theorem mem_upsert {row : Row} (member : row ∈ after) :
    row ∈ rows ∨ (∃ old ∈ rows, key old = wanted ∧ row = change old) ∨ row = fresh := by
  unfold upsert at done
  split_ifs at done
  · cases done
    rcases mem_update key member with old | rewritten
    · exact .inl old
    · exact .inr (.inl rewritten)
  · cases done
    rcases mem_append.mp member with old | new
    · exact .inl old
    · exact .inr (.inr (mem_singleton.mp new))

variable (sameKey : ∀ row, key (change row) = key row) (freshKey : key fresh = wanted)
include sameKey

theorem upsert_length_le (bound : rows.length ≤ limit) : after.length ≤ limit := by
  unfold upsert at done
  split_ifs at done with present full
  · cases done
    rw [update_length key sameKey]
    exact bound
  · cases done
    rw [length_append, length_singleton]
    omega

include freshKey

theorem upsert_keys_nodup (unique : (rows.map key).Nodup) : (after.map key).Nodup := by
  unfold upsert at done
  split_ifs at done with present full
  · cases done
    rw [update_keys key sameKey]
    exact unique
  · cases done
    have absent : lookup key wanted rows = none := by simpa using present
    exact append_fresh_keys_nodup key unique absent freshKey

theorem lookup_upsert_same :
    lookup key wanted after = some (((lookup key wanted rows).map change).getD fresh) := by
  unfold upsert at done
  split_ifs at done with present full
  · cases done
    rw [lookup_update_same key sameKey]
    obtain ⟨row, found⟩ := Option.isSome_iff_exists.mp present
    simp [found]
  · cases done
    have absent : lookup key wanted rows = none := by simpa using present
    rw [lookup_append_single, absent]
    simp [freshKey]

theorem lookup_upsert_other {other : Key} (different : other ≠ wanted) :
    lookup key other after = lookup key other rows := by
  unfold upsert at done
  split_ifs at done with present full
  · cases done
    exact lookup_update_other key sameKey different rows
  · cases done
    have notFresh : key fresh ≠ other := fun same => different (same.symm.trans freshKey)
    rw [lookup_append_single, if_neg notFresh, Option.or_none]

end Upsert

/-- One row per key, and no more rows than the limit. -/
def Within (limit : Nat) (rows : List Row) : Prop := (rows.map key).Nodup ∧ rows.length ≤ limit

namespace Within

variable {key} {limit : Nat} {rows after : List Row} (within : Within key limit rows)
include within

theorem upsert {wanted : Key} {change : Row → Row} {fresh : Row}
    (done : upsert key limit wanted change fresh rows = some after)
    (sameKey : ∀ row, key (change row) = key row) (freshKey : key fresh = wanted) :
    Within key limit after :=
  ⟨upsert_keys_nodup key done sameKey freshKey within.1,
    upsert_length_le key done sameKey within.2⟩

omit [DecidableEq Key] in
theorem of_keys (same : after.map key = rows.map key) : Within key limit after := by
  have length := congrArg List.length same
  rw [length_map, length_map] at length
  exact ⟨same ▸ within.1, length ▸ within.2⟩

omit [DecidableEq Key] in
theorem filter (keep : Row → Bool) : Within key limit (rows.filter keep) :=
  ⟨within.1.sublist (filter_sublist.map key), Nat.le_trans (length_filter_le _ _) within.2⟩

end Within

/-! ## Removal -/

theorem remove_sublist (wanted : Key) (rows : List Row) : (remove key wanted rows).Sublist rows :=
  eraseP_sublist

theorem lookup_remove_other {wanted other : Key} (different : other ≠ wanted) (rows : List Row) :
    lookup key other (remove key wanted rows) = lookup key other rows := by
  induction rows with
  | nil => rfl
  | cons row rest ih =>
    unfold remove at ih ⊢
    by_cases same : key row = wanted
    · have notOther : key row ≠ other := fun found => different (found.symm.trans same)
      rw [eraseP_cons_of_pos (by simpa using same), lookup_cons, if_neg notOther]
    · rw [eraseP_cons_of_neg (by simpa using same), lookup_cons, lookup_cons, ih]

theorem lookup_remove_same (unique : (rows.map key).Nodup)
    (wanted : Key) : lookup key wanted (remove key wanted rows) = none := by
  induction rows with
  | nil => rfl
  | cons row rest ih =>
    rw [map_cons, nodup_cons] at unique
    unfold remove at ih ⊢
    by_cases same : key row = wanted
    · rw [eraseP_cons_of_pos (by simpa using same), lookup_eq_none_iff]
      intro other member found
      exact unique.1 (same.trans found.symm ▸ mem_map_of_mem member)
    · rw [eraseP_cons_of_neg (by simpa using same), lookup_cons, if_neg same]
      exact ih unique.2

/-! ## Tables in the order of their keys -/

section Ordered

variable {Value : Type*} [LT Key] [DecidableLT Key]

/-- Replace the value of a key, or add the pair at its place in the order. -/
def insert (wanted : Key) (value : Value) : List (Key × Value) → List (Key × Value)
  | [] => [(wanted, value)]
  | row :: rest =>
    if wanted < row.1 then (wanted, value) :: row :: rest
    else if wanted = row.1 then (wanted, value) :: rest
    else row :: insert wanted value rest

omit [LT Key] [DecidableLT Key] in
theorem lookup_pair_cons (wanted other : Key) (value : Value) (rest : List (Key × Value)) :
    ((wanted, value) :: rest).lookup other =
      if other = wanted then some value else rest.lookup other := by
  by_cases same : other = wanted
  · simp [same]
  · have differ : (other == wanted) = false := beq_eq_false_iff_ne.mpr same
    rw [List.lookup_cons, differ, if_neg same]

theorem lookup_insert (wanted other : Key) (value : Value) (rows : List (Key × Value)) :
    (insert wanted value rows).lookup other =
      if other = wanted then some value else rows.lookup other := by
  induction rows with
  | nil => exact lookup_pair_cons wanted other value []
  | cons row rest ih =>
    obtain ⟨key, held⟩ := row
    unfold insert
    by_cases before : wanted < key
    · rw [if_pos before, lookup_pair_cons]
    rw [if_neg before]
    by_cases equal : wanted = key
    · subst equal
      rw [if_pos rfl, lookup_pair_cons, lookup_pair_cons]
      split_ifs <;> rfl
    · rw [if_neg equal, lookup_pair_cons, lookup_pair_cons, ih]
      by_cases same : other = wanted
      · rw [if_pos same, if_pos same, if_neg (same ▸ equal)]
      · rw [if_neg same, if_neg same]

theorem mem_insert {wanted : Key} {value : Value} {rows : List (Key × Value)} {row : Key × Value}
    (member : row ∈ insert wanted value rows) : row = (wanted, value) ∨ row ∈ rows := by
  induction rows with
  | nil => exact .inl (mem_singleton.mp member)
  | cons head tail ih =>
    unfold insert at member
    split_ifs at member
    · exact mem_cons.mp member
    · exact (mem_cons.mp member).imp id (mem_cons_of_mem _)
    · rcases mem_cons.mp member with rfl | inTail
      · exact .inr mem_cons_self
      · exact (ih inTail).imp id (mem_cons_of_mem _)

theorem mem_insert_self (wanted : Key) (value : Value) (rows : List (Key × Value)) :
    (wanted, value) ∈ insert wanted value rows := by
  induction rows with
  | nil => exact mem_singleton_self _
  | cons head tail ih =>
    unfold insert
    split_ifs
    · exact mem_cons_self
    · exact mem_cons_self
    · exact mem_cons_of_mem _ ih

end Ordered

end Runix.Lib.Tables
