import Mathlib.Data.List.Induction

/-!
# Hash chains

A chain of entries, each of which stores the digest of its predecessor and its
own digest.  Verification walks the chain from a genesis digest and recomputes
every entry.  The lemmas say how verification composes along an append, what a
single edited entry does to it, and that a chain whose digests bind their
predecessors cannot be rearranged.
-/

namespace Runix.Lib.HashChain

variable {Entry Digest : Type*} [DecidableEq Digest]
variable (previous stored recomputed : Entry → Digest)

def verifyFrom (expected : Digest) : List Entry → Bool
  | [] => true
  | entry :: rest =>
    if previous entry ≠ expected then false
    else if recomputed entry ≠ stored entry then false
    else verifyFrom (stored entry) rest

/-- The digest the next entry must link to. -/
def tip (genesis : Digest) (entries : List Entry) : Digest :=
  (entries.getLast?.map stored).getD genesis

omit [DecidableEq Digest] in
theorem tip_cons (genesis : Digest) (entry : Entry) (rest : List Entry) :
    tip stored genesis (entry :: rest) = tip stored (stored entry) rest := by
  unfold tip
  cases rest with
  | nil => rfl
  | cons next others =>
    rw [List.getLast?_cons_cons]
    simp [List.getLast?_eq_some_getLast]

variable (expected : Digest)

theorem verify_from_cons_iff (entry : Entry) (rest : List Entry) :
    verifyFrom previous stored recomputed expected (entry :: rest) = true ↔
      previous entry = expected ∧ recomputed entry = stored entry ∧
        verifyFrom previous stored recomputed (stored entry) rest = true := by
  simp only [verifyFrom]
  by_cases linked : previous entry = expected
  · by_cases sound : recomputed entry = stored entry <;> simp [linked, sound]
  · simp [linked]

/-- A chain verifies exactly when its front does and its rest does from the front's
tip. -/
theorem verify_from_append_iff (front rest : List Entry) :
    verifyFrom previous stored recomputed expected (front ++ rest) = true ↔
      verifyFrom previous stored recomputed expected front = true ∧
        verifyFrom previous stored recomputed (tip stored expected front) rest = true := by
  induction front generalizing expected with
  | nil => simp [verifyFrom, tip]
  | cons head tail ih =>
    rw [List.cons_append, verify_from_cons_iff, verify_from_cons_iff, ih, tip_cons]
    simp only [and_assoc]

/-- A chain grown by one entry verifies exactly when the old chain does, the new
entry links to its tip and the new entry's digest is right. -/
theorem verify_from_snoc_iff (entries : List Entry) (entry : Entry) :
    verifyFrom previous stored recomputed expected (entries ++ [entry]) = true ↔
      verifyFrom previous stored recomputed expected entries = true ∧
        previous entry = tip stored expected entries ∧ recomputed entry = stored entry := by
  rw [verify_from_append_iff, verify_from_cons_iff]
  simp [verifyFrom]

/-- Rewriting one entry of a verified chain, with its links left alone, is
unnoticed exactly when the rewritten entry recomputes to its stored digest. -/
theorem verify_from_edit_iff {expected : Digest} {before after : List Entry} {entry edited : Entry}
    (samePrevious : previous edited = previous entry) (sameStored : stored edited = stored entry)
    (verified : verifyFrom previous stored recomputed expected (before ++ entry :: after) = true) :
    verifyFrom previous stored recomputed expected (before ++ edited :: after) = true ↔
      recomputed edited = stored edited := by
  induction before generalizing expected with
  | nil =>
    rw [List.nil_append, verify_from_cons_iff] at *
    rw [samePrevious, sameStored]
    constructor
    · rintro ⟨-, sound, -⟩
      exact sound
    · intro sound
      exact ⟨verified.1, sound, verified.2.2⟩
  | cons head tail ih =>
    rw [List.cons_append, verify_from_cons_iff] at *
    rw [ih verified.2.2]
    constructor
    · rintro ⟨-, -, sound⟩
      exact sound
    · intro sound
      exact ⟨verified.1, verified.2.1, sound⟩

/-! ## Rearrangement -/

section Rearrangement

variable {previous stored recomputed}
variable {genesis : Digest} {chain : List Entry}

omit [DecidableEq Digest] in
theorem tip_snoc (entries : List Entry) (entry : Entry) :
    tip stored genesis (entries ++ [entry]) = stored entry := by
  simp [tip]

theorem previous_eq_tip (verified : verifyFrom previous stored recomputed genesis chain = true)
    {before after : List Entry} {entry : Entry} (split : chain = before ++ entry :: after) :
    previous entry = tip stored genesis before := by
  rw [split, verify_from_append_iff, verify_from_cons_iff] at verified
  exact verified.2.1

variable (previous stored recomputed genesis chain) in
/-- A verified chain in which no digest is the genesis and equal digests have equal
predecessors. -/
structure Bound : Prop where
  verified : verifyFrom previous stored recomputed genesis chain = true
  fresh : ∀ entry ∈ chain, stored entry ≠ genesis
  binding : ∀ first ∈ chain, ∀ second ∈ chain,
    stored first = stored second → previous first = previous second

variable (bound : Bound previous stored recomputed genesis chain)

include bound

/-- The fronts of such a chain are told apart by their tips. -/
theorem front_eq_of_tip_eq {first second : List Entry} (inFirst : first <+: chain)
    (inSecond : second <+: chain) (tips : tip stored genesis first = tip stored genesis second) :
    first = second := by
  -- Walk both fronts back to the genesis; the one that gets there first would make the
  -- other's digest the genesis.
  induction first using List.reverseRecOn generalizing second with
  | nil =>
    cases second using List.reverseRecOn with
    | nil => rfl
    | append_singleton rest last =>
      rw [tip_snoc] at tips
      exact absurd tips.symm (bound.fresh last (inSecond.subset (by simp)))
  | append_singleton init entry ih =>
    cases second using List.reverseRecOn with
    | nil =>
      rw [tip_snoc] at tips
      exact absurd tips (bound.fresh entry (inFirst.subset (by simp)))
    | append_singleton rest last =>
      rw [tip_snoc, tip_snoc] at tips
      have links := bound.binding entry (inFirst.subset (by simp)) last
        (inSecond.subset (by simp)) tips
      obtain ⟨afterFirst, splitFirst⟩ := inFirst
      obtain ⟨afterSecond, splitSecond⟩ := inSecond
      rw [List.append_assoc, List.singleton_append] at splitFirst splitSecond
      rw [previous_eq_tip bound.verified splitFirst.symm,
        previous_eq_tip bound.verified splitSecond.symm] at links
      have inits : init = rest := ih ⟨_, splitFirst⟩ ⟨_, splitSecond⟩ links
      subst inits
      have both := List.append_cancel_left (splitFirst.trans splitSecond.symm)
      rw [(List.cons.inj both).1]

/-- Entries drawn from such a chain, in any order and number, verify exactly when
they are a front of it. -/
theorem verify_from_drawn_iff {entries : List Entry} (drawn : ∀ entry ∈ entries, entry ∈ chain) :
    verifyFrom previous stored recomputed genesis entries = true ↔ entries <+: chain := by
  constructor
  · intro passes
    induction entries using List.reverseRecOn with
    | nil => exact List.nil_prefix
    | append_singleton init entry ih =>
      rw [verify_from_snoc_iff] at passes
      have front : init <+: chain :=
        ih (fun other inside => drawn other (by simp [inside])) passes.1
      obtain ⟨before, after, split⟩ := List.append_of_mem (drawn entry (by simp))
      -- The entry's place in the chain is the one its link names.
      have place : init = before := front_eq_of_tip_eq bound front
        ⟨entry :: after, split.symm⟩ (passes.2.1.symm.trans (previous_eq_tip bound.verified split))
      exact ⟨after, by rw [place, split]; simp⟩
  · rintro ⟨rest, rfl⟩
    exact ((verify_from_append_iff ..).mp bound.verified).1

theorem not_repeated (before middle after : List Entry) (entry : Entry) :
    chain ≠ before ++ entry :: (middle ++ entry :: after) := by
  intro split
  have split' : chain = (before ++ entry :: middle) ++ entry :: after := by
    rw [split, List.append_assoc, List.cons_append]
  have fronts : before = before ++ entry :: middle :=
    front_eq_of_tip_eq bound ⟨_, split.symm⟩ ⟨_, split'.symm⟩
      ((previous_eq_tip bound.verified split).symm.trans (previous_eq_tip bound.verified split'))
  simp at fronts

end Rearrangement

end Runix.Lib.HashChain
