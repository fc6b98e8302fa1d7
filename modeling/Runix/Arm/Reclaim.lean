import Runix.Arm.AddressSpace
import Runix.Lib.Checked
import Mathlib.Data.List.Sort

/-!
# Giving a space back

`plan_frees` of `reclaim.rs` checks the ledger of a space before anything is freed, and
`AddressSpace::destroy` frees what it lists.  A ledger of separate, aligned extents inside the
heap passes every check; the plan is the ledger in the order of the addresses.

The list of the plan needs memory itself.  `reserve` says whether it could be allocated: if
not, `destroy` refuses and frees nothing.
-/

namespace Runix.Arm

open Lib.Extents Lib.Checked

def frameBytes : Nat := 4096

def heapStart : Nat := 0x41000000

def heapSize : Nat := 4 * 1024 * 1024

def heapEnd : Nat := heapStart + heapSize

inductive PlanError
  | misaligned (addr : Nat)
  | badLength (addr : Nat)
  | outsideHeap (addr : Nat)
  | overlap (addr : Nat)
deriving DecidableEq

def PlanError.asStr : PlanError → String
  | .misaligned _ => "extent is not 4 KiB-aligned"
  | .badLength _ => "extent has zero or overflowing length"
  | .outsideHeap _ => "extent is outside the kernel heap"
  | .overlap _ => "two owned extents overlap (double free refused)"

/-- The extents of the blocks, with `checked_mul`. -/
def blockExtents : List (Nat × Nat) → Except PlanError (List Extent)
  | [] => .ok []
  | (addr, count) :: rest =>
    if 2 ^ 64 ≤ count * frameBytes then .error (.badLength addr)
    else do
      let extents ← blockExtents rest
      return ⟨addr, count * frameBytes⟩ :: extents

/-- The check of one extent, with `checked_add`. -/
def checkExtent (start stop : Nat) (extent : Extent) : Except PlanError Unit :=
  if extent.addr % frameBytes ≠ 0 then .error (.misaligned extent.addr)
  else if extent.bytes = 0 then .error (.badLength extent.addr)
  else if 2 ^ 64 ≤ extent.addr + extent.bytes then .error (.badLength extent.addr)
  else if extent.addr < start ∨ stop < extent.addr + extent.bytes then
    .error (.outsideHeap extent.addr)
  else .ok ()

def checkExtents (start stop : Nat) : List Extent → Except PlanError Unit
  | [] => .ok ()
  | extent :: rest => do
      checkExtent start stop extent
      checkExtents start stop rest

/-- The extents in the order of their addresses, unless two of them overlap. -/
def sortExtents (extents : List Extent) : Except PlanError (List Extent) :=
  let sorted := extents.mergeSort fun first second => first.addr ≤ second.addr
  match firstOverlap sorted with
  | some extent => .error (.overlap extent.addr)
  | none => .ok sorted

def planFrees (tables pages : List Nat) (blocks : List (Nat × Nat)) (start stop : Nat)
    (reserve : Bool) : Except PlanError (List Extent) :=
  if !reserve then .error (.badLength 0)
  else do
    let blocks ← blockExtents blocks
    let extents := (tables ++ pages).map (fun addr => ⟨addr, frameBytes⟩) ++ blocks
    checkExtents start stop extents
    sortExtents extents

inductive DestroyError
  | live
  | badLedger (error : PlanError)
deriving DecidableEq

structure Reclaimed where
  extents : Nat
  bytes : Nat
deriving DecidableEq

namespace AddressSpace

def extents (space : AddressSpace) : List Extent :=
  (space.ownedTables ++ space.ownedPages).map frameAt ++
    space.ownedBlocks.map fun block => ⟨block.1, block.2 * frameBytes⟩

/-- The extents that were freed, in order, with the totals. -/
def destroy (space : AddressSpace) (activeRoot : Nat) (reserve : Bool) :
    Except DestroyError (Reclaimed × List Extent) :=
  if space.IsLive activeRoot then .error .live
  else
    match planFrees space.ownedTables space.ownedPages space.ownedBlocks heapStart heapEnd
      reserve with
    | .error error => .error (.badLedger error)
    | .ok plan => .ok (⟨plan.length, (plan.map Extent.bytes).sum⟩, plan)

end AddressSpace

/-- An extent the heap can have handed out. -/
structure InHeap (extent : Extent) : Prop where
  aligned : extent.addr % granule4Kib = 0
  nonempty : 0 < extent.bytes
  low : heapStart ≤ extent.addr
  high : extent.addr + extent.bytes ≤ heapEnd

instance (extent : Extent) : Decidable (InHeap extent) :=
  decidable_of_iff (extent.addr % granule4Kib = 0 ∧ 0 < extent.bytes ∧
      heapStart ≤ extent.addr ∧ extent.addr + extent.bytes ≤ heapEnd)
    ⟨fun ⟨aligned, nonempty, low, high⟩ => ⟨aligned, nonempty, low, high⟩,
      fun ⟨aligned, nonempty, low, high⟩ => ⟨aligned, nonempty, low, high⟩⟩

/-! ## What the plan asks for -/

section Plan

variable {start stop : Nat}

def Freeable (start stop : Nat) (extent : Extent) : Prop :=
  extent.addr % frameBytes = 0 ∧ 0 < extent.bytes ∧ extent.addr + extent.bytes < 2 ^ 64 ∧
    start ≤ extent.addr ∧ extent.addr + extent.bytes ≤ stop

theorem checkExtent_ok_iff {extent : Extent} :
    checkExtent start stop extent = .ok () ↔ Freeable start stop extent := by
  unfold checkExtent Freeable
  split_ifs <;> simp <;> omega

variable {extents : List Extent}

theorem checkExtents_ok_iff :
    checkExtents start stop extents = .ok () ↔ ∀ extent ∈ extents, Freeable start stop extent := by
  induction extents with
  | nil => exact iff_of_true rfl (List.forall_mem_nil _)
  | cons extent rest ih =>
    rw [checkExtents, List.forall_mem_cons, ← ih, ← checkExtent_ok_iff]
    cases checkExtent start stop extent <;> simp [bind, Except.bind]

def blockExtent (block : Nat × Nat) : Extent := ⟨block.1, block.2 * frameBytes⟩

variable {blocks : List (Nat × Nat)}

theorem blockExtents_ok_iff :
    blockExtents blocks = .ok extents ↔
      (∀ block ∈ blocks, block.2 * frameBytes < 2 ^ 64) ∧ extents = blocks.map blockExtent := by
  induction blocks generalizing extents with
  | nil => simp [blockExtents, eq_comm]
  | cons block rest ih =>
    rw [blockExtents, List.forall_mem_cons]
    split_ifs with large
    · exact iff_of_false nofun fun known => Nat.not_le_of_lt known.1.1 large
    · have fits : block.2 * frameBytes < 2 ^ 64 := Nat.lt_of_not_le large
      cases found : blockExtents rest with
      | error error =>
        refine iff_of_false nofun fun known => ?_
        have some := ih.mpr ⟨known.1.2, rfl⟩
        rw [found] at some
        cases some
      | ok tail =>
        obtain ⟨small, rfl⟩ := ih.mp found
        rw [and_iff_right ⟨fits, small⟩, List.map_cons]
        exact ⟨fun made => (Except.ok.inj made).symm, fun same => by rw [same]; rfl⟩

theorem sortExtents_spec (nonempty : ∀ extent ∈ extents, 0 < extent.bytes) :
    ((∃ plan, sortExtents extents = .ok plan) ↔ Separate extents) ∧
      ∀ plan, sortExtents extents = .ok plan →
        plan.Perm extents ∧ plan.Pairwise fun first second => first.addr ≤ second.addr := by
  have transitive : ∀ a b c : Extent, decide (a.addr ≤ b.addr) = true →
      decide (b.addr ≤ c.addr) = true → decide (a.addr ≤ c.addr) = true := by
    intro a b c first second
    exact decide_eq_true (Nat.le_trans (of_decide_eq_true first) (of_decide_eq_true second))
  have total : ∀ a b : Extent, (decide (a.addr ≤ b.addr) || decide (b.addr ≤ a.addr)) = true := by
    intro a b
    rcases Nat.le_total a.addr b.addr with less | more
    · simp [less]
    · simp [more]
  have sorted := (List.pairwise_mergeSort transitive total extents).imp of_decide_eq_true
  have perm := List.mergeSort_perm extents fun first second => decide (first.addr ≤ second.addr)
  have overlap := firstOverlap_eq_none_iff sorted
    fun extent listed => nonempty extent (perm.mem_iff.mp listed)
  have separate : Separate (extents.mergeSort fun first second => first.addr ≤ second.addr) ↔
      Separate extents := ⟨fun known => known.perm perm, fun known => known.perm perm.symm⟩
  unfold sortExtents
  rw [← separate, ← overlap]
  dsimp only
  split
  · rename_i found
    simp [found]
  · rename_i found
    refine ⟨iff_of_true ⟨_, rfl⟩ found, fun plan planned => ?_⟩
    cases planned
    exact ⟨perm, sorted⟩

def ownedExtents (tables pages : List Nat) (blocks : List (Nat × Nat)) : List Extent :=
  (tables ++ pages).map frameAt ++ blocks.map blockExtent

theorem planFrees_eq_ok_iff {tables pages : List Nat} {reserve : Bool} {plan : List Extent} :
    planFrees tables pages blocks start stop reserve = .ok plan ↔
      reserve = true ∧ (∀ extent ∈ ownedExtents tables pages blocks, Freeable start stop extent) ∧
        sortExtents (ownedExtents tables pages blocks) = .ok plan := by
  cases reserve with
  | false => simp [planFrees]
  | true =>
    change (blockExtents blocks >>= fun found => checkExtents start stop (_ ++ found) >>= fun _ =>
      sortExtents (_ ++ found)) = _ ↔ _
    simp only [bind_eq_ok_iff, blockExtents_ok_iff, true_and]
    constructor
    · rintro ⟨_, ⟨-, rfl⟩, _, pass, sorts⟩
      exact ⟨checkExtents_ok_iff.mp pass, sorts⟩
    · rintro ⟨pass, sorts⟩
      refine ⟨_, ⟨fun block listed => ?_, rfl⟩, (), checkExtents_ok_iff.mpr pass, sorts⟩
      have sum := (pass _ (List.mem_append_right _ (List.mem_map_of_mem listed))).2.2.1
      dsimp only [blockExtent] at sum
      omega

/-- A plan is made exactly if there is memory for it and every extent passes, and it is the
extents in the order of their addresses. -/
theorem planFrees_spec (tables pages : List Nat) (blocks : List (Nat × Nat)) (start stop : Nat)
    (reserve : Bool) :
    ((∃ plan, planFrees tables pages blocks start stop reserve = .ok plan) ↔
      reserve = true ∧ (∀ extent ∈ ownedExtents tables pages blocks, Freeable start stop extent) ∧
        Separate (ownedExtents tables pages blocks)) ∧
      ∀ plan, planFrees tables pages blocks start stop reserve = .ok plan →
        plan.Perm (ownedExtents tables pages blocks) ∧
          plan.Pairwise fun first second => first.addr ≤ second.addr := by
  have sorts : (∀ extent ∈ ownedExtents tables pages blocks, Freeable start stop extent) → _ :=
    fun pass => sortExtents_spec fun extent listed => (pass extent listed).2.1
  simp only [planFrees_eq_ok_iff, exists_and_left]
  refine ⟨and_congr_right fun _ => and_congr_right fun pass => (sorts pass).1, ?_⟩
  rintro plan ⟨-, pass, sorted⟩
  exact (sorts pass).2 plan sorted

theorem unreserved_not_planned :
    (∀ extent ∈ ownedExtents [] [] [], Freeable 0 0 extent) ∧ Separate (ownedExtents [] [] []) ∧
      planFrees [] [] [] 0 0 false = .error (.badLength 0) :=
  ⟨List.forall_mem_nil _, List.Pairwise.nil, rfl⟩

end Plan

theorem InHeap.freeable {extent : Extent} (inside : InHeap extent) :
    Freeable heapStart heapEnd extent := by
  have small : heapEnd < 2 ^ 64 := by decide
  exact ⟨inside.aligned, inside.nonempty, inside.high.trans_lt small, inside.low, inside.high⟩

/-- A space whose ledger is in order, and which is not live, is given back whole. -/
theorem AddressSpace.destroy_ok {space : AddressSpace} {activeRoot : Nat}
    (idle : ¬ space.IsLive activeRoot) (separate : Separate space.extents)
    (inside : ∀ extent ∈ space.extents, InHeap extent) :
    ∃ plan, space.destroy activeRoot true =
        .ok (⟨plan.length, (plan.map Extent.bytes).sum⟩, plan) ∧
      plan.Perm space.extents := by
  have pass : ∀ extent ∈ space.extents, Freeable heapStart heapEnd extent :=
    fun extent listed => (inside extent listed).freeable
  obtain ⟨sorts, perm⟩ := sortExtents_spec fun extent listed => (pass extent listed).2.1
  obtain ⟨plan, sorted⟩ := sorts.mpr separate
  have planned := planFrees_eq_ok_iff.mpr ⟨rfl, pass, sorted⟩
  refine ⟨plan, ?_, (perm plan sorted).1⟩
  unfold destroy
  rw [if_neg idle, planned]

theorem AddressSpace.destroy_without_memory (space : AddressSpace) {activeRoot : Nat}
    (idle : ¬ space.IsLive activeRoot) :
    space.destroy activeRoot false = .error (.badLedger (.badLength 0)) := by
  unfold destroy planFrees
  rw [if_neg idle]
  rfl

end Runix.Arm
