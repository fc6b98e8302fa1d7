import Mathlib.Data.List.MinMax
import Mathlib.Data.Prod.Lex
import Mathlib.Order.BooleanAlgebra.Basic

/-!
# Network selection

`select_network` checks the account, the input sizes and the plan, and then keeps the best
usable candidate in one pass.  The pass is the greatest element of the usable candidates in a
total order that tells any two candidates apart, so the order of the lists does not matter.
-/

namespace Runix.Mobile.NetworkSelection

def maxCandidates : Nat := 32
def maxAllowedNetworks : Nat := 64

structure NetworkId where
  mcc : Nat
  mnc : Nat
deriving DecidableEq, Repr

inductive AccountStanding where
  | active | suspended | closed
deriving DecidableEq, Repr

structure Candidate where
  network : NetworkId
  signal : Int
  isHome : Bool
deriving DecidableEq, Repr

structure SelectionInput where
  standing : AccountStanding
  allowed : List NetworkId
  preferred : Option NetworkId
  roamingAllowed : Bool
  candidates : List Candidate
deriving DecidableEq, Repr

inductive SelectionReason where
  | planPreferred | homeNetwork | strongestSignal
deriving DecidableEq, Repr

inductive RefusalReason where
  | accountSuspended | accountClosed | tooManyCandidates | tooManyAllowedNetworks | noCandidates
  | noAllowedNetworksInPlan | noAllowedCandidate | roamingNotPermitted
deriving DecidableEq, Repr

inductive Selection where
  | allowed (network : NetworkId) (reason : SelectionReason)
  | refused (reason : RefusalReason)
deriving DecidableEq, Repr

/-- Larger wins; of two networks the lower one is the larger. -/
def Rank : Type := Bool ×ₗ Bool ×ₗ Int ×ₗ (Nat ×ₗ Nat)ᵒᵈ

instance : LinearOrder Rank :=
  letI := Int.instLinearOrder
  inferInstanceAs (LinearOrder (Bool ×ₗ Bool ×ₗ Int ×ₗ (Nat ×ₗ Nat)ᵒᵈ))

def rank (c : Candidate) (isPref : Bool) : Rank :=
  toLex (isPref, toLex (c.isHome, toLex (c.signal,
    OrderDual.toDual (toLex (c.network.mcc, c.network.mnc)))))

namespace SelectionInput

variable (input : SelectionInput)

def isPref (c : Candidate) : Bool := input.preferred = some c.network

/-- The body of the loop, for a candidate on the allowed list. -/
def consider (state : Bool × Option (Candidate × Bool)) (c : Candidate) :
    Bool × Option (Candidate × Bool) :=
  if !c.isHome && !input.roamingAllowed then (true, state.2)
  else
    let isPref := input.isPref c
    let better := match state.2 with
      | none => true
      | some (b, bPref) => decide (rank b bPref < rank c isPref)
    (true, if better then some (c, isPref) else state.2)

end SelectionInput

def selectNetwork (input : SelectionInput) : Selection :=
  match input.standing with
  | .suspended => .refused .accountSuspended
  | .closed => .refused .accountClosed
  | .active =>
    if maxCandidates < input.candidates.length then .refused .tooManyCandidates
    else if maxAllowedNetworks < input.allowed.length then .refused .tooManyAllowedNetworks
    else if input.candidates.isEmpty then .refused .noCandidates
    else if input.allowed.isEmpty then .refused .noAllowedNetworksInPlan
    else
      match (input.candidates.filter (input.allowed.contains ·.network)).foldl input.consider
          (false, none) with
      | (_, some (c, isPref)) =>
        .allowed c.network
          (if isPref then .planPreferred else if c.isHome then .homeNetwork else .strongestSignal)
      | (true, none) => .refused .roamingNotPermitted
      | (false, none) => .refused .noAllowedCandidate

namespace SelectionInput

variable (input : SelectionInput)

variable (c : Candidate)

/-- On the allowed list, and home or covered by roaming. -/
def Usable : Prop :=
  c ∈ input.candidates ∧ c.network ∈ input.allowed ∧ (c.isHome = true ∨ input.roamingAllowed = true)

def rankOf : Rank := rank c (input.isPref c)

theorem rankOf_injective : Function.Injective input.rankOf := by
  rintro ⟨⟨mcc, mnc⟩, signal, isHome⟩ ⟨⟨mcc', mnc'⟩, signal', isHome'⟩ same
  obtain ⟨-, rest⟩ := Prod.mk.inj (toLex_inj.mp same)
  obtain ⟨home, rest⟩ := Prod.mk.inj (toLex_inj.mp rest)
  obtain ⟨signals, networks⟩ := Prod.mk.inj (toLex_inj.mp rest)
  obtain ⟨countries, codes⟩ := Prod.mk.inj (toLex_inj.mp (OrderDual.toDual_inj.mp networks))
  exact congr (congrArg₂ Candidate.mk (congrArg₂ NetworkId.mk countries codes) signals) home

def listed : List Candidate := input.candidates.filter (input.allowed.contains ·.network)

def roams : Bool := c.isHome || input.roamingAllowed

def greatest : Option Candidate := (input.listed.filter input.roams).argmax input.rankOf

theorem mem_usable {c : Candidate} : c ∈ input.listed.filter input.roams ↔ input.Usable c := by
  simp only [listed, roams, Usable, List.mem_filter, List.contains_eq_mem, decide_eq_true_eq,
    and_assoc, Bool.or_eq_true]

def tagged (best : Option Candidate) : Option (Candidate × Bool) :=
  best.map fun c => (c, input.isPref c)

/-- The loop keeps the greatest of the usable candidates it has seen. -/
theorem foldl_consider (any : Bool) (best : Option Candidate) (rest : List Candidate) :
    rest.foldl input.consider (any, input.tagged best) =
      (any || !rest.isEmpty, input.tagged ((rest.filter input.roams).foldl
        (List.argAux fun b c => input.rankOf c < input.rankOf b) best)) := by
  induction rest generalizing any best with
  | nil => simp
  | cons c rest ih =>
    have roaming : (!c.isHome && !input.roamingAllowed) = !input.roams c := (Bool.not_or _ _).symm
    rw [List.foldl_cons, consider, roaming]
    cases roams : input.roams c with
    | false => simp [ih, roams]
    | true =>
      have better : (true, if (match input.tagged best with
            | none => true
            | some (b, bPref) => decide (rank b bPref < rank c (input.isPref c))) = true
          then some (c, input.isPref c) else input.tagged best) =
          (true, input.tagged
            (List.argAux (fun b c => input.rankOf c < input.rankOf b) best c)) := by
        cases best with
        | none => rfl
        | some b =>
          by_cases better : rank b (input.isPref b) < rank c (input.isPref c) <;>
            simp [tagged, List.argAux, rankOf, better]
      simp only [Bool.not_true, Bool.false_eq_true, if_false, better, ih]
      simp [roams]

theorem greatest_eq_some_iff {c : Candidate} :
    input.greatest = some c ↔
      input.Usable c ∧ ∀ other, input.Usable other → input.rankOf other ≤ input.rankOf c := by
  constructor
  · intro found
    refine ⟨input.mem_usable.mp (List.argmax_mem found), fun other usable => ?_⟩
    exact List.le_of_mem_argmax (input.mem_usable.mpr usable) found
  · rintro ⟨usable, greatest⟩
    cases found : input.greatest with
    | none =>
      have empty := List.argmax_eq_none.mp found
      exact absurd (input.mem_usable.mpr usable) (by simp [empty])
    | some best =>
      have below := greatest best (input.mem_usable.mp (List.argmax_mem found))
      have above := List.le_of_mem_argmax (input.mem_usable.mpr usable) found
      rw [input.rankOf_injective (le_antisymm below above)]

theorem greatest_eq_none_iff : input.greatest = none ↔ ∀ c, ¬ input.Usable c := by
  rw [greatest, List.argmax_eq_none, List.eq_nil_iff_forall_not_mem]
  simp only [mem_usable]

def reason : SelectionReason :=
  if input.isPref c then .planPreferred else if c.isHome then .homeNetwork else .strongestSignal

def refusal : RefusalReason :=
  if input.candidates.length = 0 then .noCandidates
  else if input.allowed.length = 0 then .noAllowedNetworksInPlan
  else if ∃ c ∈ input.candidates, c.network ∈ input.allowed then .roamingNotPermitted
  else .noAllowedCandidate

theorem refusal_eq_iff : input.refusal = .roamingNotPermitted ↔
    ∃ c ∈ input.candidates, c.network ∈ input.allowed := by
  unfold refusal
  split_ifs with none empty some
  · simp [List.length_eq_zero_iff.mp none]
  · simp [List.length_eq_zero_iff.mp empty]
  · simpa using some
  · simpa using some

theorem selectNetwork_eq (active : input.standing = .active)
    (candidates : input.candidates.length ≤ maxCandidates)
    (allowed : input.allowed.length ≤ maxAllowedNetworks) :
    selectNetwork input = input.greatest.elim (.refused input.refusal)
      fun c => .allowed c.network (input.reason c) := by
  unfold selectNetwork refusal
  rw [active]
  rw [if_neg (Nat.not_lt.mpr candidates), if_neg (Nat.not_lt.mpr allowed)]
  by_cases none : input.candidates = []
  · simp [greatest, listed, none]
  by_cases empty : input.allowed = []
  · simp [greatest, listed, none, empty]
  have loop : input.listed.foldl input.consider (false, Option.none) =
      (!input.listed.isEmpty, input.tagged input.greatest) :=
    (input.foldl_consider false Option.none _).trans (by rw [Bool.false_or]; rfl)
  have some : (!input.listed.isEmpty) =
      decide (∃ c ∈ input.candidates, c.network ∈ input.allowed) := by
    rw [Bool.eq_iff_iff]
    simp [listed]
  rw [if_neg (by simpa using none), if_neg (by simpa using empty), if_neg (by simpa using none),
    if_neg (by simpa using empty)]
  change (match input.listed.foldl input.consider (false, Option.none) with
    | (_, .some (c, isPref)) => Selection.allowed c.network (if isPref then .planPreferred
        else if c.isHome then .homeNetwork else .strongestSignal)
    | (true, .none) => .refused .roamingNotPermitted
    | (false, .none) => .refused .noAllowedCandidate) = _
  rw [loop, some]
  cases input.greatest with
  | some c => rfl
  | none => by_cases listed : ∃ c ∈ input.candidates, c.network ∈ input.allowed <;>
      simp [tagged, listed]

end SelectionInput

/-- The candidate that is greatest among the usable ones is chosen, a refusal means that there
is none, and the order in which candidates and allowed networks are listed is not seen. -/
theorem select_network_greatest (input : SelectionInput) (active : input.standing = .active)
    (candidates : input.candidates.length ≤ maxCandidates)
    (allowed : input.allowed.length ≤ maxAllowedNetworks) :
    (∀ network, (∃ reason, selectNetwork input = .allowed network reason) ↔
      ∃ c, c.network = network ∧ input.Usable c ∧
        ∀ other, input.Usable other → input.rankOf other ≤ input.rankOf c) ∧
    ((∃ reason, selectNetwork input = .refused reason) ↔ ∀ c, ¬ input.Usable c) ∧
    (selectNetwork input = .refused .roamingNotPermitted ↔
      (∃ c ∈ input.candidates, c.network ∈ input.allowed) ∧ ∀ c, ¬ input.Usable c) ∧
    ∀ others permitted, others.Perm input.candidates → permitted.Perm input.allowed →
      selectNetwork { input with candidates := others, allowed := permitted } =
        selectNetwork input := by
  have result := input.selectNetwork_eq active candidates allowed
  refine ⟨fun network => ?_, ?_, ?_, fun others permitted sameCandidates sameAllowed => ?_⟩
  · simp only [← input.greatest_eq_some_iff, result]
    cases input.greatest <;> simp
  · rw [← input.greatest_eq_none_iff, result]
    cases input.greatest <;> simp
  · rw [← input.greatest_eq_none_iff, ← input.refusal_eq_iff, result]
    cases input.greatest <;> simp
  · generalize permuted : { input with candidates := others, allowed := permitted } = other
    have usable : ∀ c, other.Usable c ↔ input.Usable c := by
      subst permuted
      simp [SelectionInput.Usable, sameCandidates.mem_iff, sameAllowed.mem_iff]
    have greatest : other.greatest = input.greatest := by
      subst permuted
      ext c
      simp only [SelectionInput.greatest_eq_some_iff, usable]
      rfl
    have refusal : other.refusal = input.refusal := by
      subst permuted
      simp [SelectionInput.refusal, sameCandidates.mem_iff, sameAllowed.mem_iff,
        sameCandidates.length_eq, sameAllowed.length_eq]
    subst permuted
    rw [SelectionInput.selectNetwork_eq { input with candidates := others, allowed := permitted }
      active (sameCandidates.length_eq.trans_le candidates)
      (sameAllowed.length_eq.trans_le allowed), result, refusal, greatest]
    rfl

/-- A home network and a stronger foreign one, without roaming. -/
theorem home_chosen_in_any_order : let home : Candidate := ⟨⟨310, 260⟩, -90, true⟩
    let foreign : Candidate := ⟨⟨208, 1⟩, -60, false⟩
    let input : SelectionInput :=
      ⟨.active, [⟨208, 1⟩, ⟨310, 260⟩], none, false, [foreign, home]⟩
    selectNetwork { input with candidates := [home, foreign] } = selectNetwork input := by
  intro home foreign input
  exact (select_network_greatest input rfl (by decide) (by decide)).2.2.2 _ input.allowed
    (List.Perm.swap foreign home []) (List.Perm.refl _)

end Runix.Mobile.NetworkSelection
