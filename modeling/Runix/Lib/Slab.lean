import Mathlib.Data.List.Nodup
import Mathlib.Data.List.Perm.Subperm

/-!
# Slabs

A list of places, each empty or with a value.  A new value goes to the first empty place,
or to a new one at the end, and the place is its key until it is taken out.
-/

namespace Runix.Lib.Slab

variable {Value : Type*}

def get (slab : List (Option Value)) (key : Nat) : Option Value := slab[key]?.join

/-- The key a value is given, and the slab with it. -/
def add : List (Option Value) → Value → Nat × List (Option Value)
  | [], value => (0, [some value])
  | none :: rest, value => (0, some value :: rest)
  | some other :: rest, value => ((add rest value).1 + 1, some other :: (add rest value).2)

def put (slab : List (Option Value)) (key : Nat) (value : Value) : List (Option Value) :=
  slab.set key (some value)

def remove (slab : List (Option Value)) (key : Nat) : List (Option Value) :=
  slab.set key none

def keys (slab : List (Option Value)) : List Nat :=
  (List.range slab.length).filter fun key => (get slab key).isSome

@[simp]
theorem get_nil (key : Nat) : get ([] : List (Option Value)) key = none := rfl

@[simp]
theorem get_zero (place : Option Value) (rest : List (Option Value)) :
    get (place :: rest) 0 = place := rfl

@[simp]
theorem get_succ (place : Option Value) (rest : List (Option Value)) (key : Nat) :
    get (place :: rest) (key + 1) = get rest key := rfl

theorem get_set (slab : List (Option Value)) (key : Nat) (place : Option Value) (wanted : Nat) :
    get (slab.set key place) wanted =
      if wanted = key ∧ key < slab.length then place else get slab wanted := by
  unfold get
  by_cases same : key = wanted
  · subst same
    by_cases inside : key < slab.length <;> simp [inside]
  · simp [same, Ne.symm same]

variable {slab : List (Option Value)}

theorem get_some_lt {key : Nat} {value : Value}
    (found : get slab key = some value) : key < slab.length := by
  by_contra outside
  rw [get, List.getElem?_eq_none (Nat.le_of_not_lt outside)] at found
  cases found

theorem get_put {key : Nat} {old : Value}
    (found : get slab key = some old) (value : Value) (wanted : Nat) :
    get (put slab key value) wanted = if wanted = key then some value else get slab wanted := by
  rw [put, get_set]
  simp [get_some_lt found]

theorem get_remove (slab : List (Option Value)) (key wanted : Nat) :
    get (remove slab key) wanted = if wanted = key then none else get slab wanted := by
  rw [remove, get_set]
  by_cases same : wanted = key
  · by_cases inside : key < slab.length
    · simp [same, inside]
    · simp [same, inside, get]
  · simp [same]

theorem get_add (slab : List (Option Value)) (value : Value) :
    get slab (add slab value).1 = none ∧
      ∀ wanted, get (add slab value).2 wanted =
        if wanted = (add slab value).1 then some value else get slab wanted := by
  induction slab with
  | nil =>
    refine ⟨rfl, fun wanted => ?_⟩
    cases wanted <;> simp [add]
  | cons place rest ih =>
    cases place with
    | none =>
      refine ⟨rfl, fun wanted => ?_⟩
      cases wanted <;> simp [add]
    | some other =>
      refine ⟨by simpa [add] using ih.1, fun wanted => ?_⟩
      cases wanted with
      | zero => simp [add]
      | succ wanted => simpa [add] using ih.2 wanted

theorem keys_length_le {cover : List Nat}
    (covers : ∀ key, (get slab key).isSome → key ∈ cover) : (keys slab).length ≤ cover.length := by
  have distinct : (keys slab).Nodup := List.Nodup.filter _ List.nodup_range
  have within : keys slab ⊆ cover := by
    intro key member
    exact covers key (List.mem_filter.mp member).2
  exact (distinct.subperm within).length_le

end Runix.Lib.Slab
