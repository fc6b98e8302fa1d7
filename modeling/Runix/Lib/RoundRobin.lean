import Mathlib.Data.List.Nodup

/-!
# Rings of turns

A ring has one member whose turn it is, a queue of members that wait, and the members that
have left for good.  A turn ends when the first of the queue takes over; the member whose
turn it was goes to the end of the queue or leaves.  New members join at the end.

Between two consecutive turns of a member, the members that waited when the first of them
ended have one turn each, in the order of the queue.
-/

namespace Runix.Lib.RoundRobin

open List

structure Rotation (Member : Type*) where
  current : Member
  queue : List Member
  gone : List Member

variable {Member : Type*}

def Rotation.members (ring : Rotation Member) : List Member :=
  ring.current :: (ring.queue ++ ring.gone)

theorem Rotation.members_join (ring : Rotation Member) (member : Member) :
    ({ ring with queue := ring.queue ++ [member] } : Rotation Member).members.Perm
      (member :: ring.members) := by
  have joined := (perm_append_singleton member ring.queue).append_right ring.gone
  exact (joined.cons ring.current).trans (List.Perm.swap member ring.current _)

/-- One move, with the member whose turn it starts. -/
inductive Move : Rotation Member → Option Member → Rotation Member → Prop
  | still (ring : Rotation Member) : Move ring none ring
  | join (ring : Rotation Member) (member : Member) (new : member ∉ ring.members) :
      Move ring none { ring with queue := ring.queue ++ [member] }
  | rotate (current next : Member) (rest gone : List Member) :
      Move ⟨current, next :: rest, gone⟩ (some next) ⟨next, rest ++ [current], gone⟩
  | leave (current next : Member) (rest gone : List Member) :
      Move ⟨current, next :: rest, gone⟩ (some next) ⟨next, rest, gone ++ [current]⟩

/-- The turns of a run of moves. -/
inductive Turns : Rotation Member → List Member → Rotation Member → Prop
  | nil (ring : Rotation Member) : Turns ring [] ring
  | cons {ring middle last : Rotation Member} {turn : Option Member} {later : List Member}
      (move : Move ring turn middle) (rest : Turns middle later last) :
      Turns ring (turn.toList ++ later) last

namespace Move

variable {ring after : Rotation Member} {turn : Option Member}

theorem members_of_turn {next : Member} (move : Move ring (some next) after) :
    after.members.Perm ring.members := by
  cases move with
  | rotate current next rest gone =>
    have moved := (perm_append_singleton current rest).append_right gone
    exact (moved.cons next).trans (List.Perm.swap current next _)
  | leave current next rest gone =>
    have moved : (rest ++ (gone ++ [current])).Perm (current :: (rest ++ gone)) := by
      rw [← append_assoc]
      exact perm_append_singleton current (rest ++ gone)
    exact (moved.cons next).trans (List.Perm.swap current next _)

theorem members_nodup (move : Move ring turn after) (distinct : ring.members.Nodup) :
    after.members.Nodup := by
  cases turn with
  | some next => exact move.members_of_turn.nodup_iff.mpr distinct
  | none =>
    cases move with
    | still ring => exact distinct
    | join ring member new =>
      exact (ring.members_join member).nodup_iff.mpr (nodup_cons.mpr ⟨new, distinct⟩)

theorem gone_stays (move : Move ring turn after) {member : Member} (left : member ∈ ring.gone) :
    member ∈ after.gone := by
  cases move with
  | still ring => exact left
  | join ring new fresh => exact left
  | rotate current next rest gone => exact left
  | leave current next rest gone => exact mem_append_left _ left

theorem no_turn (move : Move ring none after) :
    after.current = ring.current ∧ ∃ joined, after.queue = ring.queue ++ joined := by
  cases move with
  | still ring => exact ⟨rfl, [], (append_nil _).symm⟩
  | join ring member new => exact ⟨rfl, [member], rfl⟩

theorem takes_over {next : Member} (move : Move ring (some next) after) :
    after.current = next ∧ ∃ rest back, ring.queue = next :: rest ∧ after.queue = rest ++ back ∧
      (back = [ring.current] ∨ ring.current ∈ after.gone) := by
  cases move with
  | rotate current next rest gone => exact ⟨rfl, rest, [current], rfl, rfl, .inl rfl⟩
  | leave current next rest gone =>
    exact ⟨rfl, rest, [], rfl, (append_nil _).symm,
      .inr (mem_append_right _ mem_cons_self)⟩

end Move

namespace Rotation

variable {ring : Rotation Member} (distinct : ring.members.Nodup)
include distinct

theorem queue_nodup : ring.queue.Nodup :=
  (nodup_append.mp (nodup_cons.mp distinct).2).1

theorem current_not_waiting : ring.current ∉ ring.queue :=
  fun waits => (nodup_cons.mp distinct).1 (mem_append_left _ waits)

theorem not_waiting_of_gone {member : Member} (left : member ∈ ring.gone) :
    member ∉ ring.queue := by
  intro waits
  have apart := (nodup_append.mp (nodup_cons.mp distinct).2).2.2
  exact apart member waits member left rfl

end Rotation

namespace Turns

variable {ring last : Rotation Member} {turns between more ahead behind : List Member}
  {member : Member}

variable (run : Turns ring turns last)

include run

theorem members_nodup (distinct : ring.members.Nodup) : last.members.Nodup := by
  induction run with
  | nil ring => exact distinct
  | cons move rest ih => exact ih (move.members_nodup distinct)

theorem gone_stays (left : member ∈ ring.gone) : member ∈ last.gone := by
  induction run with
  | nil ring => exact left
  | cons move rest ih => exact ih (move.gone_stays left)

theorem gone_has_none (distinct : ring.members.Nodup) (left : member ∈ ring.gone) :
    member ∉ turns := by
  induction run with
  | nil ring => exact not_mem_nil
  | @cons ring middle last turn later move rest ih =>
    have tail := ih (move.members_nodup distinct) (move.gone_stays left)
    cases turn with
    | none => exact tail
    | some next =>
      obtain ⟨-, waiting, -, queue, -⟩ := move.takes_over
      rintro (now | ⟨_, now⟩)
      · apply Rotation.not_waiting_of_gone distinct left
        rw [queue]
        exact mem_cons_self
      · exact tail now

/-- Before a member that waits has its turn, exactly the members ahead of it have theirs. -/
theorem ahead_first (distinct : ring.members.Nodup) (waits : ring.queue = ahead ++ member :: behind)
    (next : turns = between ++ member :: more) (first : member ∉ between) : between = ahead := by
  induction run generalizing ahead behind between with
  | nil ring => simp at next
  | @cons ring middle last turn later move rest ih =>
    have kept := move.members_nodup distinct
    cases turn with
    | none =>
      obtain ⟨-, joined, queue⟩ := move.no_turn
      rw [waits, append_assoc, cons_append] at queue
      exact ih kept queue next first
    | some head =>
      obtain ⟨-, tail, back, queue, after, -⟩ := move.takes_over
      rw [waits] at queue
      have turnsNow : head :: later = between ++ member :: more := next
      cases ahead with
      | nil =>
        -- The member is the first of the queue, and its turn starts now.
        obtain ⟨rfl, -⟩ := List.cons.inj queue
        cases between with
        | nil => rfl
        | cons other between =>
          obtain ⟨rfl, -⟩ := List.cons.inj turnsNow
          exact absurd mem_cons_self first
      | cons other ahead =>
        obtain ⟨rfl, rfl⟩ := List.cons.inj queue
        cases between with
        | nil =>
          obtain ⟨rfl, -⟩ := List.cons.inj turnsNow
          have once := Rotation.queue_nodup distinct
          rw [waits] at once
          exact absurd (mem_append_right _ mem_cons_self)
            (nodup_cons.mp once).1
        | cons turn between =>
          obtain ⟨rfl, turnsLater⟩ := List.cons.inj turnsNow
          have queueLater : middle.queue = ahead ++ member :: (behind ++ back) := by
            rw [after]
            exact append_assoc ahead (member :: behind) back
          have notLater := fun found => first (mem_cons_of_mem _ found)
          rw [ih kept queueLater turnsLater notLater]

/-- Between two consecutive turns of a member, each member that waited has one turn: first
those of the queue in their order, then those that joined before the turn ended. -/
theorem each_once (distinct : ring.members.Nodup) (next : turns = between ++ ring.current :: more)
    (first : ring.current ∉ between) :
    between.Nodup ∧ ∃ joined, between = ring.queue ++ joined := by
  induction run generalizing between with
  | nil ring => simp at next
  | @cons ring middle last turn later move rest ih =>
    have kept := move.members_nodup distinct
    cases turn with
    | none =>
      obtain ⟨same, joined, queue⟩ := move.no_turn
      rw [← same] at next first
      obtain ⟨once, more, rfl⟩ := ih kept next first
      refine ⟨once, joined ++ more, ?_⟩
      rw [queue, append_assoc]
    | some head =>
      obtain ⟨-, tail, back, queue, after, ended⟩ := move.takes_over
      have turnsNow : head :: later = between ++ ring.current :: more := next
      have other : head ≠ ring.current := by
        intro same
        apply Rotation.current_not_waiting distinct
        rw [queue, same]
        exact mem_cons_self
      cases between with
      | nil => exact absurd (List.cons.inj turnsNow).1 other
      | cons turn between =>
        obtain ⟨rfl, turnsLater⟩ := List.cons.inj turnsNow
        have again : ring.current ∈ later := by
          rw [turnsLater]
          exact mem_append_right _ mem_cons_self
        rcases ended with rfl | left
        · have notLater := fun found => first (mem_cons_of_mem _ found)
          have rounds := ahead_first rest kept after turnsLater notLater
          have once := Rotation.queue_nodup distinct
          rw [queue] at once
          rw [rounds, queue]
          exact ⟨once, [], (append_nil _).symm⟩
        · exact absurd again (rest.gone_has_none kept left)

end Turns

end Runix.Lib.RoundRobin
