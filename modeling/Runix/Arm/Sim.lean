import Mathlib.Data.List.Range
import Runix.Lib.Tables

/-!
# eSIM profile lifecycle

The slot table of `kernel-arm/src/sim.rs`: each of the four slots holds up to
four profile containers, and every state change goes through
`SimSlot.transition`.  Operations return the result together with the table
they leave behind, so a partial write before an error would be visible.
-/

namespace Runix.Arm.Sim

open Lib Tables

def slotCount : Nat := 4

def maxProfilesPerSlot : Nat := 4

inductive ProfileState where
  | created
  | disabled
  | enabled
  | deleted
deriving DecidableEq, Repr

def ProfileState.asStatusCode : ProfileState → Nat
  | .created => 0
  | .disabled => 1
  | .enabled => 2
  | .deleted => 3

/-- The derived `Debug` rendering. -/
def ProfileState.debug : ProfileState → String
  | .created => "Created"
  | .disabled => "Disabled"
  | .enabled => "Enabled"
  | .deleted => "Deleted"

@[ext]
structure EsimProfile where
  id : Nat
  identity : Option Nat
  state : ProfileState
deriving DecidableEq, Repr

inductive Op where
  | install
  | enable
  | disable
  | delete
deriving DecidableEq, Repr

def Op.sourceState : Op → ProfileState
  | .install => .created
  | .enable => .disabled
  | .disable => .enabled
  | .delete => .disabled

def Op.targetState : Op → ProfileState
  | .install => .disabled
  | .enable => .enabled
  | .disable => .disabled
  | .delete => .deleted

inductive SimError where
  | noSuchSlot
  | noSuchProfile
  | slotFull
  | wrongState (state : ProfileState)
deriving DecidableEq, Repr

def SimError.display : SimError → String
  | .noSuchSlot => "no such SIM slot"
  | .noSuchProfile => "no such eSIM profile in this slot"
  | .slotFull => "SIM slot is full (" ++ toString maxProfilesPerSlot ++ " profile containers)"
  | .wrongState state => "wrong state for this operation (" ++ state.debug ++ ")"

structure SimSlot where
  profiles : List EsimProfile
deriving DecidableEq, Repr

def SimSlot.new : SimSlot := ⟨[]⟩

/-- `find` resolves an id to a position and every write goes through that
position; here the lookup returns the row, and writes rewrite the first row
with the id. -/
def SimSlot.find (slot : SimSlot) (profileId : Nat) : Except SimError EsimProfile :=
  match Tables.lookup EsimProfile.id profileId slot.profiles with
  | some profile => .ok profile
  | none => .error .noSuchProfile

def SimSlot.create (slot : SimSlot) : Except SimError Nat × SimSlot :=
  if slot.profiles.length ≥ maxProfilesPerSlot then (.error .slotFull, slot)
  else
    let id := slot.profiles.length % 256
    (.ok id, ⟨slot.profiles ++ [{ id := id, identity := none, state := .created }]⟩)

def demoteEnabled (profile : EsimProfile) : EsimProfile :=
  if profile.state = .enabled then { profile with state := .disabled } else profile

def SimSlot.transition (slot : SimSlot) (profileId : Nat) (op : Op) :
    Except SimError Unit × SimSlot :=
  match slot.find profileId with
  | .error error => (.error error, slot)
  | .ok profile =>
    if profile.state ≠ op.sourceState then (.error (.wrongState profile.state), slot)
    else
      let demoted :=
        if op.targetState = .enabled then slot.profiles.map demoteEnabled
        else slot.profiles
      (.ok (), ⟨Tables.update EsimProfile.id profileId
        (fun row => { row with state := op.targetState }) demoted⟩)

def SimSlot.install (slot : SimSlot) (profileId identity : Nat) :
    Except SimError Unit × SimSlot :=
  match slot.transition profileId .install with
  | (.error error, moved) => (.error error, moved)
  | (.ok (), moved) =>
    match moved.find profileId with
    | .error error => (.error error, moved)
    | .ok _ =>
      (.ok (), ⟨Tables.update EsimProfile.id profileId
        (fun row => { row with identity := some identity }) moved.profiles⟩)

abbrev SimSlots := Vector SimSlot slotCount

def SimSlots.boot : SimSlots := Vector.replicate slotCount SimSlot.new

/-- `slots.get_mut(slot).ok_or(NoSuchSlot)?` followed by one slot operation. -/
def onSlot {Answer : Type} (slots : SimSlots) (slot : Nat)
    (operation : SimSlot → Except SimError Answer × SimSlot) :
    Except SimError Answer × SimSlots :=
  if bound : slot < slotCount then
    let outcome := operation slots[slot]
    (outcome.1, slots.set slot outcome.2)
  else (.error .noSuchSlot, slots)

variable (slots : SimSlots)

def create (slot : Nat) : Except SimError Nat × SimSlots :=
  onSlot slots slot SimSlot.create

def install (slot profileId identity : Nat) : Except SimError Unit × SimSlots :=
  onSlot slots slot fun s => s.install profileId identity

variable (slot profileId : Nat)

def enable : Except SimError Unit × SimSlots :=
  onSlot slots slot fun s => s.transition profileId .enable

def disable : Except SimError Unit × SimSlots :=
  onSlot slots slot fun s => s.transition profileId .disable

def delete : Except SimError Unit × SimSlots :=
  onSlot slots slot fun s => s.transition profileId .delete

def profileState : Except SimError ProfileState :=
  if bound : slot < slotCount then
    match slots[slot].find profileId with
    | .ok profile => .ok profile.state
    | .error error => .error error
  else .error .noSuchSlot

def profiles (slot : Nat) : Except SimError (List EsimProfile) :=
  if bound : slot < slotCount then .ok slots[slot].profiles else .error .noSuchSlot

def enabledProfile (slot : Nat) : Except SimError (Option Nat) :=
  if bound : slot < slotCount then
    .ok ((slots[slot].profiles.find? fun p => p.state = .enabled).map EsimProfile.id)
  else .error .noSuchSlot

/-! ## Slots -/

variable {profileId : Nat} {slot : SimSlot}

theorem find_eq_ok_iff {profile : EsimProfile} :
    slot.find profileId = .ok profile ↔
      Tables.lookup EsimProfile.id profileId slot.profiles = some profile := by
  unfold SimSlot.find
  cases Tables.lookup EsimProfile.id profileId slot.profiles <;> simp

theorem transition_cases (slot : SimSlot) (profileId : Nat) (op : Op) :
    (∃ error, slot.transition profileId op = (.error error, slot)) ∨
      ∃ profile,
        Tables.lookup EsimProfile.id profileId slot.profiles = some profile ∧
        profile.state = op.sourceState ∧
        slot.transition profileId op =
          (.ok (), ⟨Tables.update EsimProfile.id profileId
            (fun row => { row with state := op.targetState })
            (if op.targetState = .enabled then slot.profiles.map demoteEnabled
              else slot.profiles)⟩) := by
  unfold SimSlot.transition
  cases found : slot.find profileId with
  | error error => exact .inl ⟨error, rfl⟩
  | ok profile =>
    by_cases wrong : profile.state ≠ op.sourceState
    · exact .inl ⟨.wrongState profile.state, by simp [wrong]⟩
    · refine .inr ⟨profile, find_eq_ok_iff.mp found, not_not.mp wrong, ?_⟩
      simp [not_not.mp wrong]

variable (profile : EsimProfile)

@[simp]
theorem demote_enabled_id : (demoteEnabled profile).id = profile.id := by
  unfold demoteEnabled
  split_ifs <;> rfl

@[simp]
theorem demote_enabled_identity : (demoteEnabled profile).identity = profile.identity := by
  unfold demoteEnabled
  split_ifs <;> rfl

theorem demote_enabled_state_ne : (demoteEnabled profile).state ≠ .enabled := by
  unfold demoteEnabled
  split_ifs with enabled
  · simp
  · exact enabled

theorem demote_enabled_created_iff :
    (demoteEnabled profile).state = .created ↔ profile.state = .created := by
  unfold demoteEnabled
  split_ifs with enabled
  · simp [enabled]
  · rfl

theorem demote_enabled_deleted_iff :
    (demoteEnabled profile).state = .deleted ↔ profile.state = .deleted := by
  unfold demoteEnabled
  split_ifs with enabled
  · simp [enabled]
  · rfl

theorem demote_enabled_of_ne {profile : EsimProfile} (other : profile.state ≠ .enabled) :
    demoteEnabled profile = profile := by
  unfold demoteEnabled
  rw [if_neg other]

/-- The profiles a slot operation leaves in place of `profile`: `now` at the
moved id, the image of every other profile under `others`. -/
structure SlotMoved (before after : SimSlot) (profileId : Nat)
    (was now : EsimProfile) (others : EsimProfile → EsimProfile) : Prop where
  found : Tables.lookup EsimProfile.id profileId before.profiles = some was
  moved : Tables.lookup EsimProfile.id profileId after.profiles = some now
  siblings : ∀ other, other ≠ profileId →
    Tables.lookup EsimProfile.id other after.profiles =
      (Tables.lookup EsimProfile.id other before.profiles).map others
  ids : after.profiles.map EsimProfile.id = before.profiles.map EsimProfile.id

/-- What a transition does to the other profiles of its slot. -/
def Op.siblings (op : Op) : EsimProfile → EsimProfile :=
  if op.targetState = .enabled then demoteEnabled else id

theorem Op.siblings_id (op : Op) (profile : EsimProfile) :
    (op.siblings profile).id = profile.id := by
  unfold Op.siblings
  split_ifs <;> simp

variable {after : SimSlot}

theorem transition_moved {op : Op} (accepted : slot.transition profileId op = (.ok (), after)) :
    ∃ was, was.state = op.sourceState ∧
      SlotMoved slot after profileId was { was with state := op.targetState } op.siblings := by
  rcases transition_cases slot profileId op with ⟨error, refused⟩ | ⟨was, found, source, result⟩
  · rw [accepted] at refused
    simp at refused
  rw [accepted] at result
  have demoted : (if op.targetState = .enabled then slot.profiles.map demoteEnabled
      else slot.profiles) = slot.profiles.map op.siblings := by
    unfold Op.siblings
    split_ifs <;> simp
  rw [demoted] at result
  obtain rfl : after = _ := (Prod.mk.inj result).2
  have sameId : ∀ row : EsimProfile, { row with state := op.targetState }.id = row.id :=
    fun _ => rfl
  refine ⟨was, source, found, ?_, fun other different => ?_, ?_⟩
  · rw [lookup_update_same _ sameId, lookup_map _ op.siblings_id, found]
    unfold Op.siblings
    split_ifs <;> simp
  · rw [lookup_update_other _ sameId different, lookup_map _ op.siblings_id]
  · rw [update_keys _ sameId, List.map_map]
    exact List.map_congr_left fun row _ => op.siblings_id row

theorem transition_error {op : Op} {error : SimError}
    (refused : slot.transition profileId op = (.error error, after)) : after = slot := by
  rcases transition_cases slot profileId op with ⟨other, same⟩ | ⟨was, -, -, accepted⟩
  · exact ((Prod.mk.inj (refused.symm.trans same)).2)
  · rw [refused] at accepted
    simp at accepted

theorem install_cases (slot : SimSlot) (profileId identity : Nat) :
    (∃ error, slot.install profileId identity = (.error error, slot)) ∨
      ∃ was after, was.state = .created ∧
        slot.install profileId identity = (.ok (), after) ∧
        SlotMoved slot after profileId was
          { was with state := .disabled, identity := some identity } id := by
  unfold SimSlot.install
  rcases result : slot.transition profileId .install with ⟨answer, moved⟩
  cases answer with
  | error error =>
    rw [transition_error result]
    exact .inl ⟨error, rfl⟩
  | ok _ =>
    obtain ⟨was, source, effect⟩ := transition_moved result
    have found : moved.find profileId = .ok _ := find_eq_ok_iff.mpr effect.moved
    have sameId : ∀ row : EsimProfile, { row with identity := some identity }.id = row.id :=
      fun _ => rfl
    simp only [found]
    refine .inr ⟨was, _, source, rfl, effect.found, ?_, fun other different => ?_, ?_⟩
    · rw [lookup_update_same _ sameId, effect.moved]
      rfl
    · rw [lookup_update_other _ sameId different, effect.siblings other different]
      rfl
    · rw [update_keys _ sameId, effect.ids]

theorem create_cases (slot : SimSlot) :
    (∃ error, slot.create = (.error error, slot)) ∨
      slot.profiles.length < maxProfilesPerSlot ∧
        slot.create = (.ok slot.profiles.length,
          ⟨slot.profiles ++
            [{ id := slot.profiles.length, identity := none, state := .created }]⟩) := by
  unfold SimSlot.create
  by_cases full : slot.profiles.length ≥ maxProfilesPerSlot
  · exact .inl ⟨.slotFull, by simp [full]⟩
  have small : slot.profiles.length < maxProfilesPerSlot := not_le.mp full
  have exact : slot.profiles.length % 256 = slot.profiles.length :=
    Nat.mod_eq_of_lt (lt_trans small (by decide))
  exact .inr ⟨small, by simp [full, exact]⟩

theorem transition_ok_iff (slot : SimSlot) (profileId : Nat) (op : Op) :
    (slot.transition profileId op).1 = .ok () ↔
      (Tables.lookup EsimProfile.id profileId slot.profiles).map EsimProfile.state =
        some op.sourceState := by
  unfold SimSlot.transition SimSlot.find
  cases Tables.lookup EsimProfile.id profileId slot.profiles with
  | none => simp
  | some profile => by_cases source : profile.state = op.sourceState <;> simp [source]

/-- The invariant of one slot: ids are positions, the slot is bounded, at most
one profile is enabled, and exactly the installed profiles have an identity. -/
structure SimSlot.WellFormed (slot : SimSlot) : Prop where
  ids : slot.profiles.map EsimProfile.id = List.range slot.profiles.length
  bound : slot.profiles.length ≤ maxProfilesPerSlot
  oneEnabled : ∀ first second p q,
    Tables.lookup EsimProfile.id first slot.profiles = some p →
    Tables.lookup EsimProfile.id second slot.profiles = some q →
    p.state = .enabled → q.state = .enabled → first = second
  identity : ∀ profileId p,
    Tables.lookup EsimProfile.id profileId slot.profiles = some p →
    (p.identity.isSome ↔ p.state ≠ .created)

theorem SimSlot.WellFormed.unique (good : slot.WellFormed) :
    (slot.profiles.map EsimProfile.id).Nodup := by
  rw [good.ids]
  exact List.nodup_range

theorem SimSlot.WellFormed.id_lt (good : slot.WellFormed) {p : EsimProfile}
    (found : Tables.lookup EsimProfile.id profileId slot.profiles = some p) :
    profileId < slot.profiles.length := by
  have listed : profileId ∈ slot.profiles.map EsimProfile.id :=
    (lookup_isSome_iff _).mp ⟨p, found⟩
  rw [good.ids] at listed
  exact List.mem_range.mp listed

theorem SimSlot.WellFormed.fresh (good : slot.WellFormed) :
    Tables.lookup EsimProfile.id slot.profiles.length slot.profiles = none := by
  by_contra present
  obtain ⟨p, found⟩ := Option.ne_none_iff_exists'.mp present
  exact absurd (good.id_lt found) (lt_irrefl _)

theorem slot_new_well_formed : SimSlot.new.WellFormed where
  ids := rfl
  bound := Nat.zero_le _
  oneEnabled := by
    intro first second p q found
    simp [SimSlot.new] at found
  identity := by
    intro profileId p found
    simp [SimSlot.new] at found

variable {others : EsimProfile → EsimProfile}

section

variable {before : SimSlot} {was now : EsimProfile}
  (move : SlotMoved before after profileId was now others)

include move

theorem SlotMoved.length : after.profiles.length = before.profiles.length := by
  simpa using congrArg List.length move.ids

/-- A move keeps the slot invariant when the siblings keep their identity and
do not become enabled, and when no sibling stays enabled beside an enabled
profile. -/
theorem SlotMoved.well_formed (good : before.WellFormed)
    (keepsIdentity : ∀ p, (others p).identity = p.identity)
    (keepsCreated : ∀ p, (others p).state = .created ↔ p.state = .created)
    (enabledBefore : ∀ p, (others p).state = .enabled → p.state = .enabled)
    (alone : now.state = .enabled → ∀ p, (others p).state ≠ .enabled)
    (identity : now.identity.isSome ↔ now.state ≠ .created) : after.WellFormed := by
  have sibling : ∀ other p, other ≠ profileId →
      Tables.lookup EsimProfile.id other after.profiles = some p →
      ∃ q, Tables.lookup EsimProfile.id other before.profiles = some q ∧ p = others q := by
    intro other p different found
    rw [move.siblings other different, Option.map_eq_some_iff] at found
    obtain ⟨q, foundBefore, image⟩ := found
    exact ⟨q, foundBefore, image.symm⟩
  have atMoved : ∀ p, Tables.lookup EsimProfile.id profileId after.profiles = some p → p = now := by
    intro p found
    exact Option.some.inj (found.symm.trans move.moved)
  refine ⟨by rw [move.ids, move.length, good.ids], by rw [move.length]; exact good.bound, ?_, ?_⟩
  · intro first second p q foundP foundQ enabledP enabledQ
    by_cases firstMoved : first = profileId <;> by_cases secondMoved : second = profileId
    · rw [firstMoved, secondMoved]
    · obtain ⟨q', -, rfl⟩ := sibling second q secondMoved foundQ
      rw [firstMoved] at foundP
      rw [atMoved p foundP] at enabledP
      exact absurd enabledQ (alone enabledP q')
    · obtain ⟨p', -, rfl⟩ := sibling first p firstMoved foundP
      rw [secondMoved] at foundQ
      rw [atMoved q foundQ] at enabledQ
      exact absurd enabledP (alone enabledQ p')
    · obtain ⟨p', foundP', rfl⟩ := sibling first p firstMoved foundP
      obtain ⟨q', foundQ', rfl⟩ := sibling second q secondMoved foundQ
      exact good.oneEnabled first second p' q' foundP' foundQ'
        (enabledBefore p' enabledP) (enabledBefore q' enabledQ)
  · intro other p found
    by_cases moved : other = profileId
    · rw [moved] at found
      rw [atMoved p found]
      exact identity
    · obtain ⟨q, foundQ, rfl⟩ := sibling other p moved found
      rw [keepsIdentity, Ne, keepsCreated]
      exact good.identity other q foundQ

end

theorem create_well_formed (good : slot.WellFormed) : slot.create.2.WellFormed := by
  rcases create_cases slot with ⟨error, refused⟩ | ⟨small, created⟩
  · rw [refused]
    exact good
  rw [created]
  have foundAfter : ∀ profileId p,
      Tables.lookup EsimProfile.id profileId (slot.profiles ++
        [{ id := slot.profiles.length, identity := none, state := .created }]) = some p →
      Tables.lookup EsimProfile.id profileId slot.profiles = some p ∨
        p.state = .created ∧ p.identity = none := by
    intro profileId p found
    rw [lookup_append_single, Option.or_eq_some_iff] at found
    rcases found with old | ⟨-, new⟩
    · exact .inl old
    · split_ifs at new
      cases new
      exact .inr ⟨rfl, rfl⟩
  refine ⟨?_, ?_, ?_, ?_⟩
  · simp [good.ids, List.range_succ]
  · rw [List.length_append]
    exact small
  · intro first second p q foundP foundQ enabledP enabledQ
    rcases foundAfter first p foundP with oldP | ⟨newP, -⟩
    · rcases foundAfter second q foundQ with oldQ | ⟨newQ, -⟩
      · exact good.oneEnabled first second p q oldP oldQ enabledP enabledQ
      · rw [newQ] at enabledQ
        exact absurd enabledQ (by decide)
    · rw [newP] at enabledP
      exact absurd enabledP (by decide)
  · intro profileId p found
    rcases foundAfter profileId p found with old | ⟨state, identity⟩
    · exact good.identity profileId p old
    · simp [state, identity]

theorem transition_well_formed (good : slot.WellFormed) (profileId : Nat) {op : Op}
    (installed : op ≠ .install) : (slot.transition profileId op).2.WellFormed := by
  rcases result : slot.transition profileId op with ⟨answer, after⟩
  cases answer with
  | error error =>
    rw [transition_error result]
    exact good
  | ok _ =>
    obtain ⟨was, source, move⟩ := transition_moved result
    have hasIdentity : was.identity.isSome := by
      refine (good.identity profileId was move.found).mpr ?_
      cases op <;> simp_all [Op.sourceState]
    refine move.well_formed good ?_ ?_ ?_ ?_ ?_
    · intro p
      unfold Op.siblings
      split_ifs <;> simp
    · intro p
      unfold Op.siblings
      split_ifs
      · exact demote_enabled_created_iff p
      · rfl
    · intro p
      unfold Op.siblings
      split_ifs
      · exact fun enabled => absurd enabled (demote_enabled_state_ne p)
      · exact id
    · intro enabled p
      have target : op.targetState = .enabled := enabled
      unfold Op.siblings
      rw [if_pos target]
      exact demote_enabled_state_ne p
    · refine iff_of_true hasIdentity ?_
      cases op <;> simp [Op.targetState]

theorem install_well_formed (good : slot.WellFormed) (profileId identity : Nat) :
    (slot.install profileId identity).2.WellFormed := by
  rcases install_cases slot profileId identity with ⟨error, refused⟩ | ⟨was, after, -, installed, move⟩
  · rw [refused]
    exact good
  rw [installed]
  refine move.well_formed good (fun _ => rfl) (fun _ => Iff.rfl) (fun _ => id) ?_ ?_
  · intro enabled
    simp at enabled
  · simp

/-! ## The slot table -/

def profileAt (slots : SimSlots) (slot profileId : Nat) : Option EsimProfile :=
  if bound : slot < slotCount then
    Tables.lookup EsimProfile.id profileId slots[slot].profiles
  else none

variable {slots : SimSlots} {slot : Nat}

theorem profile_state_ok_iff {state : ProfileState} :
    profileState slots slot profileId = .ok state ↔
      (profileAt slots slot profileId).map EsimProfile.state = some state := by
  unfold profileState profileAt SimSlot.find
  by_cases bound : slot < slotCount
  · simp only [bound, dite_true]
    cases Tables.lookup EsimProfile.id profileId slots[slot].profiles <;> simp
  · simp [bound]

def SimSlots.WellFormed (slots : SimSlots) : Prop :=
  ∀ slot (bound : slot < slotCount), slots[slot].WellFormed

theorem slots_boot_well_formed : SimSlots.boot.WellFormed := by
  intro slot bound
  simp only [SimSlots.boot, Vector.getElem_replicate]
  exact slot_new_well_formed

variable {Answer : Type}

theorem on_slot_well_formed (good : slots.WellFormed) (slot : Nat)
    {operation : SimSlot → Except SimError Answer × SimSlot}
    (keeps : ∀ s : SimSlot, s.WellFormed → (operation s).2.WellFormed) :
    (onSlot slots slot operation).2.WellFormed := by
  unfold onSlot
  split_ifs with bound
  · intro other otherBound
    rw [Vector.getElem_set]
    split_ifs
    · exact keeps _ (good slot bound)
    · exact good other otherBound
  · exact good

/-- A profile of the slot table has moved: `now` stands where `was` stood, the
other profiles of the slot are their images under `others`, the other slots are
untouched. -/
structure Moved (before after : SimSlots) (slot profileId : Nat)
    (was now : EsimProfile) (others : EsimProfile → EsimProfile) : Prop where
  found : profileAt before slot profileId = some was
  moved : profileAt after slot profileId = some now
  siblings : ∀ other, other ≠ profileId →
    profileAt after slot other = (profileAt before slot other).map others
  elsewhere : ∀ other, other ≠ slot → ∀ profile,
    profileAt after other profile = profileAt before other profile

section

variable {slot : Nat} {changed : SimSlot} (bound : slot < slotCount)

include bound

theorem profile_at_set_other {other : Nat} (different : other ≠ slot) (profileId : Nat) :
    profileAt (slots.set slot changed) other profileId = profileAt slots other profileId := by
  unfold profileAt
  split_ifs
  · rw [Vector.getElem_set, if_neg different.symm]
  · rfl

theorem profile_at_set_same (profileId : Nat) :
    profileAt (slots.set slot changed) slot profileId =
      Tables.lookup EsimProfile.id profileId changed.profiles := by
  unfold profileAt
  rw [dif_pos bound, Vector.getElem_set, if_pos rfl]

theorem SlotMoved.lift {was now : EsimProfile}
    (move : SlotMoved slots[slot] changed profileId was now others) :
    Moved slots (slots.set slot changed) slot profileId was now others where
  found := by
    rw [profileAt, dif_pos bound]
    exact move.found
  moved := by
    rw [profile_at_set_same bound]
    exact move.moved
  siblings := by
    intro other different
    rw [profile_at_set_same bound, move.siblings other different, profileAt, dif_pos bound]
  elsewhere := by
    intro other different profile
    exact profile_at_set_other bound different profile

end

theorem on_slot_out_of_range (outside : ¬ slot < slotCount)
    (operation : SimSlot → Except SimError Answer × SimSlot) :
    onSlot slots slot operation = (.error .noSuchSlot, slots) := by
  unfold onSlot
  rw [dif_neg outside]

theorem on_slot_unchanged
    {operation : SimSlot → Except SimError Answer × SimSlot} {answer : Except SimError Answer}
    (bound : slot < slotCount) (same : operation slots[slot] = (answer, slots[slot])) :
    onSlot slots slot operation = (answer, slots) := by
  unfold onSlot
  rw [dif_pos bound]
  simp [same]

theorem on_slot_transition_cases (slots : SimSlots) (slot profileId : Nat) (op : Op) :
    (∃ error, onSlot slots slot (fun s => s.transition profileId op) = (.error error, slots)) ∨
      ∃ was after, was.state = op.sourceState ∧
        onSlot slots slot (fun s => s.transition profileId op) = (.ok (), after) ∧
        Moved slots after slot profileId was { was with state := op.targetState }
          op.siblings := by
  by_cases bound : slot < slotCount
  · rcases result : slots[slot].transition profileId op with ⟨answer, changed⟩
    cases answer with
    | error error =>
      rw [transition_error result] at result
      exact .inl ⟨error, on_slot_unchanged bound result⟩
    | ok _ =>
      obtain ⟨was, source, move⟩ := transition_moved result
      refine .inr ⟨was, slots.set slot changed, source, ?_, move.lift bound⟩
      unfold onSlot
      rw [dif_pos bound]
      simp [result]
  · exact .inl ⟨.noSuchSlot, on_slot_out_of_range bound _⟩

theorem on_slot_transition_ok_iff (slots : SimSlots) (slot profileId : Nat) (op : Op) :
    (onSlot slots slot (fun s => s.transition profileId op)).1 = .ok () ↔
      (profileAt slots slot profileId).map EsimProfile.state = some op.sourceState := by
  by_cases bound : slot < slotCount
  · unfold onSlot profileAt
    rw [dif_pos bound, dif_pos bound]
    exact transition_ok_iff slots[slot] profileId op
  · rw [on_slot_out_of_range bound]
    simp [profileAt, bound]

theorem install_table_cases (slots : SimSlots) (slot profileId identity : Nat) :
    (∃ error, install slots slot profileId identity = (.error error, slots)) ∨
      ∃ was after, was.state = .created ∧
        install slots slot profileId identity = (.ok (), after) ∧
        Moved slots after slot profileId was
          { was with state := .disabled, identity := some identity } id := by
  by_cases bound : slot < slotCount
  · rcases install_cases slots[slot] profileId identity with
      ⟨error, refused⟩ | ⟨was, changed, source, installed, move⟩
    · exact .inl ⟨error, on_slot_unchanged bound refused⟩
    · refine .inr ⟨was, slots.set slot changed, source, ?_, move.lift bound⟩
      unfold install onSlot
      rw [dif_pos bound]
      simp [installed]
  · exact .inl ⟨.noSuchSlot, on_slot_out_of_range bound _⟩

section

variable (good : slots.WellFormed) (slot : Nat)

include good

theorem create_table_cases :
    (∃ error, create slots slot = (.error error, slots)) ∨
      ∃ fresh after, fresh < maxProfilesPerSlot ∧ create slots slot = (.ok fresh, after) ∧
        profileAt slots slot fresh = none ∧
        profileAt after slot fresh =
          some { id := fresh, identity := none, state := .created } ∧
        (∀ other, other ≠ fresh → profileAt after slot other = profileAt slots slot other) ∧
        ∀ other, other ≠ slot → ∀ profileId,
          profileAt after other profileId = profileAt slots other profileId := by
  by_cases bound : slot < slotCount
  · rcases create_cases slots[slot] with ⟨error, refused⟩ | ⟨small, created⟩
    · exact .inl ⟨error, on_slot_unchanged bound refused⟩
    · have fresh := (good slot bound).fresh
      let grown : SimSlot := ⟨slots[slot].profiles ++
        [{ id := slots[slot].profiles.length, identity := none, state := .created }]⟩
      refine .inr ⟨slots[slot].profiles.length, slots.set slot grown, small, ?_, ?_, ?_, ?_, ?_⟩
      · unfold create onSlot
        rw [dif_pos bound]
        simp [created, grown]
      · rw [profileAt, dif_pos bound]
        exact fresh
      · rw [profile_at_set_same bound, lookup_append_single, fresh]
        simp
      · intro other different
        rw [profile_at_set_same bound, lookup_append_single, profileAt, dif_pos bound]
        simp [different.symm]
      · intro other different profileId
        exact profile_at_set_other bound different profileId
  · exact .inl ⟨.noSuchSlot, on_slot_out_of_range bound _⟩

theorem create_table_well_formed : (create slots slot).2.WellFormed :=
  on_slot_well_formed good slot fun _ => create_well_formed

theorem install_table_well_formed (profileId identity : Nat) :
    (install slots slot profileId identity).2.WellFormed :=
  on_slot_well_formed good slot fun _ slotGood => install_well_formed slotGood profileId identity

theorem transition_table_well_formed (profileId : Nat) {op : Op} (installed : op ≠ .install) :
    (onSlot slots slot fun s => s.transition profileId op).2.WellFormed :=
  on_slot_well_formed good slot fun _ slotGood => transition_well_formed slotGood profileId installed

end

theorem SimSlots.WellFormed.one_enabled (good : slots.WellFormed) {slot first second : Nat}
    {p q : EsimProfile} (foundP : profileAt slots slot first = some p)
    (foundQ : profileAt slots slot second = some q) (enabledP : p.state = .enabled)
    (enabledQ : q.state = .enabled) : first = second := by
  unfold profileAt at foundP foundQ
  split_ifs at foundP foundQ with bound
  exact (good slot bound).oneEnabled first second p q foundP foundQ enabledP enabledQ

section

variable (slots : SimSlots) (slot profileId : Nat)

theorem transition_answer (op : Op) :
    (∃ error, onSlot slots slot (fun s => s.transition profileId op) = (.error error, slots)) ∨
      ∃ after, onSlot slots slot (fun s => s.transition profileId op) = (.ok (), after) := by
  rcases on_slot_transition_cases slots slot profileId op with
    failed | ⟨was, after, -, done, -⟩
  · exact .inl failed
  · exact .inr ⟨after, done⟩

theorem enable_answer :
    (∃ error, enable slots slot profileId = (.error error, slots)) ∨
      ∃ after, enable slots slot profileId = (.ok (), after) :=
  transition_answer slots slot profileId .enable

theorem disable_answer :
    (∃ error, disable slots slot profileId = (.error error, slots)) ∨
      ∃ after, disable slots slot profileId = (.ok (), after) :=
  transition_answer slots slot profileId .disable

theorem delete_answer :
    (∃ error, delete slots slot profileId = (.error error, slots)) ∨
      ∃ after, delete slots slot profileId = (.ok (), after) :=
  transition_answer slots slot profileId .delete

end

variable {list : List EsimProfile}

theorem profiles_well_formed (good : slots.WellFormed)
    (read : profiles slots slot = .ok list) : (SimSlot.mk list).WellFormed := by
  unfold profiles at read
  split_ifs at read with bound
  cases read
  exact good slot bound

theorem profile_at_of_mem (good : slots.WellFormed) (read : profiles slots slot = .ok list)
    {p : EsimProfile} (listed : p ∈ list) : profileAt slots slot p.id = some p := by
  have unique := (profiles_well_formed good read).unique
  unfold profiles at read
  split_ifs at read with bound
  cases read
  unfold profileAt
  rw [dif_pos bound]
  exact lookup_of_mem EsimProfile.id unique listed

end Runix.Arm.Sim
