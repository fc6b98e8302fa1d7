import Mathlib.Data.Set.Basic
import Mathlib.Logic.Function.Basic
import Runix.Arm.DataState
import Runix.Arm.Sim
import Runix.Mobile.Account

/-!
# Subscriptions

What the SIM, MVNO and data layers are for, without their tables: profiles with
a lifecycle, an owner per profile, a standing per account and a set of open data
sessions.  `Step` says what one governed operation may do to them.  The two
statements of interest are `Healthy`, which every step keeps, and `Justified`,
which every step but `enable` keeps; enabling keeps it exactly when no session
runs on another profile of the slot.
-/

namespace Runix.Arm

open Mobile Arm.Sim Function

def DataSession.place (session : DataSession) : ProfileKey :=
  { slot := session.slot, profile := session.profile }

@[ext]
structure Subscription where
  profile : ProfileKey → Option EsimProfile
  owner : ProfileKey → Option AccountId
  standing : AccountId → Option AccountStatus
  sessions : Set DataSession

namespace Subscription

def withProfile (s : Subscription) (key : ProfileKey) (p : EsimProfile) : Subscription :=
  { s with profile := update s.profile key (some p) }

@[simp]
theorem with_profile_same (s : Subscription) (key : ProfileKey) (p : EsimProfile) :
    (s.withProfile key p).profile key = some p := by
  exact update_self ..

variable {k key : ProfileKey}

variable (s : Subscription)

theorem with_profile_other (different : k ≠ key) (p : EsimProfile) :
    (s.withProfile key p).profile k = s.profile k := by
  exact update_of_ne different ..

/-- Every Enabled profile of a set becomes Disabled. -/
def demoteWhere (touched : ProfileKey → Prop) [DecidablePred touched] : Subscription :=
  { s with
    profile := fun k => if touched k then (s.profile k).map demoteEnabled else s.profile k }

/-- Enabling `key` demotes the Enabled profile of its slot, if there is one. -/
def afterEnable (key : ProfileKey) (p : EsimProfile) : Subscription :=
  (s.demoteWhere fun k => k.slot = key.slot).withProfile key { p with state := .enabled }

/-- Suspension demotes every profile the account owns and ends its sessions. -/
def afterSuspend (account : AccountId) : Subscription :=
  { s.demoteWhere (fun k => s.owner k = some account) with
    standing := update s.standing account (some .suspended)
    sessions := { x | x ∈ s.sessions ∧ x.account ≠ account } }

inductive Action where
  | create (key : ProfileKey)
  | install (key : ProfileKey) (identity : Nat)
  | enable (key : ProfileKey)
  | disable (key : ProfileKey)
  | delete (key : ProfileKey)
  | bind (key : ProfileKey) (account : AccountId)
  | suspend (account : AccountId)
  | reactivate (account : AccountId)
  | openSession (session : DataSession)
  | closeSessions
deriving DecidableEq, Repr

inductive Step (s : Subscription) : Action → Subscription → Prop
  | create {key : ProfileKey} (free : s.profile key = none) :
      Step s (.create key)
        (s.withProfile key { id := key.profile, identity := none, state := .created })
  | install {key : ProfileKey} {p : EsimProfile} {identity : Nat}
      (found : s.profile key = some p) (created : p.state = .created) :
      Step s (.install key identity)
        (s.withProfile key { p with state := .disabled, identity := some identity })
  | enable {key : ProfileKey} {p : EsimProfile} {account : AccountId}
      (found : s.profile key = some p) (disabled : p.state = .disabled)
      (owned : s.owner key = some account) (active : s.standing account = some .active) :
      Step s (.enable key) (s.afterEnable key p)
  | disable {key : ProfileKey} {p : EsimProfile} (found : s.profile key = some p)
      (enabled : p.state = .enabled) :
      Step s (.disable key) { s.withProfile key { p with state := .disabled } with
        sessions := { x | x ∈ s.sessions ∧ x.place ≠ key } }
  | delete {key : ProfileKey} {p : EsimProfile} (found : s.profile key = some p)
      (disabled : p.state = .disabled) :
      Step s (.delete key) { s.withProfile key { p with state := .deleted } with
        owner := update s.owner key none
        sessions := { x | x ∈ s.sessions ∧ x.place ≠ key } }
  | bind {key : ProfileKey} {p : EsimProfile} {account : AccountId}
      (found : s.profile key = some p) (live : p.state ≠ .deleted) (free : s.owner key = none) :
      Step s (.bind key account) { s with owner := update s.owner key (some account) }
  | suspend {account : AccountId} (active : s.standing account = some .active) :
      Step s (.suspend account) (s.afterSuspend account)
  | reactivate {account : AccountId} (suspended : s.standing account = some .suspended) :
      Step s (.reactivate account)
        { s with standing := update s.standing account (some .active) }
  | openSession {x : DataSession} {p : EsimProfile} {after : Set DataSession}
      (found : s.profile x.place = some p) (enabled : p.state = .enabled)
      (owned : s.owner x.place = some x.account) (active : s.standing x.account = some .active)
      (sessions : ∀ y ∈ after, y ∈ s.sessions ∨ y = x) :
      Step s (.openSession x) { s with sessions := after }
  | closeSessions {after : Set DataSession} (sessions : after ⊆ s.sessions) :
      Step s .closeSessions { s with sessions := after }

/-! ## The joint invariant of slots and registry -/

structure Healthy (s : Subscription) : Prop where
  oneEnabled : ∀ k l p q, s.profile k = some p → s.profile l = some q → k.slot = l.slot →
    p.state = .enabled → q.state = .enabled → k = l
  enabledOwned : ∀ k p, s.profile k = some p → p.state = .enabled →
    ∃ account, s.owner k = some account ∧ s.standing account = some .active
  identity : ∀ k p, s.profile k = some p → (p.identity.isSome ↔ p.state ≠ .created)
  ownedLive : ∀ k account, s.owner k = some account →
    ∃ p, s.profile k = some p ∧ p.state ≠ .deleted

variable {s t : Subscription} {action : Action}

theorem Healthy.with_sessions (healthy : s.Healthy) (sessions : Set DataSession) :
    { s with sessions := sessions }.Healthy :=
  ⟨healthy.oneEnabled, healthy.enabledOwned, healthy.identity, healthy.ownedLive⟩

variable {p : EsimProfile}

theorem with_profile_cases {q : EsimProfile} (found : (s.withProfile key p).profile k = some q) :
    (k = key ∧ q = p) ∨ (k ≠ key ∧ s.profile k = some q) := by
  by_cases same : k = key
  · subst same
    rw [with_profile_same, Option.some.injEq] at found
    exact .inl ⟨rfl, found.symm⟩
  · rw [with_profile_other s same] at found
    exact .inr ⟨same, found⟩

theorem Healthy.with_profile (healthy : s.Healthy)
    (alone : p.state = .enabled → ∀ k q, k ≠ key → k.slot = key.slot → s.profile k = some q →
      q.state ≠ .enabled) (owned : p.state = .enabled →
      ∃ account, s.owner key = some account ∧ s.standing account = some .active)
    (identity : p.identity.isSome ↔ p.state ≠ .created)
    (live : p.state = .deleted → s.owner key = none) : (s.withProfile key p).Healthy := by
  constructor
  · intro k l q r foundQ foundR slot enabledQ enabledR
    rcases with_profile_cases foundQ with ⟨rfl, rfl⟩ | ⟨otherQ, keptQ⟩ <;>
      rcases with_profile_cases foundR with ⟨rfl, rfl⟩ | ⟨otherR, keptR⟩
    · rfl
    · exact absurd enabledR (alone enabledQ l r otherR slot.symm keptR)
    · exact absurd enabledQ (alone enabledR k q otherQ slot keptQ)
    · exact healthy.oneEnabled k l q r keptQ keptR slot enabledQ enabledR
  · intro k q found enabled
    rcases with_profile_cases found with ⟨rfl, rfl⟩ | ⟨-, kept⟩
    · exact owned enabled
    · exact healthy.enabledOwned k q kept enabled
  · intro k q found
    rcases with_profile_cases found with ⟨-, rfl⟩ | ⟨-, kept⟩
    · exact identity
    · exact healthy.identity k q kept
  · intro k account held
    by_cases same : k = key
    · subst same
      refine ⟨p, by simp [withProfile], fun deleted => ?_⟩
      have unowned : s.owner k = some account := held
      simp [live deleted] at unowned
    · rw [with_profile_other s same]
      exact healthy.ownedLive k account held

theorem demote_where_cases {touched : ProfileKey → Prop} [DecidablePred touched] {q : EsimProfile}
    (found : (s.demoteWhere touched).profile k = some q) :
    (touched k ∧ ∃ p, s.profile k = some p ∧ q = demoteEnabled p) ∨
      (¬ touched k ∧ s.profile k = some q) := by
  simp only [demoteWhere] at found
  split_ifs at found with inside
  · obtain ⟨p, present, demoted⟩ := Option.map_eq_some_iff.mp found
    exact .inl ⟨inside, p, present, demoted.symm⟩
  · exact .inr ⟨inside, found⟩

section

variable (healthy : s.Healthy)

include healthy

theorem Healthy.demote_where (touched : ProfileKey → Prop)
    [DecidablePred touched] : (s.demoteWhere touched).Healthy := by
  have kept : ∀ k q, (s.demoteWhere touched).profile k = some q → q.state = .enabled →
      s.profile k = some q := by
    intro k q found enabled
    rcases demote_where_cases found with ⟨-, p, -, rfl⟩ | ⟨-, same⟩
    · exact absurd enabled (demote_enabled_state_ne p)
    · exact same
  constructor
  · intro k l q r foundQ foundR slot enabledQ enabledR
    exact healthy.oneEnabled k l q r (kept k q foundQ enabledQ) (kept l r foundR enabledR) slot
      enabledQ enabledR
  · intro k q found enabled
    exact healthy.enabledOwned k q (kept k q found enabled) enabled
  · intro k q found
    rcases demote_where_cases found with ⟨-, p, present, rfl⟩ | ⟨-, same⟩
    · rw [demote_enabled_identity, ne_eq, demote_enabled_created_iff]
      exact healthy.identity k p present
    · exact healthy.identity k q same
  · intro k account owned
    obtain ⟨p, present, live⟩ := healthy.ownedLive k account owned
    simp only [demoteWhere, present]
    split_ifs
    · exact ⟨demoteEnabled p, rfl, fun deleted => live ((demote_enabled_deleted_iff p).mp deleted)⟩
    · exact ⟨p, rfl, live⟩

theorem Healthy.with_standing (account : AccountId) (status : AccountStatus)
    (quiet : status ≠ .active → ∀ k p, s.profile k = some p → s.owner k = some account →
      p.state ≠ .enabled) :
    { s with standing := update s.standing account (some status) }.Healthy := by
  constructor
  · exact healthy.oneEnabled
  · intro k p found enabled
    obtain ⟨holder, held, active⟩ := healthy.enabledOwned k p found enabled
    refine ⟨holder, held, ?_⟩
    by_cases same : holder = account
    · subst same
      have isActive : status = .active := by
        by_contra inactive
        exact quiet inactive k p found held enabled
      simp [isActive]
    · simpa only [update_of_ne same] using active
  · exact healthy.identity
  · exact healthy.ownedLive

theorem Healthy.unowned (found : s.profile key = some p)
    (quiet : p.state ≠ .enabled) : { s with owner := update s.owner key none }.Healthy := by
  constructor
  · exact healthy.oneEnabled
  · intro k q foundQ enabled
    have different : k ≠ key := by
      rintro rfl
      exact quiet (Option.some.inj (found.symm.trans foundQ) ▸ enabled)
    simpa only [update_of_ne different] using healthy.enabledOwned k q foundQ enabled
  · exact healthy.identity
  · intro k account owned
    have different : k ≠ key := by
      rintro rfl
      simp at owned
    exact healthy.ownedLive k account (by simpa only [update_of_ne different] using owned)

theorem Healthy.owned {key : ProfileKey} {p : EsimProfile}
    (found : s.profile key = some p) (live : p.state ≠ .deleted) (free : s.owner key = none)
    (account : AccountId) : { s with owner := update s.owner key (some account) }.Healthy := by
  constructor
  · exact healthy.oneEnabled
  · intro k q foundQ enabled
    have different : k ≠ key := by
      rintro rfl
      obtain ⟨holder, held, -⟩ := healthy.enabledOwned k q foundQ enabled
      simp [free] at held
    simpa only [update_of_ne different] using healthy.enabledOwned k q foundQ enabled
  · exact healthy.identity
  · intro k holder owned
    by_cases same : k = key
    · exact ⟨p, same ▸ found, live⟩
    · exact healthy.ownedLive k holder (by simpa only [update_of_ne same] using owned)

theorem Healthy.step (moved : Step s action t) : t.Healthy := by
  cases moved with
  | @create key free =>
    refine healthy.with_profile ?_ ?_ ?_ ?_ <;> simp
  | @install key p identity found created =>
    refine healthy.with_profile ?_ ?_ ?_ ?_ <;> simp
  | @enable key p account found disabled owned active =>
    have demoted := healthy.demote_where fun k => k.slot = key.slot
    refine demoted.with_profile ?_ (fun _ => ⟨account, owned, active⟩) ?_ (by simp)
    · intro _ k q _ slot present
      rcases demote_where_cases present with ⟨-, p, -, rfl⟩ | ⟨outside, -⟩
      · exact demote_enabled_state_ne p
      · exact absurd slot outside
    · simpa [disabled] using healthy.identity key p found
  | @disable key p found enabled =>
    refine Healthy.with_sessions (healthy.with_profile ?_ ?_ ?_ ?_) _
    · simp
    · simp
    · simpa [enabled] using healthy.identity key p found
    · simp
  | @delete key p found disabled =>
    have released := healthy.unowned found (by simp [disabled])
    refine Healthy.with_sessions (released.with_profile ?_ ?_ ?_ ?_) _
    · simp
    · simp
    · simpa [disabled] using healthy.identity key p found
    · simp
  | @bind key p account found live free => exact healthy.owned found live free account
  | @suspend account active =>
    have demoted := healthy.demote_where fun k => s.owner k = some account
    refine Healthy.with_sessions (demoted.with_standing account .suspended ?_) _
    intro _ k q present owned
    rcases demote_where_cases present with ⟨-, p, -, rfl⟩ | ⟨outside, -⟩
    · exact demote_enabled_state_ne p
    · exact absurd owned outside
  | @reactivate account suspended => exact healthy.with_standing account .active (by simp)
  | @openSession x p after => exact healthy.with_sessions after
  | @closeSessions after => exact healthy.with_sessions after

end

theorem Step.deleted_kept (moved : Step s action t) (found : s.profile k = some p)
    (deleted : p.state = .deleted) : t.profile k = some p := by
  have elsewhere : ∀ (key : ProfileKey) (q r : EsimProfile), s.profile key = some q →
      q.state ≠ .deleted → (s.withProfile key r).profile k = some p := by
    intro key q r foundQ live
    have different : k ≠ key := by
      rintro rfl
      exact live (Option.some.inj (found.symm.trans foundQ) ▸ deleted)
    rw [with_profile_other s different]
    exact found
  have undemoted : ∀ (touched : ProfileKey → Prop) [DecidablePred touched],
      (s.demoteWhere touched).profile k = some p := by
    intro touched _
    simp [demoteWhere, found, demote_enabled_of_ne, deleted]
  cases moved with
  | @create key free =>
    have different : k ≠ key := by
      rintro rfl
      simp [free] at found
    rw [with_profile_other s different]
    exact found
  | @install key q identity foundQ created => exact elsewhere key q _ foundQ (by simp [created])
  | @enable key q account foundQ disabled owned active =>
    have different : k ≠ key := by
      rintro rfl
      rw [found, Option.some.injEq] at foundQ
      simp [foundQ, disabled] at deleted
    rw [afterEnable, with_profile_other _ different]
    exact undemoted fun j => j.slot = key.slot
  | @disable key q foundQ enabled => exact elsewhere key q _ foundQ (by simp [enabled])
  | @delete key q foundQ disabled => exact elsewhere key q _ foundQ (by simp [disabled])
  | bind => exact found
  | @suspend account active => exact undemoted fun j => s.owner j = some account
  | reactivate => exact found
  | openSession => exact found
  | closeSessions => exact found

/-! ## Sessions -/

/-- A session is justified while its profile is Enabled and bound to its Active
account. -/
def JustifiedSession (s : Subscription) (x : DataSession) : Prop :=
  (∃ p, s.profile x.place = some p ∧ p.state = .enabled) ∧
    s.owner x.place = some x.account ∧ s.standing x.account = some .active

def Justified (s : Subscription) : Prop := ∀ x ∈ s.sessions, s.JustifiedSession x

variable {x : DataSession}

section

variable (justified : s.JustifiedSession x)

include justified

/-- A session survives a change of its profile table away from its own profile. -/
theorem JustifiedSession.with_profile
    (different : x.place ≠ key) (p : EsimProfile) : (s.withProfile key p).JustifiedSession x := by
  unfold JustifiedSession
  rw [with_profile_other s different]
  exact justified

theorem JustifiedSession.place_ne
    (found : s.profile key = some p) (quiet : p.state ≠ .enabled) : x.place ≠ key := by
  rintro rfl
  obtain ⟨q, foundQ, enabled⟩ := justified.1
  exact quiet (Option.some.inj (foundQ.symm.trans found) ▸ enabled)

theorem JustifiedSession.demote_where (touched : ProfileKey → Prop) [DecidablePred touched]
    (outside : ¬ touched x.place) : (s.demoteWhere touched).JustifiedSession x := by
  simpa only [JustifiedSession, demoteWhere, outside, if_false] using justified

end

/-- Enabling `key` leaves every session justified exactly when none of them runs
on another profile of that slot. -/
theorem justified_after_enable_iff (justified : s.Justified) (found : s.profile key = some p)
    (disabled : p.state = .disabled) :
    (s.afterEnable key p).Justified ↔
      ∀ x ∈ s.sessions, x.place.slot = key.slot → x.place = key := by
  constructor
  · intro after x member slot
    by_contra different
    obtain ⟨⟨q, foundQ, enabled⟩, -⟩ := after x member
    simp only [afterEnable, withProfile, update_of_ne different, demoteWhere, slot,
      if_true] at foundQ
    obtain ⟨r, -, rfl⟩ := Option.map_eq_some_iff.mp foundQ
    exact demote_enabled_state_ne r enabled
  · intro clear x member
    have before := justified x member
    have elsewhere : x.place ≠ key := before.place_ne found (by simp [disabled])
    have outside : ¬ x.place.slot = key.slot := fun slot => elsewhere (clear x member slot)
    exact (before.demote_where (fun k => k.slot = key.slot) outside).with_profile elsewhere _

/-- Every other step leaves every session justified. -/
theorem Justified.step (justified : s.Justified) (moved : Step s action t)
    (other : ∀ key, action ≠ .enable key) : t.Justified := by
  cases moved with
  | @create key free =>
    intro x member
    refine (justified x member).with_profile ?_ _
    rintro rfl
    obtain ⟨⟨q, foundQ, -⟩, -⟩ := justified x member
    simp [free] at foundQ
  | @install key p identity found created =>
    intro x member
    have before := justified x member
    exact before.with_profile (before.place_ne found (by simp [created])) _
  | @enable key => exact absurd rfl (other key)
  | @disable key p found enabled =>
    intro x member
    exact (justified x member.1).with_profile member.2 _
  | @delete key p found disabled =>
    intro x member
    obtain ⟨enabled, -, active⟩ := (justified x member.1).with_profile member.2
      { p with state := .deleted }
    refine ⟨enabled, ?_, active⟩
    simpa only [update_of_ne member.2] using (justified x member.1).2.1
  | @bind key p account found live free =>
    intro x member
    obtain ⟨enabled, owned, active⟩ := justified x member
    have different : x.place ≠ key := by
      rintro rfl
      simp [free] at owned
    refine ⟨enabled, ?_, active⟩
    simpa only [update_of_ne different] using owned
  | @suspend account active =>
    intro x member
    have before := justified x member.1
    have outside : ¬ s.owner x.place = some account := by
      rw [before.2.1, Option.some.injEq]
      exact member.2
    obtain ⟨enabled, owned, -⟩ := before.demote_where (fun k => s.owner k = some account) outside
    refine ⟨enabled, owned, ?_⟩
    simpa only [afterSuspend, update_of_ne member.2] using before.2.2
  | @reactivate account suspended =>
    intro x member
    obtain ⟨enabled, owned, active⟩ := justified x member
    refine ⟨enabled, owned, ?_⟩
    by_cases same : x.account = account
    · rw [same]
      exact update_self ..
    · simpa only [update_of_ne same] using active
  | @openSession x p after found enabled owned active sessions =>
    intro y member
    rcases sessions y member with old | rfl
    · exact justified y old
    · exact ⟨⟨p, found, enabled⟩, owned, active⟩
  | @closeSessions after sessions =>
    intro x member
    exact justified x (sessions member)

/-- Every session runs on a profile its account owns, Enabled or not. -/
def SessionsOwned (s : Subscription) : Prop :=
  ∀ x ∈ s.sessions, s.owner x.place = some x.account

/-- Unlike justification, ownership survives `enable` too: only `delete` takes a
profile away from its owner, and it closes the profile's sessions. -/
theorem SessionsOwned.step (owned : s.SessionsOwned) (moved : Step s action t) :
    t.SessionsOwned := by
  cases moved with
  | create => exact owned
  | install => exact owned
  | enable => exact owned
  | disable => exact fun x member => owned x member.1
  | @delete key p found disabled =>
    intro x member
    exact (update_of_ne member.2 ..).trans (owned x member.1)
  | @bind key p account found live free =>
    intro x member
    have different : x.place ≠ key := by
      rintro rfl
      exact absurd (owned x member) (by simp [free])
    exact (update_of_ne different ..).trans (owned x member)
  | suspend => exact fun x member => owned x member.1
  | reactivate => exact owned
  | @openSession x p after found enabled held active sessions =>
    intro y member
    rcases sessions y member with old | rfl
    · exact owned y old
    · exact held
  | closeSessions sessions => exact fun x member => owned x (sessions member)

end Subscription

end Runix.Arm
