import Mathlib.Data.List.Lex
import Mathlib.Data.List.Sort
import Mathlib.Data.Prod.Lex

/-!
# The reconciler

`mobile/src/reconcile.rs`: a pure check of one observed snapshot of accounts,
profiles and sessions.  It groups records by key, runs the profile, slot,
account and session checks in that order, and returns the incidents sorted.
-/

namespace Runix.Mobile.Reconcile

open List

def maxAccounts : Nat := 64

def maxProfiles : Nat := 256

def maxSessions : Nat := 256

inductive Standing where
  | active
  | suspended
  | closed
deriving DecidableEq, Repr

inductive ProfileState where
  | created
  | disabled
  | enabled
  | deleted
deriving DecidableEq, Repr

structure ObservedAccount where
  id : Nat
  standing : Standing
  dataCapBytes : Option Nat
  escalateAtPercent : Option Nat
  usedBytes : Nat
  lastUsedBytes : Option Nat
deriving DecidableEq, Repr

structure ObservedProfile where
  slot : Nat
  profile : Nat
  lifecycle : ProfileState
  owner : Option Nat
deriving DecidableEq, Repr

structure ObservedSession where
  account : Nat
  slot : Nat
  profile : Nat
  roaming : Bool
  roamingAllowed : Bool
deriving DecidableEq, Repr

structure Observed where
  accounts : List ObservedAccount
  profiles : List ObservedProfile
  sessions : List ObservedSession
deriving DecidableEq, Repr

inductive IncidentKind where
  | snapshotTooLarge
  | duplicateAccount
  | duplicateProfile
  | enabledProfileUnderInactiveAccount
  | enabledProfileUnbound
  | profileOwnerUnknown
  | multipleEnabledInSlot
  | usageRegression
  | usageOverCapNotRestricted
  | anomalousUsageNoEscalation
  | sessionWithoutEnabledProfile
  | sessionAccountMismatch
  | roamingSessionNotPermitted
deriving DecidableEq, Repr

inductive Subject where
  | snapshot
  | account (id : Nat)
  | slot (slot : Nat)
  | profile (slot profile : Nat)
  | session (account slot profile : Nat)
deriving DecidableEq, Repr

inductive Fact where
  | absent
  | number (n : Nat)
  | bool (b : Bool)
  | standing (s : Standing)
  | lifecycle (l : ProfileState)
  | owner (id : Option Nat)
  | anyOwner
  | percent (p : Nat)
  | usageOfCap (used cap : Nat)
deriving DecidableEq, Repr

structure Incident where
  kind : IncidentKind
  subject : Subject
  expected : Fact
  observed : Fact
deriving DecidableEq, Repr

/-! ## Texts and the derived order -/

def Standing.debug : Standing → String
  | .active => "Active"
  | .suspended => "Suspended"
  | .closed => "Closed"

def ProfileState.debug : ProfileState → String
  | .created => "Created"
  | .disabled => "Disabled"
  | .enabled => "Enabled"
  | .deleted => "Deleted"

def IncidentKind.display : IncidentKind → String
  | .snapshotTooLarge => "snapshot-too-large"
  | .duplicateAccount => "duplicate-account"
  | .duplicateProfile => "duplicate-profile"
  | .enabledProfileUnderInactiveAccount => "enabled-profile-under-inactive-account"
  | .enabledProfileUnbound => "enabled-profile-unbound"
  | .profileOwnerUnknown => "profile-owner-unknown"
  | .multipleEnabledInSlot => "multiple-enabled-in-slot"
  | .usageRegression => "usage-regression"
  | .usageOverCapNotRestricted => "usage-over-cap-not-restricted"
  | .anomalousUsageNoEscalation => "anomalous-usage-no-escalation"
  | .sessionWithoutEnabledProfile => "session-without-enabled-profile"
  | .sessionAccountMismatch => "session-account-mismatch"
  | .roamingSessionNotPermitted => "roaming-session-not-permitted"

def Subject.display : Subject → String
  | .snapshot => "snapshot"
  | .account id => "account:" ++ toString id
  | .slot index => "slot:" ++ toString index
  | .profile index id => "profile:" ++ toString index ++ "/" ++ toString id
  | .session holder index id =>
    "session:" ++ toString holder ++ "@" ++ toString index ++ "/" ++ toString id

def Fact.display : Fact → String
  | .absent => "absent"
  | .number n => toString n
  | .bool b => toString b
  | .standing s => s.debug
  | .lifecycle l => l.debug
  | .owner (some id) => "owner:" ++ toString id
  | .owner none => "owner:none"
  | .anyOwner => "owner:any"
  | .percent p => toString p ++ "%"
  | .usageOfCap used cap => toString used ++ "/" ++ toString cap

def Incident.display (incident : Incident) : String :=
  incident.kind.display ++ " " ++ incident.subject.display ++ ": expected " ++
    incident.expected.display ++ ", observed " ++ incident.observed.display

def IncidentKind.rank : IncidentKind → Nat
  | .snapshotTooLarge => 0
  | .duplicateAccount => 1
  | .duplicateProfile => 2
  | .enabledProfileUnderInactiveAccount => 3
  | .enabledProfileUnbound => 4
  | .profileOwnerUnknown => 5
  | .multipleEnabledInSlot => 6
  | .usageRegression => 7
  | .usageOverCapNotRestricted => 8
  | .anomalousUsageNoEscalation => 9
  | .sessionWithoutEnabledProfile => 10
  | .sessionAccountMismatch => 11
  | .roamingSessionNotPermitted => 12

def Standing.rank : Standing → Nat
  | .active => 0
  | .suspended => 1
  | .closed => 2

def ProfileState.rank : ProfileState → Nat
  | .created => 0
  | .disabled => 1
  | .enabled => 2
  | .deleted => 3

/-- Keys put the variant before the fields, as the derived `Ord` does. -/
def Subject.sortKey : Subject → List Nat
  | .snapshot => [0]
  | .account id => [1, id]
  | .slot index => [2, index]
  | .profile index id => [3, index, id]
  | .session holder index id => [4, holder, index, id]

def Fact.sortKey : Fact → List Nat
  | .absent => [0]
  | .number n => [1, n]
  | .bool b => [2, b.toNat]
  | .standing s => [3, s.rank]
  | .lifecycle l => [4, l.rank]
  | .owner none => [5, 0]
  | .owner (some id) => [5, 1, id]
  | .anyOwner => [6]
  | .percent p => [7, p]
  | .usageOfCap used cap => [8, used, cap]

def Incident.sortKey (incident : Incident) : List Nat :=
  incident.kind.rank ::
    (incident.subject.sortKey ++ incident.expected.sortKey ++ incident.observed.sortKey)

/-! ## Grouping -/

section Grouping

variable {Item Key : Type} [LinearOrder Key]

inductive Entry (Item : Type) where
  | unique (item : Item)
  | ambiguous

structure Group (Item Key : Type) where
  key : Key
  first : Item
  count : Nat

def Group.entry (group : Group Item Key) : Entry Item :=
  if group.count = 1 then .unique group.first else .ambiguous

/-- Adjacent records with one key become one group. -/
def groupAdjacent (key : Item → Key) : List Item → List (Group Item Key)
  | [] => []
  | item :: rest =>
    match groupAdjacent key rest with
    | [] => [{ key := key item, first := item, count := 1 }]
    | group :: groups =>
      if group.key = key item then
        { key := key item, first := item, count := group.count + 1 } :: groups
      else { key := key item, first := item, count := 1 } :: group :: groups

def groupByKey (key : Item → Key) (items : List Item) : List (Group Item Key) :=
  groupAdjacent key (items.insertionSort fun a b => key a ≤ key b)

/-- Group keys are distinct, so the binary search finds the one group with a
key. -/
def find (groups : List (Group Item Key)) (key : Key) : Option (Entry Item) :=
  (groups.find? fun group => group.key = key).map Group.entry

end Grouping

/-! ## The checks -/

def reachedPercent (used cap percent : Nat) : Bool := used * 100 ≥ cap * percent

abbrev AccountGroup := Group ObservedAccount Nat

abbrev ProfileGroup := Group ObservedProfile (Nat ×ₗ Nat)

def ObservedProfile.key (profile : ObservedProfile) : Nat ×ₗ Nat :=
  toLex (profile.slot, profile.profile)

def boundIncident (length maximum : Nat) : List Incident :=
  if length > maximum then
    [{ kind := .snapshotTooLarge, subject := .snapshot,
       expected := .number maximum, observed := .number length }]
  else []

def boundIncidents (observed : Observed) : List Incident :=
  boundIncident observed.accounts.length maxAccounts ++
    boundIncident observed.profiles.length maxProfiles ++
    boundIncident observed.sessions.length maxSessions

def duplicateAccount (group : AccountGroup) : List Incident :=
  if group.count > 1 then
    [{ kind := .duplicateAccount, subject := .account group.key,
       expected := .number 1, observed := .number group.count }]
  else []

variable (group : ProfileGroup)

def duplicateProfile : List Incident :=
  if group.count > 1 then
    [{ kind := .duplicateProfile,
       subject := .profile (ofLex group.key).1 (ofLex group.key).2,
       expected := .number 1, observed := .number group.count }]
  else []

def checkProfile (accounts : List AccountGroup) (group : ProfileGroup) : List Incident :=
  match group.entry with
  | .ambiguous => []
  | .unique p =>
    let subject := Subject.profile p.slot p.profile
    match p.owner with
    | none =>
      if p.lifecycle = .enabled then
        [{ kind := .enabledProfileUnbound, subject := subject,
           expected := .anyOwner, observed := .owner none }]
      else []
    | some owner =>
      match find accounts owner with
      | none =>
        [{ kind := .profileOwnerUnknown, subject := subject,
           expected := .owner (some owner), observed := .absent }]
      | some (.unique a) =>
        if p.lifecycle = .enabled ∧ a.standing ≠ .active then
          [{ kind := .enabledProfileUnderInactiveAccount, subject := subject,
             expected := .standing .active, observed := .standing a.standing }]
        else []
      | some .ambiguous => []

def ProfileGroup.slot : Nat := (ofLex group.key).1

def ProfileGroup.enabledCount : Nat :=
  match group.entry with
  | .unique p => if p.lifecycle = .enabled then 1 else 0
  | .ambiguous => 0

/-- Enabled profiles per run of adjacent groups of one slot. -/
def slotRuns : List ProfileGroup → List (Nat × Nat)
  | [] => []
  | group :: rest =>
    match slotRuns rest with
    | [] => [(ProfileGroup.slot group, ProfileGroup.enabledCount group)]
    | (slot, enabled) :: runs =>
      if slot = ProfileGroup.slot group then
        (slot, ProfileGroup.enabledCount group + enabled) :: runs
      else
        (ProfileGroup.slot group, ProfileGroup.enabledCount group) :: (slot, enabled) :: runs

def checkSlot (run : Nat × Nat) : List Incident :=
  if run.2 > 1 then
    [{ kind := .multipleEnabledInSlot, subject := .slot run.1,
       expected := .number 1, observed := .number run.2 }]
  else []

def checkUsageRegression (a : ObservedAccount) : List Incident :=
  match a.lastUsedBytes with
  | none => []
  | some last =>
    if a.usedBytes < last then
      [{ kind := .usageRegression, subject := .account a.id,
         expected := .number last, observed := .number a.usedBytes }]
    else []

def checkUsageOfCap (sessions : List ObservedSession) (a : ObservedAccount) (cap : Nat) :
    List Incident :=
  (if a.standing = .active ∧ a.usedBytes ≥ cap ∧ sessions.any (fun s => s.account = a.id) then
    [{ kind := .usageOverCapNotRestricted, subject := .account a.id,
       expected := .standing .suspended, observed := .usageOfCap a.usedBytes cap }]
  else []) ++
  match a.escalateAtPercent with
  | none => []
  | some percent =>
    if a.standing = .active ∧ reachedPercent a.usedBytes cap percent then
      [{ kind := .anomalousUsageNoEscalation, subject := .account a.id,
         expected := .percent percent, observed := .usageOfCap a.usedBytes cap }]
    else []

def checkAccount (sessions : List ObservedSession) (group : AccountGroup) : List Incident :=
  match group.entry with
  | .ambiguous => []
  | .unique a =>
    checkUsageRegression a ++
      match a.dataCapBytes with
      | none => []
      | some cap => checkUsageOfCap sessions a cap

def checkSession (profiles : List ProfileGroup) (s : ObservedSession) : List Incident :=
  let subject := Subject.session s.account s.slot s.profile
  (match find profiles (toLex (s.slot, s.profile)) with
  | none =>
    [{ kind := .sessionWithoutEnabledProfile, subject := subject,
       expected := .lifecycle .enabled, observed := .absent }]
  | some (.unique p) =>
    (if p.lifecycle ≠ .enabled then
      [{ kind := .sessionWithoutEnabledProfile, subject := subject,
         expected := .lifecycle .enabled, observed := .lifecycle p.lifecycle }]
    else []) ++
    (if p.owner ≠ some s.account then
      [{ kind := .sessionAccountMismatch, subject := subject,
         expected := .owner (some s.account), observed := .owner p.owner }]
    else [])
  | some .ambiguous => []) ++
  (if s.roaming ∧ !s.roamingAllowed then
    [{ kind := .roamingSessionNotPermitted, subject := subject,
       expected := .bool false, observed := .bool true }]
  else [])

def sortIncidents (incidents : List Incident) : List Incident :=
  incidents.insertionSort fun a b => a.sortKey ≤ b.sortKey

def reconcile (observed : Observed) : List Incident :=
  let tooLarge := boundIncidents observed
  if tooLarge ≠ [] then sortIncidents tooLarge
  else
    let accounts := groupByKey ObservedAccount.id observed.accounts
    let profiles := groupByKey ObservedProfile.key observed.profiles
    sortIncidents (accounts.flatMap duplicateAccount ++ profiles.flatMap duplicateProfile ++
      profiles.flatMap (checkProfile accounts) ++ (slotRuns profiles).flatMap checkSlot ++
      accounts.flatMap (checkAccount observed.sessions) ++
      observed.sessions.flatMap (checkSession profiles))

/-! ## Snapshots that raise no structural incident -/

/-- The kinds a snapshot of state changed only through its owners never shows. -/
def structuralKinds : List IncidentKind :=
  [.snapshotTooLarge, .duplicateAccount, .duplicateProfile, .enabledProfileUnbound,
    .enabledProfileUnderInactiveAccount, .profileOwnerUnknown, .multipleEnabledInSlot,
    .sessionAccountMismatch, .roamingSessionNotPermitted, .usageRegression]

structure Observed.Consistent (observed : Observed) : Prop where
  accountBound : observed.accounts.length ≤ maxAccounts
  profileBound : observed.profiles.length ≤ maxProfiles
  sessionBound : observed.sessions.length ≤ maxSessions
  accountIds : (observed.accounts.map ObservedAccount.id).Nodup
  profileKeys : (observed.profiles.map ObservedProfile.key).Nodup
  ownersKnown : ∀ p ∈ observed.profiles, ∀ owner, p.owner = some owner →
    ∃ a ∈ observed.accounts, a.id = owner
  enabledOwned : ∀ p ∈ observed.profiles, p.lifecycle = .enabled → ∃ owner, p.owner = some owner
  enabledActive : ∀ p ∈ observed.profiles, p.lifecycle = .enabled →
    ∀ a ∈ observed.accounts, p.owner = some a.id → a.standing = .active
  oneEnabled : ∀ p ∈ observed.profiles, ∀ q ∈ observed.profiles, p.lifecycle = .enabled →
    q.lifecycle = .enabled → p.slot = q.slot → p = q
  usage : ∀ a ∈ observed.accounts, ∀ last, a.lastUsedBytes = some last → last ≤ a.usedBytes
  sessionOwner : ∀ s ∈ observed.sessions, ∀ p ∈ observed.profiles,
    p.slot = s.slot → p.profile = s.profile → p.owner = some s.account
  sessionRoaming : ∀ s ∈ observed.sessions, s.roaming = true → s.roamingAllowed = true

/-! ## The report is bounded -/

section Bounded

variable {Item Key : Type} [LinearOrder Key] (key : Item → Key)

omit [LinearOrder Key] in
theorem length_flat_map_le {check : Item → List Incident} {most : Nat}
    (each : ∀ item, (check item).length ≤ most) (items : List Item) :
    (items.flatMap check).length ≤ items.length * most := by
  induction items with
  | nil => simp
  | cons item rest ih =>
    have first := each item
    rw [flatMap_cons, length_append, length_cons, Nat.succ_mul]
    omega

theorem group_by_key_length_le (items : List Item) :
    (groupByKey key items).length ≤ items.length := by
  have adjacent : ∀ sorted : List Item, (groupAdjacent key sorted).length ≤ sorted.length := by
    intro sorted
    induction sorted with
    | nil => exact Nat.le_refl _
    | cons item rest ih =>
      unfold groupAdjacent
      split
      · simp
      · rename_i group groups grouped
        rw [grouped, length_cons] at ih
        split_ifs <;> simp only [length_cons] <;> omega
  exact (adjacent _).trans_eq (length_insertionSort _ _)

theorem slot_runs_length_le (groups : List ProfileGroup) :
    (slotRuns groups).length ≤ groups.length := by
  induction groups with
  | nil => exact Nat.le_refl _
  | cons group rest ih =>
    unfold slotRuns
    split
    · simp
    · rename_i slot enabled runs counted
      rw [counted, length_cons] at ih
      split_ifs <;> simp only [length_cons] <;> omega

theorem duplicate_account_length_le (group : AccountGroup) :
    (duplicateAccount group).length ≤ 1 := by
  unfold duplicateAccount
  split_ifs <;> simp

theorem duplicate_profile_length_le (group : ProfileGroup) :
    (duplicateProfile group).length ≤ 1 := by
  unfold duplicateProfile
  split_ifs <;> simp

theorem check_slot_length_le (run : Nat × Nat) : (checkSlot run).length ≤ 1 := by
  unfold checkSlot
  split_ifs <;> simp

theorem check_profile_length_le (accounts : List AccountGroup) (group : ProfileGroup) :
    (checkProfile accounts group).length ≤ 1 := by
  unfold checkProfile
  split
  · simp
  split
  · split_ifs <;> simp
  split
  · simp
  · split_ifs <;> simp
  · simp

theorem check_account_length_le (sessions : List ObservedSession) (group : AccountGroup) :
    (checkAccount sessions group).length ≤ 3 := by
  have regression : ∀ a, (checkUsageRegression a).length ≤ 1 := by
    intro a
    unfold checkUsageRegression
    split
    · simp
    · split_ifs <;> simp
  have ofCap : ∀ a cap, (checkUsageOfCap sessions a cap).length ≤ 2 := by
    intro a cap
    unfold checkUsageOfCap
    cases a.escalateAtPercent with
    | none => split_ifs <;> simp
    | some percent =>
      simp only
      split_ifs <;> simp
  unfold checkAccount
  split
  · simp
  rename_i a _
  have first := regression a
  split
  · simp only [append_nil]
    omega
  rename_i cap _
  have second := ofCap a cap
  rw [length_append]
  omega

theorem check_session_length_le (profiles : List ProfileGroup) (s : ObservedSession) :
    (checkSession profiles s).length ≤ 3 := by
  unfold checkSession
  split
  · split_ifs <;> simp
  · split_ifs <;> simp
  · split_ifs <;> simp

/-- A snapshot over its bounds is answered with at most three findings, any
other one with a few per row. -/
theorem reconcile_length_le (observed : Observed) : (reconcile observed).length ≤ 4096 := by
  have bound : ∀ length maximum, (boundIncident length maximum).length ≤ 1 ∧
      (boundIncident length maximum = [] → length ≤ maximum) := by
    intro length maximum
    unfold boundIncident
    split_ifs with large
    · simp
    · exact ⟨by simp, fun _ => not_lt.mp large⟩
  have accountBound := bound observed.accounts.length maxAccounts
  have profileBound := bound observed.profiles.length maxProfiles
  have sessionBound := bound observed.sessions.length maxSessions
  unfold reconcile sortIncidents
  simp only
  split_ifs with tooLarge
  · rw [length_insertionSort]
    simp only [boundIncidents, length_append]
    omega
  rw [not_not, boundIncidents, append_eq_nil_iff, append_eq_nil_iff] at tooLarge
  have accounts := accountBound.2 tooLarge.1.1
  have profiles := profileBound.2 tooLarge.1.2
  have sessions := sessionBound.2 tooLarge.2
  have accountGroups := group_by_key_length_le ObservedAccount.id observed.accounts
  have profileGroups := group_by_key_length_le ObservedProfile.key observed.profiles
  have runs := slot_runs_length_le (groupByKey ObservedProfile.key observed.profiles)
  have duplicateAccounts := length_flat_map_le duplicate_account_length_le
    (groupByKey ObservedAccount.id observed.accounts)
  have duplicateProfiles := length_flat_map_le duplicate_profile_length_le
    (groupByKey ObservedProfile.key observed.profiles)
  have perProfile := length_flat_map_le
    (check_profile_length_le (groupByKey ObservedAccount.id observed.accounts))
    (groupByKey ObservedProfile.key observed.profiles)
  have perSlot := length_flat_map_le check_slot_length_le
    (slotRuns (groupByKey ObservedProfile.key observed.profiles))
  have perAccount := length_flat_map_le (check_account_length_le observed.sessions)
    (groupByKey ObservedAccount.id observed.accounts)
  have perSession := length_flat_map_le
    (check_session_length_le (groupByKey ObservedProfile.key observed.profiles))
    observed.sessions
  simp only [maxAccounts, maxProfiles, maxSessions] at accounts profiles sessions
  rw [length_insertionSort]
  simp only [length_append]
  omega

end Bounded

end Runix.Mobile.Reconcile
