import Mathlib.Algebra.GroupWithZero.Nat
import Mathlib.Data.Finset.Card
import Runix.Lib.Listing
import Runix.Mobile.Reconcile

/-!
# What the reconciler reports

`reconcile` sorts, groups, searches and scans runs.  Its findings are stated here over a snapshot
in no order: for each kind, which records, keys and slots it is about.  A record whose key another
record has is left out wherever one copy would have to be picked.
-/

namespace Runix.Mobile.Reconcile

open Lib.Listing List ProfileGroup ObservedAccount

/-! ## The findings -/

structure Snapshot where
  accounts : Multiset ObservedAccount
  profiles : Multiset ObservedProfile
  sessions : Multiset ObservedSession

def Observed.unordered (observed : Observed) : Snapshot :=
  ⟨observed.accounts, observed.profiles, observed.sessions⟩

namespace Snapshot

variable (snapshot : Snapshot)

def accountCopies (id : Nat) : Nat := snapshot.accounts.countP fun a => a.id = id

def profileCopies (slot profile : Nat) : Nat :=
  snapshot.profiles.countP fun p => p.slot = slot ∧ p.profile = profile

def SingleAccount (a : ObservedAccount) : Prop :=
  a ∈ snapshot.accounts ∧ snapshot.accountCopies a.id = 1

def SingleProfile (p : ObservedProfile) : Prop :=
  p ∈ snapshot.profiles ∧ snapshot.profileCopies p.slot p.profile = 1

/-- How many profiles of a slot are enabled, of those that are the only record of their key. -/
def enabledInSlot (slot : Nat) : Nat :=
  snapshot.profiles.countP fun p =>
    p.slot = slot ∧ p.lifecycle = .enabled ∧ snapshot.profileCopies p.slot p.profile = 1

def Bounded : Prop :=
  snapshot.accounts.card ≤ maxAccounts ∧ snapshot.profiles.card ≤ maxProfiles ∧
    snapshot.sessions.card ≤ maxSessions

end Snapshot

def sizeFinding (size bound : Nat) : Multiset Incident :=
  if bound < size then {⟨.snapshotTooLarge, .snapshot, .number bound, .number size⟩} else 0

/-- One finding for each collection that is over its bound. -/
def Snapshot.sizeFindings (snapshot : Snapshot) : Multiset Incident :=
  sizeFinding snapshot.accounts.card maxAccounts + sizeFinding snapshot.profiles.card maxProfiles +
    sizeFinding snapshot.sessions.card maxSessions

inductive ProfileFinding (snapshot : Snapshot) (p : ObservedProfile) : Incident → Prop
  | underInactiveAccount (enabled : p.lifecycle = .enabled) (a : ObservedAccount)
      (single : snapshot.SingleAccount a) (owned : p.owner = some a.id)
      (inactive : a.standing ≠ .active) :
      ProfileFinding snapshot p ⟨.enabledProfileUnderInactiveAccount, .profile p.slot p.profile,
        .standing .active, .standing a.standing⟩
  | unbound (enabled : p.lifecycle = .enabled) (free : p.owner = none) :
      ProfileFinding snapshot p ⟨.enabledProfileUnbound, .profile p.slot p.profile, .anyOwner,
        .owner none⟩
  | ownerUnknown (owner : Nat) (owned : p.owner = some owner)
      (unknown : ∀ a ∈ snapshot.accounts, a.id ≠ owner) :
      ProfileFinding snapshot p ⟨.profileOwnerUnknown, .profile p.slot p.profile,
        .owner (some owner), .absent⟩

inductive AccountFinding (snapshot : Snapshot) (a : ObservedAccount) : Incident → Prop
  | regression (last : Nat) (remembered : a.lastUsedBytes = some last) (fell : a.usedBytes < last) :
      AccountFinding snapshot a ⟨.usageRegression, .account a.id, .number last,
        .number a.usedBytes⟩
  | overCap (active : a.standing = .active) (cap : Nat) (capped : a.dataCapBytes = some cap)
      (reached : cap ≤ a.usedBytes) (session : ∃ s ∈ snapshot.sessions, s.account = a.id) :
      AccountFinding snapshot a ⟨.usageOverCapNotRestricted, .account a.id, .standing .suspended,
        .usageOfCap a.usedBytes cap⟩
  | anomalous (active : a.standing = .active) (cap : Nat) (capped : a.dataCapBytes = some cap)
      (percent : Nat) (escalated : a.escalateAtPercent = some percent)
      (reached : cap * percent ≤ a.usedBytes * 100) :
      AccountFinding snapshot a ⟨.anomalousUsageNoEscalation, .account a.id, .percent percent,
        .usageOfCap a.usedBytes cap⟩

def ObservedSession.subject (s : ObservedSession) : Subject :=
  .session s.account s.slot s.profile

inductive SessionFinding (snapshot : Snapshot) (s : ObservedSession) : Incident → Prop
  | withoutProfile
      (absent : ∀ p ∈ snapshot.profiles, ¬ (p.slot = s.slot ∧ p.profile = s.profile)) :
      SessionFinding snapshot s
        ⟨.sessionWithoutEnabledProfile, s.subject, .lifecycle .enabled, .absent⟩
  | withoutEnabledProfile (p : ObservedProfile) (alone : snapshot.SingleProfile p)
      (named : p.slot = s.slot ∧ p.profile = s.profile) (notEnabled : p.lifecycle ≠ .enabled) :
      SessionFinding snapshot s
        ⟨.sessionWithoutEnabledProfile, s.subject, .lifecycle .enabled, .lifecycle p.lifecycle⟩
  | accountMismatch (p : ObservedProfile) (alone : snapshot.SingleProfile p)
      (named : p.slot = s.slot ∧ p.profile = s.profile) (foreign : p.owner ≠ some s.account) :
      SessionFinding snapshot s
        ⟨.sessionAccountMismatch, s.subject, .owner (some s.account), .owner p.owner⟩
  | roamingNotPermitted (roams : s.roaming = true) (forbidden : s.roamingAllowed = false) :
      SessionFinding snapshot s
        ⟨.roamingSessionNotPermitted, s.subject, .bool false, .bool true⟩

inductive Finding (snapshot : Snapshot) : Incident → Prop
  | duplicateAccount (id : Nat) (several : 1 < snapshot.accountCopies id) :
      Finding snapshot ⟨.duplicateAccount, .account id, .number 1,
        .number (snapshot.accountCopies id)⟩
  | duplicateProfile (slot profile : Nat) (several : 1 < snapshot.profileCopies slot profile) :
      Finding snapshot ⟨.duplicateProfile, .profile slot profile, .number 1,
        .number (snapshot.profileCopies slot profile)⟩
  | ofProfile {incident : Incident} (p : ObservedProfile) (alone : snapshot.SingleProfile p)
      (found : ProfileFinding snapshot p incident) : Finding snapshot incident
  | multipleEnabledInSlot (slot : Nat) (several : 1 < snapshot.enabledInSlot slot) :
      Finding snapshot ⟨.multipleEnabledInSlot, .slot slot, .number 1,
        .number (snapshot.enabledInSlot slot)⟩
  | ofAccount {incident : Incident} (a : ObservedAccount) (single : snapshot.SingleAccount a)
      (found : AccountFinding snapshot a incident) : Finding snapshot incident

open Classical in
/-- How often an incident is to be reported: beyond a bound only the sizes are, and otherwise each
finding once, for a session once for each record of it. -/
noncomputable def Snapshot.declared (snapshot : Snapshot) (incident : Incident) : Nat :=
  if snapshot.Bounded then
    (if Finding snapshot incident then 1 else 0) +
      snapshot.sessions.countP fun s => SessionFinding snapshot s incident
  else snapshot.sizeFindings.count incident

/-! ## Groups -/

section Groups

variable {Item Key : Type} [LinearOrder Key] {key : Item → Key} {items : List Item}
  {groups : List (Group Item Key)}

def copies (key : Item → Key) (items : List Item) (wanted : Key) : Nat :=
  items.countP fun item => key item = wanted

/-- The groups of a list of records: one for each key, in the order of the keys. -/
structure Grouped (key : Item → Key) (items : List Item) (groups : List (Group Item Key)) :
    Prop where
  increasing : groups.Pairwise fun group next => group.key < next.key
  counted : ∀ group ∈ groups, group.count = copies key items group.key
  first : ∀ group ∈ groups, group.first ∈ items ∧ key group.first = group.key
  covered : ∀ item ∈ items, ∃ group ∈ groups, group.key = key item

theorem copies_cons (item : Item) (rest : List Item) (wanted : Key) :
    copies key (item :: rest) wanted =
      copies key rest wanted + if key item = wanted then 1 else 0 := by
  unfold copies
  rw [countP_cons]
  simp only [decide_eq_true_eq]

variable {wanted : Key}

theorem copies_eq_zero_iff : copies key items wanted = 0 ↔ ∀ item ∈ items, key item ≠ wanted := by
  unfold copies
  rw [countP_eq_zero]
  simp only [decide_eq_true_eq]

theorem copies_le_one (unique : (items.map key).Nodup) (wanted : Key) :
    copies key items wanted ≤ 1 := by
  have once := nodup_iff_count_le_one.mp unique wanted
  rw [List.count, countP_map] at once
  refine le_trans (countP_mono_left fun item _ same => ?_) once
  exact beq_iff_eq.mpr (of_decide_eq_true same)

theorem eq_of_copies (single : copies key items wanted = 1) {item other : Item}
    (first : item ∈ items) (second : other ∈ items) (one : key item = wanted)
    (two : key other = wanted) : item = other := by
  have only : (items : Multiset Item).countP (fun item => key item = wanted) = 1 := single
  exact eq_of_countP_eq_one only first second one two

/-- A record before the others begins the first group, which has all records of its key. -/
theorem Grouped.cons {item : Item} {rest : List Item} {tail : List (Group Item Key)} {count : Nat}
    (grouped : Grouped key rest groups) (part : tail.Sublist groups)
    (above : ∀ group ∈ tail, key item < group.key)
    (kept : ∀ group ∈ groups, group ∈ tail ∨ group.key = key item)
    (counted : count = copies key rest (key item) + 1) :
    Grouped key (item :: rest) ({ key := key item, first := item, count := count } :: tail) where
  increasing := pairwise_cons.mpr ⟨above, grouped.increasing.sublist part⟩
  counted := by
    intro group member
    rcases mem_cons.mp member with rfl | member
    · rw [copies_cons, if_pos rfl]
      exact counted
    · rw [copies_cons, if_neg (above group member).ne, Nat.add_zero]
      exact grouped.counted group (part.subset member)
  first := by
    intro group member
    rcases mem_cons.mp member with rfl | member
    · exact ⟨mem_cons_self, rfl⟩
    · obtain ⟨listed, known⟩ := grouped.first group (part.subset member)
      exact ⟨mem_cons_of_mem _ listed, known⟩
  covered := by
    intro other member
    rcases mem_cons.mp member with rfl | member
    · exact ⟨_, mem_cons_self, rfl⟩
    obtain ⟨group, found, known⟩ := grouped.covered other member
    rcases kept group found with there | same
    · exact ⟨group, mem_cons_of_mem _ there, known⟩
    · exact ⟨_, mem_cons_self, same.symm.trans known⟩

theorem groupAdjacent_grouped (sorted : items.Pairwise fun a b => key a ≤ key b) :
    Grouped key items (groupAdjacent key items) := by
  induction items with
  | nil =>
    exact ⟨List.Pairwise.nil, forall_mem_nil _, forall_mem_nil _, forall_mem_nil _⟩
  | cons item rest ih =>
    obtain ⟨below, later⟩ := pairwise_cons.mp sorted
    have grouped := ih later
    have least : ∀ group ∈ groupAdjacent key rest, key item ≤ group.key := by
      intro group member
      obtain ⟨listed, known⟩ := grouped.first group member
      rw [← known]
      exact below group.first listed
    have fresh : (∀ group ∈ groupAdjacent key rest, group.key ≠ key item) →
        copies key rest (key item) = 0 := by
      intro absent
      rw [copies_eq_zero_iff]
      intro other member equal
      obtain ⟨group, found, known⟩ := grouped.covered other member
      exact absent group found (known.trans equal)
    unfold groupAdjacent
    cases tail : groupAdjacent key rest with
    | nil =>
      rw [tail] at grouped fresh
      apply grouped.cons (List.Sublist.refl []) (forall_mem_nil _) (forall_mem_nil _)
      rw [fresh (forall_mem_nil _)]
    | cons group groups =>
      rw [tail] at grouped fresh least
      have own := least group mem_cons_self
      have after := (pairwise_cons.mp grouped.increasing).1
      dsimp only
      by_cases same : group.key = key item
      · rw [if_pos same]
        apply grouped.cons (sublist_cons_self group groups)
        · intro next member
          rw [← same]
          exact after next member
        · intro next member
          rcases mem_cons.mp member with rfl | member
          · exact .inr same
          · exact .inl member
        · rw [← same, ← grouped.counted group mem_cons_self]
      · rw [if_neg same]
        have less : key item < group.key := lt_of_le_of_ne own (Ne.symm same)
        have above : ∀ next ∈ group :: groups, key item < next.key := by
          intro next member
          rcases mem_cons.mp member with rfl | member
          · exact less
          · exact less.trans (after next member)
        apply grouped.cons (List.Sublist.refl _) above
        · exact fun next member => .inl member
        · rw [fresh fun next member => (above next member).ne']

theorem groupByKey_grouped (key : Item → Key) (items : List Item) :
    Grouped key items (groupByKey key items) := by
  have rearranged := perm_insertionSort (fun a b => key a ≤ key b) items
  have sorted : (items.insertionSort fun a b => key a ≤ key b).Pairwise fun a b => key a ≤ key b :=
    sort_pairwise items
  have grouped := groupAdjacent_grouped sorted
  refine ⟨grouped.increasing, ?_, ?_, ?_⟩
  · intro group member
    exact (grouped.counted group member).trans (rearranged.countP_eq _)
  · intro group member
    obtain ⟨listed, known⟩ := grouped.first group member
    exact ⟨rearranged.mem_iff.mp listed, known⟩
  · intro item member
    exact grouped.covered item (rearranged.mem_iff.mpr member)

namespace Grouped

variable (grouped : Grouped key items groups)

include grouped

theorem keys_nodup : (groups.map Group.key).Nodup :=
  pairwise_map.mpr (grouped.increasing.imp fun less => less.ne)

theorem nodup : groups.Nodup := List.Nodup.of_map Group.key grouped.keys_nodup

theorem exists_group (some : 0 < copies key items wanted) :
    ∃ group ∈ groups, group.key = wanted := by
  obtain ⟨item, member, same⟩ := countP_pos_iff.mp some
  obtain ⟨group, found, known⟩ := grouped.covered item member
  exact ⟨group, found, known.trans (of_decide_eq_true same)⟩

theorem entry_eq_unique_iff {group : Group Item Key} (member : group ∈ groups) {item : Item} :
    group.entry = .unique item ↔
      item ∈ items ∧ key item = group.key ∧ copies key items group.key = 1 := by
  obtain ⟨listed, known⟩ := grouped.first group member
  have counted := grouped.counted group member
  unfold Group.entry
  by_cases single : group.count = 1
  · rw [if_pos single, Entry.unique.injEq]
    rw [counted] at single
    constructor
    · rintro rfl
      exact ⟨listed, known, single⟩
    · rintro ⟨other, same, -⟩
      exact eq_of_copies single listed other known same
  · rw [if_neg single]
    rw [counted] at single
    constructor
    · nofun
    · rintro ⟨-, -, alone⟩
      exact absurd alone single

theorem find_eq_none_iff : find groups wanted = none ↔ ∀ item ∈ items, key item ≠ wanted := by
  unfold find
  rw [Option.map_eq_none_iff, List.find?_eq_none]
  constructor
  · intro absent item member same
    obtain ⟨group, found, known⟩ := grouped.covered item member
    exact absent group found (decide_eq_true (known.trans same))
  · intro absent group member same
    obtain ⟨listed, known⟩ := grouped.first group member
    exact absent group.first listed (known.trans (of_decide_eq_true same))

theorem find_eq_unique_iff {item : Item} :
    find groups wanted = some (.unique item) ↔
      item ∈ items ∧ key item = wanted ∧ copies key items wanted = 1 := by
  unfold find
  rw [Option.map_eq_some_iff]
  constructor
  · rintro ⟨group, found, entry⟩
    have matched := List.find?_some found
    have same : group.key = wanted := of_decide_eq_true matched
    rw [← same]
    exact (grouped.entry_eq_unique_iff (mem_of_find?_eq_some found)).mp entry
  · rintro ⟨listed, known, single⟩
    obtain ⟨group, member, same⟩ := grouped.covered item listed
    cases found : groups.find? fun group => group.key = wanted with
    | none =>
      have absent := List.find?_eq_none.mp found group member
      exact absurd (decide_eq_true (same.trans known)) absent
    | some other =>
      have matched := List.find?_some found
      have named : other.key = wanted := of_decide_eq_true matched
      refine ⟨other, rfl, (grouped.entry_eq_unique_iff (mem_of_find?_eq_some found)).mpr ?_⟩
      rw [named]
      exact ⟨listed, known, single⟩

theorem find_cases (wanted : Key) :
    (find groups wanted = none ∧ copies key items wanted = 0) ∨
      (∃ item ∈ items, find groups wanted = some (.unique item) ∧ key item = wanted ∧
        copies key items wanted = 1) ∨
      find groups wanted = some .ambiguous ∧ 1 < copies key items wanted := by
  cases found : find groups wanted with
  | none =>
    exact .inl ⟨rfl, copies_eq_zero_iff.mpr (grouped.find_eq_none_iff.mp found)⟩
  | some entry =>
    right
    cases entry with
    | unique item =>
      obtain ⟨listed, known, single⟩ := grouped.find_eq_unique_iff.mp found
      exact .inl ⟨item, listed, rfl, known, single⟩
    | ambiguous =>
      refine .inr ⟨rfl, ?_⟩
      have some : 0 < copies key items wanted := by
        by_contra nobody
        have absent : find groups wanted = none := by
          rw [grouped.find_eq_none_iff]
          intro item member same
          exact nobody (countP_pos_iff.mpr ⟨item, member, decide_eq_true same⟩)
        rw [found] at absent
        cases absent
      by_contra few
      have single : copies key items wanted = 1 := by omega
      obtain ⟨item, member, same⟩ := countP_pos_iff.mp some
      have unique := grouped.find_eq_unique_iff.mpr ⟨member, of_decide_eq_true same, single⟩
      rw [found] at unique
      cases unique

theorem lists_duplicates {Out : Type} (report : Key → Nat → Out)
    (named : ∀ one two count number, report one count = report two number → one = two) :
    Lists (groups.flatMap fun group =>
        if group.count > 1 then [report group.key group.count] else []) fun incident =>
      ∃ wanted, 1 < copies key items wanted ∧
        incident = report wanted (copies key items wanted) := by
  have parts := Lists.flatMap grouped.nodup
    (fun group _ => lists_if (group.count > 1) (report group.key group.count)) (by
      rintro group member other listed incident ⟨-, one⟩ ⟨-, two⟩
      apply inj_on_of_nodup_map grouped.keys_nodup member listed
      exact named _ _ _ _ (one.symm.trans two))
  apply parts.congr
  intro incident
  constructor
  · rintro ⟨group, member, several, rfl⟩
    rw [grouped.counted group member] at several ⊢
    exact ⟨group.key, several, rfl⟩
  · rintro ⟨wanted, several, rfl⟩
    obtain ⟨group, member, rfl⟩ := grouped.exists_group (Nat.zero_lt_of_lt several)
    rw [← grouped.counted group member] at several ⊢
    exact ⟨group, member, several, rfl⟩

theorem lists_singles {Out : Type} {check : Group Item Key → List Out} {adds : Item → Out → Prop}
    (skipped : ∀ group, group.entry = .ambiguous → check group = [])
    (checked : ∀ group item, group.entry = .unique item → Lists (check group) (adds item))
    (named : ∀ one two incident, adds one incident → adds two incident → key one = key two) :
    Lists (groups.flatMap check) fun incident =>
      ∃ item ∈ items, copies key items (key item) = 1 ∧ adds item incident := by
  have parts : Lists (groups.flatMap check) fun incident =>
      ∃ group ∈ groups, ∃ item, group.entry = .unique item ∧ adds item incident := by
    apply Lists.flatMap grouped.nodup
    · intro group member
      cases entry : group.entry with
      | ambiguous =>
        rw [skipped group entry]
        apply lists_nil.congr
        intro incident
        exact iff_of_false not_false fun ⟨_, wrong, _⟩ => nomatch wrong
      | unique item =>
        apply (checked group item entry).congr
        intro incident
        constructor
        · exact fun holds => ⟨item, rfl, holds⟩
        · rintro ⟨other, same, holds⟩
          cases same
          exact holds
    · rintro group member other listed incident ⟨one, entry, first⟩ ⟨two, another, second⟩
      apply inj_on_of_nodup_map grouped.keys_nodup member listed
      rw [← ((grouped.entry_eq_unique_iff member).mp entry).2.1,
        ← ((grouped.entry_eq_unique_iff listed).mp another).2.1]
      exact named one two incident first second
  apply parts.congr
  intro incident
  constructor
  · rintro ⟨group, member, item, entry, holds⟩
    obtain ⟨listed, same, single⟩ := (grouped.entry_eq_unique_iff member).mp entry
    exact ⟨item, listed, same ▸ single, holds⟩
  · rintro ⟨item, listed, single, holds⟩
    obtain ⟨group, member, same⟩ := grouped.covered item listed
    refine ⟨group, member, item, (grouped.entry_eq_unique_iff member).mpr ?_, holds⟩
    exact ⟨listed, same.symm, same ▸ single⟩

end Grouped

end Groups

/-! ## Slots -/

def slotTotal (groups : List ProfileGroup) (slot : Nat) : Nat :=
  ((groups.filter fun group => ProfileGroup.slot group = slot).map ProfileGroup.enabledCount).sum

theorem slotTotal_cons (group : ProfileGroup) (rest : List ProfileGroup) (slot : Nat) :
    slotTotal (group :: rest) slot =
      (if ProfileGroup.slot group = slot then ProfileGroup.enabledCount group else 0) +
        slotTotal rest slot := by
  unfold slotTotal
  rw [filter_cons]
  simp only [decide_eq_true_eq]
  split_ifs
  · rw [map_cons, sum_cons]
  · rw [Nat.zero_add]

variable {groups : List ProfileGroup}

theorem slotTotal_eq_zero {slot : Nat}
    (absent : ∀ group ∈ groups, ProfileGroup.slot group ≠ slot) : slotTotal groups slot = 0 := by
  unfold slotTotal
  rw [filter_eq_nil_iff.mpr fun group member => by simpa using absent group member]
  rfl

theorem slotRuns_cons_head (group : ProfileGroup) (rest : List ProfileGroup) :
    ∃ enabled runs, slotRuns (group :: rest) = (slot group, enabled) :: runs := by
  rw [slotRuns]
  split
  · exact ⟨_, _, rfl⟩
  · split_ifs with same
    · exact ⟨_, _, by rw [same]⟩
    · exact ⟨_, _, rfl⟩

def IsRun (groups : List ProfileGroup) (run : Nat × Nat) : Prop :=
  (∃ group ∈ groups, slot group = run.1) ∧ run.2 = slotTotal groups run.1

theorem isRun_cons_iff {group : ProfileGroup} {rest : List ProfileGroup} {run : Nat × Nat} :
    IsRun (group :: rest) run ↔
      run = (slot group,
          enabledCount group + slotTotal rest (slot group)) ∨
        run.1 ≠ slot group ∧ IsRun rest run := by
  obtain ⟨slot, total⟩ := run
  unfold IsRun
  rw [slotTotal_cons, Prod.mk.injEq]
  by_cases same : slot = ProfileGroup.slot group
  · subst same
    simp
  · simp [same, Ne.symm same]

/-- Where groups of a slot are adjacent, the runs are the slots with their totals. -/
theorem slotRuns_lists (sorted : groups.Pairwise fun group next => slot group ≤ slot next) :
    Lists (slotRuns groups) (IsRun groups) := by
  induction groups with
  | nil =>
    apply lists_nil.congr
    simp [IsRun]
  | cons group rest ih =>
    obtain ⟨below, later⟩ := pairwise_cons.mp sorted
    have runs := ih later
    cases rest with
    | nil =>
      apply (lists_singleton (slot group, enabledCount group)).congr
      intro run
      rw [isRun_cons_iff]
      simp [IsRun, slotTotal]
    | cons next others =>
      obtain ⟨enabled, tail, split⟩ := slotRuns_cons_head next others
      rw [slotRuns, split]
      rw [split] at runs
      have total : enabled = slotTotal (next :: others) (slot next) :=
        ((runs.mem_iff _).mp mem_cons_self).2
      dsimp only
      by_cases same : slot next = slot group
      · rw [if_pos same]
        -- The first run of the rest is of this slot: the group joins it.
        have joined : ∀ run, IsRun (next :: others) run ∧
            run ≠ (slot next, enabled) ↔
              run.1 ≠ slot group ∧ IsRun (next :: others) run := by
          rintro ⟨slot, count⟩
          rw [and_comm, ← same]
          apply and_congr_left
          rintro ⟨-, counted⟩
          rw [Ne, Prod.mk.injEq, not_and]
          constructor
          · rintro different rfl
            exact different rfl (counted.trans total.symm)
          · exact fun different here => absurd here different
        have later := runs.tail.congr joined
        have fresh : ¬ ((slot next, enabledCount group + enabled).1 ≠
            slot group ∧ IsRun (next :: others)
              (slot next, enabledCount group + enabled)) :=
          fun wrong => wrong.1 same
        apply (later.cons _ fresh).congr
        intro run
        rw [@isRun_cons_iff group (next :: others) run, total, same]
      · rw [if_neg same]
        have absent : ∀ other ∈ next :: others,
            slot other ≠ slot group := by
          intro other member equal
          have first := below next mem_cons_self
          have ordered : slot next ≤ slot other := by
            rcases mem_cons.mp member with rfl | member
            · exact le_refl _
            · exact (pairwise_cons.mp later).1 other member
          exact same (le_antisymm (ordered.trans_eq equal) first)
        have elsewhere : ∀ run, IsRun (next :: others) run → run.1 ≠ slot group := by
          rintro run ⟨⟨other, member, equal⟩, -⟩ here
          exact absent other member (equal.trans here)
        apply (runs.cons (slot group, enabledCount group)
          fun wrong => elsewhere _ wrong rfl).congr
        intro run
        rw [@isRun_cons_iff group (next :: others) run, slotTotal_eq_zero absent, Nat.add_zero]
        apply or_congr_right
        exact ⟨fun held => ⟨elsewhere run held, held⟩, And.right⟩

def Group.only {Item Key : Type} (group : Group Item Key) : Option Item :=
  match group.entry with
  | .unique item => some item
  | .ambiguous => none

theorem slotTotal_eq_countP
    (own : ∀ group ∈ groups, ∀ p, group.entry = .unique p → p.slot = slot group) (slot : Nat) :
    slotTotal groups slot =
      (groups.filterMap Group.only).countP fun p => p.slot = slot ∧ p.lifecycle = .enabled := by
  induction groups with
  | nil => rfl
  | cons group rest ih =>
    have later := ih fun other member => own other (mem_cons_of_mem _ member)
    have first := own group mem_cons_self
    rw [slotTotal_cons, later, filterMap_cons]
    unfold enabledCount Group.only
    cases entry : group.entry with
    | ambiguous => simp
    | unique p =>
      dsimp only
      rw [countP_cons, ← first p entry]
      by_cases here : p.slot = slot <;> by_cases enabled : p.lifecycle = .enabled <;>
        simp [here, enabled, Nat.add_comm]

theorem Grouped.singles_perm {Item Key : Type} [LinearOrder Key] {key : Item → Key}
    {items : List Item} {groups : List (Group Item Key)} (grouped : Grouped key items groups) :
    (groups.filterMap Group.only).Perm
      (items.filter fun item => copies key items (key item) = 1) := by
  have fromGroups : Lists (groups.filterMap Group.only) fun out =>
      ∃ item ∈ items, copies key items (key item) = 1 ∧ out = item := by
    rw [filterMap_eq_flatMap_toList]
    apply grouped.lists_singles
    · intro group entry
      unfold Group.only
      rw [entry]
      rfl
    · intro group item entry
      unfold Group.only
      rw [entry]
      exact lists_singleton item
    · rintro one two out rfl rfl
      rfl
  have fromItems : Lists (items.filter fun item => copies key items (key item) = 1) fun out =>
      ∃ item ∈ items, copies key items (key item) = 1 ∧ out = item := by
    refine ⟨?_, ?_⟩
    · apply nodup_of_countP_le_one key filter_sublist
      intro item member
      exact (of_decide_eq_true (mem_filter.mp member).2 :
        copies key items (key item) = 1).le
    · intro item
      simp
  exact fromGroups.perm_of_lists fromItems

/-! ## The parts of a report -/

variable {incident : Incident}

section Parts

variable (observed : Observed)

theorem profile_copies (slot profile : Nat) :
    copies ObservedProfile.key observed.profiles (toLex (slot, profile)) =
      observed.unordered.profileCopies slot profile := by
  apply countP_congr
  intro p _
  simp [ObservedProfile.key]

theorem key_copies (p : ObservedProfile) :
    copies ObservedProfile.key observed.profiles p.key =
      observed.unordered.profileCopies p.slot p.profile :=
  profile_copies observed p.slot p.profile

theorem duplicate_accounts_list :
    Lists ((groupByKey ObservedAccount.id observed.accounts).flatMap duplicateAccount)
      fun incident => ∃ id, 1 < observed.unordered.accountCopies id ∧
        incident = ⟨.duplicateAccount, .account id, .number 1,
          .number (observed.unordered.accountCopies id)⟩ := by
  apply (groupByKey_grouped ObservedAccount.id observed.accounts).lists_duplicates
    fun id count => (⟨.duplicateAccount, .account id, .number 1, .number count⟩ : Incident)
  intro one two count number same
  cases same
  rfl

theorem duplicate_profiles_list :
    Lists ((groupByKey ObservedProfile.key observed.profiles).flatMap duplicateProfile)
      fun incident => ∃ slot profile, 1 < observed.unordered.profileCopies slot profile ∧
        incident = ⟨.duplicateProfile, .profile slot profile, .number 1,
          .number (observed.unordered.profileCopies slot profile)⟩ := by
  have parts := (groupByKey_grouped ObservedProfile.key observed.profiles).lists_duplicates
    (fun key count => (⟨.duplicateProfile, .profile (ofLex key).1 (ofLex key).2, .number 1,
      .number count⟩ : Incident)) (by
      intro one two count number same
      simp only [Incident.mk.injEq, Subject.profile.injEq] at same
      exact ofLex.injective (Prod.ext same.2.1.1 same.2.1.2))
  apply parts.congr
  intro incident
  constructor
  · rintro ⟨key, several, rfl⟩
    rw [← toLex_ofLex key, profile_copies] at several ⊢
    exact ⟨_, _, several, rfl⟩
  · rintro ⟨slot, profile, several, rfl⟩
    rw [← profile_copies] at several ⊢
    exact ⟨toLex (slot, profile), several, rfl⟩

variable {p : ObservedProfile}

theorem profile_finding_iff {snapshot : Snapshot} {owner : Nat} (owned : p.owner = some owner) :
    ProfileFinding snapshot p incident ↔
      ((∀ a ∈ snapshot.accounts, a.id ≠ owner) ∧
          incident = ⟨.profileOwnerUnknown, .profile p.slot p.profile, .owner (some owner),
            .absent⟩) ∨
        ∃ a, snapshot.SingleAccount a ∧ a.id = owner ∧
          (p.lifecycle = .enabled ∧ a.standing ≠ .active) ∧
            incident = ⟨.enabledProfileUnderInactiveAccount, .profile p.slot p.profile,
              .standing .active, .standing a.standing⟩ := by
  constructor
  · intro found
    cases found with
    | underInactiveAccount enabled a single holder inactive =>
      rw [owned, Option.some.injEq] at holder
      exact .inr ⟨a, single, holder.symm, ⟨enabled, inactive⟩, rfl⟩
    | unbound enabled free =>
      rw [owned] at free
      cases free
    | ownerUnknown other holder unknown =>
      rw [owned, Option.some.injEq] at holder
      subst holder
      exact .inl ⟨unknown, rfl⟩
  · rintro (⟨unknown, rfl⟩ | ⟨a, single, rfl, ⟨enabled, inactive⟩, rfl⟩)
    · exact .ownerUnknown owner owned unknown
    · exact .underInactiveAccount enabled a single owned inactive

theorem checkProfile_lists {group : ProfileGroup} (entry : group.entry = .unique p) :
    Lists (checkProfile (groupByKey id observed.accounts) group)
      (ProfileFinding observed.unordered p) := by
  unfold checkProfile
  rw [entry]
  dsimp only
  cases owned : p.owner with
  | none =>
    apply (lists_if (p.lifecycle = .enabled) _).congr
    intro incident
    constructor
    · rintro ⟨enabled, rfl⟩
      exact .unbound enabled owned
    · intro found
      cases found with
      | underInactiveAccount enabled a single holder =>
        rw [owned] at holder
        cases holder
      | unbound enabled => exact ⟨enabled, rfl⟩
      | ownerUnknown other holder =>
        rw [owned] at holder
        cases holder
  | some owner =>
    dsimp only
    have accounts := groupByKey_grouped ObservedAccount.id observed.accounts
    have alone : ∀ a, observed.unordered.SingleAccount a → a.id = owner →
        copies ObservedAccount.id observed.accounts owner = 1 := by
      rintro a single rfl
      exact single.2
    rcases accounts.find_cases owner with ⟨found, zero⟩ | ⟨a, listed, found, rfl, one⟩ |
      ⟨found, several⟩
    · rw [found]
      apply (lists_singleton _).congr
      intro incident
      rw [profile_finding_iff owned]
      constructor
      · rintro rfl
        exact .inl ⟨copies_eq_zero_iff.mp zero, rfl⟩
      · rintro (⟨-, known⟩ | ⟨a, single, named, -⟩)
        · exact known
        · have counted := alone a single named
          omega
    · rw [found]
      apply (lists_if (p.lifecycle = .enabled ∧ a.standing ≠ .active) _).congr
      intro incident
      rw [profile_finding_iff owned]
      constructor
      · exact fun held => .inr ⟨a, ⟨listed, one⟩, rfl, held⟩
      · rintro (⟨unknown, -⟩ | ⟨other, single, named, held⟩)
        · exact absurd rfl (unknown a listed)
        · obtain rfl : other = a := eq_of_copies one single.1 listed named rfl
          exact held
    · rw [found]
      apply lists_nil.congr
      intro incident
      rw [profile_finding_iff owned]
      constructor
      · exact False.elim
      · rintro (⟨unknown, -⟩ | ⟨a, single, named, -⟩)
        · have zero := copies_eq_zero_iff.mpr unknown
          omega
        · have counted := alone a single named
          omega

theorem profile_findings_list :
    Lists ((groupByKey ObservedProfile.key observed.profiles).flatMap
        (checkProfile (groupByKey id observed.accounts)))
      fun incident => ∃ p, observed.unordered.SingleProfile p ∧
        ProfileFinding observed.unordered p incident := by
  have parts : Lists ((groupByKey ObservedProfile.key observed.profiles).flatMap
      (checkProfile (groupByKey id observed.accounts))) fun incident =>
        ∃ p ∈ observed.profiles, copies ObservedProfile.key observed.profiles p.key = 1 ∧
          ProfileFinding observed.unordered p incident := by
    apply (groupByKey_grouped ObservedProfile.key observed.profiles).lists_singles
    · intro group entry
      unfold checkProfile
      rw [entry]
    · intro group p entry
      exact checkProfile_lists observed entry
    · intro one two incident first second
      have named : ∀ p, ProfileFinding observed.unordered p incident →
          incident.subject = .profile p.slot p.profile := by
        intro p found
        cases found <;> rfl
      have same := (named one first).symm.trans (named two second)
      rw [Subject.profile.injEq] at same
      exact congrArg toLex (Prod.ext same.1 same.2)
  apply parts.congr
  intro incident
  simp only [key_copies]
  exact exists_congr fun p => and_assoc.symm

theorem slot_findings_list :
    Lists ((slotRuns (groupByKey ObservedProfile.key observed.profiles)).flatMap checkSlot)
      fun incident => ∃ slot, 1 < observed.unordered.enabledInSlot slot ∧
        incident = ⟨.multipleEnabledInSlot, .slot slot, .number 1,
          .number (observed.unordered.enabledInSlot slot)⟩ := by
  have grouped := groupByKey_grouped ObservedProfile.key observed.profiles
  have runs := slotRuns_lists (grouped.increasing.imp fun {group next} less =>
    (Prod.Lex.le_iff.mp less.le).elim le_of_lt fun same => same.1.le)
  have total : ∀ slot, slotTotal (groupByKey ObservedProfile.key observed.profiles) slot =
      observed.unordered.enabledInSlot slot := by
    intro slot
    rw [slotTotal_eq_countP, grouped.singles_perm.countP_eq, countP_filter]
    · apply countP_congr
      intro p _
      rw [Bool.and_eq_true, decide_eq_true_iff, decide_eq_true_iff, key_copies, and_assoc]
      exact decide_eq_true_iff.symm
    · intro group member p entry
      obtain ⟨-, same, -⟩ := (grouped.entry_eq_unique_iff member).mp entry
      exact congrArg (fun key => (ofLex key).1) same
  have parts := Lists.flatMap runs.nodup (fun run _ => lists_if (run.2 > 1)
    (⟨.multipleEnabledInSlot, .slot run.1, .number 1, .number run.2⟩ : Incident)) (by
      rintro ⟨slot, count⟩ - ⟨another, number⟩ - incident ⟨-, one⟩ ⟨-, two⟩
      rw [one] at two
      cases two
      rfl)
  apply parts.congr
  intro incident
  constructor
  · rintro ⟨run, member, several, rfl⟩
    obtain ⟨-, counted⟩ := (runs.mem_iff run).mp member
    rw [counted, total] at several ⊢
    exact ⟨run.1, several, rfl⟩
  · rintro ⟨slot, several, rfl⟩
    rw [← total] at several ⊢
    refine ⟨(slot, _), (runs.mem_iff _).mpr ⟨?_, rfl⟩, several, rfl⟩
    by_contra absent
    rw [slotTotal_eq_zero fun group member same => absent ⟨group, member, same⟩] at several
    omega

theorem checkUsageRegression_lists (a : ObservedAccount) :
    Lists (checkUsageRegression a) fun incident =>
      ∃ last, a.lastUsedBytes = some last ∧ a.usedBytes < last ∧
        incident = ⟨.usageRegression, .account a.id, .number last, .number a.usedBytes⟩ := by
  unfold checkUsageRegression
  cases a.lastUsedBytes with
  | none =>
    apply lists_nil.congr
    simp
  | some last =>
    apply (lists_if (a.usedBytes < last) _).congr
    simp

theorem checkUsageOfCap_lists (sessions : List ObservedSession) (a : ObservedAccount) (cap : Nat) :
    Lists (checkUsageOfCap sessions a cap) fun incident =>
      ((a.standing = .active ∧ a.usedBytes ≥ cap ∧ sessions.any (fun s => s.account = a.id)) ∧
          incident = ⟨.usageOverCapNotRestricted, .account a.id, .standing .suspended,
            .usageOfCap a.usedBytes cap⟩) ∨
        ∃ percent, a.escalateAtPercent = some percent ∧
          (a.standing = .active ∧ reachedPercent a.usedBytes cap percent) ∧
            incident = ⟨.anomalousUsageNoEscalation, .account a.id, .percent percent,
              .usageOfCap a.usedBytes cap⟩ := by
  apply (lists_if _ _).append
  · cases a.escalateAtPercent with
    | none =>
      apply lists_nil.congr
      simp
    | some percent =>
      apply (lists_if _ _).congr
      simp
  · rintro incident ⟨-, rfl⟩ ⟨percent, -, -, wrong⟩
    cases wrong

theorem checkAccount_lists {group : AccountGroup} {a : ObservedAccount}
    (entry : group.entry = .unique a) :
    Lists (checkAccount observed.sessions group) (AccountFinding observed.unordered a) := by
  have session : observed.sessions.any (fun s => s.account = a.id) = true ↔
      ∃ s ∈ observed.unordered.sessions, s.account = a.id := by
    simp [Observed.unordered]
  unfold checkAccount
  rw [entry]
  dsimp only
  cases capped : a.dataCapBytes with
  | none =>
    rw [append_nil]
    apply (checkUsageRegression_lists a).congr
    intro incident
    constructor
    · rintro ⟨last, remembered, fell, rfl⟩
      exact .regression last remembered fell
    · intro found
      cases found with
      | regression last remembered fell => exact ⟨last, remembered, fell, rfl⟩
      | overCap active cap known =>
        rw [capped] at known
        cases known
      | anomalous active cap known =>
        rw [capped] at known
        cases known
  | some cap =>
    have parts := (checkUsageRegression_lists a).append
      (checkUsageOfCap_lists observed.sessions a cap) (by
        rintro incident ⟨last, -, -, rfl⟩ (⟨-, wrong⟩ | ⟨percent, -, -, wrong⟩) <;> cases wrong)
    apply parts.congr
    intro incident
    constructor
    · rintro (⟨last, remembered, fell, rfl⟩ | ⟨⟨active, reached, open_⟩, rfl⟩ |
        ⟨percent, escalated, ⟨active, reached⟩, rfl⟩)
      · exact .regression last remembered fell
      · exact .overCap active cap capped reached (session.mp open_)
      · exact .anomalous active cap capped percent escalated (of_decide_eq_true reached)
    · intro found
      cases found with
      | regression last remembered fell => exact .inl ⟨last, remembered, fell, rfl⟩
      | overCap active other known reached open_ =>
        rw [capped, Option.some.injEq] at known
        subst known
        exact .inr (.inl ⟨⟨active, reached, session.mpr open_⟩, rfl⟩)
      | anomalous active other known percent escalated reached =>
        rw [capped, Option.some.injEq] at known
        subst known
        exact .inr (.inr ⟨percent, escalated, ⟨active, decide_eq_true reached⟩, rfl⟩)

theorem account_findings_list :
    Lists ((groupByKey ObservedAccount.id observed.accounts).flatMap
        (checkAccount observed.sessions))
      fun incident => ∃ a, observed.unordered.SingleAccount a ∧
        AccountFinding observed.unordered a incident := by
  have parts : Lists ((groupByKey ObservedAccount.id observed.accounts).flatMap
      (checkAccount observed.sessions)) fun incident =>
        ∃ a ∈ observed.accounts, copies ObservedAccount.id observed.accounts a.id = 1 ∧
          AccountFinding observed.unordered a incident := by
    apply (groupByKey_grouped ObservedAccount.id observed.accounts).lists_singles
    · intro group entry
      unfold checkAccount
      rw [entry]
    · intro group a entry
      exact checkAccount_lists observed entry
    · intro one two incident first second
      have named : ∀ a, AccountFinding observed.unordered a incident →
          incident.subject = .account a.id := by
        intro a found
        cases found <;> rfl
      exact Subject.account.inj ((named one first).symm.trans (named two second))
  apply parts.congr
  intro incident
  exact exists_congr fun a => and_assoc.symm

variable (s : ObservedSession)

def Names (p : ObservedProfile) : Prop :=
  observed.unordered.SingleProfile p ∧ p.slot = s.slot ∧ p.profile = s.profile

theorem names_iff {s : ObservedSession} :
    Names observed s p ↔ p ∈ observed.profiles ∧ p.key = toLex (s.slot, s.profile) ∧
      copies ObservedProfile.key observed.profiles (toLex (s.slot, s.profile)) = 1 := by
  have named : p.key = toLex (s.slot, s.profile) ↔ p.slot = s.slot ∧ p.profile = s.profile := by
    simp [ObservedProfile.key]
  rw [named, profile_copies]
  constructor
  · rintro ⟨⟨listed, single⟩, slot, profile⟩
    rw [slot, profile] at single
    exact ⟨listed, ⟨slot, profile⟩, single⟩
  · rintro ⟨listed, ⟨slot, profile⟩, single⟩
    refine ⟨⟨listed, ?_⟩, slot, profile⟩
    rw [slot, profile]
    exact single

def NamedFinding (incident : Incident) : Prop :=
  (copies ObservedProfile.key observed.profiles (toLex (s.slot, s.profile)) = 0 ∧
      incident = ⟨.sessionWithoutEnabledProfile, s.subject, .lifecycle .enabled, .absent⟩) ∨
    ∃ p, Names observed s p ∧
      ((p.lifecycle ≠ .enabled ∧ incident = ⟨.sessionWithoutEnabledProfile, s.subject,
          .lifecycle .enabled, .lifecycle p.lifecycle⟩) ∨
        (p.owner ≠ some s.account ∧ incident = ⟨.sessionAccountMismatch, s.subject,
          .owner (some s.account), .owner p.owner⟩))

theorem session_finding_iff {s : ObservedSession} :
    SessionFinding observed.unordered s incident ↔
      NamedFinding observed s incident ∨
        (s.roaming = true ∧ (!s.roamingAllowed) = true) ∧
          incident = ⟨.roamingSessionNotPermitted, s.subject, .bool false, .bool true⟩ := by
  have absent : copies ObservedProfile.key observed.profiles (toLex (s.slot, s.profile)) = 0 ↔
      ∀ p ∈ observed.unordered.profiles, ¬ (p.slot = s.slot ∧ p.profile = s.profile) := by
    rw [copies_eq_zero_iff]
    simp [ObservedProfile.key, Observed.unordered]
  unfold NamedFinding
  rw [absent]
  constructor
  · intro found
    cases found with
    | withoutProfile missing => exact .inl (.inl ⟨missing, rfl⟩)
    | withoutEnabledProfile p alone named notEnabled =>
      exact .inl (.inr ⟨p, ⟨alone, named⟩, .inl ⟨notEnabled, rfl⟩⟩)
    | accountMismatch p alone named foreign =>
      exact .inl (.inr ⟨p, ⟨alone, named⟩, .inr ⟨foreign, rfl⟩⟩)
    | roamingNotPermitted roams forbidden =>
      exact .inr ⟨⟨roams, by rw [forbidden]; rfl⟩, rfl⟩
  · rintro ((⟨missing, rfl⟩ | ⟨p, ⟨alone, named⟩, (⟨notEnabled, rfl⟩ | ⟨foreign, rfl⟩)⟩) |
      ⟨⟨roams, forbidden⟩, rfl⟩)
    · exact .withoutProfile missing
    · exact .withoutEnabledProfile p alone named notEnabled
    · exact .accountMismatch p alone named foreign
    · exact .roamingNotPermitted roams (by simpa using forbidden)

theorem checkSession_lists :
    Lists (checkSession (groupByKey ObservedProfile.key observed.profiles) s)
      (SessionFinding observed.unordered s) := by
  have alone : ∀ p, Names observed s p →
      copies ObservedProfile.key observed.profiles (toLex (s.slot, s.profile)) = 1 :=
    fun p named => ((names_iff observed).mp named).2.2
  have roaming := lists_if (s.roaming = true ∧ (!s.roamingAllowed) = true)
    (⟨.roamingSessionNotPermitted, s.subject, .bool false, .bool true⟩ : Incident)
  have apart : ∀ incident, NamedFinding observed s incident →
      ¬ ((s.roaming = true ∧ (!s.roamingAllowed) = true) ∧
        incident = ⟨.roamingSessionNotPermitted, s.subject, .bool false, .bool true⟩) := by
    rintro incident (⟨-, rfl⟩ | ⟨p, -, (⟨-, rfl⟩ | ⟨-, rfl⟩)⟩) ⟨-, wrong⟩ <;> cases wrong
  unfold checkSession
  apply Lists.congr _ fun incident => (session_finding_iff observed).symm
  apply Lists.append _ roaming apart
  rcases (groupByKey_grouped ObservedProfile.key observed.profiles).find_cases
    (toLex (s.slot, s.profile)) with ⟨found, zero⟩ | ⟨p, listed, found, known, one⟩ |
      ⟨found, several⟩
  · rw [found]
    apply (lists_singleton _).congr
    intro incident
    constructor
    · exact fun same => .inl ⟨zero, same⟩
    · rintro (⟨-, same⟩ | ⟨p, named, -⟩)
      · exact same
      · have counted := alone p named
        omega
  · rw [found]
    apply Lists.congr ((lists_if _ _).append (lists_if _ _) _)
    · intro incident
      constructor
      · exact fun held => .inr ⟨p, (names_iff observed).mpr ⟨listed, known, one⟩, held⟩
      · rintro (⟨zero, -⟩ | ⟨other, named, held⟩)
        · omega
        · obtain ⟨member, same, -⟩ := (names_iff observed).mp named
          obtain rfl := eq_of_copies one member listed same known
          exact held
    · rintro incident ⟨-, rfl⟩ ⟨-, wrong⟩
      cases wrong
  · rw [found]
    apply lists_nil.congr
    intro incident
    constructor
    · exact False.elim
    · rintro (⟨zero, -⟩ | ⟨p, named, -⟩)
      · omega
      · have counted := alone p named
        omega

theorem findings_list :
    Lists ((groupByKey ObservedAccount.id observed.accounts).flatMap duplicateAccount ++
        (groupByKey ObservedProfile.key observed.profiles).flatMap duplicateProfile ++
        (groupByKey ObservedProfile.key observed.profiles).flatMap
          (checkProfile (groupByKey id observed.accounts)) ++
        (slotRuns (groupByKey ObservedProfile.key observed.profiles)).flatMap checkSlot ++
        (groupByKey ObservedAccount.id observed.accounts).flatMap
          (checkAccount observed.sessions))
      (Finding observed.unordered) := by
  have duplicates := (duplicate_accounts_list observed).append (duplicate_profiles_list observed)
    (by
      rintro incident ⟨id, -, rfl⟩ ⟨slot, profile, -, wrong⟩
      cases wrong)
  have profiles := duplicates.append (profile_findings_list observed) (by
    rintro incident (⟨id, -, rfl⟩ | ⟨slot, profile, -, rfl⟩) ⟨p, -, found⟩ <;> cases found)
  have slots := profiles.append (slot_findings_list observed) (by
    rintro incident ((⟨id, -, rfl⟩ | ⟨slot, profile, -, rfl⟩) | ⟨p, -, found⟩) ⟨slot, -, wrong⟩
    · cases wrong
    · cases wrong
    · rw [wrong] at found
      cases found)
  have accounts := slots.append (account_findings_list observed) (by
    rintro incident (((⟨id, -, rfl⟩ | ⟨slot, profile, -, rfl⟩) | ⟨p, -, found⟩) |
      ⟨slot, -, rfl⟩) ⟨a, -, other⟩
    · cases other
    · cases other
    · cases found <;> cases other
    · cases other)
  apply accounts.congr
  intro incident
  constructor
  · rintro ((((⟨id, several, rfl⟩ | ⟨slot, profile, several, rfl⟩) | ⟨p, alone, found⟩) |
      ⟨slot, several, rfl⟩) | ⟨a, single, found⟩)
    · exact .duplicateAccount id several
    · exact .duplicateProfile slot profile several
    · exact .ofProfile p alone found
    · exact .multipleEnabledInSlot slot several
    · exact .ofAccount a single found
  · intro found
    cases found with
    | duplicateAccount id several => exact .inl (.inl (.inl (.inl ⟨id, several, rfl⟩)))
    | duplicateProfile slot profile several =>
      exact .inl (.inl (.inl (.inr ⟨slot, profile, several, rfl⟩)))
    | ofProfile p alone found => exact .inl (.inl (.inr ⟨p, alone, found⟩))
    | multipleEnabledInSlot slot several => exact .inl (.inr ⟨slot, several, rfl⟩)
    | ofAccount a single found => exact .inr ⟨a, single, found⟩

end Parts

/-! ## The report -/

theorem coe_boundIncident (size bound : Nat) :
    (boundIncident size bound : Multiset Incident) = sizeFinding size bound := by
  unfold boundIncident sizeFinding
  split_ifs <;> rfl

theorem coe_boundIncidents (observed : Observed) :
    (boundIncidents observed : Multiset Incident) = observed.unordered.sizeFindings := by
  unfold boundIncidents Snapshot.sizeFindings
  rw [← Multiset.coe_add, ← Multiset.coe_add, coe_boundIncident, coe_boundIncident,
    coe_boundIncident]
  rfl

theorem boundIncidents_eq_nil_iff (observed : Observed) :
    boundIncidents observed = [] ↔ observed.unordered.Bounded := by
  have single : ∀ size bound, boundIncident size bound = [] ↔ size ≤ bound := by
    intro size bound
    unfold boundIncident
    split_ifs with large
    · exact iff_of_false not_false (not_le.mpr large)
    · exact iff_of_true rfl (not_lt.mp large)
  unfold boundIncidents
  rw [append_eq_nil_iff, append_eq_nil_iff, single, single, single, and_assoc]
  rfl

theorem reconcile_count (observed : Observed) (incident : Incident) :
    (reconcile observed).count incident = observed.unordered.declared incident := by
  classical
  unfold reconcile sortIncidents Snapshot.declared
  by_cases bounded : observed.unordered.Bounded
  · dsimp only
    rw [if_neg (not_not.mpr ((boundIncidents_eq_nil_iff observed).mpr bounded)), if_pos bounded,
      (perm_insertionSort _ _).count_eq, count_append, (findings_list observed).count,
      count_flatMap_lists (checkSession_lists observed)]
    rfl
  · dsimp only
    rw [if_pos (mt (boundIncidents_eq_nil_iff observed).mp bounded), if_neg bounded,
      (perm_insertionSort _ _).count_eq, ← coe_boundIncidents, Multiset.coe_count]

variable {observed : Observed}

theorem mem_reconcile_iff (bounded : observed.unordered.Bounded) : incident ∈ reconcile observed ↔
      Finding observed.unordered incident ∨
        ∃ s ∈ observed.sessions, SessionFinding observed.unordered s incident := by
  classical
  rw [← count_pos_iff, reconcile_count, Snapshot.declared, if_pos bounded,
    Nat.add_pos_iff_pos_or_pos, Multiset.countP_pos]
  apply or_congr
  · split_ifs with found
    · exact iff_of_true Nat.one_pos found
    · exact iff_of_false (lt_irrefl 0) found
  · rfl

theorem anomaly_mem_reconcile_iff (bounded : observed.unordered.Bounded) (id : Nat) :
    (∃ incident ∈ reconcile observed,
        incident.kind = .anomalousUsageNoEscalation ∧ incident.subject = .account id) ↔
      ∃ a, observed.unordered.SingleAccount a ∧ a.id = id ∧ a.standing = .active ∧
        ∃ cap percent, a.dataCapBytes = some cap ∧ a.escalateAtPercent = some percent ∧
          cap * percent ≤ a.usedBytes * 100 := by
  constructor
  · rintro ⟨incident, reported, kind, subject⟩
    obtain found | ⟨s, -, found⟩ := (mem_reconcile_iff bounded).mp reported
    · cases found with
      | ofProfile p alone found => cases found <;> cases kind
      | ofAccount a single found =>
        cases found with
        | anomalous active cap capped percent escalated reached =>
          cases subject
          exact ⟨a, single, rfl, active, cap, percent, capped, escalated, reached⟩
        | regression | overCap => cases kind
      | duplicateAccount | duplicateProfile | multipleEnabledInSlot => cases kind
    · cases found <;> cases kind
  · rintro ⟨a, single, rfl, active, cap, percent, capped, escalated, reached⟩
    have found : Finding observed.unordered _ :=
      .ofAccount a single (.anomalous active cap capped percent escalated reached)
    exact ⟨_, (mem_reconcile_iff bounded).mpr (.inl found), rfl, rfl⟩

theorem sizeFindings_kind {snapshot : Snapshot} (found : incident ∈ snapshot.sizeFindings) :
    incident.kind = .snapshotTooLarge := by
  have single : ∀ size bound, incident ∈ sizeFinding size bound →
      incident.kind = .snapshotTooLarge := by
    intro size bound member
    unfold sizeFinding at member
    split_ifs at member
    · rw [Multiset.mem_singleton.mp member]
    · exact absurd member (Multiset.notMem_zero incident)
  unfold Snapshot.sizeFindings at found
  rw [Multiset.mem_add, Multiset.mem_add] at found
  rcases found with (accounts | profiles) | sessions
  · exact single _ _ accounts
  · exact single _ _ profiles
  · exact single _ _ sessions

theorem reconcile_regression (reported : incident ∈ reconcile observed)
    (regression : incident.kind = .usageRegression) :
    ∃ a ∈ observed.accounts, ∃ last, a.lastUsedBytes = some last ∧ a.usedBytes < last := by
  by_cases bounded : observed.unordered.Bounded
  · obtain found | ⟨s, -, found⟩ := (mem_reconcile_iff bounded).mp reported
    · cases found with
      | ofProfile p alone found => cases found <;> cases regression
      | ofAccount a single found =>
        cases found with
        | regression last remembered fell => exact ⟨a, single.1, last, remembered, fell⟩
        | overCap | anomalous => cases regression
      | duplicateAccount | duplicateProfile | multipleEnabledInSlot => cases regression
    · cases found <;> cases regression
  · rw [← count_pos_iff, reconcile_count, Snapshot.declared, if_neg bounded,
      Multiset.count_pos] at reported
    rw [sizeFindings_kind reported] at regression
    cases regression

namespace Observed.Consistent

variable {observed : Observed} (good : observed.Consistent)

include good

theorem bounded : observed.unordered.Bounded :=
  ⟨good.accountBound, good.profileBound, good.sessionBound⟩

theorem enabledInSlot_le_one (slot : Nat) : observed.unordered.enabledInSlot slot ≤ 1 := by
  have nodup : observed.profiles.Nodup := List.Nodup.of_map ObservedProfile.key good.profileKeys
  unfold Snapshot.enabledInSlot Observed.unordered
  rw [Multiset.coe_countP, countP_eq_length_filter,
    ← toFinset_card_of_nodup (nodup.filter _), Finset.card_le_one]
  intro p listedP q listedQ
  simp only [mem_toFinset, mem_filter, decide_eq_true_eq] at listedP listedQ
  obtain ⟨memberP, slotP, enabledP, -⟩ := listedP
  obtain ⟨memberQ, slotQ, enabledQ, -⟩ := listedQ
  exact good.oneEnabled p memberP q memberQ enabledP enabledQ (slotP.trans slotQ.symm)

theorem reconcile_kinds : ∀ incident ∈ reconcile observed, incident.kind ∉ structuralKinds := by
  intro incident reported
  obtain found | ⟨s, listed, found⟩ := (mem_reconcile_iff good.bounded).mp reported
  · cases found with
    | duplicateAccount id several =>
      exact absurd (copies_le_one good.accountIds id) (not_le.mpr several)
    | duplicateProfile slot profile several =>
      rw [← profile_copies] at several
      exact absurd (copies_le_one good.profileKeys _) (not_le.mpr several)
    | multipleEnabledInSlot slot several =>
      exact absurd (good.enabledInSlot_le_one slot) (not_le.mpr several)
    | ofProfile p alone found =>
      cases found with
      | underInactiveAccount enabled a single owned inactive =>
        exact absurd (good.enabledActive p alone.1 enabled a single.1 owned) inactive
      | unbound enabled free =>
        obtain ⟨owner, owned⟩ := good.enabledOwned p alone.1 enabled
        rw [free] at owned
        cases owned
      | ownerUnknown owner owned unknown =>
        obtain ⟨a, member, same⟩ := good.ownersKnown p alone.1 owner owned
        exact absurd same (unknown a member)
    | ofAccount a single found =>
      cases found with
      | regression last remembered fell =>
        exact absurd (good.usage a single.1 last remembered) (not_le.mpr fell)
      | overCap | anomalous => simp [structuralKinds]
  · cases found with
    | accountMismatch p alone named foreign =>
      exact absurd (good.sessionOwner s listed p alone.1 named.1 named.2) foreign
    | roamingNotPermitted roams forbidden =>
      have allowed := good.sessionRoaming s listed roams
      rw [forbidden] at allowed
      cases allowed
    | withoutProfile | withoutEnabledProfile => simp [structuralKinds]

end Observed.Consistent

theorem reconcile_sorted (observed : Observed) :
    (reconcile observed).Pairwise fun a b => a.sortKey ≤ b.sortKey := by
  unfold reconcile
  dsimp only
  split_ifs <;> exact sort_pairwise _

/-! ## The order of incidents -/

variable {first second : List Nat}

theorem Subject.eq_of_sortKey {one two : Subject}
    (same : one.sortKey ++ first = two.sortKey ++ second) : one = two ∧ first = second := by
  cases one <;> cases two <;> simp_all [Subject.sortKey]

theorem Standing.rank_injective : Function.Injective Standing.rank := by
  intro one two same
  cases one <;> cases two <;> first | rfl | cases same

theorem ProfileState.rank_injective : Function.Injective ProfileState.rank := by
  intro one two same
  cases one <;> cases two <;> first | rfl | cases same

theorem IncidentKind.rank_injective : Function.Injective IncidentKind.rank := by
  intro one two same
  cases one <;> cases two <;> first | rfl | cases same

theorem Fact.eq_of_sortKey {one two : Fact}
    (same : one.sortKey ++ first = two.sortKey ++ second) : one = two ∧ first = second := by
  rcases one with _ | _ | flag | standing | lifecycle | (_ | _) | _ | _ | _ <;>
    rcases two with _ | _ | other | against | state | (_ | _) | _ | _ | _ <;>
    simp_all [Fact.sortKey, Standing.rank_injective.eq_iff, ProfileState.rank_injective.eq_iff]
  cases flag <;> cases other <;> simp_all

theorem Incident.sortKey_injective : Function.Injective Incident.sortKey := by
  rintro ⟨kind, subject, expected, observed⟩ ⟨otherKind, otherSubject, otherExpected, other⟩ same
  simp only [sortKey, List.cons.injEq, append_assoc] at same
  obtain ⟨rank, subjects⟩ := same
  obtain ⟨rfl, facts⟩ := Subject.eq_of_sortKey subjects
  obtain ⟨rfl, last⟩ := Fact.eq_of_sortKey facts
  rw [← append_nil observed.sortKey, ← append_nil other.sortKey] at last
  obtain ⟨rfl, -⟩ := Fact.eq_of_sortKey last
  rw [IncidentKind.rank_injective rank]

/-- Every incident is reported as often as the snapshot declares it, and the report does not
depend on the order of the records. -/
theorem reconcile_declared (observed : Observed) :
    (∀ incident, (reconcile observed).count incident = observed.unordered.declared incident) ∧
      ∀ other : Observed, other.accounts.Perm observed.accounts →
        other.profiles.Perm observed.profiles → other.sessions.Perm observed.sessions →
        reconcile other = reconcile observed := by
  refine ⟨reconcile_count observed, ?_⟩
  intro other accounts profiles sessions
  have same : other.unordered = observed.unordered := by
    unfold Observed.unordered
    rw [Multiset.coe_eq_coe.mpr accounts, Multiset.coe_eq_coe.mpr profiles,
      Multiset.coe_eq_coe.mpr sessions]
  apply sorted_eq_of_perm Incident.sortKey_injective _ (reconcile_sorted other)
    (reconcile_sorted observed)
  rw [perm_iff_count]
  intro incident
  rw [reconcile_count, reconcile_count, same]

end Runix.Mobile.Reconcile
