import Mathlib.Data.List.Range
import Runix.Lib.Tables

/-!
# Subscriber accounts

The account registry of `mobile/src/account.rs`.  Every mutation goes through
`AccountRegistry.apply`, which validates against the caller's view of eSIM
lifecycle state before it writes.  Operations return the registry they leave
behind next to their result.
-/

namespace Runix.Mobile

open Lib Tables

def maxAccounts : Nat := 16

def maxProfilesPerAccount : Nat := 4

abbrev SubscriberId := Nat

abbrev AccountId := Nat

abbrev PlanId := Nat

structure ProfileKey where
  slot : Nat
  profile : Nat
deriving DecidableEq, Repr

def ProfileKey.debug (key : ProfileKey) : String :=
  "ProfileKey \x7b slot: " ++ toString key.slot ++ ", profile: " ++ toString key.profile ++ " \x7d"

inductive AccountStatus where
  | active
  | suspended
  | closed
deriving DecidableEq, Repr

def AccountStatus.debug : AccountStatus → String
  | .active => "Active"
  | .suspended => "Suspended"
  | .closed => "Closed"

inductive ProfileLifecycle where
  | created
  | disabled
  | enabled
  | deleted
deriving DecidableEq, Repr

def ProfileLifecycle.debug : ProfileLifecycle → String
  | .created => "Created"
  | .disabled => "Disabled"
  | .enabled => "Enabled"
  | .deleted => "Deleted"

/-- The caller's view of lifecycle state; `none` is an unknown profile. -/
abbrev ProfileLifecycles := ProfileKey → Option ProfileLifecycle

structure Account where
  id : AccountId
  subscriber : SubscriberId
  plan : PlanId
  status : AccountStatus
deriving DecidableEq, Repr

inductive AccountError where
  | registryFull
  | accountFull
  | noSuchAccount
  | accountClosed
  | accountNotActive (status : AccountStatus)
  | invalidTransition (source target : AccountStatus)
  | alreadyBound (owner : AccountId)
  | notBound
  | unknownProfile (key : ProfileKey)
  | profileDeleted (key : ProfileKey)
  | profileEnabled (key : ProfileKey)
deriving DecidableEq, Repr

def AccountError.debug : AccountError → String
  | .registryFull => "RegistryFull"
  | .accountFull => "AccountFull"
  | .noSuchAccount => "NoSuchAccount"
  | .accountClosed => "AccountClosed"
  | .accountNotActive status => "AccountNotActive(" ++ status.debug ++ ")"
  | .invalidTransition source target =>
    "InvalidTransition \x7b from: " ++ source.debug ++ ", to: " ++ target.debug ++ " \x7d"
  | .alreadyBound owner => "AlreadyBound(AccountId(" ++ toString owner ++ "))"
  | .notBound => "NotBound"
  | .unknownProfile key => "UnknownProfile(" ++ key.debug ++ ")"
  | .profileDeleted key => "ProfileDeleted(" ++ key.debug ++ ")"
  | .profileEnabled key => "ProfileEnabled(" ++ key.debug ++ ")"

inductive Change where
  | opening (subscriber : SubscriberId) (plan : PlanId)
  | bind (account : AccountId) (profile : ProfileKey)
  | unbind (profile : ProfileKey)
  | setStatus (account : AccountId) (target : AccountStatus)
deriving DecidableEq, Repr

structure Applied where
  account : AccountId
  forceDisable : List ProfileKey
deriving DecidableEq, Repr

structure AccountRegistry where
  accounts : List Account
  bindings : List (ProfileKey × AccountId)
deriving DecidableEq, Repr

namespace AccountRegistry

def new : AccountRegistry := ⟨[], []⟩

variable (registry : AccountRegistry)

def account (id : AccountId) : Option Account :=
  Tables.lookup Account.id id registry.accounts

variable (profile : ProfileKey)

def ownerOf : Option AccountId :=
  (Tables.lookup Prod.fst profile registry.bindings).map Prod.snd

def profilesOf (account : AccountId) : List ProfileKey :=
  (registry.bindings.filter fun binding => binding.2 = account).map Prod.fst

def checkEnable (account : AccountId) (profile : ProfileKey) : Except AccountError Unit :=
  match registry.account account with
  | none => .error .noSuchAccount
  | some row =>
    if registry.ownerOf profile ≠ some account then .error .notBound
    else
      match row.status with
      | .active => .ok ()
      | .closed => .error .accountClosed
      | status => .error (.accountNotActive status)

variable (lifecycles : ProfileLifecycles)

def audit : List ProfileKey :=
  (registry.bindings.filter fun binding =>
    lifecycles binding.1 = some .enabled ∧
      (registry.account binding.2).all fun row => row.status ≠ .active).map Prod.fst

/-- The status table; `closed` has no outgoing arm. -/
def legalStatusChange : AccountStatus → AccountStatus → Bool
  | .active, .suspended => true
  | .suspended, .active => true
  | .active, .closed => true
  | .suspended, .closed => true
  | _, _ => false

/-- The loop that collects the profiles to force-disable: it stops at the first
unknown profile, and at the first enabled one when the account is closing. -/
def gatherForced (target : AccountStatus) (lifecycles : ProfileLifecycles) :
    List ProfileKey → Except AccountError (List ProfileKey)
  | [] => .ok []
  | key :: rest =>
    match lifecycles key with
    | none => .error (.unknownProfile key)
    | some .enabled =>
      if target = .closed then .error (.profileEnabled key)
      else
        match gatherForced target lifecycles rest with
        | .error error => .error error
        | .ok forced => .ok (key :: forced)
    | some _ => gatherForced target lifecycles rest

def applyOpen (subscriber : SubscriberId) (plan : PlanId) :
    Except AccountError Applied × AccountRegistry :=
  if registry.accounts.length ≥ maxAccounts then (.error .registryFull, registry)
  else
    let id := registry.accounts.length
    (.ok { account := id, forceDisable := [] },
      { registry with
        accounts := registry.accounts ++
          [{ id := id, subscriber := subscriber, plan := plan, status := .active }] })

def applyBind (account : AccountId) (profile : ProfileKey)
    (lifecycles : ProfileLifecycles) : Except AccountError Applied × AccountRegistry :=
  match registry.account account with
  | none => (.error .noSuchAccount, registry)
  | some row =>
    if row.status = .closed then (.error .accountClosed, registry)
    else
      match registry.ownerOf profile with
      | some owner => (.error (.alreadyBound owner), registry)
      | none =>
        match lifecycles profile with
        | none => (.error (.unknownProfile profile), registry)
        | some state =>
          if state = .deleted then (.error (.profileDeleted profile), registry)
          else if state = .enabled ∧ row.status ≠ .active then
            (.error (.accountNotActive row.status), registry)
          else if (registry.profilesOf account).length ≥ maxProfilesPerAccount then
            (.error .accountFull, registry)
          else
            (.ok { account := account, forceDisable := [] },
              { registry with bindings := registry.bindings ++ [(profile, account)] })

def applyUnbind : Except AccountError Applied × AccountRegistry :=
  match Tables.lookup Prod.fst profile registry.bindings with
  | none => (.error .notBound, registry)
  | some binding =>
    match lifecycles profile with
    | none => (.error (.unknownProfile profile), registry)
    | some state =>
      if state = .enabled then (.error (.profileEnabled profile), registry)
      else
        (.ok { account := binding.2, forceDisable := [] },
          { registry with bindings := Tables.remove Prod.fst profile registry.bindings })

def applySetStatus (account : AccountId) (target : AccountStatus)
    (lifecycles : ProfileLifecycles) : Except AccountError Applied × AccountRegistry :=
  match registry.account account with
  | none => (.error .noSuchAccount, registry)
  | some row =>
    if row.status = .closed then (.error .accountClosed, registry)
    else if !legalStatusChange row.status target then
      (.error (.invalidTransition row.status target), registry)
    else
      let gathered :=
        if target ≠ .active then gatherForced target lifecycles (registry.profilesOf account)
        else .ok []
      match gathered with
      | .error error => (.error error, registry)
      | .ok forced =>
        (.ok { account := account, forceDisable := forced },
          { registry with
            accounts := Tables.update Account.id account
              (fun row => { row with status := target }) registry.accounts })

def apply (change : Change) (lifecycles : ProfileLifecycles) :
    Except AccountError Applied × AccountRegistry :=
  match change with
  | .opening subscriber plan => registry.applyOpen subscriber plan
  | .bind account profile => registry.applyBind account profile lifecycles
  | .unbind profile => registry.applyUnbind profile lifecycles
  | .setStatus account target => registry.applySetStatus account target lifecycles

/-- Opening and reactivating never consult lifecycle state. -/
def noLifecycle : ProfileLifecycles := fun _ => none

def openAccount (subscriber : SubscriberId) (plan : PlanId) :
    Except AccountError AccountId × AccountRegistry :=
  let outcome := registry.apply (.opening subscriber plan) noLifecycle
  (outcome.1.map Applied.account, outcome.2)

def bind (account : AccountId) (profile : ProfileKey)
    (lifecycles : ProfileLifecycles) : Except AccountError Unit × AccountRegistry :=
  let outcome := registry.apply (.bind account profile) lifecycles
  (outcome.1.map fun _ => (), outcome.2)

def unbind : Except AccountError Unit × AccountRegistry :=
  let outcome := registry.apply (.unbind profile) lifecycles
  (outcome.1.map fun _ => (), outcome.2)

def suspend (account : AccountId) (lifecycles : ProfileLifecycles) :
    Except AccountError (List ProfileKey) × AccountRegistry :=
  let outcome := registry.apply (.setStatus account .suspended) lifecycles
  (outcome.1.map Applied.forceDisable, outcome.2)

def reactivate (account : AccountId) : Except AccountError Unit × AccountRegistry :=
  let outcome := registry.apply (.setStatus account .active) noLifecycle
  (outcome.1.map fun _ => (), outcome.2)

def close (account : AccountId)
    (lifecycles : ProfileLifecycles) : Except AccountError Unit × AccountRegistry :=
  let outcome := registry.apply (.setStatus account .closed) lifecycles
  (outcome.1.map fun _ => (), outcome.2)

/-! ## What each operation can do -/

def standing (account : AccountId) : Option AccountStatus :=
  (registry.account account).map Account.status

variable {account : AccountId} {registry : AccountRegistry} {profile : ProfileKey}

theorem check_enable_ok_iff :
    registry.checkEnable account profile = .ok () ↔
      registry.ownerOf profile = some account ∧ registry.standing account = some .active := by
  unfold checkEnable standing
  cases registry.account account with
  | none => simp
  | some row =>
    by_cases owned : registry.ownerOf profile = some account
    · cases status : row.status <;> simp [owned, status]
    · simp [owned]

theorem bind_cases (registry : AccountRegistry) (account : AccountId) (profile : ProfileKey)
    (lifecycles : ProfileLifecycles) :
    (∃ error, registry.bind account profile lifecycles = (.error error, registry)) ∨
      ∃ status state, registry.standing account = some status ∧ status ≠ .closed ∧
        registry.ownerOf profile = none ∧ lifecycles profile = some state ∧
        state ≠ .deleted ∧ (state = .enabled → status = .active) ∧
        (registry.profilesOf account).length < maxProfilesPerAccount ∧
        registry.bind account profile lifecycles =
          (.ok (), { registry with bindings := registry.bindings ++ [(profile, account)] }) := by
  simp only [bind, apply, applyBind, standing]
  cases found : registry.account account with
  | none => exact .inl ⟨.noSuchAccount, rfl⟩
  | some row =>
    by_cases closed : row.status = .closed
    · exact .inl ⟨.accountClosed, by simp [closed, Except.map]⟩
    cases owner : registry.ownerOf profile with
    | some other => exact .inl ⟨.alreadyBound other, by simp [closed, Except.map]⟩
    | none =>
      cases known : lifecycles profile with
      | none => exact .inl ⟨.unknownProfile profile, by simp [closed, Except.map]⟩
      | some state =>
        by_cases deleted : state = .deleted
        · exact .inl ⟨.profileDeleted profile, by simp [closed, deleted, Except.map]⟩
        by_cases backDoor : state = .enabled ∧ row.status ≠ .active
        · exact .inl ⟨.accountNotActive row.status, by
            simp [closed, backDoor, Except.map]⟩
        by_cases full : (registry.profilesOf account).length ≥ maxProfilesPerAccount
        · exact .inl ⟨.accountFull, by simp [closed, deleted, backDoor, full, Except.map]⟩
        refine .inr ⟨row.status, state, rfl, closed, rfl, rfl, deleted, ?_,
          not_le.mp full, by simp [closed, deleted, backDoor, full, Except.map]⟩
        intro enabled
        by_contra inactive
        exact backDoor ⟨enabled, inactive⟩

theorem unbind_cases (registry : AccountRegistry) (profile : ProfileKey)
    (lifecycles : ProfileLifecycles) :
    (∃ error, registry.unbind profile lifecycles = (.error error, registry) ∧
      (registry.ownerOf profile = none ∨ lifecycles profile = none ∨
        lifecycles profile = some .enabled)) ∨
      (∃ owner, registry.ownerOf profile = some owner) ∧
        lifecycles profile ≠ some .enabled ∧
        registry.unbind profile lifecycles =
          (.ok (), { registry with
            bindings := Tables.remove Prod.fst profile registry.bindings }) := by
  simp only [unbind, apply, applyUnbind, ownerOf]
  cases found : Tables.lookup Prod.fst profile registry.bindings with
  | none => exact .inl ⟨.notBound, rfl, .inl rfl⟩
  | some binding =>
    cases known : lifecycles profile with
    | none => exact .inl ⟨.unknownProfile profile, rfl, .inr (.inl rfl)⟩
    | some state =>
      by_cases enabled : state = .enabled
      · exact .inl ⟨.profileEnabled profile, by simp [enabled, Except.map],
          .inr (.inr (by rw [enabled]))⟩
      · exact .inr ⟨⟨binding.2, rfl⟩, by simpa using enabled, by simp [enabled, Except.map]⟩

def withStatus (registry : AccountRegistry) (account : AccountId) (target : AccountStatus) :
    AccountRegistry :=
  { registry with
    accounts := Tables.update Account.id account
      (fun row => { row with status := target }) registry.accounts }

theorem suspend_cases (registry : AccountRegistry) (account : AccountId)
    (lifecycles : ProfileLifecycles) :
    (∃ error, registry.suspend account lifecycles = (.error error, registry)) ∨
      ∃ forced, registry.standing account = some .active ∧
        gatherForced .suspended lifecycles (registry.profilesOf account) = .ok forced ∧
        registry.suspend account lifecycles =
          (.ok forced, registry.withStatus account .suspended) := by
  simp only [suspend, apply, applySetStatus, standing]
  cases found : registry.account account with
  | none => exact .inl ⟨.noSuchAccount, rfl⟩
  | some row =>
    cases status : row.status with
    | closed => exact .inl ⟨.accountClosed, by simp [status, Except.map]⟩
    | suspended =>
      exact .inl ⟨.invalidTransition .suspended .suspended, by
        simp [status, legalStatusChange, Except.map]⟩
    | active =>
      cases gathered : gatherForced .suspended lifecycles (registry.profilesOf account) with
      | error error =>
        exact .inl ⟨error, by simp [status, legalStatusChange, Except.map]⟩
      | ok forced =>
        exact .inr ⟨forced, by simp [status], rfl, by
          simp [status, legalStatusChange, Except.map, withStatus]⟩

theorem reactivate_cases (registry : AccountRegistry) (account : AccountId) :
    (∃ error, registry.reactivate account = (.error error, registry)) ∨
      registry.standing account = some .suspended ∧
        registry.reactivate account = (.ok (), registry.withStatus account .active) := by
  simp only [reactivate, apply, applySetStatus, standing]
  cases found : registry.account account with
  | none => exact .inl ⟨.noSuchAccount, rfl⟩
  | some row =>
    cases status : row.status with
    | closed => exact .inl ⟨.accountClosed, by simp [status, Except.map]⟩
    | active =>
      exact .inl ⟨.invalidTransition .active .active, by
        simp [status, legalStatusChange, Except.map]⟩
    | suspended =>
      exact .inr ⟨by simp [status], by
        simp [status, legalStatusChange, Except.map, withStatus]⟩

theorem gather_forced_eq_filter {lifecycles : ProfileLifecycles} {keys forced : List ProfileKey}
    (gathered : gatherForced .suspended lifecycles keys = .ok forced) :
    forced = keys.filter fun key => lifecycles key = some .enabled := by
  induction keys generalizing forced with
  | nil =>
    simp only [gatherForced, Except.ok.injEq] at gathered
    simp [← gathered]
  | cons key rest ih =>
    unfold gatherForced at gathered
    cases known : lifecycles key with
    | none => simp [known] at gathered
    | some state =>
      cases tail : gatherForced .suspended lifecycles rest with
      | error error => cases state <;> simp [known, tail] at gathered
      | ok others =>
        rw [ih tail] at tail
        cases state <;> simp [known, tail] at gathered <;> simp [known, ← gathered]

/-! ## Lookups after a change -/

private theorem status_write_id (target : AccountStatus) (row : Account) :
    { row with status := target }.id = row.id := rfl

variable {status : AccountStatus}

theorem standing_with_status_same
    (known : registry.standing account = some status) (target : AccountStatus) :
    (registry.withStatus account target).standing account = some target := by
  unfold standing AccountRegistry.account withStatus at *
  rw [lookup_update_same Account.id (status_write_id target)]
  cases found : Tables.lookup Account.id account registry.accounts with
  | none => simp [found] at known
  | some row => rfl

theorem standing_with_status_other {other : AccountId} (different : other ≠ account)
    (target : AccountStatus) :
    (registry.withStatus account target).standing other = registry.standing other := by
  unfold standing AccountRegistry.account withStatus
  rw [lookup_update_other Account.id (status_write_id target) different]

theorem owner_of_bound (free : registry.ownerOf profile = none) (account : AccountId)
    (other : ProfileKey) :
    { registry with bindings := registry.bindings ++ [(profile, account)] }.ownerOf other =
      if other = profile then some account else registry.ownerOf other := by
  unfold ownerOf at *
  rw [lookup_append_single]
  by_cases same : other = profile
  · subst same
    rw [Option.map_eq_none_iff] at free
    simp [free]
  · simp [same, Ne.symm same]

/-! ## The registry invariant -/

/-- Account ids are positions, both tables are bounded, every profile is bound
at most once and only to a registered account. -/
structure WellFormed (registry : AccountRegistry) : Prop where
  ids : registry.accounts.map Account.id = List.range registry.accounts.length
  bound : registry.accounts.length ≤ maxAccounts
  unique : (registry.bindings.map Prod.fst).Nodup
  registered : ∀ profile account, registry.ownerOf profile = some account →
    ∃ status, registry.standing account = some status
  perAccount : ∀ account, (registry.profilesOf account).length ≤ maxProfilesPerAccount

theorem owner_of_unbound (good : registry.WellFormed) (profile other : ProfileKey) :
    { registry with
      bindings := Tables.remove Prod.fst profile registry.bindings }.ownerOf other =
      if other = profile then none else registry.ownerOf other := by
  unfold ownerOf
  split_ifs with same
  · rw [same, lookup_remove_same _ good.unique]
    rfl
  · rw [lookup_remove_other _ same]

theorem mem_bindings_iff (good : registry.WellFormed) :
    (profile, account) ∈ registry.bindings ↔ registry.ownerOf profile = some account := by
  unfold ownerOf
  constructor
  · intro listed
    have found := lookup_of_mem Prod.fst good.unique listed
    rw [found]
    rfl
  · intro owned
    obtain ⟨binding, found, owner⟩ := Option.map_eq_some_iff.mp owned
    have key := lookup_key Prod.fst found
    have listed := lookup_mem Prod.fst found
    rwa [← key, ← owner]

theorem mem_profiles_of_iff (good : registry.WellFormed) :
    profile ∈ registry.profilesOf account ↔ registry.ownerOf profile = some account := by
  rw [← mem_bindings_iff good]
  simp [profilesOf]

theorem new_well_formed : new.WellFormed where
  ids := rfl
  bound := Nat.zero_le _
  unique := List.nodup_nil
  registered := by
    intro profile account owned
    simp [ownerOf, new] at owned
  perAccount := by
    intro account
    simp [profilesOf, new]

theorem with_status_well_formed (good : registry.WellFormed) (account : AccountId)
    (target : AccountStatus) : (registry.withStatus account target).WellFormed where
  ids := by
    unfold withStatus
    rw [update_keys _ (status_write_id target),
      update_length _ (status_write_id target), good.ids]
  bound := by
    unfold withStatus
    rw [update_length _ (status_write_id target)]
    exact good.bound
  unique := good.unique
  registered := by
    intro profile owner owned
    obtain ⟨status, known⟩ := good.registered profile owner owned
    by_cases same : owner = account
    · subst same
      exact ⟨target, standing_with_status_same known target⟩
    · exact ⟨status, (standing_with_status_other same target).trans known⟩
  perAccount := good.perAccount

theorem bound_well_formed (good : registry.WellFormed)
    (free : registry.ownerOf profile = none) (known : registry.standing account = some status)
    (room : (registry.profilesOf account).length < maxProfilesPerAccount) :
    { registry with bindings := registry.bindings ++ [(profile, account)] }.WellFormed where
  ids := good.ids
  bound := good.bound
  unique := by
    refine append_fresh_keys_nodup Prod.fst good.unique ?_ rfl
    simpa [ownerOf] using free
  registered := by
    intro other owner owned
    rw [owner_of_bound free] at owned
    split_ifs at owned
    · cases owned
      exact ⟨status, known⟩
    · exact good.registered other owner owned
  perAccount := by
    intro other
    unfold profilesOf at room ⊢
    have previous := good.perAccount other
    unfold profilesOf at previous
    by_cases same : account = other
    · subst same
      simpa [Nat.succ_le_iff] using room
    · simpa [same] using previous

theorem unbound_well_formed (good : registry.WellFormed) (profile : ProfileKey) :
    { registry with
      bindings := Tables.remove Prod.fst profile registry.bindings }.WellFormed where
  ids := good.ids
  bound := good.bound
  unique := good.unique.sublist ((remove_sublist Prod.fst profile _).map Prod.fst)
  registered := by
    intro other owner owned
    rw [owner_of_unbound good] at owned
    split_ifs at owned
    exact good.registered other owner owned
  perAccount := by
    intro other
    have shorter := ((remove_sublist Prod.fst profile registry.bindings).filter
      fun binding => decide (binding.2 = other)).map Prod.fst
    exact le_trans shorter.length_le (good.perAccount other)

end AccountRegistry

end Runix.Mobile
