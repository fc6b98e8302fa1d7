import Runix.Lib.Runs
import Runix.Mobile.Account

/-!
# Histories of the account registry

Any series of changes, each with its own view of the profiles.  What one change can do is said
once; that the tables stay in order, that closing is final, and what an audit finds follow for
every history.
-/

namespace Runix.Mobile

open Lib Lib.Runs List

namespace AccountRegistry

/-! ## One change -/

def withAccount (registry : AccountRegistry) (subscriber : SubscriberId) (plan : PlanId) :
    AccountRegistry :=
  { registry with
    accounts := registry.accounts ++
      [{ id := registry.accounts.length, subscriber := subscriber, plan := plan,
         status := .active }] }

inductive Applies (registry : AccountRegistry) (lifecycles : ProfileLifecycles) :
    Change → Applied → AccountRegistry → Prop
  | opening {subscriber : SubscriberId} {plan : PlanId}
      (room : registry.accounts.length < maxAccounts) :
      Applies registry lifecycles (.opening subscriber plan) ⟨registry.accounts.length, []⟩
        (registry.withAccount subscriber plan)
  | bind {account : AccountId} {profile : ProfileKey} {applied : Applied} {status : AccountStatus}
      (known : registry.standing account = some status)
      (active : lifecycles profile = some .enabled → status = .active)
      (free : registry.ownerOf profile = none)
      (room : (registry.profilesOf account).length < maxProfilesPerAccount) :
      Applies registry lifecycles (.bind account profile) applied
        { registry with bindings := registry.bindings ++ [(profile, account)] }
  | unbind {profile : ProfileKey} {applied : Applied} :
      Applies registry lifecycles (.unbind profile) applied
        { registry with bindings := Tables.remove Prod.fst profile registry.bindings }
  | setStatus {account : AccountId} {target status : AccountStatus} {forced : List ProfileKey}
      (known : registry.standing account = some status)
      (legal : legalStatusChange status target = true)
      (gathered : target ≠ .active →
        gatherForced target lifecycles (registry.profilesOf account) = .ok forced) :
      Applies registry lifecycles (.setStatus account target) ⟨account, forced⟩
        (registry.withStatus account target)

theorem applySetStatus_cases (registry : AccountRegistry) (account : AccountId)
    (target : AccountStatus) (lifecycles : ProfileLifecycles) :
    (∃ error, registry.applySetStatus account target lifecycles = (.error error, registry)) ∨
      ∃ status forced, registry.standing account = some status ∧
        legalStatusChange status target = true ∧
        (target ≠ .active →
          gatherForced target lifecycles (registry.profilesOf account) = .ok forced) ∧
        registry.applySetStatus account target lifecycles =
          (.ok ⟨account, forced⟩, registry.withStatus account target) := by
  unfold applySetStatus standing
  cases found : registry.account account with
  | none => exact .inl ⟨.noSuchAccount, rfl⟩
  | some row =>
    dsimp only
    by_cases closed : row.status = .closed
    · rw [if_pos closed]
      exact .inl ⟨.accountClosed, rfl⟩
    rw [if_neg closed]
    by_cases legal : legalStatusChange row.status target = true
    · rw [if_neg (by rw [legal]; exact Bool.false_ne_true)]
      by_cases active : target = .active
      · rw [if_neg (not_not.mpr active)]
        exact .inr ⟨row.status, [], rfl, legal, fun other => absurd active other, rfl⟩
      rw [if_pos active]
      cases gathered : gatherForced target lifecycles (registry.profilesOf account) with
      | error error => exact .inl ⟨error, rfl⟩
      | ok forced => exact .inr ⟨row.status, forced, rfl, legal, fun _ => rfl, rfl⟩
    · rw [if_pos (by simpa using legal)]
      exact .inl ⟨.invalidTransition row.status target, rfl⟩

section Wrapped

variable {Value : Type} {outcome : Except AccountError Applied × AccountRegistry}
  {value : Applied → Value} {after : AccountRegistry}

/-- The wrappers of a change drop its value, not whether it was applied. -/
theorem refused_of_map {error : AccountError}
    (wrapped : (outcome.1.map value, outcome.2) = (.error error, after)) :
    outcome = (.error error, after) := by
  obtain ⟨result, registry⟩ := outcome
  cases result <;> cases wrapped
  rfl

theorem applied_of_map {got : Value}
    (wrapped : (outcome.1.map value, outcome.2) = (.ok got, after)) :
    ∃ applied, outcome = (.ok applied, after) := by
  obtain ⟨result, registry⟩ := outcome
  cases result <;> cases wrapped
  exact ⟨_, rfl⟩

end Wrapped

theorem apply_cases (registry : AccountRegistry) (change : Change)
    (lifecycles : ProfileLifecycles) :
    (∃ error, registry.apply change lifecycles = (.error error, registry)) ∨
      ∃ applied after, registry.apply change lifecycles = (.ok applied, after) ∧
        Applies registry lifecycles change applied after := by
  cases change with
  | opening subscriber plan =>
    unfold apply applyOpen
    split_ifs with full
    · exact .inl ⟨.registryFull, rfl⟩
    · exact .inr ⟨_, _, rfl, .opening (not_le.mp full)⟩
  | bind account profile =>
    rcases bind_cases registry account profile lifecycles with ⟨error, refused⟩ |
      ⟨status, state, known, -, free, view, -, active, room, bound⟩
    · exact .inl ⟨error, refused_of_map refused⟩
    obtain ⟨applied, done⟩ := applied_of_map bound
    refine .inr ⟨applied, _, done, .bind known ?_ free room⟩
    intro enabled
    rw [view, Option.some.injEq] at enabled
    exact active enabled
  | unbind profile =>
    rcases unbind_cases registry profile lifecycles with ⟨error, refused, -⟩ | ⟨-, -, unbound⟩
    · exact .inl ⟨error, refused_of_map refused⟩
    · obtain ⟨applied, done⟩ := applied_of_map unbound
      exact .inr ⟨applied, _, done, .unbind⟩
  | setStatus account target =>
    rcases applySetStatus_cases registry account target lifecycles with refused |
      ⟨status, forced, known, legal, gathered, moved⟩
    · exact .inl refused
    · exact .inr ⟨_, _, moved, .setStatus known legal gathered⟩

section Steps

variable {registry after : AccountRegistry} (good : registry.WellFormed)

include good

theorem account_length : registry.account registry.accounts.length = none := by
  unfold AccountRegistry.account
  rw [Tables.lookup_eq_none_iff]
  intro row listed same
  have id : row.id ∈ registry.accounts.map Account.id := mem_map_of_mem listed
  rw [good.ids, mem_range, same] at id
  exact Nat.lt_irrefl _ id

theorem standing_with_account (subscriber : SubscriberId) (plan : PlanId) (account : AccountId) :
    (registry.withAccount subscriber plan).standing account =
      if account = registry.accounts.length then some .active else registry.standing account := by
  have fresh := account_length good
  unfold standing AccountRegistry.account withAccount at *
  rw [Tables.lookup_append_single]
  by_cases last : account = registry.accounts.length
  · rw [last, fresh, if_pos rfl, if_pos rfl]
    rfl
  · rw [if_neg last, if_neg (Ne.symm last), Option.or_none]

theorem with_account_well_formed (room : registry.accounts.length < maxAccounts)
    (subscriber : SubscriberId) (plan : PlanId) :
    (registry.withAccount subscriber plan).WellFormed where
  ids := by
    unfold withAccount
    rw [map_append, good.ids, length_append, length_singleton, range_succ]
    rfl
  bound := by
    unfold withAccount
    rw [length_append]
    exact room
  unique := good.unique
  registered := by
    intro profile account owned
    obtain ⟨status, known⟩ := good.registered profile account owned
    rw [standing_with_account good]
    split_ifs
    · exact ⟨_, rfl⟩
    · exact ⟨status, known⟩
  perAccount := good.perAccount

variable {change : Change} {lifecycles : ProfileLifecycles} {applied : Applied}
  (applies : Applies registry lifecycles change applied after)

include applies

theorem applies_well_formed : after.WellFormed := by
  cases applies with
  | opening room => exact with_account_well_formed good room _ _
  | bind known active free room => exact bound_well_formed good free known room
  | unbind => exact unbound_well_formed good _
  | setStatus known legal gathered => exact with_status_well_formed good _ _

theorem applies_closed {account : AccountId} (closed : registry.standing account = some .closed) :
    after.standing account = some .closed := by
  cases applies with
  | opening room =>
    have earlier : account ≠ registry.accounts.length := by
      rintro rfl
      unfold standing at closed
      rw [account_length good] at closed
      cases closed
    rw [standing_with_account good, if_neg earlier]
    exact closed
  | bind known active free room => exact closed
  | unbind => exact closed
  | @setStatus moved target status forced known legal gathered =>
    have other : account ≠ moved := by
      rintro rfl
      rw [closed, Option.some.injEq] at known
      subst known
      cases target <;> cases legal
    rw [standing_with_status_other other]
    exact closed

end Steps

/-! ## Audits -/

section Audits

variable {registry after : AccountRegistry} {lifecycles : ProfileLifecycles}

theorem audit_eq (registry : AccountRegistry) (lifecycles : ProfileLifecycles) :
    registry.audit lifecycles = (registry.bindings.filter fun binding =>
      lifecycles binding.1 = some .enabled ∧ registry.standing binding.2 ≠ some .active).map
        Prod.fst := by
  unfold audit standing
  congr 1
  apply filter_congr
  rintro ⟨profile, owner⟩ _
  cases registry.account owner with
  | none => simp
  | some row => simp

theorem audit_eq_nil_iff : registry.audit lifecycles = [] ↔
    ∀ binding ∈ registry.bindings, lifecycles binding.1 = some .enabled →
      registry.standing binding.2 = some .active := by
  rw [audit_eq, map_eq_nil_iff, filter_eq_nil_iff]
  simp only [decide_eq_true_eq, not_and, not_not]

/-- Fewer bindings, and no active owner that is not active any more. -/
theorem audit_sublist (part : after.bindings.Sublist registry.bindings)
    (kept : ∀ binding ∈ after.bindings, lifecycles binding.1 = some .enabled →
      registry.standing binding.2 = some .active → after.standing binding.2 = some .active) :
    (after.audit lifecycles).Sublist (registry.audit lifecycles) := by
  rw [audit_eq, audit_eq]
  have narrowed : (after.bindings.filter fun binding => lifecycles binding.1 = some .enabled ∧
      after.standing binding.2 ≠ some .active) =
      (after.bindings.filter fun binding => lifecycles binding.1 = some .enabled ∧
        registry.standing binding.2 ≠ some .active).filter fun binding =>
          after.standing binding.2 ≠ some .active := by
    rw [filter_filter]
    apply filter_congr
    intro binding listed
    have active := kept binding listed
    by_cases enabled : lifecycles binding.1 = some .enabled
    · by_cases now : after.standing binding.2 = some .active
      · simp [now]
      · have before : registry.standing binding.2 ≠ some .active := mt (active enabled) now
        simp [enabled, now, before]
    · simp [enabled]
  rw [narrowed]
  exact (filter_sublist.trans (part.filter _)).map Prod.fst

/-- Nothing of what is to be disabled is forgotten, and nothing else is in the list. -/
theorem gather_forced_closed {keys forced : List ProfileKey}
    (gathered : gatherForced .closed lifecycles keys = .ok forced) :
    ∀ key ∈ keys, lifecycles key ≠ some .enabled := by
  induction keys with
  | nil =>
    intro key listed
    cases listed
  | cons key rest ih =>
    unfold gatherForced at gathered
    cases known : lifecycles key with
    | none => simp [known] at gathered
    | some state =>
      have later : state ≠ .enabled ∧ gatherForced .closed lifecycles rest = .ok forced := by
        cases state <;> simp [known] at gathered ⊢ <;> exact gathered
      intro other listed
      rcases mem_cons.mp listed with rfl | listed
      · rw [known]
        exact fun same => later.1 (Option.some.inj same)
      · exact ih later.2 other listed

variable (good : registry.WellFormed) {change : Change} {applied : Applied}
  (applies : Applies registry lifecycles change applied after)

include good applies

theorem applies_audit_sublist (other : ∀ account, change ≠ .setStatus account .suspended) :
    (after.audit lifecycles).Sublist (registry.audit lifecycles) := by
  cases applies with
  | opening room =>
    refine audit_sublist (List.Sublist.refl registry.bindings) ?_
    intro binding listed enabled active
    rw [standing_with_account good]
    split_ifs
    · rfl
    · exact active
  | @bind account profile applied status known active free room =>
    have skipped : [(profile, account)].filter (fun binding =>
        lifecycles binding.1 = some .enabled ∧ registry.standing binding.2 ≠ some .active) =
        [] := by
      rw [filter_eq_nil_iff]
      intro binding listed held
      obtain rfl := mem_singleton.mp listed
      obtain ⟨enabled, inactive⟩ := of_decide_eq_true held
      rw [known, active enabled] at inactive
      exact inactive rfl
    rw [audit_eq, audit_eq]
    apply List.Sublist.map
    change ((registry.bindings ++ [(profile, account)]).filter fun binding =>
      lifecycles binding.1 = some .enabled ∧
        registry.standing binding.2 ≠ some .active).Sublist _
    rw [filter_append, skipped, append_nil]
  | unbind =>
    apply audit_sublist (Tables.remove_sublist _ _ _)
    exact fun binding listed enabled active => active
  | @setStatus account target status forced known legal gathered =>
    refine audit_sublist (List.Sublist.refl registry.bindings) ?_
    intro binding listed enabled active
    by_cases own : binding.2 = account
    · cases target with
      | active =>
        rw [own]
        exact standing_with_status_same known .active
      | suspended => exact absurd rfl (other account)
      | closed =>
        have bound : binding.1 ∈ registry.profilesOf account := by
          exact mem_map_of_mem (mem_filter.mpr ⟨listed, decide_eq_true own⟩)
        exact absurd enabled
          (gather_forced_closed (gathered (fun wrong => nomatch wrong)) binding.1 bound)
    · rw [standing_with_status_other own]
      exact active

omit good in
theorem applies_audit_suspended {account : AccountId}
    (suspends : change = .setStatus account .suspended)
    (clean : registry.audit lifecycles = []) : after.audit lifecycles = applied.forceDisable := by
  subst suspends
  cases applies with
  | @setStatus _ _ status forced known legal gathered =>
    have active := audit_eq_nil_iff.mp clean
    rw [gather_forced_eq_filter (gathered fun wrong => nomatch wrong), audit_eq]
    unfold profilesOf
    rw [filter_map, filter_filter]
    congr 1
    apply filter_congr
    intro binding listed
    by_cases enabled : lifecycles binding.1 = some .enabled
    · by_cases own : binding.2 = account
      · have moved := standing_with_status_same known .suspended
        simp [enabled, own, moved]
      · have kept := @standing_with_status_other _ registry _ own .suspended
        have before := active binding listed enabled
        simp [enabled, own, kept, before]
    · simp [enabled]

end Audits

/-! ## Histories -/

abbrev Request := Change × ProfileLifecycles

def step (registry : AccountRegistry) (request : Request) : AccountRegistry :=
  (registry.apply request.1 request.2).2

variable {registry : AccountRegistry} (history : List Request)

def after : AccountRegistry := run step new history

theorem step_cases (registry : AccountRegistry) (request : Request) :
    registry.step request = registry ∨
      ∃ applied, (registry.apply request.1 request.2).1 = .ok applied ∧
        Applies registry request.2 request.1 applied (registry.step request) := by
  unfold step
  rcases apply_cases registry request.1 request.2 with ⟨error, refused⟩ |
    ⟨applied, next, done, applies⟩
  · rw [refused]
    exact .inl rfl
  · rw [done]
    exact .inr ⟨applied, rfl, applies⟩

theorem step_well_formed (good : registry.WellFormed)
    (request : Request) : (registry.step request).WellFormed := by
  rcases step_cases registry request with same | ⟨applied, -, applies⟩
  · rw [same]
    exact good
  · exact applies_well_formed good applies

theorem after_well_formed : (after history).WellFormed := by
  apply run_invariant step _ history new new_well_formed
  intro registry request good
  exact step_well_formed good request

def openedId (registry : AccountRegistry) (request : Request) : List AccountId :=
  match request.1, (registry.apply request.1 request.2).1 with
  | .opening _ _, .ok applied => [applied.account]
  | _, _ => []

def openedIds (registry : AccountRegistry) : List Request → List AccountId
  | [] => []
  | request :: rest => registry.openedId request ++ openedIds (registry.step request) rest

theorem step_opened (request : Request) : List.range (registry.step request).accounts.length =
      List.range registry.accounts.length ++ registry.openedId request := by
  unfold step openedId
  rcases apply_cases registry request.1 request.2 with ⟨error, refused⟩ |
    ⟨applied, next, done, applies⟩
  · rw [refused]
    cases request.1 <;> simp
  rw [done]
  cases kind : request.1 with
  | opening subscriber plan =>
    rw [kind] at applies
    cases applies
    unfold withAccount
    rw [length_append, length_singleton, range_succ]
  | bind account profile =>
    rw [kind] at applies
    cases applies
    simp
  | unbind profile =>
    rw [kind] at applies
    cases applies
    simp
  | setStatus account target =>
    rw [kind] at applies
    cases applies
    have write : ∀ row : Account, { row with status := target }.id = row.id := fun _ => rfl
    unfold withStatus
    simp [Tables.update_length Account.id write]

theorem openedIds_eq (registry : AccountRegistry) :
    List.range (run step registry history).accounts.length =
      List.range registry.accounts.length ++ openedIds registry history := by
  induction history generalizing registry with
  | nil => exact (append_nil _).symm
  | cons request rest ih =>
    rw [run_cons, ih, step_opened, openedIds, append_assoc]

theorem step_closed (good : registry.WellFormed) (request : Request)
    {account : AccountId} (closed : registry.standing account = some .closed) :
    (registry.step request).standing account = some .closed := by
  rcases step_cases registry request with same | ⟨applied, -, applies⟩
  · rw [same]
    exact closed
  · exact applies_closed good applies closed

variable {registry : AccountRegistry}

theorem run_closed (more : List Request) (good : registry.WellFormed)
    {account : AccountId} (closed : registry.standing account = some .closed) :
    (run step registry more).standing account = some .closed := by
  have both := run_invariant step
    (fun registry request (held : registry.WellFormed ∧ registry.standing account = some .closed) =>
      ⟨step_well_formed held.1 request, step_closed held.1 request held.2⟩) more registry
    ⟨good, closed⟩
  exact both.2

def Suspends (registry : AccountRegistry) (request : Request) (applied : Applied) : Prop :=
  ∃ account, request.1 = .setStatus account .suspended ∧
    (registry.apply request.1 request.2).1 = .ok applied

variable {request : Request}

theorem step_audit_sublist (good : registry.WellFormed) (other : ∀ applied, ¬ registry.Suspends request applied) :
    ((registry.step request).audit request.2).Sublist (registry.audit request.2) := by
  rcases step_cases registry request with same | ⟨applied, done, applies⟩
  · rw [same]
  · apply applies_audit_sublist good applies
    intro account suspension
    exact other applied ⟨account, suspension, done⟩

theorem step_audit_suspended {applied : Applied}
    (suspends : registry.Suspends request applied) (clean : registry.audit request.2 = []) :
    (registry.step request).audit request.2 = applied.forceDisable := by
  obtain ⟨account, suspension, done⟩ := suspends
  rcases apply_cases registry request.1 request.2 with ⟨error, refused⟩ |
    ⟨other, next, applied, applies⟩
  · rw [refused] at done
    cases done
  rw [applied] at done
  cases done
  unfold step
  rw [applied]
  exact applies_audit_suspended applies suspension clean

/-- The requests look at the profiles with one view, and no suspension has anything to disable. -/
def Harmless (lifecycles : ProfileLifecycles) (registry : AccountRegistry) (request : Request) :
    Prop :=
  request.2 = lifecycles ∧
    ∀ applied, registry.Suspends request applied → applied.forceDisable = []

variable {lifecycles : ProfileLifecycles}

theorem step_audit_clean (good : registry.WellFormed) (clean : registry.audit lifecycles = [])
    (harmless : Harmless lifecycles registry request) :
    (registry.step request).audit lifecycles = [] := by
  obtain ⟨rfl, nothing⟩ := harmless
  by_cases suspends : ∃ applied, registry.Suspends request applied
  · obtain ⟨applied, suspends⟩ := suspends
    rw [step_audit_suspended suspends clean]
    exact nothing applied suspends
  · have part := step_audit_sublist good fun applied held => suspends ⟨applied, held⟩
    rw [clean] at part
    exact sublist_nil.mp part

theorem run_audit_clean (requests : List Request) (good : registry.WellFormed)
    (clean : registry.audit lifecycles = [])
    (harmless : EveryStep step (Harmless lifecycles) registry requests) :
    (run step registry requests).audit lifecycles = [] := by
  have both := run_guarded step
    (fun before request (held : before.WellFormed ∧ before.audit lifecycles = [])
      (guard : Harmless lifecycles before request) =>
        ⟨step_well_formed held.1 request, step_audit_clean held.1 held.2 guard⟩)
    requests registry ⟨good, clean⟩ harmless
  exact both.2

/-- What holds after every history: refused changes change nothing, ids are counted up, profiles
are bound once and to accounts there are, closing is final, and an audit that was empty stays so
until a suspension, after which it has what is to be disabled. -/
theorem registry_histories (history : List Request) :
    (∀ request error, ((after history).apply request.1 request.2).1 = .error error →
        (after history).step request = after history) ∧
      (openedIds new history = List.range (after history).accounts.length ∧
        (after history).accounts.map Account.id = List.range (after history).accounts.length ∧
        (after history).accounts.length ≤ maxAccounts) ∧
      (((after history).bindings.map Prod.fst).Nodup ∧
        (∀ binding ∈ (after history).bindings,
          ∃ row ∈ (after history).accounts, row.id = binding.2) ∧
        ∀ account, ((after history).profilesOf account).length ≤ maxProfilesPerAccount) ∧
      (∀ more account, (after history).standing account = some .closed →
        (after (history ++ more)).standing account = some .closed) ∧
      (∀ request : Request, (after history).audit request.2 = [] →
        (∀ applied, (after history).Suspends request applied →
          ((after history).step request).audit request.2 = applied.forceDisable) ∧
        ((∀ applied, ¬ (after history).Suspends request applied) →
          ((after history).step request).audit request.2 = [])) ∧
      ∀ lifecycles requests, (after history).audit lifecycles = [] →
        EveryStep step (Harmless lifecycles) (after history) requests →
        (after (history ++ requests)).audit lifecycles = [] := by
  have good := after_well_formed history
  refine ⟨?_, ⟨?_, good.ids, good.bound⟩, ⟨good.unique, ?_, good.perAccount⟩, ?_, ?_, ?_⟩
  · intro request error failed
    rcases step_cases (after history) request with same | ⟨applied, done, -⟩
    · exact same
    · rw [failed] at done
      cases done
  · exact (openedIds_eq history new).symm
  · rintro ⟨profile, account⟩ listed
    obtain ⟨status, known⟩ := good.registered profile account ((mem_bindings_iff good).mp listed)
    obtain ⟨row, found, -⟩ := Option.map_eq_some_iff.mp known
    exact ⟨row, Tables.lookup_mem Account.id found, Tables.lookup_key Account.id found⟩
  · intro more account closed
    unfold after
    rw [run_append]
    exact run_closed more good closed
  · intro request clean
    refine ⟨fun applied suspends => step_audit_suspended suspends clean, ?_⟩
    intro other
    have part := step_audit_sublist good other
    rw [clean] at part
    exact sublist_nil.mp part
  · intro lifecycles requests clean harmless
    unfold after
    rw [run_append]
    exact run_audit_clean requests good clean harmless

end AccountRegistry

end Runix.Mobile
