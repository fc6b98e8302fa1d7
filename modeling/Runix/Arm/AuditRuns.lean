import Mathlib.Data.List.Flatten
import Runix.Arm.AuditChain
import Runix.Lib.Runs
import Runix.Lib.Sha256

/-!
# Runs of the bounded audit chain

Any sequence of `record` and `note_coalesced` calls.  The room in the chain is the
sum of what the classes may use, so the check on the whole chain never refuses an
entry its class still has room for.  What a class records is then decided by its own
counters alone: the chain is ten class machines writing to one log.
-/

namespace Runix.Arm.AuditChain

open Lib Lib.ByteStrings Citadel Function List ClassState

inductive AuditEvent where
  | record (auditClass : AuditClass) (subject source target : String) (authorized : Bool)
      (reason : Option String)
  | noteCoalesced (auditClass : AuditClass) (reason : String)
deriving DecidableEq, Repr

namespace AuditEvent

def auditClass : AuditEvent → AuditClass
  | .record auditClass .. => auditClass
  | .noteCoalesced auditClass _ => auditClass

def ordinary : AuditEvent → Bool
  | .record _ subject .. => !startsWith subject summarySubjectPrefix
  | .noteCoalesced .. => true

end AuditEvent

namespace AuditOutcome

def auditClass : AuditOutcome → AuditClass
  | .recorded auditClass => auditClass
  | .coalesced auditClass .. => auditClass

def isRecorded : AuditOutcome → Bool
  | .recorded _ => true
  | .coalesced .. => false

def isSummary : AuditOutcome → Bool
  | .recorded _ => false
  | .coalesced _ _ summaryCommitted _ => summaryCommitted

end AuditOutcome

namespace BoundedAudit

variable (sha256 : Bytes → Bytes)

def apply (audit : BoundedAudit) : AuditEvent → AuditOutcome × BoundedAudit
  | .record auditClass subject source target authorized reason =>
    audit.record sha256 auditClass subject source target authorized reason
  | .noteCoalesced auditClass reason => audit.noteCoalesced sha256 auditClass reason

def step (audit : BoundedAudit) (event : AuditEvent) : BoundedAudit :=
  (audit.apply sha256 event).2

def after (events : List AuditEvent) : BoundedAudit := Runs.run (step sha256) new events

end BoundedAudit

/-! ## The machine of one class -/

/-- What one event does to its class: the call's result, the counters after it and
the entry it appends. -/
structure Advance where
  outcome : AuditOutcome
  state : ClassState
  appended : Option WormRecord
deriving DecidableEq, Repr

/-- The fields `record_lifecycle_transition` fills. -/
def lifecycleRecord (subject source target : String) (authorized : Bool)
    (reason : Option String) : WormRecord where
  moduleId := subject
  instanceId := none
  tier := none
  authorized := authorized
  reason := some (WormLog.lifecycleReason reason source target)
  shadowMarshal := none

namespace ClassState

def counted (state : ClassState) (reason : String) : ClassState :=
  { state with
    dropped := Words.saturatingAdd state.dropped 1
    lastReason := truncate reason reasonLimit }

def committed (state : ClassState) : ClassState :=
  { state with
    summaries := state.summaries + 1
    nextCommitAt := Words.saturatingMul state.nextCommitAt summaryGrowth }

section Fields

variable (state : ClassState) (reason : String)

@[simp]
theorem counted_recorded : (state.counted reason).recorded = state.recorded := rfl

@[simp]
theorem counted_summaries : (state.counted reason).summaries = state.summaries := rfl

@[simp]
theorem counted_next_commit_at : (state.counted reason).nextCommitAt = state.nextCommitAt := rfl

@[simp]
theorem committed_recorded : state.committed.recorded = state.recorded := rfl

@[simp]
theorem committed_dropped : state.committed.dropped = state.dropped := rfl

@[simp]
theorem committed_summaries : state.committed.summaries = state.summaries + 1 := rfl

end Fields

def summaryRecord (auditClass : AuditClass) (state : ClassState) : WormRecord :=
  lifecycleRecord (summarySubjectPrefix ++ auditClass.name) "individual entries"
    ("coalesced (" ++ toString state.dropped ++ ")") false
    (some ("class " ++ auditClass.name ++ " coalesced " ++ toString state.dropped ++
      " event(s), not individually recorded (quota " ++ toString auditClass.quota ++
      ", recorded " ++ toString state.recorded ++ "); last: " ++ state.lastReason))

/-- The next summary is to be committed. -/
def Due (state : ClassState) : Prop :=
  state.summaries < maxSummaryCommits ∧ state.dropped ≥ state.nextCommitAt

instance (state : ClassState) : Decidable state.Due :=
  inferInstanceAs (Decidable (_ ∧ _))

def overflow (state : ClassState) (auditClass : AuditClass) (reason : String) : Advance :=
  let counted := state.counted reason
  if counted.Due then
    ⟨.coalesced auditClass counted.dropped true counted.lastReason, counted.committed,
      some (counted.summaryRecord auditClass)⟩
  else
    ⟨.coalesced auditClass counted.dropped false counted.lastReason, counted, none⟩

def advance (state : ClassState) : AuditEvent → Advance
  | .record auditClass subject source target authorized reason =>
    if state.recorded < auditClass.quota then
      ⟨.recorded auditClass, { state with recorded := state.recorded + 1 },
        some (lifecycleRecord subject source target authorized reason)⟩
    else
      state.overflow auditClass (match reason with
        | some text => subject ++ " [" ++ source ++ " -> " ++ target ++ "]: " ++ text
        | none => subject ++ " [" ++ source ++ " -> " ++ target ++ "]")
  | .noteCoalesced auditClass reason => state.overflow auditClass reason

variable {state : ClassState}

theorem overflow_due {reason : String} (due : (state.counted reason).Due) (c : AuditClass) :
    state.overflow c reason =
      ⟨.coalesced c (state.counted reason).dropped true (state.counted reason).lastReason,
        (state.counted reason).committed, some ((state.counted reason).summaryRecord c)⟩ :=
  if_pos due

theorem overflow_not_due {reason : String}
    (notDue : ¬ (state.counted reason).Due) (c : AuditClass) :
    state.overflow c reason =
      ⟨.coalesced c (state.counted reason).dropped false (state.counted reason).lastReason,
        state.counted reason, none⟩ :=
  if_neg notDue

theorem advance_record_room {c : AuditClass} (room : state.recorded < c.quota)
    (subject source target : String) (authorized : Bool) (reason : Option String) :
    state.advance (.record c subject source target authorized reason) =
      ⟨.recorded c, { state with recorded := state.recorded + 1 },
        some (lifecycleRecord subject source target authorized reason)⟩ :=
  if_pos room

theorem advance_recorded_or_overflow (state : ClassState) (event : AuditEvent) :
    (state.recorded < event.auditClass.quota ∧
      ∃ entry, state.advance event =
        ⟨.recorded event.auditClass, { state with recorded := state.recorded + 1 }, some entry⟩) ∨
    ∃ reason, state.advance event = state.overflow event.auditClass reason := by
  cases event with
  | noteCoalesced c reason => exact .inr ⟨reason, rfl⟩
  | record c subject source target authorized reason =>
    by_cases room : state.recorded < c.quota
    · exact .inl ⟨room, _, advance_record_room room subject source target authorized reason⟩
    · exact .inr ⟨_, if_neg room⟩

theorem advance_cases (state : ClassState) (event : AuditEvent) :
    (state.recorded < event.auditClass.quota ∧
      ∃ entry, state.advance event =
        ⟨.recorded event.auditClass, { state with recorded := state.recorded + 1 }, some entry⟩) ∨
    (∃ reason, (state.counted reason).Due ∧ state.advance event =
      ⟨.coalesced event.auditClass (state.counted reason).dropped true
        (state.counted reason).lastReason, (state.counted reason).committed,
        some ((state.counted reason).summaryRecord event.auditClass)⟩) ∨
    ∃ reason, ¬ (state.counted reason).Due ∧ state.advance event =
      ⟨.coalesced event.auditClass (state.counted reason).dropped false
        (state.counted reason).lastReason, state.counted reason, none⟩ := by
  obtain recorded | ⟨reason, same⟩ := state.advance_recorded_or_overflow event
  · exact .inl recorded
  · by_cases due : (state.counted reason).Due
    · exact .inr (.inl ⟨reason, due, same.trans (overflow_due due _)⟩)
    · exact .inr (.inr ⟨reason, due, same.trans (overflow_not_due due _)⟩)

/-! The counters of a class, after a number of its events. -/

structure Paced (state : ClassState) (seen : Nat) : Prop where
  total : state.recorded + state.dropped = seen
  next : state.nextCommitAt = summaryGrowth ^ state.summaries
  bounded : state.summaries ≤ maxSummaryCommits
  reached : ∀ k < state.summaries, summaryGrowth ^ k ≤ state.dropped
  pending : state.summaries < maxSummaryCommits →
    state.dropped < summaryGrowth ^ state.summaries

theorem new_paced : ClassState.new.Paced 0 where
  total := rfl
  next := rfl
  bounded := Nat.zero_le _
  reached := by
    intro k below
    exact absurd below (Nat.not_lt_zero k)
  pending := fun _ => Nat.one_pos

variable {seen : Nat}

theorem counted_dropped (paced : state.Paced seen) (few : seen < Words.u64Max) (reason : String) :
    (state.counted reason).dropped = state.dropped + 1 := by
  have total := paced.total
  exact Nat.min_eq_left (by omega)

/-- A summary is due exactly at the powers of the growth factor. -/
theorem due_iff (paced : state.Paced seen) (few : seen < Words.u64Max) (reason : String) :
    (state.counted reason).Due ↔
      ∃ k < maxSummaryCommits, (state.counted reason).dropped = summaryGrowth ^ k := by
  have growth : 1 < summaryGrowth := by decide
  unfold Due
  rw [counted_dropped paced few]
  simp only [counted_summaries, counted_next_commit_at, paced.next]
  constructor
  · rintro ⟨room, due⟩
    exact ⟨state.summaries, room, Nat.le_antisymm (paced.pending room) due⟩
  · rintro ⟨k, below, power⟩
    -- A smaller power was passed before; a larger one is not reached yet.
    have later : state.summaries ≤ k := by
      by_contra earlier
      have passed := paced.reached k (Nat.lt_of_not_le earlier)
      omega
    have room := Nat.lt_of_le_of_lt later below
    have power_le : summaryGrowth ^ state.summaries ≤ summaryGrowth ^ k :=
      Nat.pow_le_pow_right (Nat.le_of_lt growth) later
    exact ⟨room, by omega⟩

theorem next_commit_at_small {count : Nat} (room : count < maxSummaryCommits) :
    Words.saturatingMul (summaryGrowth ^ count) summaryGrowth = summaryGrowth ^ (count + 1) := by
  have small : summaryGrowth ^ (count + 1) ≤ summaryGrowth ^ maxSummaryCommits :=
    Nat.pow_le_pow_right (by decide) room
  exact Nat.min_eq_left (Nat.le_trans small (by decide))

theorem advance_paced (paced : state.Paced seen) (few : seen < Words.u64Max) (event : AuditEvent) :
    (state.advance event).state.Paced (seen + 1) := by
  have total := paced.total
  obtain ⟨-, entry, same⟩ | ⟨reason, due, same⟩ | ⟨reason, notDue, same⟩ :=
    state.advance_cases event
  · rw [same]
    exact ⟨by simp only; omega, paced.next, paced.bounded, paced.reached, paced.pending⟩
  · have dropped := counted_dropped paced few reason
    obtain ⟨room, power⟩ := due
    simp only [counted_summaries, counted_next_commit_at, dropped, paced.next] at room power
    have pending := paced.pending room
    have grows : summaryGrowth ^ state.summaries < summaryGrowth ^ (state.summaries + 1) :=
      Nat.pow_lt_pow_right (by decide) (Nat.lt_succ_self _)
    rw [same]
    exact {
      total := by
        simp only [committed_recorded, committed_dropped, counted_recorded, dropped]
        omega
      next := by
        simp only [committed, counted, paced.next]
        exact next_commit_at_small room
      bounded := room
      reached := by
        intro k below
        simp only [committed_dropped, committed_summaries, counted_summaries, dropped] at below ⊢
        rcases Nat.lt_succ_iff_lt_or_eq.mp below with earlier | rfl
        · exact Nat.le_succ_of_le (paced.reached k earlier)
        · exact power
      pending := by
        intro _
        simp only [committed_dropped, committed_summaries, counted_summaries, dropped]
        omega }
  · have dropped := counted_dropped paced few reason
    rw [same]
    exact {
      total := by
        simp only [counted_recorded, dropped]
        omega
      next := paced.next
      bounded := paced.bounded
      reached := by
        intro k below
        rw [dropped]
        exact Nat.le_succ_of_le (paced.reached k below)
      pending := by
        intro room
        by_contra reached
        apply notDue
        refine ⟨room, ?_⟩
        rw [counted_next_commit_at, paced.next]
        exact Nat.le_of_not_lt reached }

end ClassState

namespace BoundedAudit

variable {sha256 : Bytes → Bytes}

/-- The audit after one event of a class has advanced it. -/
def absorb (sha256 : Bytes → Bytes) (audit : BoundedAudit) (auditClass : AuditClass)
    (advance : Advance) : BoundedAudit where
  log := match advance.appended with
    | some entry => audit.log.record sha256 entry
    | none => audit.log
  classes := update audit.classes auditClass advance.state

theorem coalesce_eq_overflow (audit : BoundedAudit) (c : AuditClass) (reason : String) :
    audit.coalesce sha256 c reason =
      (((audit.classes c).overflow c reason).outcome,
        audit.absorb sha256 c ((audit.classes c).overflow c reason)) := by
  by_cases due : ((audit.classes c).counted reason).Due
  · rw [overflow_due due]
    exact if_pos due
  · rw [overflow_not_due due]
    exact if_neg due

variable {audit : BoundedAudit}

theorem Accounted.room (accounted : audit.Accounted) {c : AuditClass}
    (own : (audit.classes c).recorded < c.quota) : audit.log.entries.length < totalCapacity := by
  have bounded : (AuditClass.all.map (update
      (fun other => (audit.classes other).recorded + (audit.classes other).summaries) c
      ((audit.classes c).recorded + (audit.classes c).summaries + 1))).sum ≤ totalCapacity := by
    apply sum_le_sum
    intro other _
    have quota := accounted.quota other
    have summaries := accounted.summaries other
    by_cases same : other = c
    · subst same
      simp only [update_self]
      omega
    · simp only [update_of_ne same]
      omega
  have total := sum_update
    (fun other => (audit.classes other).recorded + (audit.classes other).summaries) c
    ((audit.classes c).recorded + (audit.classes c).summaries + 1)
  have length := accounted.appended
  omega

/-- One call is one step of its class's machine, and touches no other class. -/
theorem apply_eq_advance (accounted : audit.Accounted) (event : AuditEvent) :
    audit.apply sha256 event =
      (((audit.classes event.auditClass).advance event).outcome,
        audit.absorb sha256 event.auditClass
          ((audit.classes event.auditClass).advance event)) := by
  cases event with
  | noteCoalesced c reason => exact coalesce_eq_overflow audit c reason
  | record c subject source target authorized reason =>
    by_cases own : (audit.classes c).recorded < c.quota
    · simp only [AuditEvent.auditClass]
      rw [advance_record_room own]
      exact if_pos ⟨own, accounted.room own⟩
    · have full : (audit.classes c).advance
          (.record c subject source target authorized reason) = _ := if_neg own
      simp only [AuditEvent.auditClass]
      rw [full, ← coalesce_eq_overflow]
      exact if_neg fun room => own room.1

theorem step_eq_absorb (accounted : audit.Accounted) (event : AuditEvent) :
    audit.step sha256 event = audit.absorb sha256 event.auditClass
      ((audit.classes event.auditClass).advance event) := by
  rw [step, apply_eq_advance accounted]

variable (sha256) in
theorem step_accounted {audit : BoundedAudit} (accounted : audit.Accounted)
    (event : AuditEvent) : (audit.step sha256 event).Accounted := by
  have quota := accounted.quota event.auditClass
  have summaries := accounted.summaries event.auditClass
  rw [step_eq_absorb accounted]
  obtain ⟨room, entry, same⟩ | ⟨reason, due, same⟩ | ⟨reason, -, same⟩ :=
    (audit.classes event.auditClass).advance_cases event
  · rw [same]
    apply accounted.charge
    · exact room
    · exact summaries
    · simp only [WormLog.record_entries, length_append, length_singleton]
      omega
  · rw [same]
    apply accounted.charge
    · exact quota
    · exact due.1
    · simp only [WormLog.record_entries, length_append, length_singleton,
        committed_recorded, committed_summaries, counted_recorded,
        counted_summaries]
      omega
  · rw [same]
    exact accounted.charge _ _ _ quota summaries rfl

theorem run_accounted (accounted : audit.Accounted) (events : List AuditEvent) :
    (Runs.run (step sha256) audit events).Accounted := by
  apply @Runs.run_invariant _ _ (step sha256) Accounted
  · intro before event holds
    exact step_accounted sha256 holds event
  · exact accounted

theorem step_balanced (balanced : audit.Balanced sha256) {event : AuditEvent}
    (ordinary : event.ordinary = true) : (audit.step sha256 event).Balanced sha256 := by
  cases event with
  | noteCoalesced c reason => exact coalesce_balanced balanced c reason
  | record c subject source target authorized reason =>
    rw [AuditEvent.ordinary, Bool.not_eq_true'] at ordinary
    exact record_balanced balanced c subject source target authorized reason ordinary

variable {events : List AuditEvent}

theorem run_balanced (balanced : audit.Balanced sha256)
    (ordinary : ∀ event ∈ events, event.ordinary = true) :
    (Runs.run (step sha256) audit events).Balanced sha256 := by
  induction events generalizing audit with
  | nil => exact balanced
  | cons event rest ih =>
    rw [Runs.run_cons]
    exact ih (step_balanced balanced (ordinary event mem_cons_self))
      fun other later => ordinary other (mem_cons_of_mem event later)

/-! ## What each call left in the chain -/

structure Logged where
  outcome : AuditOutcome
  appended : List WormEntry
deriving DecidableEq, Repr

def trace (sha256 : Bytes → Bytes) : BoundedAudit → List AuditEvent → List Logged
  | _, [] => []
  | audit, event :: rest =>
    ⟨(audit.apply sha256 event).1,
      (audit.step sha256 event).log.entries.drop audit.log.entries.length⟩ ::
      trace sha256 (audit.step sha256 event) rest

def classTrace : ClassState → List AuditEvent → List Advance
  | _, [] => []
  | state, event :: rest => state.advance event :: classTrace (state.advance event).state rest

def ofClass (c : AuditClass) (events : List AuditEvent) : List AuditEvent :=
  events.filter fun event => event.auditClass = c

def classStep (state : ClassState) (event : AuditEvent) : ClassState := (state.advance event).state

def loggedOf (sha256 : Bytes → Bytes) (c : AuditClass) (events : List AuditEvent) : List Logged :=
  (trace sha256 new events).filter fun logged => logged.outcome.auditClass = c

def outcomesOf (sha256 : Bytes → Bytes) (c : AuditClass) (events : List AuditEvent) :
    List AuditOutcome :=
  (loggedOf sha256 c events).map Logged.outcome

/-- The entries appended by the calls of one class whose result is picked. -/
def entriesOf (sha256 : Bytes → Bytes) (pick : AuditOutcome → Bool) (c : AuditClass)
    (events : List AuditEvent) : List WormEntry :=
  ((loggedOf sha256 c events).filter fun logged => pick logged.outcome).flatMap Logged.appended

def individualEntries (sha256 : Bytes → Bytes) (c : AuditClass) (events : List AuditEvent) :
    List WormEntry :=
  entriesOf sha256 AuditOutcome.isRecorded c events

def summaryEntries (sha256 : Bytes → Bytes) (c : AuditClass) (events : List AuditEvent) :
    List WormEntry :=
  entriesOf sha256 AuditOutcome.isSummary c events

theorem advance_outcome_class (state : ClassState) (event : AuditEvent) :
    (state.advance event).outcome.auditClass = event.auditClass := by
  obtain ⟨-, entry, same⟩ | ⟨reason, -, same⟩ | ⟨reason, -, same⟩ := state.advance_cases event <;>
    rw [same] <;> rfl

variable (sha256) in
theorem absorb_entries (audit : BoundedAudit) (c : AuditClass) (advance : Advance) :
    ∃ grown : List WormEntry, (audit.absorb sha256 c advance).log.entries =
        audit.log.entries ++ grown ∧
      grown.map WormEntry.toWormRecord = advance.appended.toList := by
  cases appended : advance.appended with
  | none => exact ⟨[], by simp [absorb, appended], rfl⟩
  | some entry => exact ⟨[audit.log.nextEntry sha256 entry], by
      simp [absorb, appended, WormLog.record_entries], rfl⟩

/-- What one class counts in a run is what its machine counts on its own events. -/
theorem run_classes (accounted : audit.Accounted) (events : List AuditEvent) (c : AuditClass) :
    (Runs.run (step sha256) audit events).classes c =
      Runs.run classStep (audit.classes c) (ofClass c events) := by
  induction events generalizing audit with
  | nil => rfl
  | cons event rest ih =>
    rw [Runs.run_cons, ih (step_accounted sha256 accounted event), step_eq_absorb accounted]
    by_cases own : event.auditClass = c
    · subst own
      simp [ofClass, absorb, classStep]
    · simp [ofClass, absorb, own, update_of_ne (Ne.symm own)]

variable (sha256) in
theorem trace_of_class {audit : BoundedAudit} (accounted : audit.Accounted)
    (events : List AuditEvent) (c : AuditClass) :
    ((trace sha256 audit events).filter fun logged => logged.outcome.auditClass = c).map
        (fun logged => (logged.outcome, logged.appended.map WormEntry.toWormRecord)) =
      (classTrace (audit.classes c) (ofClass c events)).map
        fun advance => (advance.outcome, advance.appended.toList) := by
  induction events generalizing audit with
  | nil => rfl
  | cons event rest ih =>
    have later := ih (step_accounted sha256 accounted event)
    have outcome : (audit.apply sha256 event).1 =
        ((audit.classes event.auditClass).advance event).outcome := by
      rw [apply_eq_advance accounted]
    obtain ⟨grown, entries, records⟩ := absorb_entries sha256 audit event.auditClass
      ((audit.classes event.auditClass).advance event)
    rw [← step_eq_absorb accounted] at entries
    have class_of := advance_outcome_class (audit.classes event.auditClass) event
    by_cases own : event.auditClass = c
    · subst own
      have state : (audit.step sha256 event).classes event.auditClass =
          ((audit.classes event.auditClass).advance event).state := by
        simp [step_eq_absorb accounted, absorb]
      rw [state] at later
      simp [trace, ofClass, classTrace, outcome, class_of, entries, records] at later ⊢
      exact later
    · have state : (audit.step sha256 event).classes c = audit.classes c := by
        simp [step_eq_absorb accounted, absorb, update_of_ne (Ne.symm own)]
      rw [state] at later
      simp [trace, ofClass, outcome, class_of, own] at later ⊢
      exact later

variable (c : AuditClass)

theorem outcomes_of_eq (events : List AuditEvent) :
    outcomesOf sha256 c events =
      (classTrace ClassState.new (ofClass c events)).map Advance.outcome := by
  have pairs := congrArg (List.map Prod.fst)
    (trace_of_class sha256 new_accounted events c)
  simpa [outcomesOf, loggedOf, new, comp_def] using pairs

variable (sha256) in
theorem entries_of_records (pick : AuditOutcome → Bool) (c : AuditClass)
    (events : List AuditEvent) :
    (entriesOf sha256 pick c events).map WormEntry.toWormRecord =
      ((classTrace ClassState.new (ofClass c events)).filter
        fun advance => pick advance.outcome).flatMap fun advance => advance.appended.toList := by
  have pairs := congrArg (fun list => (list.filter fun pair => pick pair.1).flatMap Prod.snd)
    (trace_of_class sha256 new_accounted events c)
  simpa [entriesOf, loggedOf, new, filter_map, flatMap_map, map_flatMap,
    comp_def] using pairs

theorem run_entries (accounted : audit.Accounted) (events : List AuditEvent) :
    (Runs.run (step sha256) audit events).log.entries =
      audit.log.entries ++ (trace sha256 audit events).flatMap Logged.appended := by
  induction events generalizing audit with
  | nil => simp [trace]
  | cons event rest ih =>
    obtain ⟨grown, entries, -⟩ := absorb_entries sha256 audit event.auditClass
      ((audit.classes event.auditClass).advance event)
    rw [← step_eq_absorb accounted] at entries
    rw [Runs.run_cons, ih (step_accounted sha256 accounted event)]
    simp [trace, entries]

theorem entries_of_sublist (pick : AuditOutcome → Bool) (c : AuditClass)
    (events : List AuditEvent) :
    (entriesOf sha256 pick c events).Sublist (after sha256 events).log.entries := by
  rw [after, run_entries new_accounted]
  have filtered : ((loggedOf sha256 c events).filter fun logged => pick logged.outcome).Sublist
      (trace sha256 new events) := filter_sublist.trans filter_sublist
  exact filtered.flatMap _

variable {pick : AuditOutcome → Bool} (reading : ClassState → Nat)

/-- A counter that every picked call raises by what it appends, and no other call
touches, counts the entries of the picked calls. -/
theorem class_trace_count
    (one : ∀ state event, reading (classStep state event) = reading state +
      if pick (state.advance event).outcome then (state.advance event).appended.toList.length
      else 0)
    (state : ClassState) (events : List AuditEvent) :
    reading (Runs.run classStep state events) = reading state +
      (((classTrace state events).filter fun advance => pick advance.outcome).flatMap
        fun advance => advance.appended.toList).length := by
  induction events generalizing state with
  | nil => rfl
  | cons event rest ih =>
    rw [Runs.run_cons, ih (classStep state event), one]
    by_cases picked : pick (state.advance event).outcome = true
    · simp [classTrace, picked, classStep, Nat.add_assoc]
    · simp [classTrace, picked, classStep]

theorem entries_of_length
    (one : ∀ state event, reading (classStep state event) = reading state +
      if pick (state.advance event).outcome then (state.advance event).appended.toList.length
      else 0)
    (zero : reading ClassState.new = 0) (c : AuditClass) (events : List AuditEvent) :
    (entriesOf sha256 pick c events).length = reading ((after sha256 events).classes c) := by
  have records := congrArg List.length (entries_of_records sha256 pick c events)
  rw [length_map] at records
  rw [after, run_classes new_accounted, class_trace_count reading one, records]
  exact (Nat.zero_add _).symm.trans (congrArg (· + _) zero.symm)

theorem individual_entries_length (events : List AuditEvent) :
    (individualEntries sha256 c events).length = ((after sha256 events).classes c).recorded := by
  refine entries_of_length ClassState.recorded ?_ rfl c events
  intro state event
  obtain ⟨-, entry, same⟩ | ⟨reason, -, same⟩ | ⟨reason, -, same⟩ := state.advance_cases event <;>
    simp [classStep, same, AuditOutcome.isRecorded]

theorem summary_entries_length (events : List AuditEvent) :
    (summaryEntries sha256 c events).length = ((after sha256 events).classes c).summaries := by
  refine entries_of_length ClassState.summaries ?_ rfl c events
  intro state event
  obtain ⟨-, entry, same⟩ | ⟨reason, -, same⟩ | ⟨reason, -, same⟩ := state.advance_cases event <;>
    simp [classStep, same, AuditOutcome.isSummary]

theorem class_run_paced {state : ClassState} {seen : Nat} (paced : state.Paced seen)
    (events : List AuditEvent) (few : seen + events.length ≤ Words.u64Max) :
    (Runs.run classStep state events).Paced (seen + events.length) := by
  induction events generalizing state seen with
  | nil => exact paced
  | cons event rest ih =>
    rw [length_cons] at few ⊢
    have next := ih (advance_paced paced (by omega) event) (by omega)
    rwa [show seen + (rest.length + 1) = seen + 1 + rest.length by omega]

theorem after_paced (few : events.length ≤ Words.u64Max) (c : AuditClass) :
    ((after sha256 events).classes c).Paced (ofClass c events).length := by
  have own : (ofClass c events).length ≤ events.length := length_filter_le _ _
  have paced := class_run_paced new_paced (ofClass c events) (by omega)
  rw [after, run_classes new_accounted]
  rwa [Nat.zero_add] at paced

theorem after_snoc_classes (before : List AuditEvent) (event : AuditEvent) :
    (after sha256 (before ++ [event])).classes =
      update (after sha256 before).classes event.auditClass
        (((after sha256 before).classes event.auditClass).advance event).state := by
  rw [after, Runs.run_snoc, step_eq_absorb (run_accounted new_accounted before)]
  rfl

/-- A class commits a summary at the events that bring its dropped count to a power of
the growth factor, as long as it has summaries left. -/
theorem summary_committed_iff {before : List AuditEvent} (few : before.length < Words.u64Max)
    (event : AuditEvent) (c : AuditClass) :
    ((after sha256 (before ++ [event])).classes c).summaries =
        ((after sha256 before).classes c).summaries + 1 ↔
      ((after sha256 (before ++ [event])).classes c).dropped =
          ((after sha256 before).classes c).dropped + 1 ∧
        ∃ k < maxSummaryCommits,
          ((after sha256 (before ++ [event])).classes c).dropped = summaryGrowth ^ k := by
  have paced : ((after sha256 before).classes c).Paced (ofClass c before).length :=
    after_paced (Nat.le_of_lt few) c
  have seen : (ofClass c before).length < Words.u64Max :=
    Nat.lt_of_le_of_lt (length_filter_le _ _) few
  rw [after_snoc_classes]
  by_cases own : c = event.auditClass
  · subst own
    obtain ⟨-, entry, same⟩ | ⟨reason, due, same⟩ | ⟨reason, notDue, same⟩ :=
      ((after sha256 before).classes event.auditClass).advance_cases event
    · simp [same]
    · have power := (due_iff paced seen reason).mp due
      simp [same, counted_dropped paced seen] at power ⊢
      exact power
    · rw [due_iff paced seen] at notDue
      simp [same, counted_dropped paced seen] at notDue ⊢
      exact notDue
  · simp [update_of_ne own]

/-- After any calls with ordinary subjects the chain verifies, every event is recorded
or counted in its class, every class holds no more entries and summaries than it may,
its summaries come at the powers of four of its dropped count, and the chain is made
of these entries and within its capacity. -/
theorem audit_run_balanced (events : List AuditEvent)
    (ordinary : ∀ event ∈ events, event.ordinary = true) (few : events.length < 2 ^ 64) :
    (after sha256 events).verify sha256 = true ∧
    (∀ c, ((after sha256 events).classes c).recorded + ((after sha256 events).classes c).dropped =
      (events.filter fun event => event.auditClass = c).length) ∧
    (∀ c, (individualEntries sha256 c events).length =
        ((after sha256 events).classes c).recorded ∧
      (individualEntries sha256 c events).length ≤ c.quota ∧
      (summaryEntries sha256 c events).length = ((after sha256 events).classes c).summaries ∧
      (summaryEntries sha256 c events).length ≤ maxSummaryCommits) ∧
    (∀ before event c, before ++ [event] <+: events →
      (((after sha256 (before ++ [event])).classes c).summaries =
          ((after sha256 before).classes c).summaries + 1 ↔
        ((after sha256 (before ++ [event])).classes c).dropped =
            ((after sha256 before).classes c).dropped + 1 ∧
          ∃ k < maxSummaryCommits,
            ((after sha256 (before ++ [event])).classes c).dropped = summaryGrowth ^ k)) ∧
    (after sha256 events).log.entries.length =
      (AuditClass.all.map fun c => (individualEntries sha256 c events).length +
        (summaryEntries sha256 c events).length).sum ∧
    (after sha256 events).log.entries.length ≤ totalCapacity := by
  have word : 2 ^ 64 = Words.u64Max + 1 := by decide
  have balanced : (after sha256 events).Balanced sha256 := run_balanced new_balanced ordinary
  refine ⟨balanced.verify, ?counted, ?held, ?committed, ?length, balanced.accounted.total_le⟩
  case counted =>
    intro c
    exact (after_paced (by omega) c).total
  case held =>
    intro c
    rw [individual_entries_length, summary_entries_length]
    exact ⟨rfl, balanced.quota c, rfl, balanced.summaries c⟩
  case committed =>
    intro before event c reached
    have shorter := reached.length_le
    rw [length_append, length_singleton] at shorter
    exact summary_committed_iff (by omega) event c
  case length =>
    simp only [individual_entries_length, summary_entries_length]
    exact balanced.appended

def shortRun : List AuditEvent :=
  [.record .gateBlocked "esim:0:1" "disabled" "enabled" false (some "refused"),
   .noteCoalesced .cleanPass "clean",
   .record .gateBlocked "esim:0:1" "disabled" "enabled" false none]

theorem short_run_balanced : (after Sha256.sha256 shortRun).verify Sha256.sha256 = true :=
  (audit_run_balanced shortRun (by decide) (by decide)).1

/-- Whatever the other classes do, and in whatever order, the calls of a class return
the same results and append the same individual entries, which stand in the chain in
their order. -/
theorem class_unaffected_by_others (c : AuditClass) (first second : List AuditEvent)
    (same : (first.filter fun event => event.auditClass = c) =
      second.filter fun event => event.auditClass = c) :
    outcomesOf sha256 c first = outcomesOf sha256 c second ∧
    (individualEntries sha256 c first).map WormEntry.toWormRecord =
      (individualEntries sha256 c second).map WormEntry.toWormRecord ∧
    (individualEntries sha256 c first).Sublist (after sha256 first).log.entries ∧
    (individualEntries sha256 c second).Sublist (after sha256 second).log.entries := by
  have own : ofClass c first = ofClass c second := same
  refine ⟨?outcomes, ?entries, entries_of_sublist _ c first, entries_of_sublist _ c second⟩
  case outcomes => rw [outcomes_of_eq, outcomes_of_eq, own]
  case entries => rw [individualEntries, individualEntries, entries_of_records, entries_of_records, own]

/-- The refusals of the short run come out as they do without the note. -/
theorem refusals_unaffected_by_note :
    outcomesOf Sha256.sha256 .gateBlocked shortRun =
      outcomesOf Sha256.sha256 .gateBlocked (shortRun.eraseIdx 1) :=
  (class_unaffected_by_others .gateBlocked shortRun (shortRun.eraseIdx 1) rfl).1

end BoundedAudit

end Runix.Arm.AuditChain
