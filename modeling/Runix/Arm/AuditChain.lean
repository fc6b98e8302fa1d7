import Mathlib.Algebra.GroupWithZero.Nat
import Mathlib.Algebra.Order.BigOperators.Group.List
import Mathlib.Algebra.Order.Group.Nat
import Runix.Lib.Words
import Runix.Citadel.WormLog

/-!
# The bounded audit chain

`kernel-arm/src/audit_chain.rs`: a `WormLog` in which every class of event has a
fixed quota of individual entries.  Events past the quota are counted, and a
summary entry is committed when the count reaches 1, 4, 16, and so on.
`BoundedAudit.verify` checks the hash chain and the counters against it.
-/

namespace Runix.Arm.AuditChain

open Lib Lib.ByteStrings Citadel Function List

inductive AuditClass where
  | applied
  | dataActivity
  | gateBlocked
  | gateFailClosed
  | capDenialEsim
  | capDenialMvno
  | capDenialData
  | rejected
  | incident
  | cleanPass
deriving DecidableEq, Repr

def maxSummaryCommits : Nat := 8

def summaryGrowth : Nat := 4

def reasonLimit : Nat := 120

def summarySubjectPrefix : String := "audit:summary:"

namespace AuditClass

def all : List AuditClass :=
  [.applied, .dataActivity, .gateBlocked, .gateFailClosed, .capDenialEsim, .capDenialMvno,
    .capDenialData, .rejected, .incident, .cleanPass]

def name : AuditClass → String
  | .applied => "applied"
  | .dataActivity => "data-activity"
  | .gateBlocked => "gate-blocked"
  | .gateFailClosed => "gate-fail-closed"
  | .capDenialEsim => "cap-denial.esim"
  | .capDenialMvno => "cap-denial.mvno"
  | .capDenialData => "cap-denial.data"
  | .rejected => "rejected"
  | .incident => "incident"
  | .cleanPass => "clean-pass"

def quota : AuditClass → Nat
  | .applied => 128
  | .dataActivity => 64
  | .gateBlocked => 24
  | .gateFailClosed => 24
  | .capDenialEsim => 16
  | .capDenialMvno => 16
  | .capDenialData => 16
  | .rejected => 48
  | .incident => 32
  | .cleanPass => 8

end AuditClass

def totalCapacity : Nat :=
  (AuditClass.all.map fun c => c.quota + maxSummaryCommits).sum

inductive AuditOutcome where
  | recorded (auditClass : AuditClass)
  | coalesced (auditClass : AuditClass) (dropped : Nat) (summaryCommitted : Bool)
      (lastReason : String)
deriving DecidableEq, Repr

structure ClassState where
  recorded : Nat
  dropped : Nat
  summaries : Nat
  nextCommitAt : Nat
  lastReason : String
deriving DecidableEq, Repr

def ClassState.new : ClassState where
  recorded := 0
  dropped := 0
  summaries := 0
  nextCommitAt := 1
  lastReason := ""

/-- The longest run of leading characters that fits into `limit` bytes. -/
def takeBytes : Nat → List Char → List Char
  | _, [] => []
  | limit, c :: rest =>
    if c.utf8Size ≤ limit then c :: takeBytes (limit - c.utf8Size) rest else []

def truncate (text : String) (limit : Nat) : String :=
  if text.utf8ByteSize ≤ limit then text
  else String.ofList (takeBytes limit text.toList) ++ "..."

def startsWith (text start : String) : Bool := start.toList.isPrefixOf text.toList

/-- `[ClassState; CLASS_COUNT]` indexed by class. -/
structure BoundedAudit where
  log : WormLog
  classes : AuditClass → ClassState

namespace BoundedAudit

def new : BoundedAudit where
  log := WormLog.new
  classes := fun _ => ClassState.new

section Recording

variable (sha256 : Bytes → Bytes)

variable (audit : BoundedAudit) (auditClass : AuditClass)

def coalesce (reason : String) : AuditOutcome × BoundedAudit :=
  let state := audit.classes auditClass
  let counted : ClassState :=
    { state with
      dropped := Words.saturatingAdd state.dropped 1
      lastReason := truncate reason reasonLimit }
  if counted.summaries < maxSummaryCommits ∧ counted.dropped ≥ counted.nextCommitAt then
    let subject := summarySubjectPrefix ++ auditClass.name
    let text := "class " ++ auditClass.name ++ " coalesced " ++ toString counted.dropped ++
      " event(s), not individually recorded (quota " ++ toString auditClass.quota ++
      ", recorded " ++ toString counted.recorded ++ "); last: " ++ counted.lastReason
    let committed : ClassState :=
      { counted with
        summaries := counted.summaries + 1
        nextCommitAt := Words.saturatingMul counted.nextCommitAt summaryGrowth }
    (.coalesced auditClass counted.dropped true counted.lastReason,
      { log := audit.log.recordLifecycleTransition sha256 subject "individual entries"
          ("coalesced (" ++ toString counted.dropped ++ ")") false (some text)
        classes := update audit.classes auditClass committed })
  else
    (.coalesced auditClass counted.dropped false counted.lastReason,
      { audit with classes := update audit.classes auditClass counted })

def record (subject source target : String)
    (authorized : Bool) (reason : Option String) : AuditOutcome × BoundedAudit :=
  let state := audit.classes auditClass
  if state.recorded < auditClass.quota ∧ audit.log.entries.length < totalCapacity then
    (.recorded auditClass,
      { log := audit.log.recordLifecycleTransition sha256 subject source target authorized reason
        classes := update audit.classes auditClass
          { state with recorded := state.recorded + 1 } })
  else
    let summary := match reason with
      | some text => subject ++ " [" ++ source ++ " -> " ++ target ++ "]: " ++ text
      | none => subject ++ " [" ++ source ++ " -> " ++ target ++ "]"
    audit.coalesce sha256 auditClass summary

def noteCoalesced (reason : String) : AuditOutcome × BoundedAudit :=
  audit.coalesce sha256 auditClass reason

def verify : Bool :=
  audit.log.verifyChain sha256 &&
    AuditClass.all.all (fun c =>
      (audit.classes c).recorded ≤ c.quota && (audit.classes c).summaries ≤ maxSummaryCommits) &&
    audit.log.entries.length ==
      (AuditClass.all.map fun c => (audit.classes c).recorded + (audit.classes c).summaries).sum &&
    audit.log.entries.length ≤ totalCapacity &&
    (audit.log.entries.filter fun e => startsWith e.moduleId summarySubjectPrefix).length ==
      (AuditClass.all.map fun c => (audit.classes c).summaries).sum

end Recording

/-! ## The books balance -/

/-- No class is over its quota or its summaries, and the chain is as long as the
counters say. -/
structure Accounted (audit : BoundedAudit) : Prop where
  quota : ∀ c, (audit.classes c).recorded ≤ c.quota
  summaries : ∀ c, (audit.classes c).summaries ≤ maxSummaryCommits
  appended : audit.log.entries.length =
    (AuditClass.all.map fun c => (audit.classes c).recorded + (audit.classes c).summaries).sum

/-- The chain verifies, no class is over its quota, and the chain holds exactly
the individual and summary entries the counters say it holds. -/
structure Balanced (sha256 : Bytes → Bytes) (audit : BoundedAudit) : Prop where
  chain : audit.log.verifyChain sha256 = true
  quota : ∀ c, (audit.classes c).recorded ≤ c.quota
  summaries : ∀ c, (audit.classes c).summaries ≤ maxSummaryCommits
  appended : audit.log.entries.length =
    (AuditClass.all.map fun c => (audit.classes c).recorded + (audit.classes c).summaries).sum
  summaryEntries :
    (audit.log.entries.filter fun e => startsWith e.moduleId summarySubjectPrefix).length =
      (AuditClass.all.map fun c => (audit.classes c).summaries).sum

variable {sha256 : Bytes → Bytes}

theorem new_balanced : Balanced sha256 new where
  chain := rfl
  quota := fun _ => Nat.zero_le _
  summaries := fun _ => Nat.zero_le _
  appended := rfl
  summaryEntries := rfl

theorem sum_update (f : AuditClass → Nat) (c : AuditClass) (value : Nat) :
    (AuditClass.all.map (update f c value)).sum + f c =
      (AuditClass.all.map f).sum + value := by
  cases c <;> simp [AuditClass.all, update] <;> omega

theorem reading_update (reading : ClassState → Nat) (classes : AuditClass → ClassState)
    (c : AuditClass) (state : ClassState) :
    (fun other => reading (update classes c state other)) =
      update (fun other => reading (classes other)) c (reading state) := by
  funext other
  by_cases same : other = c
  · simp [same]
  · simp [same]

theorem new_accounted : Accounted new where
  quota := fun _ => Nat.zero_le _
  summaries := fun _ => Nat.zero_le _
  appended := rfl

variable {audit : BoundedAudit}

/-- One class's counters change within their bounds, by as much as the chain grows. -/
theorem Accounted.charge (accounted : audit.Accounted) (c : AuditClass) (state : ClassState)
    (log : WormLog) (quota : state.recorded ≤ c.quota)
    (summaries : state.summaries ≤ maxSummaryCommits)
    (grown : log.entries.length + ((audit.classes c).recorded + (audit.classes c).summaries) =
      audit.log.entries.length + (state.recorded + state.summaries)) :
    Accounted { log := log, classes := update audit.classes c state } where
  quota := by
    intro other
    by_cases same : other = c
    · subst same
      simpa using quota
    · simpa [same] using accounted.quota other
  summaries := by
    intro other
    by_cases same : other = c
    · subst same
      simpa using summaries
    · simpa [same] using accounted.summaries other
  appended := by
    have total := sum_update
      (fun other => (audit.classes other).recorded + (audit.classes other).summaries) c
      (state.recorded + state.summaries)
    have before := accounted.appended
    rw [reading_update (fun state => state.recorded + state.summaries)]
    simp only
    omega

theorem Accounted.total_le (accounted : audit.Accounted) :
    audit.log.entries.length ≤ totalCapacity := by
  rw [accounted.appended, totalCapacity]
  refine sum_le_sum fun c _ => ?_
  exact Nat.add_le_add (accounted.quota c) (accounted.summaries c)

theorem Balanced.accounted (balanced : audit.Balanced sha256) : audit.Accounted :=
  ⟨balanced.quota, balanced.summaries, balanced.appended⟩

theorem Balanced.of_accounted (accounted : audit.Accounted)
    (chain : audit.log.verifyChain sha256 = true) (summaryEntries :
      (audit.log.entries.filter fun e => startsWith e.moduleId summarySubjectPrefix).length =
        (AuditClass.all.map fun c => (audit.classes c).summaries).sum) : audit.Balanced sha256 :=
  ⟨chain, accounted.quota, accounted.summaries, accounted.appended, summaryEntries⟩

section

variable (balanced : audit.Balanced sha256) (c : AuditClass)

include balanced

variable (entry : WormRecord) (state : ClassState)

theorem Balanced.summary_entries_record
    (counted : state.summaries = (audit.classes c).summaries +
      (startsWith entry.moduleId summarySubjectPrefix).toNat) :
    ((audit.log.record sha256 entry).entries.filter
        fun e => startsWith e.moduleId summarySubjectPrefix).length =
      (AuditClass.all.map fun other => (update audit.classes c state other).summaries).sum := by
  have total := sum_update (fun other => (audit.classes other).summaries) c state.summaries
  have before := balanced.summaryEntries
  have subject : (audit.log.nextEntry sha256 entry).moduleId = entry.moduleId := rfl
  rw [reading_update ClassState.summaries, WormLog.record_entries, filter_append,
    length_append, filter_singleton, subject]
  cases marked : startsWith entry.moduleId summarySubjectPrefix with
  | false =>
    rw [marked, Bool.toNat_false] at counted
    simp only [cond_false, length_nil]
    omega
  | true =>
    rw [marked, Bool.toNat_true] at counted
    simp only [cond_true, length_singleton]
    omega

theorem Balanced.charge_entry (ordinary : startsWith entry.moduleId summarySubjectPrefix = false)
    (room : (audit.classes c).recorded < c.quota) :
    Balanced sha256
      { log := audit.log.record sha256 entry
        classes := update audit.classes c
          { audit.classes c with recorded := (audit.classes c).recorded + 1 } } := by
  apply Balanced.of_accounted
  · apply balanced.accounted.charge c
    · exact room
    · exact balanced.summaries c
    · simp only [WormLog.record_entries, length_append, length_singleton]
      omega
  · exact WormLog.record_verify_chain balanced.chain entry
  · apply balanced.summary_entries_record c
    rw [ordinary]
    rfl

theorem Balanced.charge_summary (summary : startsWith entry.moduleId summarySubjectPrefix = true)
    (room : (audit.classes c).summaries < maxSummaryCommits)
    (sameRecorded : state.recorded = (audit.classes c).recorded)
    (oneMore : state.summaries = (audit.classes c).summaries + 1) :
    Balanced sha256
      { log := audit.log.record sha256 entry
        classes := update audit.classes c state } := by
  apply Balanced.of_accounted
  · apply balanced.accounted.charge c
    · exact sameRecorded.trans_le (balanced.quota c)
    · exact oneMore.trans_le room
    · simp only [WormLog.record_entries, length_append, length_singleton]
      omega
  · exact WormLog.record_verify_chain balanced.chain entry
  · apply balanced.summary_entries_record c
    rw [summary]
    exact oneMore

theorem Balanced.count_only (sameRecorded : state.recorded = (audit.classes c).recorded)
    (sameSummaries : state.summaries = (audit.classes c).summaries) :
    Balanced sha256 { audit with classes := update audit.classes c state } := by
  apply Balanced.of_accounted
  · apply balanced.accounted.charge c
    · exact sameRecorded.trans_le (balanced.quota c)
    · exact sameSummaries.trans_le (balanced.summaries c)
    · omega
  · exact balanced.chain
  · rw [reading_update ClassState.summaries, sameSummaries, update_eq_self]
    exact balanced.summaryEntries

end

theorem summary_subject_marked (c : AuditClass) :
    startsWith (summarySubjectPrefix ++ c.name) summarySubjectPrefix = true := by
  unfold startsWith
  rw [String.toList_append, isPrefixOf_iff_prefix]
  exact prefix_append _ _

variable (balanced : audit.Balanced sha256)

include balanced

theorem coalesce_balanced (c : AuditClass) (reason : String) :
    (audit.coalesce sha256 c reason).2.Balanced sha256 := by
  unfold coalesce
  simp only
  split_ifs with commit
  · exact balanced.charge_summary c _ _ (summary_subject_marked c) commit.1 rfl rfl
  · exact balanced.count_only c _ rfl rfl

theorem record_balanced (c : AuditClass) (subject source target : String) (authorized : Bool)
    (reason : Option String) (ordinary : startsWith subject summarySubjectPrefix = false) :
    (audit.record sha256 c subject source target authorized reason).2.Balanced sha256 := by
  unfold record
  simp only
  split_ifs with room
  · exact balanced.charge_entry c _ ordinary room.1
  · exact coalesce_balanced balanced c _

theorem Balanced.verify : audit.verify sha256 = true := by
  have withinQuota : ∀ c ∈ AuditClass.all,
      (decide ((audit.classes c).recorded ≤ c.quota) &&
        decide ((audit.classes c).summaries ≤ maxSummaryCommits)) = true := by
    intro c _
    simp [balanced.quota c, balanced.summaries c]
  unfold BoundedAudit.verify
  simp only [Bool.and_eq_true, beq_iff_eq, decide_eq_true_eq, all_eq_true]
  refine ⟨⟨⟨⟨balanced.chain, fun c member => ?_⟩, balanced.appended⟩, balanced.accounted.total_le⟩,
    balanced.summaryEntries⟩
  simpa using withinQuota c member

end BoundedAudit

/-! ## The reconciler's memory -/

inductive CleanPass where
  | record (cleanPasses : Nat)
  | coalesce (cleanPasses : Nat)
deriving DecidableEq, Repr

structure PassPlan where
  fresh : List Bool
  clean : Option CleanPass
deriving DecidableEq, Repr

/-- `previous` is the last pass's key set; only membership is ever asked. -/
structure ReconcileMemory where
  previous : List String
  lastClean : Bool
  passes : Nat
  cleanPasses : Nat
deriving DecidableEq, Repr

namespace ReconcileMemory

def new : ReconcileMemory where
  previous := []
  lastClean := false
  passes := 0
  cleanPasses := 0

/-- A key is fresh when the previous pass did not report it and this pass has
not reported it yet. -/
def freshFlags (previous current : List String) : List String → List Bool
  | [] => []
  | key :: rest =>
    (!previous.contains key && !current.contains key) ::
      freshFlags previous (key :: current) rest

def observe (memory : ReconcileMemory) (keys : List String) : PassPlan × ReconcileMemory :=
  let passes := Words.saturatingAdd memory.passes 1
  let cleanPasses :=
    if keys = [] then Words.saturatingAdd memory.cleanPasses 1 else memory.cleanPasses
  let clean :=
    if keys = [] then
      some (if memory.lastClean then .coalesce cleanPasses else .record cleanPasses)
    else none
  ({ fresh := freshFlags memory.previous [] keys, clean := clean },
    { previous := keys, lastClean := keys = [], passes := passes, cleanPasses := cleanPasses })

end ReconcileMemory

end Runix.Arm.AuditChain
