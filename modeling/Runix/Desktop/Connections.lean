import Mathlib.Logic.Function.Basic
import Runix.Desktop.Proxy
import Runix.Lib.Runs

/-!
# Connections served at once

`serve_listener` of `desktop/src/citadel/proxy.rs` runs every connection on a thread of its
own.  The threads share the evidence log, which is locked for one entry at a time, so the
stages of different requests interleave freely.  The cap on the number of connections only
leaves runs out, and is not modelled.
-/

namespace Runix.Desktop

open Citadel Ipc Lib Lib.ByteStrings Lib.Runs List

/-- How far a connection is with its one request. -/
inductive Stage where
  | waiting
  | received (kerkeseJson : Bytes)
  | vouched (kerkeseJson : Bytes) (envelope : KernelMinimalEnvelope)
  | submitting (kerkeseJson : Bytes) (envelope : KernelMinimalEnvelope) (kerkese : Kerkese)
  | replied (kerkeseJson : Bytes) (response : MarshalResponse)

/-- The stages, the log, what was posted to CITADEL and what it answered, by connection. -/
structure Service where
  stages : Nat → Stage
  log : WormLog
  posted : List (Nat × Kerkese)
  answers : List (Nat × HttpAnswer)

inductive Event where
  | read (id : Nat) (kerkeseJson : Bytes)
  | vet (id : Nat)
  | submit (id : Nat) (executionId : String) (nowUnixSecs : Int)
  | answer (id : Nat) (answer : HttpAnswer)

namespace Service

def start : Service := ⟨fun _ => .waiting, WormLog.new, [], []⟩

variable (service : Service)

def postedBy (id : Nat) : List Kerkese :=
  (service.posted.filter fun entry => entry.1 = id).map Prod.snd

def answersTo (id : Nat) : List HttpAnswer :=
  (service.answers.filter fun entry => entry.1 = id).map Prod.snd

def moveTo (id : Nat) (stage : Stage) : Service :=
  { service with stages := Function.update service.stages id stage }

@[simp]
theorem stages_move_to_self (id : Nat) (stage : Stage) :
    (service.moveTo id stage).stages id = stage :=
  Function.update_self ..

@[simp]
theorem stages_move_to_other {id other : Nat} (differ : other ≠ id) (service : Service)
    (stage : Stage) : (service.moveTo id stage).stages other = service.stages other :=
  Function.update_of_ne differ ..

end Service

def Stage.vetted : Stage → Option Bytes
  | .waiting | .received _ => none
  | .vouched kerkeseJson _ | .submitting kerkeseJson _ _ | .replied kerkeseJson _ =>
    some kerkeseJson

namespace CitadelProxy

variable {SigningKey VerifyingKey : Type} (proxy : CitadelProxy SigningKey VerifyingKey)

variable (service : Service)

/-- One step of the thread of a connection; an event that does not fit its stage does
nothing. -/
def step : Event → Service
  | .read id kerkeseJson =>
    match service.stages id with
    | .waiting => service.moveTo id (.received kerkeseJson)
    | _ => service
  | .vet id =>
    match service.stages id with
    | .received kerkeseJson =>
      let (result, log) := proxy.vet service.log kerkeseJson
      let stage := match result with
        | .error response => .replied kerkeseJson response
        | .ok envelope => .vouched kerkeseJson envelope
      { service.moveTo id stage with log := log }
    | _ => service
  | .submit id executionId nowUnixSecs =>
    match service.stages id with
    | .vouched kerkeseJson envelope =>
      match proxy.enrich envelope executionId nowUnixSecs with
      | .error response => service.moveTo id (.replied kerkeseJson response)
      | .ok (kerkese, _) =>
        let posted := if proxy.url.isSome then [(id, kerkese)] else []
        { service.moveTo id (.submitting kerkeseJson envelope kerkese) with
          posted := service.posted ++ posted }
    | _ => service
  | .answer id answer =>
    match service.stages id with
    | .submitting kerkeseJson _ _ =>
      { service.moveTo id (.replied kerkeseJson (proxy.submitAndTranslate answer)) with
        answers := service.answers ++ [(id, answer)] }
    | _ => service

/-! ## One connection by itself -/

/-- With no other connection in between, a request is answered by `build_response`. -/
theorem alone_builds_response {service : Service} {id : Nat}
    (waiting : service.stages id = .waiting) (kerkeseJson : Bytes) (executionId : String)
    (nowUnixSecs : Int) (answer : HttpAnswer) :
    let after := run proxy.step service
      [.read id kerkeseJson, .vet id, .submit id executionId nowUnixSecs, .answer id answer]
    let built := proxy.buildResponse service.log kerkeseJson executionId nowUnixSecs answer
    after.stages id = .replied kerkeseJson built.1 ∧ after.log = built.2 := by
  simp only [run_cons, run_nil, step, waiting, Service.moveTo, Function.update_self, buildResponse]
  rcases vetted : proxy.vet service.log kerkeseJson with ⟨response | envelope, log⟩
  · simp
  · cases enriched : proxy.enrich envelope executionId nowUnixSecs <;> simp [enriched]

/-! ## What a step can do -/

inductive Moves : Service → Service → Prop where
  | read {service : Service} {id : Nat} {kerkeseJson : Bytes}
      (waiting : service.stages id = .waiting) :
      Moves service (service.moveTo id (.received kerkeseJson))
  | refuse {service : Service} {id : Nat} {kerkeseJson : Bytes} {response : MarshalResponse}
      {log : WormLog} (received : service.stages id = .received kerkeseJson)
      (vetted : proxy.vet service.log kerkeseJson = (.error response, log)) :
      Moves service { service.moveTo id (.replied kerkeseJson response) with log := log }
  | vouch {service : Service} {id : Nat} {kerkeseJson : Bytes}
      {envelope : KernelMinimalEnvelope} {log : WormLog}
      (received : service.stages id = .received kerkeseJson)
      (vetted : proxy.vet service.log kerkeseJson = (.ok envelope, log)) :
      Moves service { service.moveTo id (.vouched kerkeseJson envelope) with log := log }
  | fail {service : Service} {id : Nat} {kerkeseJson : Bytes} {envelope : KernelMinimalEnvelope}
      {executionId : String} {nowUnixSecs : Int} {response : MarshalResponse}
      (vouched : service.stages id = .vouched kerkeseJson envelope)
      (enriched : proxy.enrich envelope executionId nowUnixSecs = .error response) :
      Moves service (service.moveTo id (.replied kerkeseJson response))
  | submit {service : Service} {id : Nat} {kerkeseJson bytes : Bytes}
      {envelope : KernelMinimalEnvelope} {executionId : String} {nowUnixSecs : Int}
      {kerkese : Kerkese} (vouched : service.stages id = .vouched kerkeseJson envelope)
      (enriched : proxy.enrich envelope executionId nowUnixSecs = .ok (kerkese, bytes)) :
      Moves service { service.moveTo id (.submitting kerkeseJson envelope kerkese) with
        posted := service.posted ++ if proxy.url.isSome then [(id, kerkese)] else [] }
  | answer {service : Service} {id : Nat} {kerkeseJson : Bytes}
      {envelope : KernelMinimalEnvelope} {kerkese : Kerkese} {answer : HttpAnswer}
      (submitting : service.stages id = .submitting kerkeseJson envelope kerkese) :
      Moves service { service.moveTo id (.replied kerkeseJson (proxy.submitAndTranslate answer))
        with answers := service.answers ++ [(id, answer)] }

theorem step_moves (event : Event) :
    proxy.step service event = service ∨ proxy.Moves service (proxy.step service event) := by
  cases event with
  | read id kerkeseJson =>
    simp only [step]
    split
    · exact .inr (.read ‹_›)
    · exact .inl rfl
  | vet id =>
    simp only [step]
    split
    · rename_i kerkeseJson received
      rcases vetted : proxy.vet service.log kerkeseJson with ⟨response | envelope, log⟩
      · exact .inr (.refuse received vetted)
      · exact .inr (.vouch received vetted)
    · exact .inl rfl
  | submit id executionId nowUnixSecs =>
    simp only [step]
    split
    · rename_i kerkeseJson envelope vouched
      cases enriched : proxy.enrich envelope executionId nowUnixSecs with
      | error response => exact .inr (.fail vouched enriched)
      | ok submission => exact .inr (.submit vouched enriched)
    · exact .inl rfl
  | answer id answer =>
    simp only [step]
    split
    · exact .inr (.answer ‹_›)
    · exact .inl rfl

theorem run_keeps {invariant : Service → Prop} (initial : invariant Service.start)
    (moves : ∀ before after, proxy.Moves before after → invariant before → invariant after)
    (events : List Event) : invariant (run proxy.step Service.start events) := by
  apply run_invariant proxy.step _ events Service.start initial
  intro service event holds
  obtain same | moved := proxy.step_moves service event
  · rwa [same]
  · exact moves _ _ moved holds

/-! ## What holds of each connection -/

def Vouched (kerkeseJson : Bytes) (envelope : KernelMinimalEnvelope) : Prop :=
  proxy.libs.parseEnvelope kerkeseJson = .ok envelope ∧ check envelope = .ok ()

def Decided (kerkeseJson body : Bytes) (posted : List Kerkese) (answers : List HttpAnswer) :
    Prop :=
  ∃ envelope kerkese status, proxy.Vouched kerkeseJson envelope ∧ posted = [kerkese] ∧
    SameRequest envelope kerkese ∧ answers = [.response status (.complete body)] ∧
    isSuccess status ∧ proxy.libs.parseDecision body = .ok .execute

def Sound (posted : List Kerkese) (answers : List HttpAnswer) : Stage → Prop
  | .waiting | .received _ => posted = [] ∧ answers = []
  | .vouched kerkeseJson envelope =>
    proxy.Vouched kerkeseJson envelope ∧ posted = [] ∧ answers = []
  | .submitting kerkeseJson envelope kerkese =>
    proxy.Vouched kerkeseJson envelope ∧ SameRequest envelope kerkese ∧
      posted = (if proxy.url.isSome then [kerkese] else []) ∧ answers = []
  | .replied kerkeseJson response =>
    (∀ body, response = .decision .execute body →
      proxy.Decided kerkeseJson body posted answers) ∧
      (posted ≠ [] → ∃ envelope, proxy.Vouched kerkeseJson envelope)

def AllSound : Prop :=
  ∀ id, proxy.Sound (service.postedBy id) (service.answersTo id) (service.stages id)

theorem all_sound_move_to {service after : Service} (sound : proxy.AllSound service) (id : Nat)
    (stage : Stage) (stages : after.stages = (service.moveTo id stage).stages)
    (posted : ∀ other, other ≠ id → after.postedBy other = service.postedBy other)
    (answers : ∀ other, other ≠ id → after.answersTo other = service.answersTo other)
    (own : proxy.Sound (after.postedBy id) (after.answersTo id) stage) : proxy.AllSound after := by
  intro other
  by_cases same : other = id
  · subst same
    rwa [stages, Service.stages_move_to_self]
  · rw [stages, Service.stages_move_to_other same, posted other same, answers other same]
    exact sound other

theorem translate_execute {answer : HttpAnswer} {body : Bytes}
    (executes : proxy.submitAndTranslate answer = .decision .execute body) :
    ∃ status, proxy.url.isSome ∧ answer = .response status (.complete body) ∧
      isSuccess status ∧ proxy.libs.parseDecision body = .ok .execute := by
  obtain ⟨found, outcome, submitted, parsed, decided⟩ | ⟨cause, failed, -⟩ :=
    translate_cases proxy answer
  · rw [executes, MarshalResponse.decision.injEq] at decided
    obtain ⟨outcomes, rfl⟩ := decided
    have execute : outcome = .execute := by
      cases outcome <;> first | rfl | simp [toMarshalOutcome] at outcomes
    subst execute
    obtain ⟨status, rfl, succeeded | ⟨-, denied⟩⟩ := submit_ok submitted
    · refine ⟨status, ?_, rfl, succeeded, parsed⟩
      cases configured : proxy.url with
      | none => simp [configured, Libraries.submit] at submitted
      | some endpoint => rfl
    · simp [parsed] at denied
  · rw [executes] at failed
    simp at failed

variable {before after : Service}

theorem moves_all_sound (moved : proxy.Moves before after)
    (sound : proxy.AllSound before) : proxy.AllSound after := by
  cases moved with
  | @read id kerkeseJson waiting =>
    refine proxy.all_sound_move_to sound id _ rfl (fun _ _ => rfl) (fun _ _ => rfl) ?_
    have own := sound id
    rw [waiting] at own
    exact own
  | @refuse id kerkeseJson response log received vetted =>
    refine proxy.all_sound_move_to sound id _ rfl (fun _ _ => rfl) (fun _ _ => rfl) ?_
    have own := sound id
    rw [received] at own
    obtain ⟨cause, rfl, -⟩ := vet_error vetted
    exact ⟨fun _ decision => by simp at decision, fun posted => absurd own.1 posted⟩
  | @vouch id kerkeseJson envelope log received vetted =>
    refine proxy.all_sound_move_to sound id _ rfl (fun _ _ => rfl) (fun _ _ => rfl) ?_
    have own := sound id
    rw [received] at own
    exact ⟨vet_ok vetted, own⟩
  | @fail id kerkeseJson envelope executionId nowUnixSecs response vouched enriched =>
    refine proxy.all_sound_move_to sound id _ rfl (fun _ _ => rfl) (fun _ _ => rfl) ?_
    have own := sound id
    rw [vouched] at own
    obtain ⟨cause, rfl, -⟩ := enrich_error enriched
    exact ⟨fun _ decision => by simp at decision, fun posted => absurd own.2.1 posted⟩
  | @submit id kerkeseJson bytes envelope executionId nowUnixSecs kerkese vouched enriched =>
    have own := sound id
    rw [vouched] at own
    obtain ⟨rfl, -⟩ := enrich_ok enriched
    refine proxy.all_sound_move_to sound id _ rfl ?_ (fun _ _ => rfl) ?_
    · intro other differ
      have none : ((if proxy.url.isSome then [(id, buildEnrichedEnvelope proxy.ed25519 envelope
          executionId nowUnixSecs proxy.signingKey)] else []).filter
          fun entry => entry.1 = other) = [] := by
        split_ifs <;> simp [differ.symm]
      simp [Service.postedBy, none]
    · refine ⟨own.1, enriched_same_request _ own.1.2 _ _ _, ?_, own.2.2⟩
      have before := own.2.1
      simp only [Service.postedBy, filter_append, map_append] at before ⊢
      rw [before]
      split_ifs <;> simp
  | @answer id kerkeseJson envelope kerkese answer submitting =>
    have own := sound id
    rw [submitting] at own
    obtain ⟨vouched, same, posted, silent⟩ := own
    refine proxy.all_sound_move_to sound id _ rfl (fun _ _ => rfl) ?_ ?_
    · intro other differ
      simp [Service.answersTo, differ.symm]
    · refine ⟨?_, fun _ => ⟨envelope, vouched⟩⟩
      intro body executes
      obtain ⟨status, configured, rfl, succeeded, parsed⟩ := proxy.translate_execute executes
      rw [if_pos configured] at posted
      refine ⟨envelope, kerkese, status, vouched, posted, same, ?_, succeeded, parsed⟩
      simp only [Service.answersTo, filter_append, map_append] at silent ⊢
      rw [silent]
      simp

/-! ## The log -/

def Logged : Prop :=
  ∃ order : List (Nat × KernelMinimalEnvelope),
    (order.map Prod.fst).Nodup ∧
    (∀ id envelope, (id, envelope) ∈ order ↔
      ∃ kerkeseJson, (service.stages id).vetted = some kerkeseJson ∧
        proxy.libs.parseEnvelope kerkeseJson = .ok envelope) ∧
    service.log = WormLog.new.recordAll proxy.sha256
      (order.map fun entry => proxy.verification entry.2)

theorem logged_unchanged (logged : proxy.Logged before) (log : after.log = before.log)
    (vetted : ∀ id, (after.stages id).vetted = (before.stages id).vetted) : proxy.Logged after := by
  obtain ⟨order, unique, listed, holds⟩ := logged
  refine ⟨order, unique, ?_, log.trans holds⟩
  intro id envelope
  rw [listed id envelope, vetted id]

theorem logged_vet {before : Service} (logged : proxy.Logged before) {id : Nat} {stage : Stage}
    {kerkeseJson : Bytes} {log : WormLog} (received : before.stages id = .received kerkeseJson)
    (vetted : stage.vetted = some kerkeseJson)
    (recorded : (proxy.vet before.log kerkeseJson).2 = log) :
    proxy.Logged { before.moveTo id stage with log := log } := by
  obtain ⟨order, unique, listed, holds⟩ := logged
  have fresh : (before.stages id).vetted = none := by rw [received, Stage.vetted]
  rw [vet_log] at recorded
  subst recorded
  cases parsed : proxy.libs.parseEnvelope kerkeseJson with
  | error text =>
    refine ⟨order, unique, ?_, holds⟩
    intro other envelope
    rw [listed]
    by_cases same : other = id
    · subst same
      simp [fresh, vetted, parsed]
    · simp [same]
  | ok envelope =>
    have absent : ∀ found, (id, found) ∉ order := by
      intro found member
      obtain ⟨_, already, -⟩ := (listed id found).mp member
      simp [fresh] at already
    refine ⟨order ++ [(id, envelope)], ?_, ?_, ?_⟩
    · rw [map_append, nodup_append]
      refine ⟨unique, by simp, ?_⟩
      rintro _ member _ single rfl
      obtain ⟨⟨_, found⟩, listed, rfl⟩ := mem_map.mp member
      simp only [map_cons, map_nil, mem_singleton] at single
      subst single
      exact absent found listed
    · intro other found
      rw [mem_append, listed]
      by_cases same : other = id
      · subst same
        simp [fresh, vetted, parsed, eq_comm]
      · simp [same]
    · simp only [map_append, map_cons, map_nil, WormLog.recordAll,
        foldl_append, foldl_cons, foldl_nil]
      rw [holds]
      rfl

theorem moves_logged (moved : proxy.Moves before after)
    (logged : proxy.Logged before) : proxy.Logged after := by
  have kept {id : Nat} {stage : Stage} (same : stage.vetted = (before.stages id).vetted)
      (other : Nat) :
      ((before.moveTo id stage).stages other).vetted = (before.stages other).vetted := by
    by_cases own : other = id
    · subst own
      rw [Service.stages_move_to_self, same]
    · rw [Service.stages_move_to_other own]
  cases moved with
  | read waiting => exact proxy.logged_unchanged logged rfl (kept (by simp [waiting, Stage.vetted]))
  | refuse received vetted =>
    exact proxy.logged_vet logged received rfl (congrArg Prod.snd vetted)
  | vouch received vetted =>
    exact proxy.logged_vet logged received rfl (congrArg Prod.snd vetted)
  | fail vouched enriched =>
    exact proxy.logged_unchanged logged rfl (kept (by rw [vouched]; rfl))
  | submit vouched enriched =>
    exact proxy.logged_unchanged logged rfl (kept (by rw [vouched]; rfl))
  | answer submitting =>
    exact proxy.logged_unchanged logged rfl (kept (by rw [submitting]; rfl))

/-! ## Every run -/

theorem start_all_sound : proxy.AllSound Service.start := fun _ => ⟨rfl, rfl⟩

theorem start_logged : proxy.Logged Service.start := by
  refine ⟨[], nodup_nil, ?_, rfl⟩
  simp [Service.start, Stage.vetted]

theorem posted_vetted {service : Service} (sound : proxy.AllSound service) {id : Nat}
    {kerkese : Kerkese} (member : (id, kerkese) ∈ service.posted) :
    ∃ kerkeseJson envelope, (service.stages id).vetted = some kerkeseJson ∧
      proxy.libs.parseEnvelope kerkeseJson = .ok envelope ∧ check envelope = .ok () := by
  have posted : service.postedBy id ≠ [] := by
    apply ne_nil_of_mem (a := kerkese)
    exact mem_map.mpr ⟨(id, kerkese), mem_filter.mpr ⟨member, by simp⟩, rfl⟩
  have own := sound id
  cases stage : service.stages id with
  | waiting =>
    rw [stage] at own
    exact absurd own.1 posted
  | received kerkeseJson =>
    rw [stage] at own
    exact absurd own.1 posted
  | vouched kerkeseJson envelope =>
    rw [stage] at own
    exact absurd own.2.1 posted
  | submitting kerkeseJson envelope kerkese =>
    rw [stage] at own
    exact ⟨kerkeseJson, envelope, rfl, own.1⟩
  | replied kerkeseJson response =>
    rw [stage] at own
    obtain ⟨envelope, vouched⟩ := own.2 posted
    exact ⟨kerkeseJson, envelope, rfl, vouched⟩

/-- In every interleaving of the connections: a decision to execute rests on a request that
was parsed, checked and posted once, and on a success that decides to execute; what is
posted was parsed and checked; and the log holds one entry for each request that was
checked, with its result, and verifies. -/
theorem served_requests_vouched (events : List Event) :
    let service := run proxy.step Service.start events
    (∀ id kerkeseJson body,
      service.stages id = .replied kerkeseJson (.decision .execute body) →
      proxy.Decided kerkeseJson body (service.postedBy id) (service.answersTo id)) ∧
    (∀ id kerkese, (id, kerkese) ∈ service.posted →
      ∃ kerkeseJson envelope, (service.stages id).vetted = some kerkeseJson ∧
        proxy.libs.parseEnvelope kerkeseJson = .ok envelope ∧ check envelope = .ok ()) ∧
    (∃ order : List (Nat × KernelMinimalEnvelope),
      (order.map Prod.fst).Nodup ∧
      (∀ id envelope, (id, envelope) ∈ order ↔
        ∃ kerkeseJson, (service.stages id).vetted = some kerkeseJson ∧
          proxy.libs.parseEnvelope kerkeseJson = .ok envelope) ∧
      service.log.entries.map WormEntry.toWormRecord =
        order.map fun entry => proxy.verification entry.2) ∧
    service.log.verifyChain proxy.sha256 = true := by
  intro service
  have sound : proxy.AllSound service :=
    proxy.run_keeps proxy.start_all_sound (fun _ _ => proxy.moves_all_sound) events
  obtain ⟨order, unique, listed, log⟩ : proxy.Logged service :=
    proxy.run_keeps proxy.start_logged (fun _ _ => proxy.moves_logged) events
  refine ⟨?decided, ?posted, ⟨order, unique, listed, ?entries⟩, ?chain⟩
  case decided =>
    intro id kerkeseJson body replied
    have own := sound id
    rw [replied] at own
    exact own.1 body rfl
  case posted => exact fun id kerkese member => proxy.posted_vetted sound member
  case entries =>
    rw [log, WormLog.record_all_records]
    rfl
  case chain =>
    rw [log]
    exact WormLog.record_all_verify_chain WormLog.new_verify_chain _

end CitadelProxy

end Runix.Desktop
