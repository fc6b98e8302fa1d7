import Runix.BlkDriver.Fat32
import Runix.Lib.Runs

/-!
# The file server after a timeout

Errors of the device travel up as missing values.  The walks are judged with a ghost
value that says whether the device is lost: a lookup that lost it finds nothing, and
no walk panics or asks for more than reads.
-/

namespace Runix.BlkDriver

open Lib.ByteStrings Lib.Programs Ipc Capability BlkDevice

variable {Hardware Value State Ghost : Type}

section Walks

variable {admits : Ghost → (question : Question) → question.Answer → Ghost → Prop}
variable {asks : Question → Prop} (lost : Ghost → Prop)
variable (slotStep : State → Bytes → Scan State) (info : BootSectorInfo)
variable (reads : ∀ sector, asks (.read sector))
variable (refused : ∀ ghost sector answer after, admits ghost (.read sector) answer after →
  lost after → answer = none)

include reads refused

theorem scanSectors_meets (sector0 : Nat) (sectors : List Nat) (state : State) (ghost : Ghost) :
    (scanSectors slotStep sector0 sectors state).Meets admits asks
      (fun scan after => lost after → ∀ entry, scan ≠ .stop (some entry)) ghost := by
  induction sectors generalizing state ghost with
  | nil => exact fun _ _ => nofun
  | cons s rest ih =>
    refine ⟨reads _, fun read after fine => ?_⟩
    cases read with
    | none => exact fun _ _ => nofun
    | some sector =>
      have present : ¬ lost after := fun gone => nomatch refused _ _ _ _ fine gone
      dsimp only [Program.bind]
      cases scanSlots slotStep state (slots sector) with
      | stop found => exact fun gone => absurd gone present
      | more next => exact ih _ _

theorem nextClusterInChain_meets (cluster : Nat) (ghost : Ghost) :
    (nextClusterInChain info cluster).Meets admits asks
      (fun next after => lost after → next = none) ghost := by
  unfold nextClusterInChain
  split
  · exact fun _ => rfl
  split
  · exact fun _ => rfl
  refine ⟨reads _, fun read after fine => ?_⟩
  cases read with
  | none => exact fun _ => rfl
  | some sector => exact fun gone => nomatch refused _ _ _ _ fine gone

theorem walkDirectory_meets (fuel cluster : Nat) (state : State) (ghost : Ghost) :
    (walkDirectory slotStep info fuel cluster state).Meets admits asks
      (fun found after => lost after → found = none) ghost := by
  induction fuel generalizing cluster state ghost with
  | zero => exact fun _ => rfl
  | succ fuel ih =>
    unfold walkDirectory
    split
    · exact fun _ => rfl
    refine (scanSectors_meets lost slotStep reads refused _ _ state ghost).bind
      fun scan after scanned => ?_
    cases scan with
    | stop found =>
      intro gone
      cases found with
      | none => rfl
      | some entry => exact absurd rfl (scanned gone entry)
    | more next =>
      refine (nextClusterInChain_meets lost info reads refused cluster after).bind
        fun following last chained => ?_
      cases following with
      | none => exact fun _ => rfl
      | some following =>
        dsimp only
        split
        · exact fun _ => rfl
        · exact ih _ _ _

theorem findEntryByShortName_meets (dirCluster : Nat) (name : String) (ghost : Ghost) :
    (findEntryByShortName info dirCluster name).Meets admits asks
      (fun found after => lost after → found = none) ghost := by
  unfold findEntryByShortName
  split
  · exact walkDirectory_meets lost _ _ reads refused _ _ _ _
  · exact fun _ => rfl

theorem findEntryByDisplayName_meets (dirCluster : Nat) (name : String) (ghost : Ghost) :
    (findEntryByDisplayName info dirCluster name).Meets admits asks
      (fun found after => lost after → found = none) ghost := by
  refine (findEntryByShortName_meets lost info reads refused dirCluster name ghost).bind
    fun found after short => ?_
  cases found with
  | none => exact walkDirectory_meets lost _ _ reads refused _ _ _ _
  | some entry => exact short

omit refused

theorem readSectors_meets {readLen bufLen : Nat} (fits : readLen ≤ bufLen) (sector0 : Nat)
    (sectors : List Nat) (written : Bytes) (ghost : Ghost) :
    (readSectors readLen bufLen sector0 sectors written).Meets admits asks
      (fun _ _ => True) ghost := by
  induction sectors generalizing written ghost with
  | nil => trivial
  | cons s rest ih =>
    unfold readSectors
    split
    · trivial
    refine ⟨reads _, fun read after _ => ?_⟩
    cases read with
    | none => trivial
    | some sector =>
      -- The part copied ends where the file or the buffer does.
      have inside : written.length + min (readLen - written.length) sectorSize ≤ bufLen := by
        omega
      change Program.Meets admits asks _ (if _ then _ else _) after
      rw [if_pos inside]
      exact ih _ _

theorem readClusters_meets {readLen bufLen : Nat} (fits : readLen ≤ bufLen)
    (fuel cluster : Nat) (written : Bytes) (ghost : Ghost) :
    (readClusters info readLen bufLen fuel cluster written).Meets admits asks
      (fun _ _ => True) ghost := by
  induction fuel generalizing cluster written ghost with
  | zero => trivial
  | succ fuel ih =>
    unfold readClusters
    split
    · trivial
    split
    · trivial
    refine (readSectors_meets reads fits _ _ written ghost).bind fun part after _ => ?_
    rcases part with ⟨_ | _, written⟩
    · trivial
    dsimp only
    split
    · trivial
    refine (nextClusterInChain_meets (fun _ => False) info reads (fun _ _ _ _ _ => False.elim)
      cluster after).bind fun following last _ => ?_
    cases following with
    | none => trivial
    | some next =>
      dsimp only
      split
      · trivial
      · exact ih _ _ _

theorem readFileContents_meets (entry : ShortDirEntry) (bufLen : Nat) (ghost : Ghost) :
    (readFileContents info entry bufLen).Meets admits asks (fun _ _ => True) ghost :=
  readClusters_meets info reads (Nat.min_le_right _ _) _ _ _ _

end Walks

section Server

variable (respond : Hardware → Command → Reply × Hardware) (info : BootSectorInfo)

/-- A request and the token check in force when it is served. -/
structure FsCall where
  verifyFileToken : CapabilityToken → String → Bool
  request : FsRequest

/-- An authorised read, or an authorised write of one whole sector. -/
def FsCall.Authorised (call : FsCall) : Prop :=
  match call.request with
  | .read name token => call.verifyFileToken token name = true
  | .write name token data => call.verifyFileToken token name = true ∧ data.length = sectorSize

def FsCall.program (call : FsCall) : DiskProgram FsResponse :=
  handleRequest info call.verifyFileToken call.request

def serveCall (dev : BlkDevice Hardware) (call : FsCall) : BlkDevice Hardware :=
  (exec respond (call.program info) dev).2

variable {info}

/-- What a device that can be lost answers: nothing from the poll that loses it on. -/
def Answered (lost : Bool) : (question : Question) → question.Answer → Bool → Prop
  | .read _, answer, after => (lost = true → after = true) ∧ (after = true → answer = none)
  | .write _ _, answer, after => (lost = true → after = true) ∧ (after = true → answer = false)
  | .isFaulted, answer, after => answer = lost ∧ after = lost

theorem serve_answered (question : Question) (dev : BlkDevice Hardware) :
    Answered dev.isFaulted question (serve respond question dev).1
      (serve respond question dev).2.isFaulted := by
  cases before : dev.isFaulted with
  | true =>
    rw [serve_faulted respond before]
    cases question <;> simp [Answered, Question.refused, before]
  | false =>
    obtain ⟨_, _, ⟨stays, _⟩ | ⟨_, _, refused⟩⟩ := serve_healthy respond question before
    · cases question <;> simp_all [Answered, serve]
    · cases question <;> simp_all [Answered, Question.refused, serve]

/-- A poll that gave up is the last access of all, and the device is quarantined. -/
def Quarantined (dev : BlkDevice Hardware) : Prop :=
  ∀ earlier later, dev.touches = earlier ++ .timedOut :: later →
    later = [] ∧ dev.isFaulted = true

variable {dev : BlkDevice Hardware}

theorem Quarantined.faulted (quarantined : Quarantined dev)
    (timedOut : .timedOut ∈ dev.touches) : dev.isFaulted = true := by
  obtain ⟨earlier, later, touched⟩ := List.append_of_mem timedOut
  exact (quarantined earlier later touched).2

theorem serve_quarantined (question : Question) (dev : BlkDevice Hardware)
    (before : Quarantined dev) : Quarantined (serve respond question dev).2 := by
  cases faulted : dev.isFaulted with
  | true =>
    rw [serve_faulted respond faulted]
    exact before
  | false =>
    have clean : .timedOut ∉ dev.touches := fun timedOut =>
      absurd (before.faulted timedOut) (by simp [faulted])
    obtain ⟨accesses, none, ⟨_, touched⟩ | ⟨lost, touched, _⟩⟩ :=
      serve_healthy respond question faulted
    · intro earlier later same
      have timedOut : .timedOut ∈ dev.touches ++ accesses := by
        rw [← touched, same]
        simp
      exact absurd timedOut (by simp [clean, none])
    intro earlier later same
    refine ⟨?_, lost⟩
    rcases List.eq_nil_or_concat later with nil | ⟨front, last, split⟩
    · exact nil
    -- The poll would stand before the last access.
    rw [touched, split, List.concat_eq_append, ← List.cons_append, ← List.append_assoc] at same
    have timedOut : .timedOut ∈ dev.touches ++ accesses := by
      rw [List.append_inj_left' same rfl]
      simp
    exact absurd timedOut (by simp [clean, none])

variable {post : Value → Bool → Prop}

theorem answered_run {program : DiskProgram Value}
    (meets : program.Meets Answered (fun _ => True) post dev.isFaulted) :
    ∃ value, (exec respond program dev).1 = some value ∧
      post value (exec respond program dev).2.isFaulted := by
  obtain ⟨value, after, result, holds, rfl⟩ := meets.run (serve respond)
    (fun dev lost => dev.isFaulted = lost)
    (fun question dev lost same _ => ⟨_, same ▸ serve_answered respond question dev, rfl⟩) dev rfl
  exact ⟨value, result, holds⟩

theorem isFaulted_meets {rest : Bool → DiskProgram Value}
    {lost : Bool} (then' : (rest lost).Meets Answered (fun _ => True) post lost) :
    (DiskProgram.isFaulted >>= rest).Meets Answered (fun _ => True) post lost := by
  refine ⟨trivial, ?_⟩
  rintro answer after ⟨rfl, rfl⟩
  exact then'

def Failed (answer : FsResponse) (lost : Bool) : Prop :=
  lost = true → answer = .error .deviceFailed

theorem missing_meets (lost : Bool) : missing.Meets Answered (fun _ => True) Failed lost := by
  apply isFaulted_meets
  cases lost with
  | false => exact nofun
  | true => exact fun _ => rfl

theorem read_refused (lost : Bool) (sector : Nat) (answer : Option Sector) (after : Bool)
    (answered : Answered lost (.read sector) answer after) (gone : after = true) : answer = none :=
  answered.2 gone

section

variable {verify : CapabilityToken → String → Bool} {name : String} {token : CapabilityToken}
  (granted : verify token name = true)

include granted

theorem handleReadIpcRequest_meets (lost : Bool) :
    (handleReadIpcRequest info verify name token).Meets Answered (fun _ => True) Failed lost := by
  simp only [handleReadIpcRequest, granted, Bool.not_true, Bool.false_eq_true, if_false]
  apply isFaulted_meets
  cases lost with
  | true => exact fun _ => rfl
  | false =>
    refine (findEntryByDisplayName_meets (· = true) info (fun _ => trivial) read_refused _ name
      false).bind fun found after looked => ?_
    cases found with
    | none => exact missing_meets after
    | some entry =>
      have kept : ¬ after = true := fun gone => nomatch looked gone
      dsimp only
      split
      · exact fun gone => absurd gone kept
      refine (readFileContents_meets info (fun _ => trivial) entry maxFileBytes after).bind
        fun written last _ => isFaulted_meets ?_
      cases last with
      | true => exact fun _ => rfl
      | false => exact nofun

theorem handleWriteIpcRequest_meets {data : Bytes} (size : data.length = sectorSize) (lost : Bool) :
    (handleWriteIpcRequest info verify name token data).Meets Answered (fun _ => True) Failed
      lost := by
  simp only [handleWriteIpcRequest, granted, Bool.not_true, Bool.false_eq_true, if_false, size,
    dite_true]
  apply isFaulted_meets
  cases lost with
  | true => exact fun _ => rfl
  | false =>
    have resolved : (resolveSingleSectorFileByName info name).Meets Answered (fun _ => True)
        (fun _ _ => True) false := by
      unfold resolveSingleSectorFileByName
      split
      · refine (walkDirectory_meets (fun _ => False) _ info (fun _ => trivial)
          (fun _ _ _ _ _ => False.elim) _ _ _ _).bind fun found after _ => ?_
        cases found <;> trivial
      · trivial
    refine resolved.bind fun found after _ => ?_
    cases found with
    | none => exact missing_meets after
    | some sector =>
      refine ⟨trivial, fun done last answered => ?_⟩
      cases last with
      | false => cases done <;> exact nofun
      | true =>
        have undone : done = false := answered.2 rfl
        rw [undone]
        exact fun _ => rfl

end

theorem FsCall.Authorised.meets {call : FsCall} (authorised : call.Authorised) (lost : Bool) :
    (call.program info).Meets Answered (fun _ => True) Failed lost := by
  rcases call with ⟨verify, ⟨name, token⟩ | ⟨name, token, data⟩⟩
  · exact handleReadIpcRequest_meets authorised lost
  · exact handleWriteIpcRequest_meets authorised.1 authorised.2 lost

/-- However the device behaves, a poll that gave up is the last access of the run, and every
authorised request answered from then on, the one being served included, is answered with a
failed device. -/
theorem timeout_quarantines (hardware : Hardware) (calls : List FsCall) :
    (∀ earlier later,
      (Lib.Runs.run (serveCall respond info) ⟨.healthy, hardware, []⟩ calls).touches =
        earlier ++ .timedOut :: later → later = []) ∧
    ∀ earlier call later, calls = earlier ++ call :: later → call.Authorised →
      .timedOut ∈ (Lib.Runs.run (serveCall respond info) ⟨.healthy, hardware, []⟩
        (earlier ++ [call])).touches →
      (exec respond (call.program info)
        (Lib.Runs.run (serveCall respond info) ⟨.healthy, hardware, []⟩ earlier)).1 =
        some (.error .deviceFailed) := by
  have kept : ∀ calls, Quarantined
      (Lib.Runs.run (serveCall respond info) ⟨.healthy, hardware, []⟩ calls) := by
    intro calls
    refine Lib.Runs.run_invariant _ (fun dev call before => ?_) calls _ (by simp [Quarantined])
    exact Program.run_invariant Quarantined (serve_quarantined respond) _ before
  constructor
  · intro earlier later touched
    exact (kept calls earlier later touched).1
  · intro earlier call later _ authorised timedOut
    have lost := (kept (earlier ++ [call])).faulted timedOut
    rw [Lib.Runs.run_snoc] at lost
    obtain ⟨answer, result, failed⟩ := answered_run respond (authorised.meets _)
    rw [result, failed lost]

/-- A device that never answers: the second request finds it quarantined. -/
theorem stalled_device_quarantined :
    let call : FsCall := ⟨fun _ _ => true, .read "A" ⟨"", "", 0, 0, "", ""⟩⟩
    let stalled : Unit → Command → Reply × Unit := fun _ _ => (.timeout, ())
    let info : BootSectorInfo := ⟨512, 1, 1, 1, 2, 1, 2, 0, by decide, by decide, by decide,
      by decide, by decide, by decide, by decide⟩
    (exec stalled (call.program info) (Lib.Runs.run (serveCall stalled info)
      ⟨.healthy, (), []⟩ [call])).1 = some (.error .deviceFailed) := by
  intro call stalled info
  exact (timeout_quarantines stalled () [call, call]).2 [call] call [] rfl rfl (by decide +kernel)

end Server

end Runix.BlkDriver
