import Runix.Citadel.Issuance
import Runix.Kernel.MarshalClient

/-!
# Spawning grid sandbox instances

`kernel/src/grid_sandbox.rs` and `demo_authorize_instance` of `kernel/src/citadel.rs`: an
instance is authorized by its allowlist, then evaluated by MARSHAL, and loaded when
neither refuses.  What is loaded is not modelled.
-/

namespace Runix.Kernel

open Citadel Ipc NetDriver Lib Lib.ByteStrings List

/-! ## The request -/

def backslash : Char := Char.ofNat 0x5c

def escapeChar (c : Char) : List Char :=
  if c.toNat = 0x22 then [backslash, c]
  else if c.toNat = 0x5c then [backslash, c]
  else if c.toNat < 0x20 then
    [backslash, 'u', '0', '0', Nat.digitChar (c.toNat / 16), Nat.digitChar (c.toNat % 16)]
  else [c]

def jsonEscape (text : String) : String := String.ofList (text.toList.flatMap escapeChar)

def jsonEscapeInto (out text : String) : String := out ++ jsonEscape text

def kerkeseHead : String :=
  "\x7b\"kerkese_version\":\"1.0\",\"dry_run\":true," ++
    "\"action\":\x7b\"type\":\"grid_sandbox.spawn_instance\",\"module_id\":\""

def instanceMember : String := "\",\"instance_id\":\""

def actorMembers : String :=
  "\"\x7d,\"actor\":\x7b\"user_id\":\"kernel:grid_sandbox\",\"role\":\"operator\"\x7d," ++
    "\"execution_id\":\""

def buildSpawnKerkeseJson (moduleId instanceId : String) : String :=
  let out := jsonEscapeInto kerkeseHead moduleId
  let out := out ++ instanceMember
  let out := jsonEscapeInto out instanceId
  let out := out ++ actorMembers
  let out := jsonEscapeInto out instanceId
  out ++ "\"\x7d"

/-! ## The gates -/

inductive MarshalEnforcementError where
  | blocked (outcome : ShadowMarshalOutcome)
  | faultyReply
deriving DecidableEq, Repr

inductive SpawnInstanceError where
  | authorization (cause : CitadelError)
  | marshalEnforcement (cause : MarshalEnforcementError)
deriving DecidableEq, Repr

def shadowMarshalMaxIters : Nat := 2000

def gridModule : String := "grid-sandbox-host"

/-- The host's keys, hash and module, the proxy and budget it is configured with, and the
thread that spawns. -/
structure GridHost (SigningKey VerifyingKey : Type) where
  ed25519 : Signatures.Scheme SigningKey VerifyingKey
  sha256 : Bytes → Bytes
  demoSigningKey : SigningKey
  elf : Bytes
  proxy : Option Endpoint
  maxItersOverride : Option Nat
  caller : Caller

structure Sandbox where
  world : World
  shadowLog : WormLog

/-- How the response of an evaluation is recorded; no response is an outage. -/
def shadowOutcome (response : Option MarshalResponse) : ShadowMarshalOutcome :=
  match response with
  | some (.decision .execute _) => .execute
  | some (.decision .refuse _) => .refuse
  | some (.decision .hardStop _) => .hardStop
  | some (.error (.policyRefused _)) => .refuse
  | some (.error (.badResponse _)) => .faulty
  | some (.error (.other _)) => .faulty
  | some (.error (.unreachable _)) => .unreachable
  | some (.error .timeout) => .unreachable
  | none => .unreachable

def enforceMarshalDecision (outcome : ShadowMarshalOutcome) :
    Except MarshalEnforcementError Unit :=
  match outcome with
  | .unreachable => .ok ()
  | .execute => .ok ()
  | .faulty => .error .faultyReply
  | .refuse | .hardStop => .error (.blocked outcome)

namespace GridHost

variable {SigningKey VerifyingKey : Type} (host : GridHost SigningKey VerifyingKey)

def maxIters : Nat := host.maxItersOverride.getD shadowMarshalMaxIters

variable (moduleId instanceId : String)

def demoInstanceAllowlist (moduleBytes : Bytes) (tier : SandboxTier) : InstanceAllowlist :=
  InstanceAllowlist.new.insert
    (InstanceManifestEntry.issue host.ed25519 moduleId instanceId
      (Base16.encode (host.sha256 moduleBytes)) tier "demo-key" host.demoSigningKey)

def demoAuthorizeInstance (moduleBytes : Bytes)
    (tier : SandboxTier) : Except CitadelError SandboxTier :=
  ((host.demoInstanceAllowlist moduleId instanceId moduleBytes tier).authorizeInstanceLoad
    host.ed25519 host.sha256 (host.ed25519.verifyingKey host.demoSigningKey) moduleId instanceId
    moduleBytes).1

def spawnRequest : MarshalRequest :=
  ⟨utf8 (buildSpawnKerkeseJson moduleId instanceId)⟩

def shadowMarshalEvaluate (network : Network) (moduleId instanceId : String)
    (sandbox : Sandbox) : ShadowMarshalOutcome × Sandbox :=
  let (outcome, world) := match host.proxy with
    | none => (.unreachable, sandbox.world)
    | some endpoint =>
      let (response, world) := evaluate network host.caller endpoint
        (spawnRequest moduleId instanceId) host.maxIters sandbox.world
      (shadowOutcome response, world)
  (outcome,
    { world := world
      shadowLog := sandbox.shadowLog.recordShadowMarshalEvaluation host.sha256 moduleId
        instanceId outcome })

/-- The tier at which the instance goes on to be loaded. -/
def spawnInstance (network : Network) (instanceId : String) (tier : SandboxTier)
    (sandbox : Sandbox) : Except SpawnInstanceError SandboxTier × Sandbox :=
  match host.demoAuthorizeInstance gridModule instanceId host.elf tier with
  | .error cause => (.error (.authorization cause), sandbox)
  | .ok granted =>
    let (outcome, evaluated) :=
      host.shadowMarshalEvaluate network gridModule instanceId sandbox
    match enforceMarshalDecision outcome with
    | .error cause => (.error (.marshalEnforcement cause), evaluated)
    | .ok () => (.ok granted, evaluated)

end GridHost

/-! ## The length of a request -/

variable (instanceId : String)

theorem request_length : (GridHost.spawnRequest gridModule instanceId).encode.length =
      219 + 2 * (utf8 (jsonEscape instanceId)).length := by
  have head : (utf8 kerkeseHead).length = 100 := by decide
  have escaped : (utf8 (jsonEscape gridModule)).length = 17 := by decide
  have member : (utf8 instanceMember).length = 17 := by decide
  have actor : (utf8 actorMembers).length = 79 := by decide
  have closing : (utf8 "\"\x7d").length = 2 := by decide
  simp only [GridHost.spawnRequest, MarshalRequest.encode, encodeBytes, buildSpawnKerkeseJson,
    jsonEscapeInto, utf8_append, length_append, le_bytes_length, head, escaped, member,
    actor, closing]
  omega

/-- The instance's name, escaped, leaves the request within the send buffer. -/
def ShortName : Prop := (utf8 (jsonEscape instanceId)).length ≤ 18

instance (instanceId : String) : Decidable (ShortName instanceId) :=
  inferInstanceAs (Decidable (_ ≤ _))

theorem request_fits_iff :
    (GridHost.spawnRequest gridModule instanceId).encode.length ≤ tcpBufferSize ↔
      ShortName instanceId := by
  rw [request_length, ShortName, tcpBufferSize]
  omega

/-! ## One call with a refusing proxy -/

/-- The proxy is reached and answers every request with a refusal, within the polls of
one evaluation. -/
structure RefusingProxy (network : Network) (maxIters : Nat) : Prop where
  reached : network.handshake = .established
  queues : Queues network
  refuses : ∀ request, ∃ decisionJson,
    Answers network maxIters request (.decision .refuse decisionJson)

def refusedByMarshal : SpawnInstanceError := .marshalEnforcement (.blocked .refuse)

namespace GridHost

variable {SigningKey VerifyingKey : Type} {host : GridHost SigningKey VerifyingKey}
  {network : Network} {sandbox : Sandbox} {instanceId : String} {tier granted : SandboxTier}

theorem demo_authorize_instance_ok {moduleId : String} {moduleBytes message : Bytes}
    (sized : (host.ed25519.sign host.demoSigningKey message).length = Capability.signatureBytes)
    (verifies : host.ed25519.verify (host.ed25519.verifyingKey host.demoSigningKey) message
      (host.ed25519.sign host.demoSigningKey message) = true)
    (text : message = utf8 (InstanceManifestEntry.canonicalString
      ⟨moduleId, instanceId, Base16.encode (host.sha256 moduleBytes), tier, "demo-key", ""⟩)) :
    host.demoAuthorizeInstance moduleId instanceId moduleBytes tier = .ok tier := by
  subst text
  exact single_entry_authorized (InstanceManifestEntry.issue host.ed25519 moduleId instanceId
      (Base16.encode (host.sha256 moduleBytes)) tier "demo-key" host.demoSigningKey) rfl
    ((verify_text_ok_iff _ _ _).mpr ⟨_, Capability.decode_signature_encode sized, verifies⟩)

/-- What a call needs to reach the proxy, the session table's room apart. -/
structure Reaches (host : GridHost SigningKey VerifyingKey) (sandbox : Sandbox) : Prop where
  configured : host.proxy.isSome
  authorized : host.caller.authorized = true
  serving : sandbox.world.Serving

def HasRoom (host : GridHost SigningKey VerifyingKey) (sandbox : Sandbox) : Prop :=
  sandbox.world.table.HasRoom host.caller.thread

instance : Decidable (host.HasRoom sandbox) := inferInstanceAs (Decidable (_ ∧ _))

theorem evaluated_room (reaches : host.Reaches sandbox)
    (refusing : RefusingProxy network host.maxIters) (room : host.HasRoom sandbox) :
    (host.shadowMarshalEvaluate network gridModule instanceId sandbox).1 =
        (if ShortName instanceId then .refuse else .unreachable) ∧
      (host.shadowMarshalEvaluate network gridModule instanceId sandbox).2.world =
        sandbox.world.admitted host.caller := by
  obtain ⟨endpoint, configured⟩ := Option.isSome_iff_exists.mp reaches.configured
  obtain ⟨decisionJson, answers⟩ := refusing.refuses (spawnRequest gridModule instanceId)
  have evaluated := evaluate_serving reaches.serving reaches.authorized room refusing.reached
    refusing.queues answers endpoint
  rw [if_congr (request_fits_iff instanceId) rfl rfl] at evaluated
  simp only [shadowMarshalEvaluate, configured, evaluated, and_true]
  split_ifs <;> rfl

theorem evaluated_full (full : ¬ host.HasRoom sandbox) :
    (host.shadowMarshalEvaluate network gridModule instanceId sandbox).1 = .unreachable ∧
      (host.shadowMarshalEvaluate network gridModule instanceId sandbox).2.world =
        sandbox.world := by
  cases configured : host.proxy with
  | none => simp [shadowMarshalEvaluate, configured]
  | some endpoint =>
    simp [shadowMarshalEvaluate, configured, evaluate_full full, shadowOutcome]

variable (reaches : host.Reaches sandbox) (refusing : RefusingProxy network host.maxIters)
  (gate : host.demoAuthorizeInstance gridModule instanceId host.elf tier = .ok granted)

include reaches refusing gate

theorem spawn_result :
    (host.spawnInstance network instanceId tier sandbox).1 =
      if host.HasRoom sandbox ∧ ShortName instanceId then .error refusedByMarshal
      else .ok granted := by
  by_cases room : host.HasRoom sandbox
  · have outcome := (@evaluated_room _ _ _ _ _ instanceId reaches refusing room).1
    by_cases short : ShortName instanceId
    · rw [if_pos short] at outcome
      simp [spawnInstance, gate, outcome, enforceMarshalDecision, room, short, refusedByMarshal]
    · rw [if_neg short] at outcome
      simp [spawnInstance, gate, outcome, enforceMarshalDecision, short]
  · have outcome := (@evaluated_full _ _ host network sandbox instanceId room).1
    simp [spawnInstance, gate, outcome, enforceMarshalDecision, room]

theorem spawn_world :
    (host.spawnInstance network instanceId tier sandbox).2.world =
      if host.HasRoom sandbox then sandbox.world.admitted host.caller else sandbox.world := by
  have kept : (host.spawnInstance network instanceId tier sandbox).2 =
      (host.shadowMarshalEvaluate network gridModule instanceId sandbox).2 := by
    simp only [spawnInstance, gate]
    split <;> rfl
  rw [kept]
  split_ifs with room
  · exact (evaluated_room reaches refusing room).2
  · exact (evaluated_full room).2

end GridHost

/-! ## A configured host -/

def promptNetwork (reply : Bytes) : Network where
  handshake := .established
  acked := fun _ => 0
  queue := fun free len => min len free
  arrivals := fun _ poll => if poll = 0 then reply else []

theorem prompt_arrivals (reply sent : Bytes) {polls : Nat} (polled : 0 < polls) :
    (List.range polls).flatMap ((promptNetwork reply).arrivals sent) = reply := by
  obtain ⟨later, rfl⟩ := Nat.exists_eq_add_one.mpr polled
  rw [range_succ_eq_map, flatMap_cons, flatMap_map]
  simp [promptNetwork]

def refusal : MarshalResponse := .decision .refuse [123, 125]

theorem prompt_refusing {maxIters : Nat} (polled : 0 < maxIters) :
    RefusingProxy (promptNetwork refusal.encode) maxIters where
  reached := rfl
  queues := ⟨fun free len => Nat.min_le_right len free, fun _ _ => Nat.min_eq_left⟩
  refuses := by
    intro request
    refine ⟨[123, 125], (by decide : 2 ≤ maxJsonLen), ?_, prompt_arrivals _ _ polled⟩
    intro poll
    by_cases first : poll = 0 <;> simp [promptNetwork, first]
    decide

def demoHost : GridHost Bytes Bytes where
  ed25519 := ⟨id, fun _ _ => List.replicate 64 0, fun _ _ signature => signature.length = 64⟩
  sha256 := Sha256.sha256
  demoSigningKey := Capability.demoSecret
  elf := []
  proxy := some ⟨(10, 0, 2, 100), 9000, 49152⟩
  maxItersOverride := none
  caller := ⟨7, true⟩

theorem demo_gate (instanceId : String) :
    demoHost.demoAuthorizeInstance gridModule instanceId demoHost.elf .t2Trusted =
      .ok .t2Trusted := by
  refine GridHost.demo_authorize_instance_ok ?_ ?_ rfl
  · exact length_replicate
  · simp [demoHost]

def idleSandbox : Sandbox where
  world := ⟨⟨[], fun _ => [], 1⟩, ⟨1, fun _ => none, fun _ => none⟩⟩
  shadowLog := WormLog.new

theorem idle_reaches : demoHost.Reaches idleSandbox where
  configured := rfl
  authorized := rfl
  serving :=
    { idle := rfl
      issued := fun _ member => nomatch member
      known := fun _ _ held => nomatch held
      free := ⟨⟨0, by decide⟩, rfl, rfl⟩ }

theorem demo_refusing : RefusingProxy (promptNetwork refusal.encode) demoHost.maxIters :=
  prompt_refusing (show 0 < shadowMarshalMaxIters by decide)

namespace GridHost

variable {SigningKey VerifyingKey : Type} {host : GridHost SigningKey VerifyingKey}
  {network : Network} {sandbox : Sandbox} {instanceId : String} {tier granted : SandboxTier}

/-- A reachable proxy that refuses stops an authorized instance exactly when the name is
short enough and the caller has a session left. -/
theorem refusing_proxy_stops_spawn_iff (host : GridHost SigningKey VerifyingKey)
    (network : Network) (sandbox : Sandbox) (instanceId : String) (tier granted : SandboxTier)
    (gate : host.demoAuthorizeInstance gridModule instanceId host.elf tier = .ok granted)
    (reaches : host.Reaches sandbox) (refusing : RefusingProxy network host.maxIters) :
    (∃ cause, (host.spawnInstance network instanceId tier sandbox).1 = .error cause) ↔
      host.HasRoom sandbox ∧ ShortName instanceId := by
  rw [spawn_result reaches refusing gate]
  split_ifs with stopped
  · exact iff_of_true ⟨_, rfl⟩ stopped
  · exact iff_of_false (by simp) stopped

theorem short_name_stopped :
    ∃ cause, (demoHost.spawnInstance (promptNetwork refusal.encode) "shadow-refused" .t2Trusted
      idleSandbox).1 = .error cause :=
  (refusing_proxy_stops_spawn_iff demoHost _ idleSandbox "shadow-refused" .t2Trusted .t2Trusted
    (demo_gate _) idle_reaches demo_refusing).mpr ⟨by decide, by decide⟩

/-- A name of 19 bytes: the proxy would refuse, the request never reaches it, and the
instance is spawned. -/
theorem long_name_spawned :
    demoHost.demoAuthorizeInstance gridModule "shadow-unconfigured" demoHost.elf .t2Trusted =
        .ok .t2Trusted ∧
      demoHost.Reaches idleSandbox ∧
      RefusingProxy (promptNetwork refusal.encode) demoHost.maxIters ∧
      demoHost.HasRoom idleSandbox ∧
      (demoHost.spawnInstance (promptNetwork refusal.encode) "shadow-unconfigured" .t2Trusted
        idleSandbox).1 = .ok .t2Trusted := by
  refine ⟨demo_gate _, idle_reaches, demo_refusing, by decide, ?_⟩
  rw [spawn_result idle_reaches demo_refusing (demo_gate _)]
  exact if_neg (by decide)

/-! ## Call after call -/

def spawns (host : GridHost SigningKey VerifyingKey) (instanceId : String) (tier : SandboxTier) :
    List Network → Sandbox → List (Except SpawnInstanceError SandboxTier)
  | [], _ => []
  | network :: networks, sandbox =>
    let (result, next) := host.spawnInstance network instanceId tier sandbox
    result :: host.spawns instanceId tier networks next

theorem spawns_head (networks : List Network) :
    (host.spawns instanceId tier (network :: networks) sandbox).head? =
      some (host.spawnInstance network instanceId tier sandbox).1 := rfl

/-- If the first call is refused by MARSHAL then so are all. -/
def StaysRefused (results : List (Except SpawnInstanceError SandboxTier)) : Prop :=
  results.head? = some (.error refusedByMarshal) →
    ∀ result ∈ results, result = .error refusedByMarshal

/-- Neither limit is passed by so many more sessions of the caller. -/
def RoomFor (host : GridHost SigningKey VerifyingKey) (sandbox : Sandbox) (count : Nat) : Prop :=
  sandbox.world.table.sessions.length + count ≤ maxLiveSessions ∧
    sandbox.world.table.ownerCount host.caller.thread + count ≤ maxSessionsPerOwner

section

variable (reaches : host.Reaches sandbox) (refusing : RefusingProxy network host.maxIters)
  (gate : host.demoAuthorizeInstance gridModule instanceId host.elf tier = .ok granted)

include reaches refusing gate

theorem reaches_next : host.Reaches (host.spawnInstance network instanceId tier sandbox).2 := by
  refine ⟨reaches.configured, reaches.authorized, ?_⟩
  rw [spawn_world reaches refusing gate]
  split_ifs with room
  · exact admitted_serving reaches.serving room
  · exact reaches.serving

/-- Every call that finds room takes one session for good. -/
theorem room_for_next (room : host.HasRoom sandbox) (count : Nat) :
    host.RoomFor (host.spawnInstance network instanceId tier sandbox).2 count ↔
      host.RoomFor sandbox (count + 1) := by
  obtain ⟨-, -, live, owned, -⟩ := SessionTable.admitted_spec reaches.serving.issued
    reaches.serving.idle room sandbox.world.server.thread
  rw [RoomFor, spawn_world reaches refusing gate, if_pos room, World.admitted, live, owned,
    RoomFor]
  omega

end

theorem has_room_iff : host.HasRoom sandbox ↔ host.RoomFor sandbox 1 := by
  unfold HasRoom SessionTable.HasRoom RoomFor
  omega

theorem spawns_all_refused_iff (short : ShortName instanceId)
    (gate : host.demoAuthorizeInstance gridModule instanceId host.elf tier = .ok granted)
    {networks : List Network} (refusing : ∀ network ∈ networks, RefusingProxy network host.maxIters)
    {sandbox : Sandbox} (reaches : host.Reaches sandbox) :
    (∀ result ∈ host.spawns instanceId tier networks sandbox, result = .error refusedByMarshal) ↔
      networks = [] ∨ host.RoomFor sandbox networks.length := by
  induction networks generalizing sandbox with
  | nil => simp [spawns]
  | cons network networks ih =>
    have here := refusing network mem_cons_self
    have first := spawn_result reaches here gate
    rw [spawns, forall_mem_cons,
      ih (fun other later => refusing other (mem_cons_of_mem _ later))
        (reaches_next reaches here gate), first]
    by_cases room : host.HasRoom sandbox
    · rw [if_pos ⟨room, short⟩, room_for_next reaches here gate room]
      rcases networks with _ | ⟨second, later⟩
      · simp [has_room_iff.mp room]
      · simp
    · rw [if_neg (fun both => room both.1)]
      rw [has_room_iff, RoomFor] at room
      simp only [RoomFor, length_cons, reduceCtorEq, false_and, false_or, false_iff]
      omega

/-- Calls refused once stay refused exactly as long as the sessions they leave behind fit
the limits. -/
theorem spawns_stay_refused_iff (host : GridHost SigningKey VerifyingKey) (networks : List Network)
    (sandbox : Sandbox) (instanceId : String) (tier : SandboxTier) (reaches : host.Reaches sandbox)
    (refusing : ∀ network ∈ networks, RefusingProxy network host.maxIters) :
    StaysRefused (host.spawns instanceId tier networks sandbox) ↔
      ((∃ granted, host.demoAuthorizeInstance gridModule instanceId host.elf tier = .ok granted) →
        ShortName instanceId → host.HasRoom sandbox →
          host.RoomFor sandbox networks.length) := by
  cases networks with
  | nil =>
    refine iff_of_true (fun first => by simp [spawns] at first) ?_
    intro _ _ room
    exact ⟨Nat.le_of_lt room.1, Nat.le_of_lt room.2⟩
  | cons network networks =>
    have here := refusing network mem_cons_self
    rw [StaysRefused, spawns_head]
    cases gate : host.demoAuthorizeInstance gridModule instanceId host.elf tier with
    | error cause => simp [spawnInstance, gate, refusedByMarshal]
    | ok granted =>
      rw [spawn_result reaches here gate]
      by_cases stopped : host.HasRoom sandbox ∧ ShortName instanceId
      · rw [if_pos stopped, spawns_all_refused_iff stopped.2 gate refusing reaches]
        simp [stopped.1, stopped.2]
      rw [if_neg stopped]
      refine iff_of_true (fun refused => by simp at refused) ?_
      intro _ short room
      exact absurd ⟨room, short⟩ stopped

theorem eight_calls_refused :
    StaysRefused (demoHost.spawns "shadow-refused" .t2Trusted
      (List.replicate 8 (promptNetwork refusal.encode)) idleSandbox) :=
  (spawns_stay_refused_iff demoHost _ idleSandbox "shadow-refused" .t2Trusted idle_reaches
    (fun _ member => eq_of_mem_replicate member ▸ demo_refusing)).mpr
    fun _ _ _ => ⟨by decide, by decide⟩

/-- The ninth call of a thread finds no session left and is not refused any more. -/
theorem ninth_call_not_refused :
    demoHost.Reaches idleSandbox ∧
      (∀ network ∈ List.replicate 9 (promptNetwork refusal.encode),
        RefusingProxy network demoHost.maxIters) ∧
      ¬ StaysRefused (demoHost.spawns "shadow-refused" .t2Trusted
        (List.replicate 9 (promptNetwork refusal.encode)) idleSandbox) := by
  have refusing : ∀ network ∈ List.replicate 9 (promptNetwork refusal.encode),
      RefusingProxy network demoHost.maxIters :=
    fun _ member => eq_of_mem_replicate member ▸ demo_refusing
  refine ⟨idle_reaches, refusing, ?_⟩
  intro stays
  have first : (demoHost.spawns "shadow-refused" .t2Trusted
      (List.replicate 9 (promptNetwork refusal.encode)) idleSandbox).head? =
      some (.error refusedByMarshal) := by
    rw [replicate_succ, spawns_head, spawn_result idle_reaches demo_refusing (demo_gate _),
      if_pos ⟨by decide, by decide⟩]
  rcases (spawns_all_refused_iff (by decide) (demo_gate _) refusing idle_reaches).mp (stays first)
    with none | ⟨-, owned⟩
  · exact absurd none (by simp)
  · exact absurd owned (by decide)

end GridHost

end Runix.Kernel
