import InferLab.ControlAuth

/-!
# Gateway: routing configurations and their file

A gateway routes by the configuration that the control plane has committed. It keeps the last one
in a file, from which it starts when no control plane answers. The texts of `serde_json` are left
out of the errors.
-/

namespace InferLab.Gateway

open ServiceAuth ControlAuth Wire

/-- The kinds of error that are told apart. -/
inductive IoErrorKind
  | notFound
  | invalidData
  | timedOut
  | other
deriving Repr, DecidableEq

/-- `io::Error`. -/
structure IoError where
  kind : IoErrorKind
  message : String
deriving Repr, DecidableEq

def IoError.invalidData (message : String) : IoError := ⟨.invalidData, message⟩

/-! ## Configurations -/

/-- A worker in the file. -/
structure StoredWorkerConfiguration where
  id : String
  baseUrl : String
  weight : UInt32
deriving Repr, DecidableEq

/-- The workers and the policy in the file. -/
structure StoredRoutingConfiguration where
  routingPolicy : String
  workers : List StoredWorkerConfiguration
deriving Repr, DecidableEq

/-- What a control plane serves. -/
structure CommittedRoutingConfiguration where
  clusterId : String
  revision : UInt64
  term : UInt64
  configuration : StoredRoutingConfiguration
  authentication : Option ControlAuthentication
deriving Repr, DecidableEq

/-- The content of the file. -/
structure PersistedRoutingSnapshot where
  schema : String
  savedAtMs : UInt64
  committed : CommittedRoutingConfiguration
deriving Repr, DecidableEq

/-- How a worker is chosen. -/
inductive RoutingPolicy
  | roundRobin
  | leastInFlight
  | weightedRoundRobin
  | ewmaLatency
  | consistentHash
deriving Repr, DecidableEq

/-- `str::parse`. -/
def RoutingPolicy.parse (value : String) : Except String RoutingPolicy :=
  let text := String.ofList ((trim value).map Char.toLower)
  if text ∈ ["round-robin", "round_robin", "rr"] then .ok .roundRobin
  else if text ∈ ["least-in-flight", "least_in_flight", "lif"] then .ok .leastInFlight
  else if text ∈ ["weighted", "weighted-round-robin", "weighted_round_robin", "wrr"] then
    .ok .weightedRoundRobin
  else if text ∈ ["ewma", "ewma-latency", "ewma_latency"] then .ok .ewmaLatency
  else if text ∈ ["consistent-hash", "consistent_hash", "hash"] then .ok .consistentHash
  else .error (s!"unknown routing policy '{value}'; expected round-robin, least-in-flight, " ++
    "weighted, ewma, or consistent-hash")

/-! ## Checks -/

def validateControlClusterId (clusterId : String) : Except IoError Unit :=
  require (isIdentifier 1 128 clusterId) (IoError.invalidData
    ("control cluster identity must contain 1 to 128 ASCII letters, digits, '.', '_', or '-'"))

/-- Every worker is named once; `seen` are those before. -/
def validateWorkers : List String → List StoredWorkerConfiguration → Except IoError Unit
  | _, [] => .ok ()
  | seen, worker :: workers => do
    require (!(trim worker.id).isEmpty && !(trim worker.baseUrl).isEmpty)
      (IoError.invalidData "routing snapshot worker id and base_url must be non-empty")
    require (worker.weight ≠ 0)
      (IoError.invalidData s!"routing snapshot worker '{worker.id}' must have positive weight")
    require (!seen.contains worker.id)
      (IoError.invalidData s!"routing snapshot contains duplicate worker id '{worker.id}'")
    validateWorkers (worker.id :: seen) workers

def validateCommitted (committed : CommittedRoutingConfiguration) : Except IoError Unit := do
  validateControlClusterId committed.clusterId
  require (committed.revision ≠ 0 && committed.term ≠ 0)
    (IoError.invalidData "routing snapshot revision and term must both be positive")
  let _ ← (RoutingPolicy.parse committed.configuration.routingPolicy).mapError .invalidData
  require (!committed.configuration.workers.isEmpty)
    (IoError.invalidData "routing snapshot must contain at least one worker")
  validateWorkers [] committed.configuration.workers

def validateExpectedControlCluster (committed : CommittedRoutingConfiguration)
    (expectedClusterId : String) : Except IoError Unit := do
  validateControlClusterId expectedClusterId
  require (committed.clusterId == expectedClusterId) (IoError.invalidData
    (s!"control cluster identity mismatch: expected '{expectedClusterId}', " ++
      s!"observed '{committed.clusterId}'"))

def routingSnapshotSchema : String := "inferlab.gateway-routing-snapshot.v1"

def validateSnapshot (snapshot : PersistedRoutingSnapshot) : Except IoError Unit := do
  require (snapshot.schema == routingSnapshotSchema) (IoError.invalidData
    (s!"unsupported routing snapshot schema '{snapshot.schema}'; expected " ++
      s!"'{routingSnapshotSchema}'"))
  validateCommitted snapshot.committed

/-! ## Freshness -/

/-- How old a file may be. -/
structure SnapshotFreshnessPolicy where
  maximumAgeMs : Option UInt64
  maximumFutureSkewMs : UInt64
deriving Repr, DecidableEq

def SnapshotFreshnessPolicy.expiresAtMs (policy : SnapshotFreshnessPolicy) (savedAtMs : UInt64) :
    Option UInt64 :=
  policy.maximumAgeMs.map fun maximumAgeMs =>
    .ofNat (saturatingAdd u64Max savedAtMs.toNat maximumAgeMs.toNat)

/-- How old it is. -/
structure SnapshotFreshness where
  observedAgeMs : UInt64
  expiresAtMs : Option UInt64
deriving Repr, DecidableEq

/-- `saturating_sub`. -/
def saturatingSub (a b : UInt64) : UInt64 := .ofNat (a.toNat - b.toNat)

def validateSnapshotFreshness (savedAtMs observedAtMs : UInt64)
    (policy : SnapshotFreshnessPolicy) : Except IoError SnapshotFreshness := do
  let futureDeltaMs := saturatingSub savedAtMs observedAtMs
  require (!(observedAtMs < savedAtMs && policy.maximumFutureSkewMs < futureDeltaMs))
    (IoError.invalidData (s!"routing snapshot timestamp is {futureDeltaMs} ms in the future; " ++
      s!"maximum allowed clock skew is {policy.maximumFutureSkewMs} ms"))
  let observedAgeMs := saturatingSub observedAtMs savedAtMs
  match policy.maximumAgeMs with
  | none => pure ()
  | some maximumAgeMs =>
    require (observedAgeMs ≤ maximumAgeMs) (IoError.mk .timedOut
      (s!"routing snapshot expired: observed age {observedAgeMs} ms exceeds maximum " ++
        s!"{maximumAgeMs} ms"))
  pure ⟨observedAgeMs, policy.expiresAtMs savedAtMs⟩

/-! ## The file -/

def maxSnapshotBytes : ℕ := 1048576

/-- What reading the file gives. -/
abbrev SnapshotFile : Type := Except IoError Bytes

/-- What becomes of a write: the time of the snapshot, and the failure if there is one. -/
structure SaveOutcome where
  savedAtMs : UInt64
  failure : Option IoError
deriving Repr, DecidableEq

section Store

variable [PrettyJson PersistedRoutingSnapshot]

/-- `RoutingSnapshotStore::load`. -/
def loadSnapshot (path : String) (file : SnapshotFile) :
    Except IoError PersistedRoutingSnapshot := do
  let bytes ← file
  require (bytes.length ≤ maxSnapshotBytes) (IoError.invalidData
    s!"routing snapshot {path} is {bytes.length} bytes; maximum is {maxSnapshotBytes}")
  let some snapshot := (Json.fromSlice bytes : Option PersistedRoutingSnapshot)
    | throw (.invalidData s!"cannot decode routing snapshot {path}")
  validateSnapshot snapshot
  pure snapshot

/-- The bytes of a snapshot, which end in a new line. -/
def encodeSnapshot (snapshot : PersistedRoutingSnapshot) : Except IoError Bytes := do
  validateSnapshot snapshot
  let bytes := PrettyJson.toVecPretty snapshot
  require (bytes.length ≤ maxSnapshotBytes)
    (IoError.invalidData s!"serialized routing snapshot exceeds {maxSnapshotBytes} bytes")
  pure (bytes ++ [10])

/-- `RoutingSnapshotStore::save`. A write that fails leaves the file. -/
def saveSnapshot (committed : CommittedRoutingConfiguration) (outcome : SaveOutcome) :
    EStateM IoError SnapshotFile PersistedRoutingSnapshot := do
  let snapshot : PersistedRoutingSnapshot := ⟨routingSnapshotSchema, outcome.savedAtMs, committed⟩
  match encodeSnapshot snapshot, outcome.failure with
  | .error error, _ => throw error
  | .ok _, some error => throw error
  | .ok bytes, none => do
    set (Except.ok bytes : SnapshotFile)
    pure snapshot

/-- What is loaded is what the bytes say, and it is valid. -/
theorem of_loadSnapshot {path : String} {file : SnapshotFile}
    {snapshot : PersistedRoutingSnapshot} (h : loadSnapshot path file = .ok snapshot) :
    ∃ bytes, file = .ok bytes ∧ Json.fromSlice bytes = some snapshot ∧
      validateCommitted snapshot.committed = .ok () := by
  obtain ⟨bytes, hbytes, h⟩ := of_bind h
  obtain ⟨_, _, h⟩ := of_bind h
  cases hdecoded : (Json.fromSlice bytes : Option PersistedRoutingSnapshot) with
  | none =>
    simp only [hdecoded] at h
    cases h
  | some found =>
    simp only [hdecoded] at h
    obtain ⟨_, hvalid, h⟩ := of_bind h
    obtain rfl := Except.ok.inj h
    obtain ⟨_, _, hvalid⟩ := of_bind hvalid
    exact ⟨bytes, hbytes, hdecoded, hvalid⟩

end Store

end InferLab.Gateway
