import InferLab.Gateway.Bootstrap
import InferLab.Attempt
import InferLab.Transition

/-!
# Gateway: the configuration over a lifetime

After its start a gateway asks the control plane again and again. An answer is applied when it is
newer than the configuration in force, or has the same content and a preferred key; it is saved
before. An answer that agrees with the configuration in force renews the lease under which the
gateway accepts requests.

The pool of workers is built by a function that is a parameter. What becomes of new requests once
the lease has lapsed, and what the status page reports, is left out.
-/

namespace InferLab.Gateway

open ServiceAuth ControlAuth Wire

/-! ## The routing lease -/

/-- Instants and durations are in nanoseconds. -/
structure RoutingLeaseGuard where
  duration : ℕ
  deadline : ℕ
  lastVerifiedMs : UInt64
  expiresAtMs : UInt64
  renewals : UInt64
deriving Repr, DecidableEq

/-- `Duration::from_millis`. -/
def fromMillis (milliseconds : UInt64) : ℕ := milliseconds.toNat * 1000000

/-- The sum of a `u64` and a duration in milliseconds, at most the largest `u64`. -/
def afterDuration (timeMs : UInt64) (duration : ℕ) : UInt64 :=
  .ofNat (saturatingAdd u64Max timeMs.toNat (min (duration / 1000000) u64Max))

namespace RoutingLeaseGuard

def fromVerifiedAgeAt (duration : ℕ) (lastVerifiedMs : UInt64) (observedAge now : ℕ) :
    RoutingLeaseGuard where
  duration := duration
  deadline := now + (duration - observedAge)
  lastVerifiedMs := lastVerifiedMs
  expiresAtMs := afterDuration lastVerifiedMs duration
  renewals := 0

def renewAt (lease : RoutingLeaseGuard) (verifiedAtMs : UInt64) (now : ℕ) : RoutingLeaseGuard :=
  { lease with
    deadline := now + lease.duration
    lastVerifiedMs := verifiedAtMs
    expiresAtMs := afterDuration verifiedAtMs lease.duration
    renewals := .ofNat (saturatingAdd u64Max lease.renewals.toNat 1) }

end RoutingLeaseGuard

/-! ## What a gateway has -/

/-- What requests are routed with. -/
structure RoutingSnapshot (P : Type) where
  workers : P
  controlClusterId : Option String
  controlSigningKeyId : Option String
  controlRevision : Option UInt64
  controlTerm : Option UInt64
deriving Repr, DecidableEq

def RoutingSnapshot.committedAuthenticated {P : Type} (workers : P)
    (committed : CommittedRoutingConfiguration) (signingKeyId : Option String) :
    RoutingSnapshot P where
  workers := workers
  controlClusterId := some committed.clusterId
  controlSigningKeyId := signingKeyId
  controlRevision := some committed.revision
  controlTerm := some committed.term

/-- A gateway that runs. -/
structure Process (P : Type) where
  routing : RoutingSnapshot P
  appliedConfiguration : CommittedRoutingConfiguration
  routingLease : Option RoutingLeaseGuard
deriving Repr, DecidableEq

/-- What a gateway has done, in order. -/
inductive Event
  | saved (committed : CommittedRoutingConfiguration)
  | applied (committed : CommittedRoutingConfiguration) (signingKeyId : Option String)
  | renewed (response : CommittedRoutingConfiguration) (signingKeyId : Option String)
deriving Repr, DecidableEq

/-- The file, the process, and what it logged. -/
structure Session (Q : Type) where
  file : SnapshotFile
  process : Q
  log : List Event
deriving Repr, DecidableEq

/-- How a turn ends that does not go on: the answer is rejected, or the process ends. -/
inductive Stop
  | rejected (lastError : String)
  | ended
deriving Repr, DecidableEq

/-- What a gateway is started with. -/
structure WatcherConfig (P : Type) extends GatewayConfig where
  /-- The duration in milliseconds, if there is a lease. -/
  routingLease : Option UInt64
  /-- `build_pool` with the template of the pool. -/
  buildPool : List StoredWorkerConfiguration → RoutingPolicy → Except String P

section Gateway

variable {P : Type} [Ed25519] [Base64] [PrettyJson PersistedRoutingSnapshot]
  (config : WatcherConfig P)

omit [Ed25519] [Base64] [PrettyJson PersistedRoutingSnapshot] in
/-- The pool of a configuration. -/
def committedPool (committed : CommittedRoutingConfiguration) : Except IoError P := do
  let policy ← (RoutingPolicy.parse committed.configuration.routingPolicy).mapError .invalidData
  (config.buildPool committed.configuration.workers policy).mapError fun error =>
    ⟨.other, error⟩

/-! ## The start -/

/-- What a start meets. -/
structure StartInput where
  rounds : List (List ControlResponse)
  bootstrapNowMs : UInt64
  save : SaveOutcome
  leaseNowMs : UInt64
  now : ℕ
deriving Repr, DecidableEq

omit [Ed25519] [Base64] [PrettyJson PersistedRoutingSnapshot] in
/-- The lease of a gateway that has just started. -/
def initialLease (initial : InitialControlConfiguration) (input : StartInput) :
    Except IoError (Option RoutingLeaseGuard) :=
  match config.routingLease with
  | none => pure none
  | some leaseMs =>
    match initial.bootstrapSource with
    | .live => pure (some (.fromVerifiedAgeAt (fromMillis leaseMs) input.leaseNowMs 0 input.now))
    | .disk => do
      let some persistedAtMs := initial.persistedAtMs
        | throw (.invalidData "disk bootstrap is missing its persisted routing timestamp")
      let some observedAgeMs := initial.bootstrapSnapshotAgeMs
        | throw (.invalidData "disk bootstrap is missing its observed snapshot age")
      pure (some (.fromVerifiedAgeAt (fromMillis leaseMs) persistedAtMs
        (fromMillis observedAgeMs) input.now))

omit [Ed25519] [Base64] [PrettyJson PersistedRoutingSnapshot] in
def liftExcept {σ α : Type} : Except IoError α → EStateM IoError σ α
  | .ok a => pure a
  | .error error => throw error

/-- The file is written and the log says so. -/
def persist {Q : Type} (committed : CommittedRoutingConfiguration) (outcome : SaveOutcome) :
    EStateM IoError (Session Q) Unit := do
  let s ← get
  match saveSnapshot committed outcome s.file with
  | .error error _ => throw error
  | .ok _ file => set { s with file := file, log := s.log ++ [Event.saved committed] }

/-- What the control plane has answered is written to the file, if there is one. -/
def saveInitial (initial : InitialControlConfiguration) (input : StartInput) :
    EStateM IoError (Session Unit) Unit :=
  if initial.bootstrapSource = .live ∧ config.snapshotStore.isSome then
    persist initial.committed input.save
  else pure ()

omit [Ed25519] [Base64] [PrettyJson PersistedRoutingSnapshot] in
/-- The first configuration comes into force. -/
def applyInitial (initial : InitialControlConfiguration) (pool : P) (input : StartInput) :
    EStateM IoError (Session Unit) (Process P) := do
  modify fun s => { s with
    log := s.log ++ [.applied initial.committed initial.verifiedSigningKeyId] }
  let lease ← liftExcept (initialLease config initial input)
  pure {
    routing := .committedAuthenticated pool initial.committed initial.verifiedSigningKeyId
    appliedConfiguration := initial.committed
    routingLease := lease }

/-- The start of `main`, as far as it is about the configuration. -/
def startGateway (input : StartInput) : EStateM IoError (Session Unit) (Process P) := do
  let s ← get
  let initial ← liftExcept (bootstrapControlConfiguration config.toGatewayConfig s.file
    input.rounds input.bootstrapNowMs)
  let pool ← liftExcept (committedPool config initial.committed)
  saveInitial config initial input
  applyInitial config initial pool input

/-! ## A turn of the watcher -/

/-- What a turn meets. -/
structure WatchInput where
  responses : List ControlResponse
  save : SaveOutcome
  /-- The process ends before it has applied what it has saved. -/
  endsAfterSave : Bool
  nowMs : UInt64
  now : ℕ
deriving Repr, DecidableEq

omit [Ed25519] [Base64] [PrettyJson PersistedRoutingSnapshot] in
/-- The last error when no answer can be used. -/
def noConfiguration (fetched : ControlFetchResult) : String :=
  match fetched.authenticationFailures.getLast?, fetched.mismatches.getLast? with
  | some last, _ => s!"control authentication failed for response from {last.sourceUrl}" ++
      last.keyId.elim "" (fun keyId => s!" using key '{keyId}'") ++ s!": {last.error}"
  | none, some last => "control cluster identity mismatch: expected " ++
      s!"'{config.expectedClusterId}', observed '{last.clusterId}' from {last.sourceUrl}"
  | none, none => "no control-plane node returned a committed configuration"

omit [Ed25519] [Base64] [PrettyJson PersistedRoutingSnapshot] in
/-- Whether an answer is accepted, and the pool with which it is to be applied, if it is. -/
def judgeResponse (process : Process P) (verified : VerifiedControlConfiguration) :
    Except String (Option P) := do
  let committed := verified.committed
  (validateCommitted committed).mapError IoError.message
  let current := process.routing
  let currentRevision := current.controlRevision.getD 0
  let keyTransition := config.authenticator.keyTransition current.controlSigningKeyId
    verified.signingKeyId
  let keyName (keyId : Option String) : String := keyId.getD "none"
  require (keyTransition ≠ .downgrade)
    ("ignored control signing-key downgrade from " ++
      s!"'{keyName current.controlSigningKeyId}' to '{keyName verified.signingKeyId}'")
  require (!decide (committed.revision < currentRevision))
    (s!"ignored stale control-plane revision {committed.revision}; current routing revision is " ++
      s!"{currentRevision}")
  require (!(committed.revision == currentRevision &&
      !sameRoutingPayload committed process.appliedConfiguration))
    s!"control-plane content diverges at applied routing revision {currentRevision}"
  let isNewRevision := decide (currentRevision < committed.revision)
  let isSigningKeyRotation := keyTransition == .upgrade &&
    committed.revision == currentRevision && verified.signingKeyId != current.controlSigningKeyId
  if isNewRevision || isSigningKeyRotation then
    if isNewRevision then do
      let pool ← (committedPool config committed).mapError IoError.message
      pure (some pool)
    else pure (some current.workers)
  else pure none

omit [Ed25519] [Base64] in
/-- The configuration is saved, if there is a file. -/
def saveResponse (verified : VerifiedControlConfiguration) (input : WatchInput) :
    EStateM Stop (Session (Process P)) Unit :=
  if config.snapshotStore.isSome then do
    let s ← get
    match persist verified.committed input.save s with
    | .error error _ => throw (.rejected
        s!"cannot persist routing revision {verified.committed.revision}: {error.message}")
    | .ok _ s' => set s'
  else pure ()

omit [Ed25519] [Base64] in
/-- The configuration is saved, and then applied. -/
def applyResponse (verified : VerifiedControlConfiguration) (pool : P) (input : WatchInput) :
    EStateM Stop (Session (Process P)) Unit := do
  saveResponse config verified input
  if input.endsAfterSave then throw .ended
  else modify fun s => { s with
    process := { s.process with
      routing := .committedAuthenticated pool verified.committed verified.signingKeyId
      appliedConfiguration := verified.committed }
    log := s.log ++ [.applied verified.committed verified.signingKeyId] }

/-- The lease is renewed, if there is one. -/
def renewLease {P : Type} (verified : VerifiedControlConfiguration) (input : WatchInput)
    (s : Session (Process P)) : Session (Process P) :=
  match s.process.routingLease with
  | none => s
  | some lease => { s with
      process := { s.process with routingLease := some (lease.renewAt input.nowMs input.now) }
      log := s.log ++ [.renewed verified.committed verified.signingKeyId] }

/-- One turn of the loop of `watch_control_plane`. -/
def watchControlPlane (input : WatchInput) : EStateM Stop (Session (Process P)) Unit := do
  let fetched := fetchControlConfiguration config.toGatewayConfig input.responses
  match fetched.configuration with
  | none => throw (.rejected (noConfiguration config fetched))
  | some verified =>
    let s ← get
    match judgeResponse config s.process verified with
    | .error error => throw (.rejected error)
    | .ok none => modify (renewLease verified input)
    | .ok (some pool) => do
      applyResponse config verified pool input
      modify (renewLease verified input)

/-! ## A lifetime -/

/-- Where a gateway is in its life. -/
inductive Phase (P : Type)
  | before
  | running (process : Process P)
  | ended
deriving Repr, DecidableEq

/-- A gateway and its file. -/
abbrev Lifetime (P : Type) : Type := Session (Phase P)

/-- What happens to a gateway. -/
inductive GatewayAction
  | start (input : StartInput)
  | watch (input : WatchInput)
  | stop
deriving Repr, DecidableEq

def Lifetime.act (s : Lifetime P) : GatewayAction → Option (Lifetime P)
  | .start input =>
    match s.process with
    | .before => match startGateway config input { s with process := () } with
      | .ok process s' => some { s' with process := .running process }
      | .error _ s' => some { s' with process := .ended }
    | _ => none
  | .watch input =>
    match s.process with
    | .running process => match watchControlPlane config input { s with process := process } with
      | .ok _ s' => some { s' with process := .running s'.process }
      | .error (.rejected _) s' => some { s' with process := .running s'.process }
      | .error .ended s' => some { s' with process := .ended }
    | _ => none
  | .stop => some { s with process := .ended }

/-- One lifetime of a gateway that finds `file` when it starts. -/
def gatewaySystem (file : SnapshotFile) : System (Lifetime P) where
  init s := s = ⟨file, .before, []⟩
  step s s' := ∃ action, s.act config action = some s'

end Gateway

end InferLab.Gateway
