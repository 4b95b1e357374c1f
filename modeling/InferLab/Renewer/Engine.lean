import InferLab.Renewer.Durable
import InferLab.Transition

/-!
# Trust renewer: the engine

A step asks the distributor for its policy, reconciles the durable state with it and then
publishes the pending renewal, stages the next one or waits. Every change is saved before the
step goes on. A step that finds something wrong ends in the phase `failedClosed`, in which
nothing happens any more.

What a step meets is its input: clock readings, replies, and what becomes of its writes. The
process may end in each write and while a publication is under way.
-/

namespace InferLab.Renewer

open ServiceAuth Wire

/-- What the engine is about. -/
inductive RenewerPhase
  | reconciling
  | waiting
  | publishing
  | retryWaiting
  | failedClosed
deriving Repr, DecidableEq

/-- Why a step fails. -/
inductive RenewerErrorKind
  | state
  | stateDurabilityUncertain
  | transport
  | remoteSnapshot
  | templateMismatch
  | authorityMismatch
  | generationFork
  | distributorRollback
  | pendingOutsideValidity
  | publicationRejected
  | clock
  | internal
deriving Repr, DecidableEq

/-- Why a start fails. -/
inductive EngineBootstrapError
  | configuration
  | template
  | state
deriving Repr, DecidableEq

/-- What comes after a step. -/
inductive StepOutcome
  | continueImmediately
  | sleep (ms : UInt64)
  | failedClosed
deriving Repr, DecidableEq

/-! ## The distributor as the engine sees it -/

/-- A policy with the bytes it was served as. -/
structure DistributorSnapshot where
  snapshot : ServiceTrustSnapshot
  exactBytes : Bytes
deriving Repr, DecidableEq

/-- What the distributor answers. -/
inductive PublishOutcome
  | accepted
  | conflict
  | rejected
deriving Repr, DecidableEq

/-- A request that got no answer. -/
structure TransportError where
  isTransient : Bool
deriving Repr, DecidableEq

/-! ## Configuration -/

/-- What a renewer is started with. -/
structure RenewerConfig where
  clusterId : String
  templateFile : Bytes
  timing : RenewalTimingConfig
  rootKeyId : String
  rootSeed : Bytes
deriving Repr, DecidableEq

/-- What an engine works with from its start on. -/
structure Authority where
  template : RenewalTemplate
  timing : RenewalTimingConfig
  signer : ServiceTrustRootSigningIdentity
  authorityFingerprint : String
deriving Repr, DecidableEq

section Authority

variable [Ed25519] [Base64]

/-- The ring with the one key of the signer. -/
def Authority.roots (authority : Authority) : TrustedServiceTrustRootKeyRing where
  keys := [(authority.signer.keyId, Ed25519.publicKey authority.signer.seed)]
  orderedKeyIds := [authority.signer.keyId]
  revokedKeyIds := []

def Authority.emptyState (authority : Authority) : DurableRenewalState :=
  .empty authority.authorityFingerprint authority.template.semanticFingerprint

/-- The part of `open` that does not look at the state. -/
def RenewerConfig.authority [Sha256] [Json EncodedRenewalTemplate] (config : RenewerConfig) :
    Except EngineBootstrapError Authority := do
  require config.timing.validate EngineBootstrapError.configuration
  require (isId config.rootKeyId && config.rootSeed.length == 32)
    EngineBootstrapError.configuration
  let signer : ServiceTrustRootSigningIdentity := ⟨config.rootKeyId, config.rootSeed⟩
  let template ← (RenewalTemplate.decode config.templateFile config.clusterId).mapError
    fun _ => EngineBootstrapError.template
  let authorityFingerprint ← (template.authorityFingerprint signer.keyId
    (Base64.encode (Ed25519.publicKey signer.seed))).mapError fun _ => .template
  let _ ← (Ed25519.verifyingKey (Ed25519.publicKey signer.seed)).mapError fun _ =>
    EngineBootstrapError.configuration
  pure ⟨template, config.timing, signer, authorityFingerprint⟩

def validateSnapshotLifetime (snapshot : ServiceTrustSnapshot) (timing : RenewalTimingConfig) :
    Bool :=
  snapshot.policy.expiresAtMs.any fun expiresAtMs =>
    snapshot.policy.issuedAtMs ≤ expiresAtMs &&
      expiresAtMs - snapshot.policy.issuedAtMs == timing.policyLifetimeMs

def Authority.verifyRemote (authority : Authority) (snapshot : ServiceTrustSnapshot)
    (effectiveNowMs : UInt64) : Except RenewerErrorKind Unit := do
  require (snapshot.authentication.keyId == authority.signer.keyId)
    RenewerErrorKind.authorityMismatch
  let _ ← (authority.roots.verify snapshot).mapError fun _ => RenewerErrorKind.remoteSnapshot
  (authority.template.validateSnapshotSemantics snapshot authority.signer.keyId).mapError
    fun _ => RenewerErrorKind.templateMismatch
  require (validateSnapshotLifetime snapshot authority.timing) RenewerErrorKind.remoteSnapshot
  require (snapshot.policy.issuedAtMs ≤ effectiveNowMs) RenewerErrorKind.remoteSnapshot

/-- `validate_loaded_state`, which has one error only. -/
def Authority.validateLoadedState [Sha256] [Json ServiceTrustSnapshot] (authority : Authority)
    (state : DurableRenewalState) : Except Unit Unit :=
  match state.pending with
  | none => pure ()
  | some pending => do
    let snapshot ← pending.snapshot.mapError fun _ => ()
    require (snapshot.authentication.keyId == authority.signer.keyId) ()
    let _ ← (authority.roots.verify snapshot).mapError fun _ => ()
    (authority.template.validateSnapshotSemantics snapshot authority.signer.keyId).mapError
      fun _ => ()
    require (validateSnapshotLifetime snapshot authority.timing) ()

end Authority

/-! ## Reconciliation -/

section Reconcile

variable [Sha256]

def DurableRenewalState.commitSnapshot (state : DurableRenewalState)
    (committed : CommittedRenewal) (automaticSuccess lateRecovery : Bool) : DurableRenewalState :=
  { state with
    committed := some committed
    pending := none
    counters := { state.counters with
      successfulRenewals := if automaticSuccess then
        saturatingSucc state.counters.successfulRenewals else state.counters.successfulRenewals
      lateRecoveries := if automaticSuccess && lateRecovery then
        saturatingSucc state.counters.lateRecoveries else state.counters.lateRecoveries } }

/-- What is to be saved for a policy that is older than the pending one. -/
def DurableRenewalState.reconcileRemoteFloor (state : DurableRenewalState)
    (remote : CommittedRenewal) : Except RenewerErrorKind (Option DurableRenewalState) :=
  match state.committed with
  | none =>
    if remote.generation = 0 then .error .remoteSnapshot else .error .generationFork
  | some committed =>
    if remote.generation < committed.generation then .error .distributorRollback
    else if remote.generation = committed.generation then
      if remote.snapshotSha256 ≠ committed.snapshotSha256 then .error .generationFork
      else if remote.issuedAtMs ≠ committed.issuedAtMs ∨
          remote.expiresAtMs ≠ committed.expiresAtMs then
        .ok (some { state with committed := some { committed with
          issuedAtMs := remote.issuedAtMs, expiresAtMs := remote.expiresAtMs } })
      else .ok none
    else .error .generationFork

/-- The record of the distributor's policy. -/
def DistributorSnapshot.record (remote : DistributorSnapshot) (expiresAtMs : UInt64) :
    CommittedRenewal where
  generation := remote.snapshot.policy.generation
  issuedAtMs := remote.snapshot.policy.issuedAtMs
  expiresAtMs := expiresAtMs
  snapshotSha256 := sha256Hex remote.exactBytes

/-- What is to be saved for the policy of the distributor, if anything. -/
def DurableRenewalState.reconciled (state : DurableRenewalState) (remote : DistributorSnapshot)
    (expiresAtMs : UInt64) : Except RenewerErrorKind (Option DurableRenewalState) :=
  let record := remote.record expiresAtMs
  match state.pending, state.committed with
  | some pending, _ =>
    if record.generation = pending.generation then
      if remote.exactBytes ≠ pending.exactSnapshotJson then .error .generationFork
      else .ok (some (state.commitSnapshot record true pending.lateRecovery))
    else if pending.generation < record.generation then
      .ok (some (state.commitSnapshot record false false))
    else state.reconcileRemoteFloor record
  | none, some committed =>
    if record.generation < committed.generation then .error .distributorRollback
    else if record.generation = committed.generation then
      if record.snapshotSha256 ≠ committed.snapshotSha256 then .error .generationFork
      else if record.issuedAtMs ≠ committed.issuedAtMs ∨
          record.expiresAtMs ≠ committed.expiresAtMs then
        .ok (some (state.commitSnapshot record false false))
      else .ok none
    else .ok (some (state.commitSnapshot record false false))
  | none, none => .ok (some (state.commitSnapshot record false false))

end Reconcile

/-! ## A step -/

/-- A running renewer. -/
structure Engine where
  state : DurableRenewalState
  effectiveClock : RenewalEffectiveClock
  phase : RenewerPhase
  lastErrorKind : Option RenewerErrorKind
deriving Repr, DecidableEq

/-- Bytes that were handed to the transport, when, and what was on the disk then. -/
structure Publication where
  exactBytes : Bytes
  effectiveNowMs : UInt64
  disk : Storage (Option Bytes)
deriving Repr, DecidableEq

/-- A renewer; `process` is what it has in memory. -/
structure Session (P : Type) where
  disk : Storage (Option Bytes)
  process : P
  published : List Publication
deriving Repr, DecidableEq

/-- How a step ends that does not go on: it fails closed, or the process ends. -/
inductive Stop
  | failed (kind : RenewerErrorKind)
  | crashed
deriving Repr, DecidableEq

/-- A part of a step. -/
abbrev Call (α : Type) : Type := EStateM Stop (Session Engine) α

/-- What a step meets. -/
structure StepInput where
  firstClock : Option UInt64
  reply : Except TransportError (Option DistributorSnapshot)
  secondClock : Option UInt64
  reconcileSave : PersistOutcome
  stageSave : PersistOutcome
  publishClock : Option UInt64
  attemptSave : PersistOutcome
  /-- `none` when the process ends before the reply. -/
  publishReply : Option (Except TransportError PublishOutcome)
  transientSave : PersistOutcome
  failureSave : PersistOutcome
deriving Repr, DecidableEq

def check {α : Type} : Except RenewerErrorKind α → Call α
  | .ok a => pure a
  | .error kind => throw (.failed kind)

def setPhase (phase : RenewerPhase) (lastErrorKind : Option RenewerErrorKind) : Call Unit :=
  modify fun s =>
    { s with process := { s.process with phase := phase, lastErrorKind := lastErrorKind } }

/-- A reading of the clock; readings that fail are `none`. -/
def observeClock (reading : Option UInt64) : Call UInt64 := do
  let observed ← check (match reading with
    | none => .error .clock
    | some observed => if observed = 0 then .error .clock else .ok observed)
  let s ← get
  let effective := s.process.effectiveClock.observe observed
  set { s with process := { s.process with effectiveClock := ⟨some effective⟩ } }
  pure effective

section Engine

variable [Json DurableRenewalState]

def persistState (next : DurableRenewalState) (outcome : PersistOutcome) : Call Unit := do
  let s ← get
  match persist s.disk next outcome with
  | (disk, .saved) => set { s with disk := disk, process := { s.process with state := next } }
  | (disk, .uncertain) => do
    set { s with disk := disk, process := { s.process with state := next } }
    throw (.failed .stateDurabilityUncertain)
  | (_, .failed) => throw (.failed .state)
  | (disk, .crashed _) => do
    set { s with disk := disk }
    throw .crashed

variable [Ed25519] [Base64] [Sha256] [Json ServiceTrustSnapshot] (authority : Authority)

omit [Json ServiceTrustSnapshot] in
def reconcile (remote : Option DistributorSnapshot) (effectiveNowMs : UInt64)
    (outcome : PersistOutcome) : Call Unit := do
  let s ← get
  let state := s.process.state
  match remote with
  | none => check (if state.committed.isSome then .error .distributorRollback else .ok ())
  | some remote =>
    check (authority.verifyRemote remote.snapshot effectiveNowMs)
    let expiresAtMs ← check (match remote.snapshot.policy.expiresAtMs with
      | none => .error .remoteSnapshot
      | some expiresAtMs => .ok expiresAtMs)
    match ← check (state.reconciled remote expiresAtMs) with
    | none => pure ()
    | some next => persistState next outcome

def createPending (previousGeneration : Option UInt64) (issuedAtMs : UInt64)
    (lateRecovery : Bool) (outcome : PersistOutcome) : Call StepOutcome := do
  let snapshot ← check ((authority.template.signNext previousGeneration issuedAtMs
    authority.timing authority.signer).mapError fun _ => .internal)
  let pending ← check ((PendingRenewal.fromSnapshot snapshot lateRecovery).mapError fun _ => .state)
  let s ← get
  persistState { s.process.state with pending := some pending } outcome
  setPhase .publishing none
  pure .continueImmediately

def DurableRenewalState.countTransient (state : DurableRenewalState) : DurableRenewalState :=
  { state with counters := { state.counters with
    transientFailures := saturatingSucc state.counters.transientFailures } }

def handleTransportError (error : TransportError) (outcome : PersistOutcome) :
    Call StepOutcome := do
  check (if error.isTransient then .ok () else .error .remoteSnapshot)
  let s ← get
  persistState s.process.state.countTransient outcome
  setPhase .retryWaiting (some .transport)
  pure (.sleep authority.timing.retryIntervalMs)

/-- The state that is saved before the pending renewal is published. -/
def DurableRenewalState.attempted (state : DurableRenewalState) (pending : PendingRenewal)
    (effectiveNowMs : UInt64) : DurableRenewalState :=
  let isLate := state.committed.any fun committed => committed.expiresAtMs ≤ effectiveNowMs
  { state with
    pending := some { pending with lateRecovery := pending.lateRecovery || isLate }
    counters := { state.counters with attempts := saturatingSucc state.counters.attempts } }

def publishPending (pending : PendingRenewal) (input : StepInput) : Call StepOutcome := do
  let effectiveNowMs ← observeClock input.publishClock
  check (if pending.issuedAtMs ≤ effectiveNowMs ∧ effectiveNowMs < pending.expiresAtMs then .ok ()
    else .error .pendingOutsideValidity)
  let s ← get
  persistState (s.process.state.attempted pending effectiveNowMs) input.attemptSave
  setPhase .publishing none
  modify fun s => { s with
    published := s.published ++ [⟨pending.exactSnapshotJson, effectiveNowMs, s.disk⟩] }
  match input.publishReply with
  | none => throw .crashed
  | some (.error error) => handleTransportError authority error input.transientSave
  | some (.ok .rejected) => throw (.failed .publicationRejected)
  | some (.ok _) => pure .continueImmediately

/-- What a step does after it has reconciled. -/
def advance (effectiveNowMs : UInt64) (input : StepInput) : Call StepOutcome := do
  let s ← get
  match s.process.state.pending, s.process.state.committed with
  | some pending, _ => publishPending authority pending input
  | none, none => createPending authority none effectiveNowMs false input.stageSave
  | none, some committed =>
    match ← check ((authority.timing.schedule committed.expiresAtMs effectiveNowMs).mapError
      fun _ => .clock) with
    | .waiting _ waitMs => do
      setPhase .waiting none
      pure (.sleep waitMs)
    | .due _ =>
      createPending authority (some committed.generation) effectiveNowMs false input.stageSave
    | .late _ _ =>
      createPending authority (some committed.generation) effectiveNowMs true input.stageSave

/-- A step up to where it fails closed. -/
def attemptStep (input : StepInput) : Call StepOutcome := do
  let _ ← observeClock input.firstClock
  let s ← get
  setPhase .reconciling s.process.lastErrorKind
  match input.reply with
  | .error error => handleTransportError authority error input.transientSave
  | .ok remote => do
    let effectiveNowMs ← observeClock input.secondClock
    reconcile authority remote effectiveNowMs input.reconcileSave
    advance authority effectiveNowMs input

end Engine

/-! ## A renewer over the lifetime of its file -/

/-- A renewer and its file. -/
abbrev RenewerState : Type := Session (Option Engine)

def Session.stopped (s : Session Engine) (kind : RenewerErrorKind) : RenewerState :=
  { s with process := some { s.process with phase := .failedClosed, lastErrorKind := some kind } }

def DurableRenewalState.countRejected (state : DurableRenewalState) : DurableRenewalState :=
  { state with counters := { state.counters with
    rejectedStates := saturatingSucc state.counters.rejectedStates } }

section Runs

variable [Json DurableRenewalState]

/-- `fail_closed`: what is uncertain is not touched again, otherwise the failure is counted. -/
def failClosed (kind : RenewerErrorKind) (outcome : PersistOutcome) (s : Session Engine) :
    RenewerState :=
  if kind = .stateDurabilityUncertain then s.stopped kind
  else
    let next := s.process.state.countRejected
    match persist s.disk next outcome with
    | (disk, .saved) =>
      Session.stopped { s with disk := disk, process := { s.process with state := next } } kind
    | (disk, .uncertain) =>
      Session.stopped { s with disk := disk, process := { s.process with state := next } }
        .stateDurabilityUncertain
    | (disk, .failed) => Session.stopped { s with disk := disk } .state
    | (disk, .crashed _) => { s with disk := disk, process := none }

/-- The end of a step. -/
def afterStep (outcome : PersistOutcome) :
    EStateM.Result Stop (Session Engine) StepOutcome → RenewerState
  | .ok _ s => { s with process := some s.process }
  | .error (.failed kind) s => failClosed kind outcome s
  | .error .crashed s => { s with process := none }

variable [Ed25519] [Base64] [Sha256] [Json ServiceTrustSnapshot]

def stepEngine (authority : Authority) (input : StepInput) (s : Session Engine) : RenewerState :=
  if s.process.phase = .failedClosed then { s with process := some s.process }
  else afterStep input.failureSave (attemptStep authority input s)

omit [Json DurableRenewalState] in
/-- The engine with the state that it has loaded. -/
def startEngine (authority : Authority) (state : DurableRenewalState) : Option Engine :=
  match authority.validateLoadedState state with
  | .ok _ => some ⟨state, ⟨none⟩, .reconciling, none⟩
  | .error _ => none

/-- `open`: a file that is not there is written first. -/
def openEngine (authority : Authority) (outcome : PersistOutcome) (s : RenewerState) :
    RenewerState :=
  match load s.disk.visible with
  | .ok state =>
    match state.validate authority.authorityFingerprint
      authority.template.semanticFingerprint with
    | .ok _ => { s with process := startEngine authority state }
    | .error _ => s
  | .error .missing =>
    match persist s.disk authority.emptyState outcome with
    | (disk, .saved) =>
      { s with disk := disk, process := startEngine authority authority.emptyState }
    | (disk, _) => { s with disk := disk }
  | .error _ => s

/-- What happens to a renewer. -/
inductive RenewerAction
  | start (outcome : PersistOutcome)
  | step (input : StepInput)
  /-- The process ends between its writes; the file stays as it is. -/
  | crash
  /-- Power is lost, and `kept` of the replacements that were not synced survive. -/
  | losePower (kept : ℕ)
deriving Repr, DecidableEq

def RenewerState.act (authority : Authority) (s : RenewerState) :
    RenewerAction → Option RenewerState
  | .start outcome =>
    match s.process with
    | none => some (openEngine authority outcome s)
    | some _ => none
  | .step input =>
    match s.process with
    | none => none
    | some engine => some (stepEngine authority input { s with process := engine })
  | .crash => some { s with process := none }
  | .losePower kept => some { s with disk := s.disk.lose kept, process := none }

/-- A renewer that is run with one configuration. Without a valid one it does not start. -/
def renewerSystem [Json EncodedRenewalTemplate] (config : RenewerConfig) :
    System RenewerState where
  init s := s = ⟨⟨[], none, []⟩, none, []⟩
  step s s' := ∃ authority action, config.authority = .ok authority ∧
    s.act authority action = some s'

end Runs

end InferLab.Renewer
