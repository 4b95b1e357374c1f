import InferLab.Receiver.Candidate

/-!
# Control plane: starting with a policy and following its updates

A receiver follows a file or a distributor. A policy is saved before it is activated: from a
file its floor, from a distributor the cache and then the floor. What a call finds outside the
process, such as the time, a file or a response, is part of its input.
-/

namespace InferLab.Receiver

open ServiceAuth Wire

/-- A process that has started. -/
structure Running (W : Type) where
  authorizer : ServiceAuthorizer
  watcher : W
deriving Repr, DecidableEq

section Steps

variable {P W α : Type}

def updateWatcher (f : W → W) : Call (Running W) Unit :=
  modify fun s => { s with process := { s.process with watcher := f s.process.watcher } }

def observeWallClock (observedNowMs : UInt64) : Call (Running W) UInt64 := do
  modify fun s => { s with process := { s.process with
    authorizer := s.process.authorizer.observeWallClock observedNowMs } }
  return (← get).process.authorizer.maxObservedWallClockMs

/-- `apply_signed_snapshot`. -/
def applySignedSnapshot [PrettyJson PersistedServiceTrustFloor]
    (snapshot : VerifiedServiceTrustSnapshot) (observedNowMs : UInt64) :
    Call (Running W) (Option UInt64) := fun s =>
  let applied := s.process.authorizer.applySignedSnapshot snapshot observedNowMs
  let s := { s with process := { s.process with authorizer := applied.2 } }
  match applied.1 with
  | .error message => .error (.failed message) s
  | .ok none => .ok none s
  | .ok (some activatedAtMs) => .ok (some activatedAtMs) (s.activated snapshot)

/-- The error of a call, as a value. A crash ends the process all the same. -/
def attempt (x : Call P α) : Call P (Except String α) := fun s =>
  match x s with
  | .ok a s' => .ok (.ok a) s'
  | .error (.failed message) s' => .ok (.error message) s'
  | .error .crashed s' => .error .crashed s'

/-- A start saves the floor unless the file holds it already. -/
def saveChangedFloor [PrettyJson PersistedServiceTrustFloor]
    (priorFloor : Option PersistedServiceTrustFloor) (acceptedFloor : PersistedServiceTrustFloor)
    (outcome : SaveOutcome) : Call P Unit :=
  if priorFloor ≠ some acceptedFloor then saveFloor acceptedFloor outcome else pure ()

/-- The error that `apply_signed_snapshot` did not activate anything. -/
def notNewer (generation : UInt64) : Stop :=
  .failed s!"service-trust generation {generation} was not newer than the active policy"

end Steps

/-! ## A policy from a file -/

/-- What a file watcher is started with. -/
structure LocalTrustConfig where
  snapshotPath : String
  floorPath : String
  clusterId : String
  roots : TrustedServiceTrustRootKeyRing
  localSigningCredential : LocalSigningCredential
  validityConfig : ServiceTrustReceiverValidityConfig
  pollIntervalMs : ℕ
  maxAgeMs : UInt64
  maxFutureSkewMs : UInt64
deriving Repr, DecidableEq

/-- The watcher of a local file. -/
structure ServiceTrustWatcher where
  snapshotPath : String
  floorPath : String
  clusterId : String
  roots : TrustedServiceTrustRootKeyRing
  localSigningCredential : LocalSigningCredential
  acceptedFloor : PersistedServiceTrustFloor
  validityConfig : ServiceTrustReceiverValidityConfig
  lastObservedBytes : Bytes
  lastSourceError : Option String
deriving Repr, DecidableEq

/-- What a start from a file finds. The signer is asked twice and may have changed. -/
structure LocalBootstrap where
  file : Except String Bytes
  identity : SigningIdentity
  observedAtMs : UInt64
  floorReadError : Option String
  floorOutcome : SaveOutcome
  activationIdentity : SigningIdentity
  activatedAtMs : UInt64
deriving Repr, DecidableEq

/-- What a poll of the file finds. -/
structure LocalPoll where
  observedAtMs : UInt64
  file : Except String Bytes
  identity : SigningIdentity
  floorOutcome : SaveOutcome
  activationIdentity : SigningIdentity
  activationAtMs : UInt64
deriving Repr, DecidableEq

section LocalFile

variable [Ed25519] [Base64] [Json ServiceTrustSnapshot] [PrettyJson PersistedServiceTrustFloor]

/-- `bootstrap_signed_service_trust_inner`. -/
def bootstrapSignedServiceTrust (config : LocalTrustConfig) (input : LocalBootstrap) :
    Call Unit (Running ServiceTrustWatcher) := do
  check (require (config.pollIntervalMs ≠ 0)
    "service-trust snapshot poll interval must be positive")
  let bytes ← check (readBounded config.snapshotPath maxSnapshotBytes input.file)
  let verified ← check (decodeAndVerify bytes config.clusterId config.roots)
  check (validateLocalSigningCredential verified
    (config.localSigningCredential.withCurrent input.identity))
  let _ ← check (validateReceiverValidity verified input.observedAtMs config.validityConfig)
  let priorFloor ← check (loadFloor config.floorPath (← get).disk input.floorReadError)
  check (validateCandidateFloor verified priorFloor)
  let acceptedFloor := PersistedServiceTrustFloor.fromVerified verified
  saveChangedFloor priorFloor acceptedFloor input.floorOutcome
  check (validateLocalSigningCredential verified
    (config.localSigningCredential.withCurrent input.activationIdentity))
  let authorizer ← check (ServiceAuthorizer.requiredFromSignedSnapshot verified
    config.roots.orderedKeyIds config.roots.revokedKeyIds config.validityConfig config.maxAgeMs
    config.maxFutureSkewMs input.activatedAtMs)
  modify (·.activated verified)
  return {
    authorizer := authorizer
    watcher := {
      snapshotPath := config.snapshotPath
      floorPath := config.floorPath
      clusterId := config.clusterId
      roots := config.roots
      localSigningCredential := config.localSigningCredential
      acceptedFloor := acceptedFloor
      validityConfig := config.validityConfig
      lastObservedBytes := bytes
      lastSourceError := none } }

/-- The part of a reload from the decoded snapshot on. -/
def ServiceTrustWatcher.acceptSnapshot (input : LocalPoll) (observedAtMs : UInt64)
    (bytes : Bytes) (verified : VerifiedServiceTrustSnapshot) :
    Call (Running ServiceTrustWatcher) (Option UInt64) := do
  let watcher := (← get).process.watcher
  let generation := verified.policy.generation
  check (validateLocalSigningCredential verified
    (watcher.localSigningCredential.withCurrent input.identity))
  let _ ← check (validateReceiverValidity verified observedAtMs watcher.validityConfig)
  check (validateCandidateFloor verified (some watcher.acceptedFloor))
  if generation = watcher.acceptedFloor.generation then
    if (← get).process.authorizer.trustPolicyGeneration = some generation then
      updateWatcher ({ · with lastObservedBytes := bytes })
    return none
  else
    let nextFloor := PersistedServiceTrustFloor.fromVerified verified
    saveFloor nextFloor input.floorOutcome
    updateWatcher ({ · with acceptedFloor := nextFloor })
    check (validateLocalSigningCredential verified
      (watcher.localSigningCredential.withCurrent input.activationIdentity))
    let activation ← applySignedSnapshot verified input.activationAtMs
    if activation.isNone then throw (notNewer generation)
    updateWatcher ({ · with lastObservedBytes := bytes })
    return some generation

/-- `ServiceTrustWatcher::reload_once_with_times`. -/
def ServiceTrustWatcher.reloadOnce (input : LocalPoll) :
    Call (Running ServiceTrustWatcher) (Option UInt64) := do
  let observedAtMs ← observeWallClock input.observedAtMs
  let watcher := (← get).process.watcher
  match readBounded watcher.snapshotPath maxSnapshotBytes input.file with
  | .error message =>
    -- the same error is reported once
    if watcher.lastSourceError = some message then return none
    else
      updateWatcher ({ · with lastSourceError := some message })
      throw (.failed message)
  | .ok bytes =>
    updateWatcher ({ · with lastSourceError := none })
    if bytes = watcher.lastObservedBytes then return none
    else
      let verified ← check (decodeAndVerify bytes watcher.clusterId watcher.roots)
      acceptSnapshot input observedAtMs bytes verified

end LocalFile

/-! ## A policy from a distributor -/

/-- What a distributor watcher is started with. -/
structure RemoteTrustConfig where
  distributorUrl : String
  cachePath : String
  floorPath : String
  clusterId : String
  roots : TrustedServiceTrustRootKeyRing
  validityConfig : ServiceTrustReceiverValidityConfig
  maxAgeMs : UInt64
  maxFutureSkewMs : UInt64
deriving Repr, DecidableEq

/-- The watcher of a distributor. -/
structure RemoteServiceTrustWatcher where
  distributorUrl : String
  cachePath : String
  floorPath : String
  clusterId : String
  roots : TrustedServiceTrustRootKeyRing
  acceptedFloor : PersistedServiceTrustFloor
  validityConfig : ServiceTrustReceiverValidityConfig
  etag : Option String
  pendingReceipt : Option ServiceTrustApplicationReceipt
  persistenceFailed : Bool
deriving Repr, DecidableEq

/-- What a start with a distributor finds. -/
structure RemoteBootstrap where
  identity : SigningIdentity
  floorReadError : Option String
  cacheReadError : Option String
  cacheCheckedAtMs : UInt64
  response : Except String HttpResponse
  observedAtMs : UInt64
  cacheOutcome : SaveOutcome
  floorOutcome : SaveOutcome
  fallbackReadError : Option String
  fallbackAtMs : UInt64
  activatedAtMs : UInt64
  activationIdentity : SigningIdentity
deriving Repr, DecidableEq

/-- What a poll of the distributor finds. -/
structure RemotePoll where
  response : Except String HttpResponse
  identity : SigningIdentity
  observedAtMs : UInt64
  cacheReadError : Option String
  cacheOutcome : SaveOutcome
  floorOutcome : SaveOutcome
  activationIdentity : SigningIdentity
  activationAtMs : UInt64
deriving Repr, DecidableEq

/-- What a poll reports. -/
inductive RemoteReloadOutcome
  | notModified
  | unchanged
  | updated (generation : UInt64)
deriving Repr, DecidableEq

section Remote

variable [Ed25519] [Base64] [UrlParser] [Json ServiceTrustSnapshot]
  [PrettyJson PersistedServiceTrustFloor] [PrettyJson PersistedServiceTrustCache] {P : Type}

/-- `persist_remote_acceptance`: the cache first. -/
def persistRemoteAcceptance (distributorUrl : String) (etag : Option String)
    (snapshot : VerifiedServiceTrustSnapshot) (cacheOutcome floorOutcome : SaveOutcome) :
    Call P Unit := do
  let version ← check (snapshot.policy.version.mapError ServiceTrustError.message)
  saveCache {
    schema := serviceTrustCacheSchema
    distributorUrl := distributorUrl
    etag := etag
    snapshot := {
      policy := snapshot.policy
      authentication := {
        schema := version.authenticationSchema
        algorithm := signatureAlgorithm
        keyId := snapshot.signingKeyId
        signature := snapshot.signature } } } cacheOutcome
  saveFloor (.fromVerified snapshot) floorOutcome

/-- `persist_remote_acceptance_redacted`: the error says nothing about the files. -/
def persistRemoteAcceptanceRedacted (distributorUrl : String) (etag : Option String)
    (snapshot : VerifiedServiceTrustSnapshot) (cacheOutcome floorOutcome : SaveOutcome) :
    Call P Unit := do
  match ← attempt (persistRemoteAcceptance distributorUrl etag snapshot cacheOutcome
    floorOutcome) with
  | .ok _ => pure ()
  | .error _ => throw (.failed "durable service-trust cache and floor could not be persisted")

/-- `cached_fallback`, with the policy and the tag of the cache. -/
def cachedFallback (verification : CacheVerificationContext) (distributorUrl : String)
    (readError : Option String) (priorFloor : Option PersistedServiceTrustFloor)
    (observedAtMs : UInt64) (floorOutcome : SaveOutcome) :
    Call P (VerifiedServiceTrustSnapshot × Option String) := do
  let some cached ← check (loadVerifiedCache verification (← get).disk readError priorFloor
      observedAtMs)
    | throw (.failed "remote service-trust is unavailable and no valid cache exists")
  let acceptedFloor := PersistedServiceTrustFloor.fromVerified cached.verified
  saveChangedFloor priorFloor acceptedFloor floorOutcome
  let etag := if cached.cache.distributorUrl = distributorUrl then cached.cache.etag else none
  return (cached.verified, etag)

/-- The checks of a snapshot that the distributor serves to a receiver that starts. -/
def verifyServedSnapshot (config : RemoteTrustConfig) (input : RemoteBootstrap)
    (priorFloor : Option PersistedServiceTrustFloor) (bytes : Bytes) :
    Except String VerifiedServiceTrustSnapshot := do
  let verified ← decodeAndVerify bytes config.clusterId config.roots
  validateLocalSigningCredential verified input.identity.view
  let _ ← validateReceiverValidity verified input.observedAtMs config.validityConfig
  validateCandidateFloor verified priorFloor
  pure verified

/-- The policy to start with: from the distributor, or else from the cache. -/
def acquireSnapshot (config : RemoteTrustConfig) (input : RemoteBootstrap) :
    Call P (VerifiedServiceTrustSnapshot × Option String) := do
  let priorFloor ← check (loadFloor config.floorPath (← get).disk input.floorReadError)
  let verification : CacheVerificationContext := {
    cachePath := config.cachePath
    clusterId := config.clusterId
    roots := config.roots
    localCredential := input.identity.view
    validityConfig := config.validityConfig }
  let requestEtag := match loadVerifiedCache verification (← get).disk input.cacheReadError
      priorFloor input.cacheCheckedAtMs with
    | .ok (some cached) =>
      if cached.cache.distributorUrl = config.distributorUrl then cached.cache.etag else none
    | _ => none
  let fallback := cachedFallback verification config.distributorUrl input.fallbackReadError
    priorFloor input.fallbackAtMs input.floorOutcome
  match fetchRemoteSnapshot input.response requestEtag with
  | .ok (.snapshot bytes etag) =>
    match verifyServedSnapshot config input priorFloor bytes with
    | .ok verified => do
      persistRemoteAcceptanceRedacted config.distributorUrl etag verified input.cacheOutcome
        input.floorOutcome
      return (verified, etag)
    | .error _ => fallback
  | .ok (.notModified etag) => do
    let (verified, cachedEtag) ← fallback
    return (verified, etag.or cachedEtag)
  | .error _ => fallback

/-- The receipt of the current signer for the policy that has just been activated. -/
def signReceipt (identity : SigningIdentity) (verified : VerifiedServiceTrustSnapshot)
    (activatedAtMs : UInt64) : Call P ServiceTrustApplicationReceipt := do
  let receipt ← check ((signTrustReceiptWithKey identity.serviceId identity.credentialId
    identity.seed verified activatedAtMs).mapError fun error =>
      s!"sign service-trust receipt: {error.message}")
  modify (·.attested identity receipt)
  return receipt

/-- `bootstrap_remote_signed_service_trust_with_signer`. -/
def bootstrapRemoteSignedServiceTrust (config : RemoteTrustConfig) (input : RemoteBootstrap) :
    Call Unit (Running RemoteServiceTrustWatcher) := do
  let (verified, etag) ← acquireSnapshot config input
  check (validateLocalSigningCredential verified input.activationIdentity.view)
  let authorizer ← check (ServiceAuthorizer.requiredFromSignedSnapshot verified
    config.roots.orderedKeyIds config.roots.revokedKeyIds config.validityConfig config.maxAgeMs
    config.maxFutureSkewMs input.activatedAtMs)
  modify (·.activated verified)
  let receipt ← signReceipt input.activationIdentity verified input.activatedAtMs
  return {
    authorizer := authorizer
    watcher := {
      distributorUrl := config.distributorUrl
      cachePath := config.cachePath
      floorPath := config.floorPath
      clusterId := config.clusterId
      roots := config.roots
      acceptedFloor := .fromVerified verified
      validityConfig := config.validityConfig
      etag := etag
      pendingReceipt := some receipt
      persistenceFailed := false } }

namespace RemoteServiceTrustWatcher

/-- `accept_not_modified_at`: a new tag is saved with the cache. -/
def acceptNotModified (input : RemotePoll) (responseEtag : Option String) :
    Call (Running RemoteServiceTrustWatcher) Unit := do
  let observedAtMs ← observeWallClock input.observedAtMs
  let some responseEtag := responseEtag | return ()
  let watcher := (← get).process.watcher
  if watcher.etag = some responseEtag then return ()
  else
    let verification : CacheVerificationContext := {
      cachePath := watcher.cachePath
      clusterId := watcher.clusterId
      roots := watcher.roots
      localCredential := input.identity.view
      validityConfig := watcher.validityConfig }
    match loadVerifiedCache verification (← get).disk input.cacheReadError
      (some watcher.acceptedFloor) observedAtMs with
    | .error _ => throw (.failed "durable service-trust cache could not be verified after 304")
    | .ok none =>
      throw (.failed "remote service-trust returned 304 without a durable cached snapshot")
    | .ok (some cached) => do
      check (require
        (PersistedServiceTrustFloor.fromVerified cached.verified = watcher.acceptedFloor)
        ("remote service-trust returned 304 but the durable cache does not match the active " ++
          "snapshot"))
      match ← attempt (saveCache { cached.cache with
        distributorUrl := watcher.distributorUrl
        etag := some responseEtag } input.cacheOutcome) with
      | .error _ => throw (.failed "durable service-trust ETag update could not be persisted")
      | .ok _ => updateWatcher ({ · with etag := some responseEtag })

/-- The part of a reload from the decoded snapshot on. -/
def acceptSnapshot (input : RemotePoll) (etag : Option String)
    (verified : VerifiedServiceTrustSnapshot) :
    Call (Running RemoteServiceTrustWatcher) RemoteReloadOutcome := do
  let watcher := (← get).process.watcher
  let generation := verified.policy.generation
  check (validateLocalSigningCredential verified input.identity.view)
  let observedAtMs ← observeWallClock input.observedAtMs
  let _ ← check (validateReceiverValidity verified observedAtMs watcher.validityConfig)
  check (validateCandidateFloor verified (some watcher.acceptedFloor))
  match ← attempt (persistRemoteAcceptanceRedacted watcher.distributorUrl etag verified
    input.cacheOutcome input.floorOutcome) with
  | .error message => do
    updateWatcher ({ · with persistenceFailed := true })
    throw (.failed message)
  | .ok _ => do
    updateWatcher ({ · with etag := etag, acceptedFloor := .fromVerified verified })
    check (validateLocalSigningCredential verified input.activationIdentity.view)
    if generation = watcher.acceptedFloor.generation ∧
        (← get).process.authorizer.trustPolicyGeneration = some generation then
      return .unchanged
    else
      let some activatedAtMs ← applySignedSnapshot verified input.activationAtMs
        | throw (notNewer generation)
      let receipt ← signReceipt input.activationIdentity verified activatedAtMs
      updateWatcher ({ · with pendingReceipt := some receipt })
      return .updated generation

/-- `RemoteServiceTrustWatcher::reload_once_with_times`. -/
def reloadOnce (input : RemotePoll) :
    Call (Running RemoteServiceTrustWatcher) RemoteReloadOutcome := do
  let watcher := (← get).process.watcher
  check (require (!watcher.persistenceFailed)
    ("remote service-trust persistence previously failed; restart is required before further " ++
      "updates"))
  match ← check (fetchRemoteSnapshot input.response watcher.etag) with
  | .notModified etag => do
    acceptNotModified input etag
    return .notModified
  | .snapshot bytes etag => do
    let verified ← check (decodeAndVerify bytes watcher.clusterId watcher.roots)
    acceptSnapshot input etag verified

/-- `post_pending_receipt`, with the status of the response, if one comes. -/
def postPendingReceipt (status : Option ℕ) : Call (Running RemoteServiceTrustWatcher) Unit :=
  if status = some 200 ∨ status = some 201 then updateWatcher ({ · with pendingReceipt := none })
  else pure ()

end RemoteServiceTrustWatcher

end Remote

end InferLab.Receiver
