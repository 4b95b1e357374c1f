import InferLab.ServiceAuth.TrustSnapshot
import InferLab.Transition

/-!
# Control plane: the service authorizer

Every request of a service is authenticated: its signature is verified with the keys of the
active trust policy, it must have been issued recently, and its nonce must be new. Accepted
nonces are remembered for as long as their request could be fresh.

A request is authenticated under a read guard of the policy. Requests overlap, but the replay
cache has a lock of its own, so an authentication is two steps: everything up to the cache,
and what happens under its lock. A policy is activated under the write guard, while no
authentication is under way. The counters and texts of the status report are left out.
-/

namespace InferLab.Receiver

open ServiceAuth Wire

def maxReplayEntries : ℕ := 10000

/-- Why a request is rejected. -/
inductive ServiceRejectionKind
  | authentication
  | freshness
  | replay
  | authorization
deriving Repr, DecidableEq

/-- A request that is rejected. -/
structure ServiceAuthorizationError where
  kind : ServiceRejectionKind
  serviceId : Option String
  message : String
deriving Repr, DecidableEq

/-- The request that a signature is for. -/
structure ServiceRequestContext where
  method : String
  path : String
  clusterId : String
  audienceId : String
  body : Bytes
  nowMs : UInt64
deriving Repr, DecidableEq

/-- Where a policy comes from. -/
inductive TrustPolicySource
  | staticEnvironment
  | signedSnapshot
deriving Repr, DecidableEq

/-- What is known of a policy. -/
structure TrustPolicyProvenance where
  source : TrustPolicySource
  generation : Option UInt64
  issuedAtMs : Option UInt64
  signingKeyId : Option String
  loadedAtMs : Option UInt64
  trustedSigningKeyIds : List String
  revokedSigningKeyIds : List String
  receiverValidity : Option ServiceTrustReceiverValidity
  receiverValidityConfig : Option ServiceTrustReceiverValidityConfig
deriving Repr, DecidableEq

/-- A policy that is enforced. -/
structure RequiredMode where
  keys : TrustedServiceKeyRing
  gatewayServiceIds : List String
  maxAgeMs : UInt64
  maxFutureSkewMs : UInt64
  trustPolicy : TrustPolicyProvenance
deriving Repr, DecidableEq

/-- Whether requests must be signed. -/
inductive Mode
  | disabled
  | required (mode : RequiredMode)
deriving Repr, DecidableEq

/-- The policy in force, and what was seen. -/
structure ServiceAuthorizer where
  mode : Mode
  /-- Accepted nonces by service, with the time until which they are kept. -/
  replayCache : List ((String × String) × UInt64)
  maxObservedWallClockMs : UInt64
deriving Repr, DecidableEq

/-! ## Construction -/

def validateRequiredPolicy (keys : TrustedServiceKeyRing) (gatewayServiceIds : List String)
    (maxAgeMs : UInt64) : Except String Unit := do
  require (maxAgeMs ≠ 0) "service request maximum age must be positive"
  require (!gatewayServiceIds.isEmpty) "at least one gateway service ID is required"
  -- the source goes through the gateways in the order of a `BTreeSet`
  match ((gatewayServiceIds.filter (· ∉ keys.orderedServiceIds)).mergeSort (· ≤ ·)).head? with
  | none => pure ()
  | some untrusted =>
    throw s!"gateway service ID '{untrusted}' is missing from the trusted service keys"

namespace ServiceAuthorizer

/-- `ServiceAuthorizer::new`. -/
def new (mode : Mode) : ServiceAuthorizer where
  mode := mode
  replayCache := []
  maxObservedWallClockMs := match mode with
    | .disabled => 0
    | .required mode => mode.trustPolicy.loadedAtMs.getD 0

def disabled : ServiceAuthorizer := new .disabled

/-- `ServiceAuthorizer::required`. -/
def required (keys : TrustedServiceKeyRing) (gatewayServiceIds : List String)
    (maxAgeMs maxFutureSkewMs : UInt64) : Except String ServiceAuthorizer := do
  validateRequiredPolicy keys gatewayServiceIds maxAgeMs
  pure (new (.required {
    keys := keys
    gatewayServiceIds := gatewayServiceIds
    maxAgeMs := maxAgeMs
    maxFutureSkewMs := maxFutureSkewMs
    trustPolicy := {
      source := .staticEnvironment
      generation := none
      issuedAtMs := none
      signingKeyId := none
      loadedAtMs := none
      trustedSigningKeyIds := []
      revokedSigningKeyIds := []
      receiverValidity := none
      receiverValidityConfig := none } }))

/-- The provenance of a signed policy. -/
def signedProvenance (snapshot : VerifiedServiceTrustSnapshot) (loadedAtMs : UInt64)
    (trustedSigningKeyIds revokedSigningKeyIds : List String)
    (receiverValidity : ServiceTrustReceiverValidity)
    (receiverValidityConfig : ServiceTrustReceiverValidityConfig) : TrustPolicyProvenance where
  source := .signedSnapshot
  generation := some snapshot.policy.generation
  issuedAtMs := some snapshot.policy.issuedAtMs
  signingKeyId := some snapshot.signingKeyId
  loadedAtMs := some loadedAtMs
  trustedSigningKeyIds := trustedSigningKeyIds
  revokedSigningKeyIds := revokedSigningKeyIds
  receiverValidity := some receiverValidity
  receiverValidityConfig := some receiverValidityConfig

def invalidValidity (error : ServiceTrustValidityError) : String :=
  s!"invalid service-trust policy validity: {error.message}"

def requiredFromSignedSnapshot (snapshot : VerifiedServiceTrustSnapshot)
    (trustedSigningKeyIds revokedSigningKeyIds : List String)
    (receiverValidityConfig : ServiceTrustReceiverValidityConfig)
    (maxAgeMs maxFutureSkewMs loadedAtMs : UInt64) : Except String ServiceAuthorizer := do
  let receiverValidity ← (snapshot.policy.validateReceiverValidity loadedAtMs
    receiverValidityConfig).mapError invalidValidity
  validateRequiredPolicy snapshot.compiled.keys snapshot.compiled.gatewayServiceIds maxAgeMs
  pure (new (.required {
    keys := snapshot.compiled.keys
    gatewayServiceIds := snapshot.compiled.gatewayServiceIds
    maxAgeMs := maxAgeMs
    maxFutureSkewMs := maxFutureSkewMs
    trustPolicy := signedProvenance snapshot loadedAtMs trustedSigningKeyIds revokedSigningKeyIds
      receiverValidity receiverValidityConfig }))

/-! ## Activation of policies -/

/-- `observe_wall_clock`: the clock that the expiry of policies is judged by never steps back. -/
def observeWallClock (authorizer : ServiceAuthorizer) (observedNowMs : UInt64) :
    ServiceAuthorizer :=
  { authorizer with
    maxObservedWallClockMs := max authorizer.maxObservedWallClockMs observedNowMs }

def trustPolicyGeneration (authorizer : ServiceAuthorizer) : Option UInt64 :=
  match authorizer.mode with
  | .disabled => none
  | .required mode => mode.trustPolicy.generation

/-- What `apply_signed_snapshot_with_clock` decides: the new mode, if the policy is newer. -/
def nextMode (mode : Mode) (snapshot : VerifiedServiceTrustSnapshot) (activatedAtMs : UInt64) :
    Except String (Option RequiredMode) := do
  let .required current := mode
    | throw "cannot apply a signed service-trust snapshot in disabled mode"
  let trustPolicy := current.trustPolicy
  require (trustPolicy.source = .signedSnapshot)
    "cannot apply a signed service-trust snapshot over static environment policy"
  let currentGeneration := trustPolicy.generation.getD 0
  let some receiverValidityConfig := trustPolicy.receiverValidityConfig
    | throw "active signed service-trust policy is missing receiver validity configuration"
  let receiverValidity ← (snapshot.policy.validateReceiverValidity activatedAtMs
    receiverValidityConfig).mapError invalidValidity
  require (currentGeneration ≤ snapshot.policy.generation)
    (s!"service-trust snapshot generation {snapshot.policy.generation} is older than active " ++
      s!"generation {currentGeneration}")
  if snapshot.policy.generation = currentGeneration then pure none
  else
    validateRequiredPolicy snapshot.compiled.keys snapshot.compiled.gatewayServiceIds
      current.maxAgeMs
    pure (some { current with
      keys := snapshot.compiled.keys
      gatewayServiceIds := snapshot.compiled.gatewayServiceIds
      trustPolicy := signedProvenance snapshot activatedAtMs trustPolicy.trustedSigningKeyIds
        trustPolicy.revokedSigningKeyIds receiverValidity receiverValidityConfig })

/-- Everything that an activation has checked. -/
theorem nextMode_eq_some {mode : Mode} {snapshot : VerifiedServiceTrustSnapshot}
    {activatedAtMs : UInt64} {next : RequiredMode}
    (h : nextMode mode snapshot activatedAtMs = .ok (some next)) :
    ∃ current config validity, mode = .required current ∧
      current.trustPolicy.source = .signedSnapshot ∧
      current.trustPolicy.receiverValidityConfig = some config ∧
      snapshot.policy.validateReceiverValidity activatedAtMs config = .ok validity ∧
      current.trustPolicy.generation.getD 0 < snapshot.policy.generation ∧
      validateRequiredPolicy snapshot.compiled.keys snapshot.compiled.gatewayServiceIds
        current.maxAgeMs = .ok () ∧
      next = { current with
        keys := snapshot.compiled.keys
        gatewayServiceIds := snapshot.compiled.gatewayServiceIds
        trustPolicy := signedProvenance snapshot activatedAtMs
          current.trustPolicy.trustedSigningKeyIds current.trustPolicy.revokedSigningKeyIds
          validity config } := by
  cases mode with
  | disabled => cases h
  | required current =>
    simp only [nextMode] at h
    cases hconfig : current.trustPolicy.receiverValidityConfig with
    | none =>
      rw [hconfig] at h
      obtain ⟨_, _, h⟩ := of_bind h
      cases h
    | some config =>
      rw [hconfig] at h
      obtain ⟨_, hsource, h⟩ := of_bind h
      obtain ⟨validity, hvalidity, h⟩ := of_bind h
      obtain ⟨_, hgeneration, h⟩ := of_bind h
      have hle : current.trustPolicy.generation.getD 0 ≤ snapshot.policy.generation :=
        of_decide_eq_true (of_require hgeneration)
      by_cases hequal : snapshot.policy.generation = current.trustPolicy.generation.getD 0
      · rw [if_pos hequal] at h
        cases h
      · rw [if_neg hequal] at h
        obtain ⟨_, hrequired, h⟩ := of_bind h
        cases h
        refine ⟨current, config, validity, rfl, of_decide_eq_true (of_require hsource),
          hconfig, of_mapError hvalidity, ?_, hrequired, rfl⟩
        exact UInt64.lt_of_le_of_ne hle (Ne.symm hequal)

/-- `apply_signed_snapshot_with_clock`; it returns the time of an activation. -/
def applySignedSnapshot (authorizer : ServiceAuthorizer) (snapshot : VerifiedServiceTrustSnapshot)
    (observedNowMs : UInt64) : Except String (Option UInt64) × ServiceAuthorizer :=
  let authorizer := authorizer.observeWallClock observedNowMs
  let activatedAtMs := authorizer.maxObservedWallClockMs
  match nextMode authorizer.mode snapshot activatedAtMs with
  | .error error => (.error error, authorizer)
  | .ok none => (.ok none, authorizer)
  | .ok (some mode) => (.ok (some activatedAtMs), { authorizer with mode := .required mode })

/-! ## Authentication -/

def trustPolicyIsExpired (trustPolicy : TrustPolicyProvenance) (effectiveNowMs : UInt64) : Bool :=
  if trustPolicy.source ≠ .signedSnapshot then false
  else match trustPolicy.receiverValidity with
    | some ⟨.v1, none⟩ => false
    | some ⟨.v2, some expiresAtMs⟩ => expiresAtMs ≤ effectiveNowMs
    | _ => true

/-- A request on its way to the replay cache, with the settings of the mode it was read under. -/
structure FreshRequest where
  verified : VerifiedServiceCredential
  serviceId : String
  nonce : String
  issuedAtMs : UInt64
  nowMs : UInt64
  maxAgeMs : UInt64
  maxFutureSkewMs : UInt64
deriving Repr, DecidableEq

/-- What the replay cache knows a request by. -/
def FreshRequest.pair (request : FreshRequest) : String × String :=
  (request.serviceId, request.nonce)

/-- The time until which the nonce of a request is kept. -/
def FreshRequest.expiresAtMs (request : FreshRequest) : ℕ :=
  saturatingAdd u64Max (saturatingAdd u64Max request.issuedAtMs.toNat request.maxAgeMs.toNat)
    request.maxFutureSkewMs.toNat

/-- A rejection. -/
def reject {α : Type} (kind : ServiceRejectionKind) (serviceId : Option String)
    (message : String) : Except ServiceAuthorizationError α :=
  .error ⟨kind, serviceId, message⟩

def rejectExpiredPolicy {α : Type} (serviceId : Option String) :
    Except ServiceAuthorizationError α :=
  reject .authentication serviceId "signed service-trust policy is expired"

/-- `preflight_signed_policy_validity`: the check before the headers of a request are read. -/
def preflightSignedPolicyValidity (authorizer : ServiceAuthorizer) (observedNowMs : UInt64) :
    Except ServiceAuthorizationError UInt64 × ServiceAuthorizer :=
  match authorizer.mode with
  | .disabled => (.ok observedNowMs, authorizer)
  | .required mode =>
    let authorizer := authorizer.observeWallClock observedNowMs
    let effectiveNowMs := authorizer.maxObservedWallClockMs
    if trustPolicyIsExpired mode.trustPolicy effectiveNowMs then
      (rejectExpiredPolicy none, authorizer)
    else (.ok effectiveNowMs, authorizer)

variable [Ed25519] [Base64]

/-- The part of `authenticate` before the replay cache, in required mode. -/
def verifyFresh (mode : RequiredMode) (authentication : ServiceAuthentication)
    (context : ServiceRequestContext) : Except ServiceAuthorizationError FreshRequest :=
  let serviceId := authentication.serviceId
  let payload : ServiceRequestPayload := {
    method := context.method
    path := context.path
    clusterId := context.clusterId
    audienceId := context.audienceId
    issuedAtMs := authentication.issuedAtMs
    nonce := authentication.nonce
    body := context.body }
  match mode.keys.verify payload authentication with
  | .error error => reject .authentication (some serviceId) error.message
  | .ok verified =>
    let latestAcceptable := saturatingAdd u64Max context.nowMs.toNat mode.maxFutureSkewMs.toNat
    if latestAcceptable < authentication.issuedAtMs.toNat then
      let early := authentication.issuedAtMs.toNat - context.nowMs.toNat
      reject .freshness (some serviceId)
        (s!"service request was issued {early} ms in the future; maximum future skew is " ++
          s!"{mode.maxFutureSkewMs} ms")
    else
      let ageMs := context.nowMs.toNat - authentication.issuedAtMs.toNat
      if mode.maxAgeMs.toNat < ageMs then
        reject .freshness (some serviceId)
          s!"service request is {ageMs} ms old; maximum age is {mode.maxAgeMs} ms"
      else .ok {
        verified := verified
        serviceId := serviceId
        nonce := authentication.nonce
        issuedAtMs := authentication.issuedAtMs
        nowMs := context.nowMs
        maxAgeMs := mode.maxAgeMs
        maxFutureSkewMs := mode.maxFutureSkewMs }

/-- The part of `authenticate` before the replay cache. A disabled authorizer accepts requests
that are not signed, and nothing else. -/
def beginAuthenticate (authorizer : ServiceAuthorizer)
    (authentication : Option ServiceAuthentication) (context : ServiceRequestContext) :
    Except ServiceAuthorizationError (Option FreshRequest) × ServiceAuthorizer :=
  match authorizer.mode with
  | .disabled =>
    match authentication with
    | none => (.ok none, authorizer)
    | some authentication => (reject .authentication (some authentication.serviceId)
        "service authentication is not configured; refusing signed service headers", authorizer)
  | .required mode =>
    let authorizer := authorizer.observeWallClock context.nowMs
    if trustPolicyIsExpired mode.trustPolicy authorizer.maxObservedWallClockMs then
      (rejectExpiredPolicy (authentication.map ServiceAuthentication.serviceId), authorizer)
    else match authentication with
      | none =>
        (reject .authentication none "service authentication is required", authorizer)
      | some authentication => ((verifyFresh mode authentication context).map some, authorizer)

/-- The part of `authenticate` under the lock of the replay cache. -/
def checkReplay (cache : List ((String × String) × UInt64)) (request : FreshRequest) :
    Except ServiceAuthorizationError VerifiedServiceCredential ×
      List ((String × String) × UInt64) :=
  let cache := cache.filter fun entry => request.nowMs ≤ entry.2
  if cache.any fun entry => entry.1 == request.pair then
    (reject .replay (some request.serviceId) "service request nonce was already accepted", cache)
  else if maxReplayEntries ≤ cache.length then
    (reject .replay (some request.serviceId) "service replay cache capacity is exhausted", cache)
  else (.ok request.verified, (request.pair, UInt64.ofNat request.expiresAtMs) :: cache)

end ServiceAuthorizer

end InferLab.Receiver
