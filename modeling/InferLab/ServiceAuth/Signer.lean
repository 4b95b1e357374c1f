import InferLab.Transition
import InferLab.ServiceAuth.Requests
import Mathlib.Data.List.Nodup

/-!
# Service authentication: the signer of a service

A signer is fixed, or takes its keys from bundles that replace each other while the process runs.
Who wants to sign takes a snapshot of the signer, which keeps its key through later activations.
All of them number their requests with one counter.

The state is behind a lock that an activation holds while the validator it was passed runs, so
that no snapshot is taken meanwhile; requests are signed without the lock. The counters of
activations and rejections and the last error, which only the status shows, are left out.
-/

namespace InferLab.ServiceAuth

open Wire

/-- The kinds of error of `activate_bundle`; the parser of a bundle has others. -/
inductive ServiceSigningErrorKind
  | staticSigner
  | clusterMismatch
  | serviceMismatch
  | staleGeneration
  | generationFork
  | candidateRejected
deriving Repr, DecidableEq

/-- An activation that fails. -/
structure ServiceSigningError where
  kind : ServiceSigningErrorKind
  message : String
deriving Repr, DecidableEq

/-- The local policy does not take the bundle. -/
def ServiceSigningError.candidateRejected : ServiceSigningError :=
  ⟨.candidateRejected, "service signing bundle candidate was rejected by local policy"⟩

/-! ## Bundles -/

/-- A credential with its key. -/
structure ServiceSigningCredential where
  credentialId : String
  seed : Bytes
deriving Repr, DecidableEq

/-- Credentials by their identifiers. -/
structure SigningCredentials where
  entries : List ServiceSigningCredential
  nodup : (entries.map ServiceSigningCredential.credentialId).Nodup

namespace SigningCredentials

/-- The credential of an identifier. -/
def get? (credentials : SigningCredentials) (credentialId : String) :
    Option ServiceSigningCredential :=
  credentials.entries.find? (·.credentialId == credentialId)

/-- The identifiers with the public keys. -/
def publicKeys [Ed25519] (credentials : SigningCredentials) : List (String × Bytes) :=
  credentials.entries.map fun credential =>
    (credential.credentialId, Ed25519.publicKey credential.seed)

end SigningCredentials

/-- A bundle that has passed all checks; its active credential is one of it. -/
structure VerifiedServiceSigningBundle where
  clusterId : String
  generation : UInt64
  serviceId : String
  activeCredentialId : String
  credentials : SigningCredentials
  active_isSome : (credentials.get? activeCredentialId).isSome = true

namespace VerifiedServiceSigningBundle

/-- The credential that a bundle signs with. -/
def activeCredential (bundle : VerifiedServiceSigningBundle) : ServiceSigningCredential :=
  (bundle.credentials.get? bundle.activeCredentialId).get bundle.active_isSome

end VerifiedServiceSigningBundle

/-! ## The state and its snapshots -/

/-- Where the credentials of a signer come from. -/
inductive ServiceSignerMode
  | static
  | watchedBundle
deriving Repr, DecidableEq

/-- What a signer holds under its lock. -/
structure ServiceSignerState where
  mode : ServiceSignerMode
  clusterId : Option String
  generation : Option UInt64
  serviceId : String
  active : ServiceSigningCredential
  credentials : SigningCredentials
  /-- Only bundles have a cluster and a generation. -/
  watched : mode = .watchedBundle → clusterId.isSome = true ∧ generation.isSome = true

/-- What one request is signed with. -/
structure ServiceSignerSnapshot where
  serviceId : String
  credential : ServiceSigningCredential
  clusterId : Option String
  bundleGeneration : Option UInt64
  configuredCredentialCount : ℕ
deriving Repr, DecidableEq

/-- The part of the state that signing needs. -/
def snapshotFromState (state : ServiceSignerState) : ServiceSignerSnapshot where
  serviceId := state.serviceId
  credential := state.active
  clusterId := state.clusterId
  bundleGeneration := state.generation
  configuredCredentialCount := state.credentials.entries.length

/-- What a validator is shown of a candidate. -/
def VerifiedServiceSigningBundle.snapshot (candidate : VerifiedServiceSigningBundle) :
    ServiceSignerSnapshot where
  serviceId := candidate.serviceId
  credential := candidate.activeCredential
  clusterId := some candidate.clusterId
  bundleGeneration := some candidate.generation
  configuredCredentialCount := candidate.credentials.entries.length

/-- `semantically_matches`. -/
def VerifiedServiceSigningBundle.semanticallyMatches [Ed25519]
    (candidate : VerifiedServiceSigningBundle) (state : ServiceSignerState) : Bool :=
  candidate.clusterId == state.clusterId.getD "" && candidate.serviceId == state.serviceId &&
    candidate.activeCredentialId == state.active.credentialId &&
    candidate.credentials.entries.length == state.credentials.entries.length &&
    candidate.credentials.entries.all fun credential =>
      (state.credentials.get? credential.credentialId).any fun current =>
        Ed25519.publicKey credential.seed == Ed25519.publicKey current.seed

/-- Whether an activation changed anything. -/
inductive ServiceSignerActivationOutcome
  | activated
  | unchanged
deriving Repr, DecidableEq

namespace ServiceSignerState

/-- `activate_bundle` up to the validator, which is asked if there is no outcome yet. -/
def consider [Ed25519] (state : ServiceSignerState) (candidate : VerifiedServiceSigningBundle) :
    Except ServiceSigningError (Option ServiceSignerActivationOutcome) := do
  require (state.mode = .watchedBundle)
    (⟨.staticSigner, "a static service signer cannot activate a watched bundle"⟩ :
      ServiceSigningError)
  require (candidate.clusterId == state.clusterId.getD "")
    (⟨.clusterMismatch, "service signing bundle cluster ID does not match the active signer"⟩ :
      ServiceSigningError)
  require (candidate.serviceId == state.serviceId)
    (⟨.serviceMismatch, "service signing bundle service ID does not match the active signer"⟩ :
      ServiceSigningError)
  -- the source expects a generation here, and `watched` says that there is one
  let currentGeneration := state.generation.getD 0
  require (¬ candidate.generation < currentGeneration)
    (⟨.staleGeneration, "service signing bundle generation is older than the active generation"⟩ :
      ServiceSigningError)
  if candidate.generation = currentGeneration then
    require (candidate.semanticallyMatches state) (⟨.generationFork,
      "service signing bundle reuses the active generation with different contents"⟩ :
        ServiceSigningError)
    pure (some .unchanged)
  else pure none

/-- The rest of `activate_bundle`, for a candidate that the validator has accepted. -/
def install (state : ServiceSignerState) (candidate : VerifiedServiceSigningBundle) :
    ServiceSignerState where
  mode := state.mode
  clusterId := some candidate.clusterId
  generation := some candidate.generation
  serviceId := candidate.serviceId
  active := candidate.activeCredential
  credentials := candidate.credentials
  watched _ := ⟨rfl, rfl⟩

end ServiceSignerState

/-! ## Signing -/

/-- What a request that is to be signed consists of. -/
structure SigningRequest where
  method : String
  path : String
  clusterId : String
  audienceId : String
  body : Bytes
deriving Repr, DecidableEq

/-- The nonce is the time, the process and a number. -/
def serviceNonce (processId : UInt32) (issuedAtMs sequence : UInt64) : String :=
  s!"{issuedAtMs}.{processId}.{sequence}"

/-- `next_service_nonce`: the nonce, and the counter behind it. -/
def nextServiceNonce (processId : UInt32) (sequence issuedAtMs : UInt64) :
    Except AuthenticationError String × UInt64 :=
  if sequence.toNat + 1 < UInt64.size then
    (.ok (serviceNonce processId issuedAtMs sequence), sequence + 1)
  else (.error (.new "service signing nonce sequence is exhausted"), sequence)

/-- A request at a time, with a nonce. -/
def SigningRequest.payload (request : SigningRequest) (issuedAtMs : UInt64) (nonce : String) :
    ServiceRequestPayload where
  method := request.method
  path := request.path
  clusterId := request.clusterId
  audienceId := request.audienceId
  issuedAtMs := issuedAtMs
  nonce := nonce
  body := request.body

/-- `authenticate_at`, over the `authenticate` of a snapshot or an identity. -/
def authenticateAt (processId : UInt32)
    (authenticate : ServiceRequestPayload → Except AuthenticationError ServiceAuthentication)
    (request : SigningRequest) (issuedAtMs sequence : UInt64) :
    Except AuthenticationError ServiceAuthentication × UInt64 :=
  match nextServiceNonce processId sequence issuedAtMs with
  | (.error error, sequence) => (.error error, sequence)
  | (.ok nonce, sequence) => (authenticate (request.payload issuedAtMs nonce), sequence)

section Sign

variable [Ed25519] [Base64] (processId : UInt32)

namespace ServiceSignerSnapshot

/-- Signs a request of the bundle's cluster. -/
def authenticate (snapshot : ServiceSignerSnapshot) (payload : ServiceRequestPayload) :
    Except AuthenticationError ServiceAuthentication := do
  require (snapshot.clusterId.all (· == payload.clusterId)) (AuthenticationError.new
    "service signing request cluster does not match the active bundle")
  authenticateWithSigningKey snapshot.serviceId snapshot.credential.seed payload

/-- `authenticate_now`, with the clock's answer. -/
def authenticateNow (snapshot : ServiceSignerSnapshot) (request : SigningRequest)
    (now : Except AuthenticationError UInt64) (sequence : UInt64) :
    Except AuthenticationError ServiceAuthentication × UInt64 :=
  if snapshot.clusterId.all (· == request.clusterId) then
    match now with
    | .error error => (.error error, sequence)
    | .ok issuedAtMs =>
      authenticateAt processId snapshot.authenticate request issuedAtMs sequence
  else (.error (.new "service signing request cluster does not match the active bundle"), sequence)

end ServiceSignerSnapshot

/-- A credential that is fixed at the start. -/
structure ServiceSigningIdentity where
  serviceId : String
  credentialId : String
  seed : Bytes
deriving Repr, DecidableEq

namespace ServiceSigningIdentity

/-- Signs a request with the fixed credential. -/
def authenticate (identity : ServiceSigningIdentity) (payload : ServiceRequestPayload) :
    Except AuthenticationError ServiceAuthentication :=
  authenticateWithSigningKey identity.serviceId identity.seed payload

/-- Signs a request with the time of now and the next number. -/
def authenticateNow (identity : ServiceSigningIdentity) (request : SigningRequest)
    (now : Except AuthenticationError UInt64) (sequence : UInt64) :
    Except AuthenticationError ServiceAuthentication × UInt64 :=
  match now with
  | .error error => (.error error, sequence)
  | .ok issuedAtMs => authenticateAt processId identity.authenticate request issuedAtMs sequence

end ServiceSigningIdentity

end Sign

/-! ## A signer that is shared -/

/-- A call of `activate_bundle` that has returned. -/
structure Activation where
  before : ServiceSignerState
  candidate : VerifiedServiceSigningBundle
  result : Except ServiceSigningError ServiceSignerActivationOutcome
  after : ServiceSignerState

/-- A signer, with what others hold of it and what it has done. -/
structure ServiceSigner where
  state : ServiceSignerState
  sequence : UInt64
  /-- The identity a static signer was made of, which counts with the signer. -/
  identity : Option ServiceSigningIdentity
  /-- The candidate whose validator is running. -/
  validating : Option VerifiedServiceSigningBundle
  /-- All snapshots there have been, with those that validators were shown. -/
  snapshots : List ServiceSignerSnapshot
  activations : List Activation
  authentications : List ServiceAuthentication

namespace ServiceSigner

/-- `from_static`; the identity may have signed before. -/
def fromStatic (identity : ServiceSigningIdentity) (sequence : UInt64) : ServiceSigner where
  state := {
    mode := .static
    clusterId := none
    generation := none
    serviceId := identity.serviceId
    active := ⟨identity.credentialId, identity.seed⟩
    credentials := ⟨[⟨identity.credentialId, identity.seed⟩], List.nodup_singleton _⟩
    watched := fun h => by cases h }
  sequence := sequence
  identity := some identity
  validating := none
  snapshots := []
  activations := []
  authentications := []

/-- `from_bundle`. -/
def fromBundle (bundle : VerifiedServiceSigningBundle) : ServiceSigner where
  state := {
    mode := .watchedBundle
    clusterId := some bundle.clusterId
    generation := some bundle.generation
    serviceId := bundle.serviceId
    active := bundle.activeCredential
    credentials := bundle.credentials
    watched := fun _ => ⟨rfl, rfl⟩ }
  sequence := 0
  identity := none
  validating := none
  snapshots := []
  activations := []
  authentications := []

/-- An activation returns, and the lock is free. -/
def settle (s : ServiceSigner) (candidate : VerifiedServiceSigningBundle)
    (result : Except ServiceSigningError ServiceSignerActivationOutcome)
    (after : ServiceSignerState) : ServiceSigner :=
  { s with
    state := after
    validating := none
    activations := s.activations ++ [⟨s.state, candidate, result, after⟩] }

/-- A call that signs returns. -/
def signed (s : ServiceSigner)
    (result : Except AuthenticationError ServiceAuthentication × UInt64) : ServiceSigner :=
  { s with
    sequence := result.2
    authentications := s.authentications ++ result.1.toOption.toList }

end ServiceSigner

/-- What happens to a signer. -/
inductive SignerAction
  /-- An activation takes the lock. -/
  | activate (candidate : VerifiedServiceSigningBundle)
  /-- A validator returns, or panics. -/
  | verdict (accepted : Option Bool)
  | snapshot
  /-- A request is signed with one of the snapshots. -/
  | sign (index : ℕ) (request : SigningRequest) (now : Except AuthenticationError UInt64)
  | signIdentity (request : SigningRequest) (now : Except AuthenticationError UInt64)

section Act

variable [Ed25519] [Base64] (processId : UInt32)

/-- What an action does to the signer. -/
def ServiceSigner.act (s : ServiceSigner) : SignerAction → Option ServiceSigner
  | .activate candidate =>
    if s.validating.isSome then none
    else
      match s.state.consider candidate with
      | .error error => some (s.settle candidate (.error error) s.state)
      | .ok (some outcome) => some (s.settle candidate (.ok outcome) s.state)
      | .ok none => some { s with
          validating := some candidate
          snapshots := s.snapshots ++ [candidate.snapshot] }
  | .verdict accepted => do
    let candidate ← s.validating
    match accepted with
    | some true => some (s.settle candidate (.ok .activated) (s.state.install candidate))
    | some false => some (s.settle candidate (.error .candidateRejected) s.state)
    -- the lock is poisoned, which no one minds
    | none => some { s with validating := none }
  | .snapshot =>
    if s.validating.isSome then none
    else some { s with snapshots := s.snapshots ++ [snapshotFromState s.state] }
  | .sign index request now => do
    let snapshot ← s.snapshots[index]?
    some (s.signed (snapshot.authenticateNow processId request now s.sequence))
  | .signIdentity request now => do
    let identity ← s.identity
    some (s.signed (identity.authenticateNow processId request now s.sequence))

/-- The signer, from either of its starts. -/
def signerSystem : System ServiceSigner where
  init s := (∃ identity sequence, s = .fromStatic identity sequence) ∨
    ∃ bundle, s = .fromBundle bundle
  step s s' := ∃ action, s.act processId action = some s'

end Act

end InferLab.ServiceAuth
