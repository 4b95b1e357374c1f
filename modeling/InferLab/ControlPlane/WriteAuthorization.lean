import InferLab.ControlPlane.Model

/-!
# The authorization of client writes

`write_authorization.rs`, without its counters. The key ring is a parameter: `verify` is
what `TrustedWriterKeyRing::verify` answers for a payload and an authorization.
-/

namespace InferLab.ControlPlane

/-- How a write says who signed it. -/
structure ControlWriteAuthorization where
  schema : String
  algorithm : String
  writerId : String
  issuedAtMs : ℕ
  nonce : String
  signature : String
  deriving DecidableEq, Repr

/-- A signed write. -/
structure AuthorizedRoutingConfiguration where
  expectedRevision : ℕ
  configuration : RoutingConfiguration
  authorization : ControlWriteAuthorization
  deriving DecidableEq, Repr

/-- A write, signed or not. -/
inductive ConfigurationWriteRequest
  | authorized (request : AuthorizedRoutingConfiguration)
  | legacy (configuration : RoutingConfiguration)
  deriving DecidableEq, Repr

/-- What a writer signs. -/
structure ControlWritePayload where
  clusterId : String
  expectedRevision : ℕ
  issuedAtMs : ℕ
  nonce : String
  routingPolicy : String
  workers : List WorkerConfiguration
  deriving DecidableEq, Repr

/-- Whether writes must be signed. -/
inductive Mode
  | disabled
  | required
      (verify : ControlWritePayload → ControlWriteAuthorization → Except String Unit)
      (maxAgeMs maxFutureSkewMs : ℕ)

/-- What is proposed for a write. -/
structure AuthorizedProposal where
  configuration : RoutingConfiguration
  expectedRevision : Option ℕ
  writer : Option CommittedWriteProvenance
  deriving DecidableEq, Repr

/-- Why a write is not taken. -/
inductive RejectionKind
  | authentication
  | freshness
  deriving DecidableEq, Repr

/-- A write that is not taken. -/
structure WriteAuthorizationError where
  kind : RejectionKind
  writerId : Option String
  message : String
  deriving DecidableEq, Repr

def authorize (mode : Mode) (request : ConfigurationWriteRequest) (clusterId : String)
    (nowMs : ℕ) : Except WriteAuthorizationError AuthorizedProposal :=
  match mode, request with
  | .disabled, .legacy configuration =>
    .ok { configuration, expectedRevision := none, writer := none }
  | .disabled, .authorized request =>
    .error {
      kind := .authentication
      writerId := some request.authorization.writerId
      message := "control write authorization is not configured; " ++
        "refusing an authorization envelope" }
  | .required .., .legacy _ =>
    .error {
      kind := .authentication
      writerId := none
      message := "control write authorization is required" }
  | .required verify maxAgeMs maxFutureSkewMs, .authorized request =>
    let writerId := request.authorization.writerId
    let payload : ControlWritePayload := {
      clusterId
      expectedRevision := request.expectedRevision
      issuedAtMs := request.authorization.issuedAtMs
      nonce := request.authorization.nonce
      routingPolicy := request.configuration.routingPolicy
      workers := request.configuration.workers }
    match verify payload request.authorization with
    | .error message => .error { kind := .authentication, writerId := some writerId, message }
    | .ok () =>
      let latestAcceptable := min (nowMs + maxFutureSkewMs) u64Max
      let ageMs := nowMs - request.authorization.issuedAtMs
      if request.authorization.issuedAtMs > latestAcceptable then
        .error {
          kind := .freshness
          writerId := some writerId
          message := s!"control write was issued {request.authorization.issuedAtMs - nowMs} ms " ++
            s!"in the future; maximum future skew is {maxFutureSkewMs} ms" }
      else if ageMs > maxAgeMs then
        .error {
          kind := .freshness
          writerId := some writerId
          message := s!"control write is {ageMs} ms old; maximum age is {maxAgeMs} ms" }
      else
        .ok {
          configuration := request.configuration
          expectedRevision := some request.expectedRevision
          writer := some {
            writerId
            issuedAtMs := request.authorization.issuedAtMs
            nonce := request.authorization.nonce } }

/-- An authorized request is proposed as it was signed, with its fence. -/
theorem authorize_authorized {mode : Mode} {request : AuthorizedRoutingConfiguration}
    {clusterId : String} {nowMs : ℕ} {proposal : AuthorizedProposal}
    (h : authorize mode (.authorized request) clusterId nowMs = .ok proposal) :
    proposal.configuration = request.configuration ∧
      proposal.expectedRevision = some request.expectedRevision := by
  cases mode with
  | disabled => simp [authorize] at h
  | required verify maxAgeMs maxFutureSkewMs =>
    simp only [authorize] at h
    split at h
    · simp at h
    · split at h
      · simp at h
      · split at h
        · simp at h
        · obtain rfl := Except.ok.inj h
          exact ⟨rfl, rfl⟩

end InferLab.ControlPlane
