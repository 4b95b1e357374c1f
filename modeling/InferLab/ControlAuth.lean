import InferLab.ServiceAuth.Basic

/-!
# Control authentication

The control plane signs the routing configurations that gateways apply, and administrators
sign the writes that they ask the control plane for.
-/

namespace InferLab.ControlAuth

open Wire ServiceAuth

/-- The schema of a signed routing configuration. -/
def authenticationSchema : String := "inferlab.control-authentication.v1"

/-- The schema of a signed write. -/
def writeAuthorizationSchema : String := "inferlab.control-write-authorization.v1"

/-- The only algorithm. -/
def signatureAlgorithm : String := "ed25519"

/-- `b"inferlab.control-routing.v1\0"`. -/
def payloadDomain : Bytes := utf8 "inferlab.control-routing.v1" ++ [0]

/-- `b"inferlab.control-write.v1\0"`. -/
def writePayloadDomain : Bytes := utf8 "inferlab.control-write.v1" ++ [0]

/-- How a routing configuration says who signed it. -/
structure ControlAuthentication where
  schema : String
  algorithm : String
  keyId : String
  signature : String
deriving Repr, DecidableEq

/-- A worker as a configuration lists it. -/
structure RoutingWorker where
  id : String
  baseUrl : String
  weight : UInt32
deriving Repr, DecidableEq

/-- What the signature of a routing configuration covers. -/
structure RoutingPayload where
  clusterId : String
  revision : UInt64
  term : UInt64
  routingPolicy : String
  workers : List RoutingWorker
deriving Repr, DecidableEq

/-- What the signature of a write covers. -/
structure ControlWritePayload where
  clusterId : String
  expectedRevision : UInt64
  issuedAtMs : UInt64
  nonce : String
  routingPolicy : String
  workers : List RoutingWorker
deriving Repr, DecidableEq

/-- Errors are texts. -/
abbrev Result := Except String

/-- The longest identifier of a key. -/
def maxKeyIdBytes : ℕ := 128

/-- A key has an identifier that is acceptable. -/
def validateKeyId (keyId : String) : Result Unit :=
  require (isIdentifier 1 maxKeyIdBytes keyId)
    "key ID must contain 1 to 128 ASCII letters, digits, '.', '_', or '-'"

/-- The shortest nonce. -/
def minNonceBytes : ℕ := 16

/-- The longest nonce. -/
def maxNonceBytes : ℕ := 128

/-- A nonce is an identifier of the two lengths. -/
def validateNonce (nonce : String) : Result Unit :=
  require (isIdentifier minNonceBytes maxNonceBytes nonce)
    (s!"nonce must contain {minNonceBytes} to {maxNonceBytes} ASCII letters, digits, " ++
      "'.', '_', or '-'")

/-! ## The bytes that are signed -/

/-- A text, with its length before it. -/
def appendText (text : String) : Encoder String Unit :=
  appendString "string exceeds canonical payload limit" text

/-- The number of workers, before them. -/
def appendWorkerCount (count : ℕ) : Encoder String Unit :=
  appendCount "worker count exceeds canonical payload limit" count

/-- A worker in the signed bytes. -/
def appendWorker (worker : RoutingWorker) : Encoder String Unit := do
  appendText worker.id
  appendText worker.baseUrl
  extend (be32 worker.weight.toNat)

/-- The signed bytes of a routing configuration. -/
def appendRouting (payload : RoutingPayload) (keyId : String) : Encoder String Unit := do
  appendText authenticationSchema
  appendText signatureAlgorithm
  appendText keyId
  appendText payload.clusterId
  extend (be64 payload.revision)
  extend (be64 payload.term)
  appendText payload.routingPolicy
  appendWorkerCount payload.workers.length
  payload.workers.forM appendWorker

/-- The bytes of a routing configuration that the control plane signs. -/
def canonicalPayload (payload : RoutingPayload) (keyId : String) : Result Bytes := do
  validateKeyId keyId
  encode do
    extend payloadDomain
    appendRouting payload keyId

/-- The signed bytes of a write, with the route it is for. -/
def appendWrite (payload : ControlWritePayload) (writerId : String) : Encoder String Unit := do
  appendText writeAuthorizationSchema
  appendText signatureAlgorithm
  appendText writerId
  appendText "PUT"
  appendText "/v1/control/config"
  appendText payload.clusterId
  extend (be64 payload.expectedRevision)
  extend (be64 payload.issuedAtMs)
  appendText payload.nonce
  appendText payload.routingPolicy
  appendWorkerCount payload.workers.length
  payload.workers.forM appendWorker

/-- The bytes of a write that its writer signs. -/
def canonicalWritePayload (payload : ControlWritePayload) (writerId : String) : Result Bytes := do
  validateKeyId writerId
  validateNonce payload.nonce
  encode do
    extend writePayloadDomain
    appendWrite payload writerId

/-! ## Trusted keys -/

/-- The keys of a gateway, the preferred ones last. -/
structure TrustedKeyRing where
  keys : List (String × Bytes)
  keyPreferences : List (String × ℕ)
  orderedKeyIds : List String
  revokedKeyIds : List String
deriving Repr, DecidableEq

/-- Only the one schema and algorithm are taken. -/
def validateAuthentication (authentication : ControlAuthentication) : Result Unit := do
  require (authentication.schema == authenticationSchema)
    (s!"unsupported control authentication schema '{authentication.schema}'; " ++
      s!"expected '{authenticationSchema}'")
  require (authentication.algorithm == signatureAlgorithm)
    (s!"unsupported control signature algorithm '{authentication.algorithm}'; " ++
      s!"expected '{signatureAlgorithm}'")
  validateKeyId authentication.keyId

namespace TrustedKeyRing

/-- The key is trusted, not revoked, and signed this. -/
def verify [Ed25519] [Base64] (ring : TrustedKeyRing) (payload : RoutingPayload)
    (authentication : ControlAuthentication) : Result Unit := do
  validateAuthentication authentication
  require (!ring.revokedKeyIds.contains authentication.keyId)
    s!"control signing key '{authentication.keyId}' is revoked"
  let some verifyingKey := ring.keys.lookup authentication.keyId
    | throw s!"control signing key '{authentication.keyId}' is not trusted"
  let signature ← (decodeExact 64 authentication.signature "Ed25519 signature").mapError
    AuthenticationError.message
  let message ← canonicalPayload payload authentication.keyId
  require (Ed25519.verifyStrict verifyingKey message signature)
    "control signature verification failed"

/-- The place of a key in the order of the ring. -/
def keyPreference (ring : TrustedKeyRing) (keyId : String) : Option ℕ :=
  ring.keyPreferences.lookup keyId

end TrustedKeyRing

end InferLab.ControlAuth
