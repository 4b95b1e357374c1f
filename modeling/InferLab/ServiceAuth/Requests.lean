import InferLab.ServiceAuth.Basic

/-!
# Service authentication: signed requests

A service signs every request to another service. The receiver has a ring of the keys that it
trusts, several for each service while keys are being replaced, and finds out with which of
them a request was signed.
-/

namespace InferLab.ServiceAuth

open Wire

/-- The schema of a signed request. -/
def serviceAuthenticationSchema : String := "inferlab.service-authentication.v1"

/-- The only algorithm. -/
def signatureAlgorithm : String := "ed25519"

/-- `b"inferlab.service-request.v1\0"`. -/
def requestDomain : Bytes := utf8 "inferlab.service-request.v1" ++ [0]

/-- How a request says who signed it. -/
structure ServiceAuthentication where
  schema : String
  algorithm : String
  serviceId : String
  audienceId : String
  issuedAtMs : UInt64
  nonce : String
  signature : String
deriving Repr, DecidableEq

/-- What the signature of a request covers. -/
structure ServiceRequestPayload where
  method : String
  path : String
  clusterId : String
  audienceId : String
  issuedAtMs : UInt64
  nonce : String
  body : Bytes
deriving Repr, DecidableEq

/-- The signed bytes of a request. -/
def appendRequest (payload : ServiceRequestPayload) (serviceId : String) :
    Encoder AuthenticationError Unit := do
  appendValue serviceAuthenticationSchema
  appendValue signatureAlgorithm
  appendValue serviceId
  appendValue payload.audienceId
  appendValue payload.method
  appendValue payload.path
  appendValue payload.clusterId
  extend (be64 payload.issuedAtMs)
  appendValue payload.nonce
  appendBytes valueTooLong payload.body

/-- The bytes of a request that its service signs. -/
def ServiceRequestPayload.canonicalPayload (payload : ServiceRequestPayload) (serviceId : String) :
    Except AuthenticationError Bytes := do
  validateId serviceId "service ID"
  validateId payload.audienceId "audience ID"
  validateNonce payload.nonce
  encode do
    extend requestDomain
    appendRequest payload serviceId

/-- The schema, the algorithm and the identifiers are acceptable. -/
def validateAuthentication (authentication : ServiceAuthentication) :
    Except AuthenticationError Unit := do
  require (authentication.schema == serviceAuthenticationSchema) (AuthenticationError.new
    (s!"unsupported service authentication schema '{authentication.schema}'; " ++
      s!"expected '{serviceAuthenticationSchema}'"))
  require (authentication.algorithm == signatureAlgorithm) (AuthenticationError.new
    (s!"unsupported service signature algorithm '{authentication.algorithm}'; " ++
      s!"expected '{signatureAlgorithm}'"))
  validateId authentication.serviceId "service ID"
  validateId authentication.audienceId "audience ID"
  validateNonce authentication.nonce

/-- Signs a request with the private seed of a service. -/
def authenticateWithSigningKey [Ed25519] [Base64] (serviceId : String) (seed : Bytes)
    (payload : ServiceRequestPayload) : Except AuthenticationError ServiceAuthentication := do
  let message ← payload.canonicalPayload serviceId
  pure {
    schema := serviceAuthenticationSchema
    algorithm := signatureAlgorithm
    serviceId := serviceId
    audienceId := payload.audienceId
    issuedAtMs := payload.issuedAtMs
    nonce := payload.nonce
    signature := Base64.encode (Ed25519.sign seed message) }

/-! ## Key rings -/

/-- The most credentials of a service. -/
def maxCredentialsPerService : ℕ := 16

/-- The most credentials of a ring. -/
def maxTrustedCredentials : ℕ := 256

/-- The credential of an entry that names none. -/
def legacyCredentialId : String := "legacy"

/-- A credential and its key. -/
structure TrustedCredential where
  credentialId : String
  verifyingKey : Bytes
deriving Repr, DecidableEq

/-- Who signed a request. -/
structure VerifiedServiceCredential where
  serviceId : String
  credentialId : String
deriving Repr, DecidableEq

/-- The keys that requests are checked with. -/
structure TrustedServiceKeyRing where
  /-- A map: no service has two entries. -/
  keys : List (String × List TrustedCredential)
  orderedServiceIds : List String
  orderedCredentials : List String
  revokedServiceIds : List String
  revokedCredentials : List (String × String)
deriving Repr, DecidableEq

/-- `service-id/credential-id`, or a service alone. -/
def parseQualifiedCredential (value : String) : Except AuthenticationError (String × String) := do
  let (serviceId, credentialId) := match splitOnce '/' value.toList with
    | none => (value, legacyCredentialId)
    | some (serviceId, credentialId) => (String.ofList serviceId, String.ofList credentialId)
  validateId serviceId "service ID"
  validateId credentialId "credential ID"
  pure (serviceId, credentialId)

namespace TrustedServiceKeyRing

/-- The credentials of a service. -/
def credentialsOf (ring : TrustedServiceKeyRing) (serviceId : String) :
    Option (List TrustedCredential) :=
  ring.keys.lookup serviceId

/-- The ring that the parser starts with. -/
def empty : TrustedServiceKeyRing := ⟨[], [], [], [], []⟩

/-- The map with the credentials of one service replaced. -/
def setCredentials (serviceId : String) (credentials : List TrustedCredential) :
    List (String × List TrustedCredential) → List (String × List TrustedCredential)
  | [] => [(serviceId, credentials)]
  | (other, old) :: keys =>
    if other = serviceId then (serviceId, credentials) :: keys
    else (other, old) :: setCredentials serviceId credentials keys

/-- One entry `service-id[/credential-id]=base64-public-key`. -/
def addTrusted [Ed25519] [Base64] (ring : TrustedServiceKeyRing) (entry : String) :
    Except AuthenticationError TrustedServiceKeyRing := do
  let some (qualifiedId, encodedKey) := splitOnce '=' entry.toList
    | throw (AuthenticationError.new (s!"trusted service '{entry}' must use " ++
        "service-id[/credential-id]=base64-public-key"))
  let (serviceId, credentialId) ←
    parseQualifiedCredential (String.ofList (trim (String.ofList qualifiedId)))
  let bytes ← decodeExact 32 (String.ofList (trim (String.ofList encodedKey))) "Ed25519 public key"
  (Ed25519.verifyingKey bytes).mapError fun error => AuthenticationError.new
    (s!"trusted credential '{serviceId}/{credentialId}' is not a valid Ed25519 public key: " ++
      error)
  let credentials := (ring.credentialsOf serviceId).getD []
  require (credentials.all fun credential => credential.credentialId != credentialId)
    (AuthenticationError.new s!"trusted credential '{serviceId}/{credentialId}' is duplicated")
  require (credentials.all fun credential => credential.verifyingKey != bytes)
    (AuthenticationError.new (s!"trusted service '{serviceId}' assigns the same public key " ++
      "to more than one credential ID"))
  require (credentials.length < maxCredentialsPerService) (AuthenticationError.new
    (s!"trusted service '{serviceId}' exceeds the {maxCredentialsPerService}-credential " ++
      "verification bound"))
  require (ring.orderedCredentials.length < maxTrustedCredentials) (AuthenticationError.new
    s!"trusted service key ring exceeds the {maxTrustedCredentials}-credential bound")
  pure { ring with
    keys := setCredentials serviceId (credentials ++ [⟨credentialId, bytes⟩]) ring.keys
    orderedServiceIds :=
      if serviceId ∈ ring.orderedServiceIds then ring.orderedServiceIds
      else ring.orderedServiceIds ++ [serviceId]
    orderedCredentials := ring.orderedCredentials ++ [s!"{serviceId}/{credentialId}"] }

/-- A service that is revoked. -/
def addRevokedService (ring : TrustedServiceKeyRing) (serviceId : String) :
    Except AuthenticationError TrustedServiceKeyRing := do
  validateId serviceId "service ID"
  require (!ring.revokedServiceIds.contains serviceId)
    (AuthenticationError.new s!"revoked service ID '{serviceId}' is duplicated")
  pure { ring with revokedServiceIds := ring.revokedServiceIds ++ [serviceId] }

/-- A credential that is revoked. -/
def addRevokedCredential (ring : TrustedServiceKeyRing) (qualifiedId : String) :
    Except AuthenticationError TrustedServiceKeyRing := do
  require (qualifiedId.toList.contains '/') (AuthenticationError.new
    s!"revoked credential '{qualifiedId}' must use service-id/credential-id")
  let (serviceId, credentialId) ← parseQualifiedCredential qualifiedId
  require (((ring.credentialsOf serviceId).getD []).any fun candidate =>
    candidate.credentialId == credentialId) (AuthenticationError.new
      s!"revoked credential '{serviceId}/{credentialId}' is missing from trusted service keys")
  require (!ring.revokedCredentials.contains (serviceId, credentialId)) (AuthenticationError.new
    s!"revoked credential '{serviceId}/{credentialId}' is duplicated")
  pure { ring with revokedCredentials := ring.revokedCredentials ++ [(serviceId, credentialId)] }

/-- The ring of the three lists of the configuration. -/
def parseWithRevokedCredentials [Ed25519] [Base64]
    (encodedKeys revokedServiceIds revokedCredentials : String) :
    Except AuthenticationError TrustedServiceKeyRing := do
  let ring ← (commaSeparated encodedKeys).foldlM addTrusted empty
  require (!ring.keys.isEmpty)
    (AuthenticationError.new "at least one trusted Ed25519 service public key is required")
  let ring ← (commaSeparated revokedServiceIds).foldlM addRevokedService ring
  (commaSeparated revokedCredentials).foldlM addRevokedCredential ring

/-- The first credential whose key verifies the signature; it must not be revoked. -/
def findCredential [Ed25519] (ring : TrustedServiceKeyRing) (serviceId : String)
    (message signature : Bytes) :
    List TrustedCredential → Except AuthenticationError VerifiedServiceCredential
  | [] => .error ⟨.signature, none, "service request signature verification failed"⟩
  | credential :: credentials =>
    if Ed25519.verifyStrict credential.verifyingKey message signature then
      if (serviceId, credential.credentialId) ∈ ring.revokedCredentials then
        .error ⟨.revokedCredential, some credential.credentialId,
          s!"service credential '{serviceId}/{credential.credentialId}' is revoked"⟩
      else .ok ⟨serviceId, credential.credentialId⟩
    else findCredential ring serviceId message signature credentials

/-- Which credential a request was signed with. -/
def verify [Ed25519] [Base64] (ring : TrustedServiceKeyRing) (payload : ServiceRequestPayload)
    (authentication : ServiceAuthentication) :
    Except AuthenticationError VerifiedServiceCredential := do
  validateAuthentication authentication
  require (authentication.audienceId == payload.audienceId &&
    authentication.issuedAtMs == payload.issuedAtMs && authentication.nonce == payload.nonce)
    (AuthenticationError.new "service authentication metadata does not match the signed payload")
  require (!ring.revokedServiceIds.contains authentication.serviceId)
    (⟨.revokedService, none, s!"service identity '{authentication.serviceId}' is revoked"⟩ :
      AuthenticationError)
  let some credentials := ring.credentialsOf authentication.serviceId
    | throw ⟨.unknownService, none,
        s!"service identity '{authentication.serviceId}' is not trusted"⟩
  let signature ← decodeExact 64 authentication.signature "Ed25519 signature"
  let message ← payload.canonicalPayload authentication.serviceId
  ring.findCredential authentication.serviceId message signature credentials

end TrustedServiceKeyRing

end InferLab.ServiceAuth
