import InferLab.Receiver.Stores

/-!
# Control plane: what is checked before a policy is accepted

A policy comes from a file, from the distributor or from the cache. It must be signed by a
trusted root, trust the credential that this process signs with, be valid now, and not be older
than the floor.
-/

namespace InferLab.Receiver

open ServiceAuth Wire

/-! ## The local credential -/

/-- What the current signer is checked by. -/
structure CredentialView where
  /-- `service-id/credential-id`. -/
  credential : String
  publicKeyBase64 : Option String
deriving Repr, DecidableEq

section Signer

variable [Ed25519] [Base64]

def SigningIdentity.view (identity : SigningIdentity) : CredentialView where
  credential := s!"{identity.serviceId}/{identity.credentialId}"
  publicKeyBase64 := some (Base64.encode (Ed25519.publicKey identity.seed))

/-- The identity of a dynamic signer changes while the process runs. -/
inductive LocalSigningCredential
  | fixed (credential : String)
  | dynamic
deriving Repr, DecidableEq

/-- `with_current`, with the identity that the signer has at the time. -/
def LocalSigningCredential.withCurrent (identity : SigningIdentity) :
    LocalSigningCredential → CredentialView
  | .fixed credential => ⟨credential, none⟩
  | .dynamic => identity.view

end Signer

def validateLocalCredential (snapshot : VerifiedServiceTrustSnapshot)
    (localServiceCredential : String) : Except String Unit := do
  let generation := snapshot.policy.generation
  let keys := snapshot.compiled.keys
  require (keys.orderedCredentials.contains localServiceCredential)
    (s!"service-trust policy generation {generation} does not trust local signing credential " ++
      s!"'{localServiceCredential}'")
  require (!(keys.revokedCredentials.map fun (serviceId, credentialId) =>
      s!"{serviceId}/{credentialId}").contains localServiceCredential)
    (s!"service-trust policy generation {generation} revokes local signing credential " ++
      s!"'{localServiceCredential}'")
  let localServiceId := match splitOnce '/' localServiceCredential.toList with
    | none => localServiceCredential
    | some (serviceId, _) => String.ofList serviceId
  require (!keys.revokedServiceIds.contains localServiceId)
    (s!"service-trust policy generation {generation} revokes local service identity " ++
      s!"'{localServiceId}'")

def validateLocalSigningCredential (snapshot : VerifiedServiceTrustSnapshot)
    (view : CredentialView) : Except String Unit := do
  validateLocalCredential snapshot view.credential
  let some localPublicKeyBase64 := view.publicKeyBase64 | pure ()
  let some (serviceId, credentialId) := splitOnce '/' view.credential.toList
    | throw "local signing credential must be qualified"
  let some trusted := snapshot.policy.trustedCredentials.find? fun credential =>
      credential.serviceId == String.ofList serviceId &&
        credential.credentialId == String.ofList credentialId
    | throw (s!"service-trust policy generation {snapshot.policy.generation} does not trust " ++
        s!"local signing credential '{view.credential}'")
  require (trusted.publicKeyBase64 == localPublicKeyBase64)
    (s!"service-trust policy generation {snapshot.policy.generation} assigns a different " ++
      s!"public key to local signing credential '{view.credential}'")

/-! ## The snapshot -/

def decodeAndVerify [Ed25519] [Base64] [Json ServiceTrustSnapshot] (bytes : Bytes)
    (expectedClusterId : String) (roots : TrustedServiceTrustRootKeyRing) :
    Except String VerifiedServiceTrustSnapshot := do
  let some snapshot := (Json.fromSlice bytes : Option ServiceTrustSnapshot)
    | throw "cannot decode service-trust snapshot"
  require (snapshot.policy.clusterId == expectedClusterId)
    (s!"service-trust cluster mismatch: expected '{expectedClusterId}', " ++
      s!"observed '{snapshot.policy.clusterId}'")
  (roots.verify snapshot).mapError ServiceTrustError.message

def validateReceiverValidity (snapshot : VerifiedServiceTrustSnapshot) (observedAtMs : UInt64)
    (config : ServiceTrustReceiverValidityConfig) : Except String ServiceTrustReceiverValidity :=
  (snapshot.policy.validateReceiverValidity observedAtMs config).mapError fun error =>
    s!"service-trust policy validity rejected ({error.kind.asStr}): {error.message}"

def validateCandidateFloor (snapshot : VerifiedServiceTrustSnapshot) :
    Option PersistedServiceTrustFloor → Except String Unit
  | none => .ok ()
  | some floor => do
    require (snapshot.policy.clusterId == floor.clusterId)
      (s!"service-trust floor cluster '{floor.clusterId}' does not match snapshot cluster " ++
        s!"'{snapshot.policy.clusterId}'")
    require (floor.generation ≤ snapshot.policy.generation)
      (s!"service-trust rollback rejected: snapshot generation {snapshot.policy.generation} " ++
        s!"is below durable floor {floor.generation}")
    require (!(snapshot.policy.generation == floor.generation &&
      (snapshot.signingKeyId != floor.signingKeyId || snapshot.signature != floor.signature)))
      (s!"service-trust generation {snapshot.policy.generation} conflicts with the durable " ++
        "accepted snapshot")

/-- `read_bounded`, with what the file system returns. -/
def readBounded (path : String) (maximum : ℕ) (file : Except String Bytes) :
    Except String Bytes := do
  let bytes ← file
  require (bytes.length ≤ maximum)
    s!"service-trust snapshot {path} is {bytes.length} bytes; maximum is {maximum}"
  pure bytes

/-! ## The distributor -/

/-- What the distributor answers. -/
structure HttpResponse where
  status : ℕ
  etag : Option Bytes
  /-- The length that the response declares, if it is a number. -/
  contentLength : Option ℕ
  /-- The chunks of the body, up to an error. -/
  body : List (Except String Bytes)
deriving Repr, DecidableEq

/-- What the answer gives. -/
inductive RemoteFetch
  | notModified (etag : Option String)
  | snapshot (bytes : Bytes) (etag : Option String)
deriving Repr, DecidableEq

def boundedEtag : Option Bytes → Except String (Option String)
  | none => .ok none
  | some value => do
    -- `HeaderValue::to_str` accepts blanks and tabs as well
    require (value.all fun byte => (0x20 ≤ byte && byte ≤ 0x7e) || byte == 9)
      "service-trust ETag is not valid visible ASCII"
    require (isEtag value) s!"service-trust ETag must contain 1..={maxEtagBytes} bytes"
    pure (some (String.ofList (value.map fun byte => Char.ofNat byte.toNat)))

/-- The bytes of a body that stays within the bound. -/
def readBody : Bytes → List (Except String Bytes) → Except String Bytes
  | bytes, [] => .ok bytes
  | bytes, chunk :: chunks => do
    let chunk ← chunk.mapError fun error => s!"read remote service-trust snapshot: {error}"
    require (bytes.length + chunk.length ≤ maxSnapshotBytes)
      s!"remote service-trust snapshot exceeds {maxSnapshotBytes} bytes"
    readBody (bytes ++ chunk) chunks

/-- `fetch_remote_snapshot`, with what the transport returns. -/
def fetchRemoteSnapshot (response : Except String HttpResponse) (etag : Option String) :
    Except String RemoteFetch := do
  let response ← response.mapError fun error => s!"fetch remote service-trust snapshot: {error}"
  let responseEtag ← boundedEtag response.etag
  if response.status = 304 then
    require etag.isSome "service-trust snapshot endpoint returned 304 to an unconditional request"
    pure (.notModified responseEtag)
  else
    require (response.status = 200)
      s!"service-trust snapshot endpoint returned HTTP {response.status}"
    require (response.contentLength.all (· ≤ maxSnapshotBytes))
      (s!"remote service-trust snapshot declares {response.contentLength.getD 0} bytes; " ++
        s!"maximum is {maxSnapshotBytes}")
    let bytes ← readBody [] response.body
    pure (.snapshot bytes responseEtag)

/-! ## The cache -/

/-- What a cached snapshot is checked against. -/
structure CacheVerificationContext where
  cachePath : String
  clusterId : String
  roots : TrustedServiceTrustRootKeyRing
  localCredential : CredentialView
  validityConfig : ServiceTrustReceiverValidityConfig
deriving Repr, DecidableEq

/-- A cached snapshot that passed. -/
structure VerifiedCachedSnapshot where
  cache : PersistedServiceTrustCache
  verified : VerifiedServiceTrustSnapshot
deriving Repr, DecidableEq

def loadVerifiedCache [Ed25519] [Base64] [UrlParser] [Json ServiceTrustSnapshot]
    [PrettyJson PersistedServiceTrustCache] (verification : CacheVerificationContext)
    (disk : Disk) (readError : Option String) (floor : Option PersistedServiceTrustFloor)
    (observedAtMs : UInt64) : Except String (Option VerifiedCachedSnapshot) := do
  let some cache ← loadCache verification.cachePath disk readError | pure none
  let snapshotBytes := Json.toVec cache.snapshot
  require (snapshotBytes.length ≤ maxSnapshotBytes)
    s!"cached service-trust snapshot exceeds {maxSnapshotBytes} bytes"
  let verified ← decodeAndVerify snapshotBytes verification.clusterId verification.roots
  validateLocalSigningCredential verified verification.localCredential
  let _ ← validateReceiverValidity verified observedAtMs verification.validityConfig
  validateCandidateFloor verified floor
  pure (some ⟨cache, verified⟩)

end InferLab.Receiver
