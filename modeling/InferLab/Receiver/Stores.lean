import InferLab.Attempt
import InferLab.Receiver.Authorizer
import InferLab.ServiceAuth.TrustReceipt

/-!
# Control plane: what a receiver of trust policies keeps on its disk

The floor names the newest policy that was accepted, so that no older one is accepted after a
restart. The cache holds that policy, for a start without the distributor.

A file is replaced as a whole. Replacing it may fail before or after the new file is in place,
and the process may die there. The receiver is modelled with what an observer of its disk and
of its active policy has seen so far.
-/

namespace InferLab.Receiver

open ServiceAuth Wire

def serviceTrustFloorSchema : String := "inferlab.service-trust-floor.v1"

def serviceTrustCacheSchema : String := "inferlab.service-trust-cache.v1"

def maxSnapshotBytes : ℕ := 262144

def maxFloorBytes : ℕ := 16384

def maxCacheBytes : ℕ := 524288

def maxEtagBytes : ℕ := 1024

def maxDistributorUrlBytes : ℕ := 2048

/-- The newest policy that was accepted. -/
structure PersistedServiceTrustFloor where
  schema : String
  clusterId : String
  generation : UInt64
  signingKeyId : String
  signature : String
deriving Repr, DecidableEq

def PersistedServiceTrustFloor.fromVerified (snapshot : VerifiedServiceTrustSnapshot) :
    PersistedServiceTrustFloor where
  schema := serviceTrustFloorSchema
  clusterId := snapshot.policy.clusterId
  generation := snapshot.policy.generation
  signingKeyId := snapshot.signingKeyId
  signature := snapshot.signature

/-- The last snapshot that was served. -/
structure PersistedServiceTrustCache where
  schema : String
  distributorUrl : String
  etag : Option String
  snapshot : ServiceTrustSnapshot
deriving Repr, DecidableEq

/-! ## Validation -/

def validateFloor (floor : PersistedServiceTrustFloor) : Except String Unit := do
  require (floor.schema == serviceTrustFloorSchema)
    (s!"unsupported service-trust floor schema '{floor.schema}'; " ++
      s!"expected '{serviceTrustFloorSchema}'")
  require (!(trim floor.clusterId).isEmpty && floor.generation ≠ 0 &&
    !(trim floor.signingKeyId).isEmpty && !(trim floor.signature).isEmpty)
    "service-trust floor cluster, generation, key ID, and signature must be present"

structure UrlParts where
  scheme : String
  host : Option String
  username : String
  password : Option String
  query : Option String
  fragment : Option String
  path : String
deriving Repr, DecidableEq

/-- `Url::parse`, with the text of its error. -/
class UrlParser where
  parse : String → Except String UrlParts

/-- Visible ASCII, which `HeaderValue::from_str` accepts. -/
def isEtag (value : Bytes) : Bool :=
  !value.isEmpty && value.length ≤ maxEtagBytes && value.all fun byte => 0x21 ≤ byte && byte ≤ 0x7e

def isOrigin (url : UrlParts) : Bool :=
  (url.scheme == "http" || url.scheme == "https") && url.host.isSome && url.username == "" &&
    url.password.isNone && url.query.isNone && url.fragment.isNone &&
    (url.path == "/" || url.path == "")

def validateCache [UrlParser] (cache : PersistedServiceTrustCache) : Except String Unit := do
  require (cache.schema == serviceTrustCacheSchema)
    (s!"unsupported service-trust cache schema '{cache.schema}'; " ++
      s!"expected '{serviceTrustCacheSchema}'")
  require (cache.distributorUrl ≠ "" &&
    (utf8 cache.distributorUrl).length ≤ maxDistributorUrlBytes)
    ("cached service-trust distributor URL must contain " ++
      s!"1..={maxDistributorUrlBytes} bytes")
  let url ← (UrlParser.parse cache.distributorUrl).mapError
    fun error => s!"invalid cached distributor URL: {error}"
  require (isOrigin url)
    "cached service-trust distributor URL is not a valid credential-free HTTP(S) origin"
  match cache.etag with
  | none => pure ()
  | some etag =>
    require (isEtag (utf8 etag)) s!"cached service-trust ETag must contain 1..={maxEtagBytes} bytes"

/-! ## The receiver -/

/-- The contents of the files, as far as they exist. -/
structure Disk where
  floor : Option Bytes
  cache : Option Bytes
deriving Repr, DecidableEq

/-- What the floor file says. -/
def Disk.floorRecord [Json PersistedServiceTrustFloor] (disk : Disk) :
    Option PersistedServiceTrustFloor :=
  disk.floor.bind Json.fromSlice

/-- What the floor file says at some time, and which policy is active then. -/
structure Moment where
  floor : Option PersistedServiceTrustFloor
  active : Option VerifiedServiceTrustSnapshot
deriving Repr, DecidableEq

/-- Who a process signs as. -/
structure SigningIdentity where
  serviceId : String
  credentialId : String
  seed : Bytes
deriving Repr, DecidableEq

/-- A receipt that was signed, and when. -/
structure Attestation where
  identity : SigningIdentity
  receipt : ServiceTrustApplicationReceipt
  moment : Moment
deriving Repr, DecidableEq

/-- A receiver; `process` is what it has in memory. -/
structure Session (P : Type) where
  disk : Disk
  process : P
  /-- The policy that the process activated last. -/
  active : Option VerifiedServiceTrustSnapshot
  /-- What an observer has seen so far: one moment for every change. -/
  moments : List Moment
  attestations : List Attestation
deriving Repr, DecidableEq

/-- How a call ends that does not return: with an error, or with the process. -/
inductive Stop
  | failed (message : String)
  | crashed
deriving Repr, DecidableEq

/-- What becomes of a replacement of a file. -/
inductive SaveOutcome
  | saved
  | failed (replaced : Bool) (message : String)
  | crashed (replaced : Bool)
deriving Repr, DecidableEq

/-- Calls of a receiver. What they have changed stays when they fail. -/
abbrev Call (P α : Type) : Type := EStateM Stop (Session P) α

namespace Session

variable {P : Type} [PrettyJson PersistedServiceTrustFloor]

/-- The present moment. -/
def moment (s : Session P) : Moment := ⟨s.disk.floorRecord, s.active⟩

/-- The observer sees the present moment. -/
def observed (s : Session P) : Session P := { s with moments := s.moments ++ [s.moment] }

def replaceFloor (s : Session P) (bytes : Bytes) : Session P :=
  { s with disk := { s.disk with floor := some bytes } }.observed

def replaceCache (s : Session P) (bytes : Bytes) : Session P :=
  { s with disk := { s.disk with cache := some bytes } }

/-- The policy is the active one from now on. -/
def activated (s : Session P) (snapshot : VerifiedServiceTrustSnapshot) : Session P :=
  { s with active := some snapshot }.observed

/-- The receipt is signed now. -/
def attested (s : Session P) (identity : SigningIdentity)
    (receipt : ServiceTrustApplicationReceipt) : Session P :=
  { s with attestations := s.attestations ++ [⟨identity, receipt, s.moment⟩] }

end Session

/-- An error of a check ends the call. -/
def check {P α : Type} : Except String α → Call P α
  | .ok a => pure a
  | .error message => throw (.failed message)

/-- A replacement that ends as `outcome` says. -/
def replaceFile {P : Type} (replace : Session P → Session P) : SaveOutcome → Call P Unit
  | .saved => modify replace
  | .failed replaced message => do
    if replaced then modify replace
    throw (.failed message)
  | .crashed replaced => do
    if replaced then modify replace
    throw .crashed

section Stores

variable {P : Type}

/-- `ServiceTrustFloorStore::load`; `readError` is the error of the file system, if any. -/
def loadFloor [PrettyJson PersistedServiceTrustFloor] (path : String) (disk : Disk)
    (readError : Option String) : Except String (Option PersistedServiceTrustFloor) := do
  if let some message := readError then throw message
  match disk.floor with
  | none => pure none
  | some bytes => do
    require (bytes.length ≤ maxFloorBytes)
      s!"service-trust floor {path} is {bytes.length} bytes; maximum is {maxFloorBytes}"
    let some floor := (Json.fromSlice bytes : Option PersistedServiceTrustFloor)
      | throw s!"cannot decode service-trust floor {path}"
    validateFloor floor
    pure (some floor)

/-- `ServiceTrustFloorStore::save`. -/
def saveFloor [PrettyJson PersistedServiceTrustFloor] (floor : PersistedServiceTrustFloor)
    (outcome : SaveOutcome) : Call P Unit := do
  check (validateFloor floor)
  let bytes := PrettyJson.toVecPretty floor
  check (require (bytes.length ≤ maxFloorBytes)
    s!"serialized service-trust floor exceeds {maxFloorBytes} bytes")
  replaceFile (·.replaceFloor (bytes ++ [10])) outcome

/-- `ServiceTrustCacheStore::load`. -/
def loadCache [UrlParser] [PrettyJson PersistedServiceTrustCache] (path : String)
    (disk : Disk) (readError : Option String) :
    Except String (Option PersistedServiceTrustCache) := do
  if let some message := readError then throw message
  match disk.cache with
  | none => pure none
  | some bytes => do
    require (bytes.length ≤ maxCacheBytes)
      s!"service-trust cache {path} is {bytes.length} bytes; maximum is {maxCacheBytes}"
    let some cache := (Json.fromSlice bytes : Option PersistedServiceTrustCache)
      | throw s!"cannot decode service-trust cache {path}"
    validateCache cache
    pure (some cache)

/-- `ServiceTrustCacheStore::save`. -/
def saveCache [UrlParser] [PrettyJson PersistedServiceTrustCache]
    (cache : PersistedServiceTrustCache) (outcome : SaveOutcome) : Call P Unit := do
  check (validateCache cache)
  let bytes := PrettyJson.toVecPretty cache
  check (require (bytes.length ≤ maxCacheBytes)
    s!"serialized service-trust cache exceeds {maxCacheBytes} bytes")
  replaceFile (·.replaceCache (bytes ++ [10])) outcome

end Stores

end InferLab.Receiver
