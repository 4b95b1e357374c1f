import InferLab.ServiceAuth.TrustReceipt
import InferLab.Transition

/-!
# Trust distributor: the current policy and its receipts

The distributor holds one policy and, for each receiver that is expected to apply it, at most
one receipt. Both are in one file, which every change replaces as a whole.

A request takes the lock of the state, decides, and if it changes the state hands the lock to a
blocking write. The write goes on when the request is cancelled. So the file is replaced and the
state in memory updated in two steps, between which the process may die. Metrics, status reports
and transport security are left out.
-/

namespace InferLab.Distributor

open ServiceAuth Wire

/-- The schema of the state file. -/
def stateSchema : String := "inferlab.trust-distributor-state.v1"

/-- How many receivers may be expected. -/
def maxExpectedReceivers : ℕ := 256

/-- The highest bound of a request. -/
def maxBodyBytes : ℕ := 1024 * 1024

/-- What the distributor is started with. -/
structure DistributorConfig where
  clusterId : String
  statePath : String
  /-- A set. -/
  expectedReceivers : List String
  maxBodyBytes : ℕ
deriving Repr, DecidableEq

/-- Whether receivers are credentials or services. -/
inductive ExpectedReceiverMode
  | qualifiedCredential
  | serviceId
deriving Repr, DecidableEq

/-- What the state file holds. -/
structure DurableState where
  schema : String
  currentSnapshot : Option ServiceTrustSnapshot
  receipts : List ServiceTrustApplicationReceipt
deriving Repr, DecidableEq

/-- The state without a file. -/
def DurableState.default : DurableState := ⟨stateSchema, none, []⟩

/-- What the process holds under its lock. -/
structure RuntimeState where
  durable : DurableState
  mutationPoison : Option String
deriving Repr, DecidableEq

/-- A write failed after its file was in place. -/
def mutationDurabilityUncertain : String := "durability_uncertain_after_replace"

/-- A write was dropped before it ran. -/
def mutationStorageTaskFailed : String := "storage_task_failed"

/-- The error answer of a request. -/
structure ApiError where
  status : ℕ
  code : String
  message : String
deriving Repr, DecidableEq

namespace ApiError

/-- The answer to a request that is not acceptable. -/
def badRequest (code message : String) : ApiError := ⟨400, code, message⟩

/-- The answer to a write that failed. -/
def internal : ApiError :=
  ⟨500, "internal_error", "trust-distributor could not durably complete the operation"⟩

/-- The answer to every mutation after a write of unknown outcome. -/
def mutationPoisoned : ApiError := ⟨503, "storage_mutation_poisoned",
  "trust-distributor mutations are disabled until restart reconciles durable state"⟩

end ApiError

/-- What a request is answered with. -/
inductive Reply
  | tooLarge
  | failed (error : ApiError)
  | publish (status : ℕ) (outcome : String) (snapshot : ServiceTrustSnapshot)
  | receipt (status : ℕ) (outcome : String) (receipt : ServiceTrustApplicationReceipt)
deriving Repr, DecidableEq

/-! ## Expected receivers -/

/-- Whether a receiver is given with a credential. -/
def hasSlash (receiver : String) : Bool := receiver.toList.contains '/'

/-- The check of the authentication package, with its message. -/
def validateServiceId (value : String) : Except String Unit :=
  (ServiceAuth.validateId value "service ID").mapError AuthenticationError.message

/-- A receiver given as service and credential. -/
def validateQualifiedReceiver (receiver : String) : Except String Unit := do
  let some (serviceId, credentialId) := splitOnce '/' receiver.toList
    | throw s!"expected receiver '{receiver}' must use service-id/credential-id"
  require (!credentialId.contains '/')
    s!"expected receiver '{receiver}' must contain exactly one '/'"
  validateServiceId (String.ofList serviceId)
  validateServiceId (String.ofList credentialId)

/-- All receivers are of one kind. -/
def expectedReceiverMode (receivers : List String) : Except String ExpectedReceiverMode :=
  if receivers.all hasSlash then do
    receivers.forM validateQualifiedReceiver
    pure .qualifiedCredential
  else if receivers.all fun receiver => !hasSlash receiver then do
    receivers.forM validateServiceId
    pure .serviceId
  else throw
    "expected receivers must use one homogeneous qualified-credential or service-ID mode"

/-- The configuration is usable. -/
def DistributorConfig.validate (config : DistributorConfig) : Except String Unit := do
  validateServiceId config.clusterId
  require (config.statePath ≠ "") "trust-distributor state path cannot be empty"
  require (!config.expectedReceivers.isEmpty) "at least one expected receiver is required"
  require (config.expectedReceivers.length ≤ maxExpectedReceivers)
    s!"expected receivers exceed the {maxExpectedReceivers}-receiver bound"
  let _ ← expectedReceiverMode config.expectedReceivers
  require (1 ≤ config.maxBodyBytes && config.maxBodyBytes ≤ Distributor.maxBodyBytes)
    s!"request body bound must be between 1 and {Distributor.maxBodyBytes} bytes"

/-- The receiver that a receipt names. -/
def qualifiedReceiver (receipt : ServiceTrustApplicationReceipt) : String :=
  s!"{receipt.payload.receiverServiceId}/{receipt.payload.receiverCredentialId}"

/-- Which receiver a receipt counts for. The mode of a valid configuration is not an error. -/
def receiptReceiverSlot (config : DistributorConfig) (receipt : ServiceTrustApplicationReceipt) :
    String :=
  match expectedReceiverMode config.expectedReceivers with
  | .ok .serviceId => receipt.payload.receiverServiceId
  | _ => qualifiedReceiver receipt

/-- The revoked credentials, each with its service. -/
def revokedServiceCredentials (keys : TrustedServiceKeyRing) : List String :=
  keys.revokedCredentials.map fun (serviceId, credentialId) => s!"{serviceId}/{credentialId}"

/-- A credential that is trusted and not revoked, nor is its service. -/
def isEligibleCredential (keys : TrustedServiceKeyRing) (receiver : String) : Bool :=
  let serviceId := (splitOnce '/' receiver.toList).elim "" fun parts => String.ofList parts.1
  keys.orderedCredentials.contains receiver && !keys.revokedServiceIds.contains serviceId &&
    !(revokedServiceCredentials keys).contains receiver

/-- A service that is not revoked and has a trusted credential that is not revoked. -/
def hasEligibleCredential (keys : TrustedServiceKeyRing) (serviceId : String) : Bool :=
  !keys.revokedServiceIds.contains serviceId && keys.orderedCredentials.any fun credential =>
    startsWith credential s!"{serviceId}/" &&
      !(revokedServiceCredentials keys).contains credential

/-- Every expected receiver can authenticate under the policy. -/
def validateExpectedReceivers (config : DistributorConfig)
    (verified : VerifiedServiceTrustSnapshot) : Except String Unit := do
  let keys := verified.compiled.keys
  match ← expectedReceiverMode config.expectedReceivers with
  | .qualifiedCredential =>
    config.expectedReceivers.forM fun receiver => require (isEligibleCredential keys receiver)
      (s!"expected receiver '{receiver}' must be trusted and unrevoked in the published " ++
        "snapshot")
  | .serviceId =>
    config.expectedReceivers.forM fun serviceId => require (hasEligibleCredential keys serviceId)
      (s!"expected receiver service '{serviceId}' must have at least one trusted, unrevoked " ++
        "credential in the published snapshot")

/-- Whether a receipt is for this snapshot. -/
def receiptMatchesSnapshot (receipt : ServiceTrustApplicationReceipt)
    (snapshot : ServiceTrustSnapshot) : Bool :=
  receipt.payload.clusterId == snapshot.policy.clusterId &&
    receipt.payload.generation == snapshot.policy.generation &&
    receipt.payload.rootKeyId == snapshot.authentication.keyId &&
    receipt.payload.snapshotSignature == snapshot.authentication.signature

/-! ## Requests -/

/-- What a request does once it has the lock. -/
inductive Decision
  | reply (reply : Reply)
  | write (next : DurableState) (reply : Reply)
deriving Repr, DecidableEq

section Requests

variable [Ed25519] [Base64] (config : DistributorConfig) (roots : TrustedServiceTrustRootKeyRing)

/-- The checks of a snapshot that is published. -/
def verifySnapshot (snapshot : ServiceTrustSnapshot) :
    Except ApiError VerifiedServiceTrustSnapshot := do
  let verified ← (roots.verify snapshot).mapError fun error =>
    ApiError.badRequest "invalid_snapshot" s!"snapshot rejected: {error.message}"
  require (verified.policy.clusterId == config.clusterId) (ApiError.badRequest "cluster_mismatch"
    "snapshot cluster does not match the distributor cluster")
  (validateExpectedReceivers config verified).mapError
    (ApiError.badRequest "untrusted_expected_receiver")
  pure verified

/-- `publish_snapshot` from the lock on. -/
def publishVerified (state : RuntimeState) (snapshot : ServiceTrustSnapshot)
    (verified : VerifiedServiceTrustSnapshot) : Decision :=
  if state.mutationPoison.isSome then .reply (.failed .mutationPoisoned)
  else
    let next := { state.durable with currentSnapshot := some snapshot, receipts := [] }
    let write := Decision.write next (.publish 201 "published" snapshot)
    match state.durable.currentSnapshot with
    | none => write
    | some current =>
      if verified.policy.generation < current.policy.generation then
        .reply (.failed ⟨409, "snapshot_rollback",
          "snapshot generation is below the durable current generation"⟩)
      else if verified.policy.generation = current.policy.generation then
        if current = snapshot then .reply (.publish 200 "unchanged" snapshot)
        else .reply (.failed ⟨409, "snapshot_fork",
          "a different valid snapshot already occupies this generation"⟩)
      else write

/-- The post of a snapshot. -/
def publishSnapshot [Json ServiceTrustSnapshot] (body : Bytes) (state : RuntimeState) : Decision :=
  match (Json.fromSlice body : Option ServiceTrustSnapshot) with
  | none => .reply (.failed (.badRequest "invalid_json"
      "request body must contain one complete service-trust snapshot"))
  | some snapshot =>
    match verifySnapshot config roots snapshot with
    | .error error => .reply (.failed error)
    | .ok verified => publishVerified state snapshot verified

/-- The checks of a receipt, with the reply of the one that fails. -/
def checkReceipt (state : RuntimeState) (receipt : ServiceTrustApplicationReceipt) :
    Except Reply Unit := do
  require state.mutationPoison.isNone (Reply.failed .mutationPoisoned)
  let some snapshot := state.durable.currentSnapshot
    | throw (.failed ⟨404, "snapshot_unavailable",
        "a snapshot must be published before receipts are accepted"⟩)
  require (config.expectedReceivers.contains (receiptReceiverSlot config receipt))
    (Reply.failed ⟨403, "unexpected_receiver",
      "receipt receiver is outside the configured convergence set"⟩)
  require (receiptMatchesSnapshot receipt snapshot) (Reply.failed ⟨409,
    "receipt_snapshot_mismatch", "receipt does not identify the exact current snapshot"⟩)
  let verified ← (verifySnapshot config roots snapshot).mapError fun _ => Reply.failed .internal
  let _ ← (verified.compiled.keys.verifyTrustReceipt receipt).mapError fun error =>
    Reply.failed (.badRequest "invalid_receipt_signature" s!"receipt rejected: {error.message}")
  require (state.durable.receipts.all fun existing =>
    receiptReceiverSlot config existing != receiptReceiverSlot config receipt)
    (Reply.receipt 200 "duplicate" receipt)

/-- The post of a receipt. -/
def postReceipt [Json ServiceTrustApplicationReceipt] (body : Bytes) (state : RuntimeState) :
    Decision :=
  match (Json.fromSlice body : Option ServiceTrustApplicationReceipt) with
  | none => .reply (.failed (.badRequest "invalid_json"
      "request body must contain one signed service-trust receipt"))
  | some receipt =>
    match checkReceipt config roots state receipt with
    | .error reply => .reply reply
    | .ok _ => .write { state.durable with receipts := state.durable.receipts ++ [receipt] }
        (.receipt 201 "recorded" receipt)

/-- The routes that change the state. -/
inductive Route
  | snapshot
  | receipts
deriving Repr, DecidableEq

/-- The two routes that change the state, behind the bound on the size of a body. -/
def app [Json ServiceTrustSnapshot] [Json ServiceTrustApplicationReceipt] (route : Route)
    (body : Bytes) (state : RuntimeState) : Decision :=
  if config.maxBodyBytes < body.length then .reply .tooLarge
  else
    match route with
    | .snapshot => publishSnapshot config roots body state
    | .receipts => postReceipt config roots body state

end Requests

/-! ## The state file -/

/-- The bound of the state file. -/
def maximumStateBytes (maxBodyBytes : ℕ) : ℕ :=
  2 * maxBodyBytes + maxExpectedReceivers * 1024

/-- What the file holds, where a file that is not there holds the state of a new distributor. -/
def decodeFile [Json DurableState] : Option Bytes → Option DurableState
  | none => some .default
  | some bytes => Json.fromSlice bytes

/-- What reading the file gives: `inspected` and `read` are errors of the two system calls. -/
structure FileErrors where
  inspected : Option String
  read : Option String
deriving Repr, DecidableEq

/-- A failed access of the file ends the start. -/
def unlessFailed (text : String) : Option String → Except String Unit
  | none => pure ()
  | some error => throw s!"{text}: {error}"

/-- Reads the state file; without one the state is empty. -/
def loadState [Json DurableState] (config : DistributorConfig) (file : Option Bytes)
    (errors : FileErrors) : Except String DurableState := do
  unlessFailed s!"cannot inspect trust-distributor state {config.statePath}" errors.inspected
  let some bytes := file
    | pure .default
  let maxStateBytes := maximumStateBytes config.maxBodyBytes
  require (bytes.length ≤ maxStateBytes)
    s!"trust-distributor state exceeds the {maxStateBytes}-byte bound"
  unlessFailed s!"cannot read trust-distributor state {config.statePath}" errors.read
  let some state := (Json.fromSlice bytes : Option DurableState)
    | throw s!"cannot decode trust-distributor state {config.statePath}"
  pure state

section Open

variable [Ed25519] [Base64] (config : DistributorConfig) (roots : TrustedServiceTrustRootKeyRing)

/-- The check of the stored receipts; `seen` are the slots of those before. -/
def validateReceipts (snapshot : ServiceTrustSnapshot) (verified : VerifiedServiceTrustSnapshot) :
    List String → List ServiceTrustApplicationReceipt → Except String Unit
  | _, [] => pure ()
  | seen, receipt :: receipts => do
    let receiver := qualifiedReceiver receipt
    let slot := receiptReceiverSlot config receipt
    require (config.expectedReceivers.contains slot)
      s!"persisted receipt receiver '{receiver}' is not expected"
    require (!seen.contains slot)
      s!"persisted receipt receiver '{receiver}' duplicates a convergence slot"
    require (receiptMatchesSnapshot receipt snapshot)
      s!"persisted receipt for '{receiver}' does not identify the current snapshot"
    let _ ← (verified.compiled.keys.verifyTrustReceipt receipt).mapError fun error =>
      s!"persisted receipt for '{receiver}' is invalid: {error.message}"
    validateReceipts snapshot verified (slot :: seen) receipts

/-- The checks of a state that was read. -/
def validateDurableState [Json ServiceTrustSnapshot] (state : DurableState) :
    Except String Unit := do
  require (state.schema == stateSchema)
    s!"unsupported durable state schema '{state.schema}'; expected '{stateSchema}'"
  match state.currentSnapshot with
  | none =>
    require state.receipts.isEmpty "durable receipts cannot exist without a current snapshot"
  | some snapshot =>
    let verified ← (roots.verify snapshot).mapError fun error =>
      s!"persisted snapshot is invalid: {error.message}"
    require (verified.policy.clusterId == config.clusterId)
      "persisted snapshot cluster does not match configured cluster"
    require ((Json.toVec snapshot).length ≤ config.maxBodyBytes)
      s!"persisted snapshot exceeds the {config.maxBodyBytes}-byte response bound"
    validateExpectedReceivers config verified
    require (state.receipts.length ≤ config.expectedReceivers.length)
      "persisted receipt count exceeds expected receiver bound"
    validateReceipts config snapshot verified [] state.receipts

/-- A start with the file there is. -/
def TrustDistributor.open [Json DurableState] [Json ServiceTrustSnapshot] (file : Option Bytes)
    (errors : FileErrors) : Except String RuntimeState := do
  config.validate
  let state ← loadState config file errors
  validateDurableState config roots state
  pure ⟨state, none⟩

end Open

/-! ## The distributor at work -/

/-- A blocking write, which holds the lock. Its file is renamed into place on the way. -/
structure PendingWrite where
  next : DurableState
  replaced : Bool
deriving Repr, DecidableEq

/-- A running process. -/
structure Process where
  runtime : RuntimeState
  write : Option PendingWrite
  /-- Requests whose write was given up before it ran and that have yet to record so. -/
  failedTasks : ℕ
deriving Repr, DecidableEq

/-- The file outlives the process. -/
structure DistributorState where
  file : Option Bytes
  process : Option Process
deriving Repr, DecidableEq

/-- What happens to the distributor. -/
inductive DistributorAction
  | start (errors : FileErrors)
  | request (route : Route) (body : Bytes)
  /-- The rename of the write that is under way. -/
  | replace
  /-- The end of a write; the flag says whether every step of it went well. -/
  | finish (success : Bool)
  /-- The runtime drops the task of a write before it runs, and the lock with it. -/
  | abandon
  /-- A request learns that its task is gone. -/
  | recordFailedTask
  /-- Requests that wait for a task that is gone are themselves cancelled. -/
  | cancelFailedTask
  | crash
deriving Repr, DecidableEq

/-- The state in memory when the write ends with `success` or not. -/
def PendingWrite.finish (write : PendingWrite) (success : Bool) (runtime : RuntimeState) :
    RuntimeState :=
  if success then { runtime with durable := write.next }
  else if write.replaced then ⟨write.next, some mutationDurabilityUncertain⟩
  else runtime

section System

variable [Ed25519] [Base64] [Json DurableState] [Json ServiceTrustSnapshot]
  [Json ServiceTrustApplicationReceipt] (config : DistributorConfig)
  (roots : TrustedServiceTrustRootKeyRing)

/-- What an action does to the file and the process. -/
def Process.step (file : Option Bytes) (process : Process) :
    DistributorAction → Option (Option Bytes × Process)
  | .start _ => none
  | .crash => none
  | .request route body =>
    -- The checks before the lock do not read the state, so they are made here too.
    if process.write.isSome then none
    else
      match app config roots route body process.runtime with
      | .reply _ => some (file, process)
      | .write next _ => some (file, { process with write := some ⟨next, false⟩ })
  | .replace =>
    match process.write with
    | some ⟨next, false⟩ =>
      some (some (Json.toVec next), { process with write := some ⟨next, true⟩ })
    | _ => none
  | .finish success =>
    match process.write with
    | some write =>
      -- A write that went well has replaced the file.
      if success && !write.replaced then none
      else some (file, { process with
        runtime := write.finish success process.runtime, write := none })
    | none => none
  | .abandon =>
    match process.write with
    | some ⟨_, false⟩ =>
      some (file, { process with write := none, failedTasks := process.failedTasks + 1 })
    | _ => none
  | .recordFailedTask =>
    if process.write.isSome || process.failedTasks = 0 then none
    else some (file, { process with
      runtime := { process.runtime with mutationPoison := some mutationStorageTaskFailed }
      failedTasks := process.failedTasks - 1 })
  | .cancelFailedTask =>
    if process.failedTasks = 0 then none
    else some (file, { process with failedTasks := process.failedTasks - 1 })

/-- A step of the distributor; a crash leaves the file. -/
def DistributorState.step (s : DistributorState) (action : DistributorAction) :
    Option DistributorState :=
  match s.process, action with
  | none, .start errors =>
    match TrustDistributor.open config roots s.file errors with
    | .error _ => some s
    | .ok runtime => some { s with process := some ⟨runtime, none, 0⟩ }
  | none, _ => none
  | some _, .crash => some { s with process := none }
  | some process, action =>
    (process.step config roots s.file action).map fun (file, process) => ⟨file, some process⟩

/-- A distributor that is run with one configuration and one ring of root keys. -/
def distributorSystem : System DistributorState where
  init s := s = ⟨none, none⟩
  step s s' := ∃ action, s.step config roots action = some s'

end System

end InferLab.Distributor
