import InferLab.ServiceAuth.Renewal
import InferLab.Storage

/-!
# Trust renewer: the durable state

The renewer remembers which policy is known to be published and which one it is about to publish,
with the exact bytes. Both are in one file. What is read from it is checked against the
configuration. Permissions and metadata of the file are left out.
-/

namespace InferLab.Renewer

open ServiceAuth Wire List

def trustRenewerStateSchema : String := "inferlab.trust-renewer-state.v1"

def maxTrustRenewerStateBytes : ℕ := 1024 * 1024

/-- Why a state file is not taken. -/
inductive DurableStateError
  | missing
  | stateTooLarge
  | invalidJson
  | invalidSchema
  | invalidFingerprint
  | authorityMismatch
  | invalidCommittedSnapshot
  | invalidPendingSnapshot
deriving Repr, DecidableEq

/-- What has happened so far. -/
structure RenewalCounters where
  attempts : UInt64
  successfulRenewals : UInt64
  transientFailures : UInt64
  rejectedStates : UInt64
  lateRecoveries : UInt64
deriving Repr, DecidableEq

/-- `n.saturating_add(1)`. -/
def saturatingSucc (n : UInt64) : UInt64 := .ofNat (saturatingAdd u64Max n.toNat 1)

/-- The policy that the distributor has. -/
structure CommittedRenewal where
  generation : UInt64
  issuedAtMs : UInt64
  expiresAtMs : UInt64
  snapshotSha256 : String
deriving Repr, DecidableEq

/-- A signed policy that is to be published. -/
structure PendingRenewal where
  generation : UInt64
  issuedAtMs : UInt64
  expiresAtMs : UInt64
  snapshotSha256 : String
  /-- The bytes of the text. -/
  exactSnapshotJson : Bytes
  lateRecovery : Bool
deriving Repr, DecidableEq

/-- What the state file holds. -/
structure DurableRenewalState where
  schema : String
  authorityFingerprint : String
  templateFingerprint : String
  committed : Option CommittedRenewal
  pending : Option PendingRenewal
  counters : RenewalCounters
deriving Repr, DecidableEq

def DurableRenewalState.empty (authorityFingerprint templateFingerprint : String) :
    DurableRenewalState where
  schema := trustRenewerStateSchema
  authorityFingerprint := authorityFingerprint
  templateFingerprint := templateFingerprint
  committed := none
  pending := none
  counters := ⟨0, 0, 0, 0, 0⟩

/-! ## Checks -/

/-- `byte.is_ascii_hexdigit() && !byte.is_ascii_uppercase()`. -/
def isLowerHexDigit (byte : UInt8) : Bool :=
  (48 ≤ byte && byte ≤ 57) || (97 ≤ byte && byte ≤ 102)

def validSha256 (value : String) : Bool :=
  (utf8 value).length == 64 && (utf8 value).all isLowerHexDigit

lemma isLowerHexDigit_hexDigit {n : ℕ} (h : n < 16) :
    (String.utf8EncodeChar (hexDigit n)).length = 1 ∧
      (String.utf8EncodeChar (hexDigit n)).all isLowerHexDigit = true := by
  revert n
  decide

lemma validSha256_sha256Hex [Sha256] [LawfulSha256] (bytes : Bytes) :
    validSha256 (sha256Hex bytes) = true := by
  have hhigh (byte : UInt8) := isLowerHexDigit_hexDigit (n := byte.toNat / 16)
    (by have := byte.toNat_lt; omega)
  have hlow (byte : UInt8) := isLowerHexDigit_hexDigit (n := byte.toNat % 16)
    (by have := byte.toNat_lt; omega)
  unfold validSha256 sha256Hex
  rw [utf8_ofList, Bool.and_eq_true]
  constructor
  · simp [flatMap_assoc, length_flatMap, hhigh, hlow, LawfulSha256.length_digest]
  · simp [flatMap_assoc, all_flatMap, hhigh, hlow]

def CommittedRenewal.isValid (committed : CommittedRenewal) : Bool :=
  committed.generation ≠ 0 && committed.issuedAtMs ≠ 0 &&
    committed.issuedAtMs < committed.expiresAtMs && validSha256 committed.snapshotSha256

section Checks

variable [Sha256] [Json ServiceTrustSnapshot]

/-- The record fits the snapshot in its bytes, which are written as the encoder writes them. -/
def PendingRenewal.fits (pending : PendingRenewal) (snapshot : ServiceTrustSnapshot) : Bool :=
  Json.toVec snapshot == pending.exactSnapshotJson &&
    snapshot.policy.generation == pending.generation &&
    snapshot.policy.issuedAtMs == pending.issuedAtMs &&
    snapshot.policy.expiresAtMs == some pending.expiresAtMs

def PendingRenewal.validate (pending : PendingRenewal) : Except DurableStateError Unit := do
  require (pending.generation ≠ 0 && pending.issuedAtMs ≠ 0 &&
    pending.issuedAtMs < pending.expiresAtMs && validSha256 pending.snapshotSha256 &&
    pending.exactSnapshotJson.length ≤ maxTrustRenewerStateBytes &&
    sha256Hex pending.exactSnapshotJson == pending.snapshotSha256)
    DurableStateError.invalidPendingSnapshot
  let some snapshot := (Json.fromSlice pending.exactSnapshotJson : Option ServiceTrustSnapshot)
    | throw .invalidPendingSnapshot
  require (pending.fits snapshot) DurableStateError.invalidPendingSnapshot

def PendingRenewal.fromSnapshot (snapshot : ServiceTrustSnapshot) (lateRecovery : Bool) :
    Except DurableStateError PendingRenewal := do
  let exactBytes := Json.toVec snapshot
  require (exactBytes.length ≤ maxTrustRenewerStateBytes) DurableStateError.stateTooLarge
  let some expiresAtMs := snapshot.policy.expiresAtMs
    | throw .invalidPendingSnapshot
  let pending : PendingRenewal := {
    generation := snapshot.policy.generation
    issuedAtMs := snapshot.policy.issuedAtMs
    expiresAtMs := expiresAtMs
    snapshotSha256 := sha256Hex exactBytes
    exactSnapshotJson := exactBytes
    lateRecovery := lateRecovery }
  pending.validate
  pure pending

def PendingRenewal.snapshot (pending : PendingRenewal) :
    Except DurableStateError ServiceTrustSnapshot := do
  pending.validate
  let some snapshot := (Json.fromSlice pending.exactSnapshotJson : Option ServiceTrustSnapshot)
    | throw .invalidPendingSnapshot
  pure snapshot

/-- The generation after the committed one, if it is a `u64`. -/
def nextGeneration : Option CommittedRenewal → Option UInt64
  | none => some 1
  | some committed =>
    if committed.generation.toNat + 1 < 2 ^ 64 then some (committed.generation + 1) else none

def DurableRenewalState.validatePending (state : DurableRenewalState) :
    Except DurableStateError Unit :=
  match state.pending with
  | none => pure ()
  | some pending => do
    pending.validate
    require (nextGeneration state.committed == some pending.generation)
      DurableStateError.invalidPendingSnapshot

def DurableRenewalState.validate (state : DurableRenewalState)
    (expectedAuthorityFingerprint expectedTemplateFingerprint : String) :
    Except DurableStateError Unit := do
  require (state.schema == trustRenewerStateSchema) DurableStateError.invalidSchema
  require (state.authorityFingerprint == expectedAuthorityFingerprint &&
    state.templateFingerprint == expectedTemplateFingerprint) DurableStateError.authorityMismatch
  require (validSha256 state.authorityFingerprint && validSha256 state.templateFingerprint)
    DurableStateError.invalidFingerprint
  require (state.committed.all CommittedRenewal.isValid)
    DurableStateError.invalidCommittedSnapshot
  state.validatePending

end Checks

/-! ## The file -/

/-- What becomes of a file that is to be replaced. -/
inductive PersistOutcome
  | saved
  /-- Nothing has been replaced. -/
  | failed
  /-- The file has been replaced, but the directory is not synced. -/
  | uncertain
  | crashed (replaced : Bool)
deriving Repr, DecidableEq

section File

variable [Json DurableRenewalState]

def encodeFile (state : Option DurableRenewalState) : Option Bytes := state.map Json.toVec

def decodeFile (file : Option Bytes) : Option DurableRenewalState := file.bind Json.fromSlice

/-- `DurableStateStore::load`. -/
def load : Option Bytes → Except DurableStateError DurableRenewalState
  | none => throw .missing
  | some bytes => do
    require (bytes.length ≤ maxTrustRenewerStateBytes) DurableStateError.stateTooLarge
    require (!bytes.isEmpty) DurableStateError.invalidJson
    let some state := (Json.fromSlice bytes : Option DurableRenewalState)
      | throw .invalidJson
    pure state

/-- `DurableStateStore::persist`, with what becomes of it; a state that is too large is not
written. -/
def persist (disk : Storage (Option Bytes)) (state : DurableRenewalState)
    (outcome : PersistOutcome) : Storage (Option Bytes) × PersistOutcome :=
  let bytes := Json.toVec state
  if maxTrustRenewerStateBytes < bytes.length then (disk, .failed)
  else
    match outcome with
    | .saved => ((disk.replace (some bytes)).sync, .saved)
    | .failed => (disk, .failed)
    | .uncertain => (disk.replace (some bytes), .uncertain)
    | .crashed true => (disk.replace (some bytes), .crashed true)
    | .crashed false => (disk, .crashed false)

end File

end InferLab.Renewer
