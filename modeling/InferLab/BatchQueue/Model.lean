import InferLab.Primitives
import InferLab.Journal

/-!
# The data of the batch queue

`model.rs`, the error type of `lib.rs` and the events of `wal.rs`. A payload is a value of an
arbitrary type `Value` that the code compares and measures, but does not look into.
-/

namespace InferLab.BatchQueue

/-- Why a call fails. -/
inductive QueueError
  | invalid (message : String)
  | idempotencyConflict (message : String)
  | notFound (message : String)
  | staleClaim (message : String)
  | storage (message : String)
  deriving DecidableEq, Repr

/-- Where a job is in its life. -/
inductive JobStatus
  | pending
  | claimed
  | completed
  | deadLetter
  deriving DecidableEq, Repr

/-- A claim of a job, until its deadline. -/
structure ClaimLease where
  consumerId : String
  claimToken : String
  visibilityDeadlineMs : ℕ
  deriving DecidableEq, Repr

/-- A job. -/
structure JobRecord (Value : Type) where
  id : String
  idempotencyKey : String
  payload : Value
  maxAttempts : ℕ
  attempts : ℕ
  status : JobStatus
  activeClaim : Option ClaimLease
  createdAtMs : ℕ
  updatedAtMs : ℕ
  lastError : Option String
  deriving DecidableEq, Repr

/-! ## Requests and responses -/

/-- What a producer asks for. -/
structure EnqueueRequest (Value : Type) where
  idempotencyKey : String
  payload : Value
  maxAttempts : ℕ := 3

/-- The job, and whether it is new. -/
structure EnqueueResponse (Value : Type) where
  created : Bool
  job : JobRecord Value
  deriving DecidableEq, Repr

/-- A consumer asks for a job. -/
structure ClaimRequest where
  consumerId : String
  visibilityTimeoutMs : ℕ := 30000

/-- A job as it is handed to a consumer. -/
structure ClaimResponse (Value : Type) where
  jobId : String
  idempotencyKey : String
  payload : Value
  attempt : ℕ
  maxAttempts : ℕ
  consumerId : String
  claimToken : String
  visibilityDeadlineMs : ℕ
  deriving DecidableEq, Repr

/-- A consumer is done with its job. -/
structure AckRequest where
  consumerId : String
  claimToken : String

/-- A consumer gives its job up. -/
structure FailRequest where
  consumerId : String
  claimToken : String
  error : String

/-- The counters as the status shows them. -/
structure QueueSnapshot where
  walPath : String
  walBytes : ℕ
  walEvents : ℕ
  jobsTotal : ℕ
  pending : ℕ
  claimed : ℕ
  completed : ℕ
  deadLetter : ℕ
  claimsTotal : ℕ
  acknowledgmentsTotal : ℕ
  redeliveriesTotal : ℕ
  explicitFailuresTotal : ℕ
  deadLetteredTotal : ℕ
  tornTailRecordsDiscarded : ℕ
  deriving DecidableEq, Repr

/-- The scalar counters `metrics_snapshot` returns. -/
structure QueueMetricsSnapshot where
  walBytes : ℕ
  walEvents : ℕ
  pending : ℕ
  claimed : ℕ
  completed : ℕ
  deadLetter : ℕ
  claimsTotal : ℕ
  acknowledgmentsTotal : ℕ
  redeliveriesTotal : ℕ
  explicitFailuresTotal : ℕ
  deadLetteredTotal : ℕ
  tornTailRecordsDiscarded : ℕ
  deriving DecidableEq, Repr

/-! ## The events of the log -/

/-- A record of the log. -/
inductive WalEvent (Value : Type)
  | enqueued (jobId idempotencyKey : String) (payload : Value) (maxAttempts atMs : ℕ)
  | claimed (jobId consumerId claimToken : String)
      (visibilityDeadlineMs attempt atMs : ℕ)
  | released (jobId claimToken reason : String) (expired : Bool) (atMs : ℕ)
  | acknowledged (jobId claimToken : String) (atMs : ℕ)
  | deadLettered (jobId claimToken reason : String) (expired : Bool) (atMs : ℕ)
  deriving DecidableEq, Repr

/-- The job `enqueued_job` makes of an event that enqueues one. -/
def enqueuedJob {Value : Type} : WalEvent Value → Option (JobRecord Value)
  | .enqueued jobId idempotencyKey payload maxAttempts atMs => some {
      id := jobId
      idempotencyKey
      payload
      maxAttempts
      attempts := 0
      status := .pending
      activeClaim := none
      createdAtMs := atMs
      updatedAtMs := atMs
      lastError := none }
  | _ => none

/-- The byte `b'\n'`. -/
def newline : UInt8 := 10

/-- What `serde_json` computes: events as texts without a raw newline, and the length of an
encoded payload. An event is encoded as an object, so its text is not empty. -/
structure Codec (Value : Type) extends Framing (WalEvent Value) newline where
  payloadLength : Value → ℕ

end InferLab.BatchQueue
