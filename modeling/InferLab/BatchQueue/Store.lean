import InferLab.BatchQueue.Wal
import Mathlib.Data.Finset.Basic

/-!
# The store of the batch queue

`store.rs`: the state that is rebuilt from the log, the events that change it, and the calls
of `QueueStore`. A call runs under the store's lock, so it is a function of the store, the
request and the clock reading. Both maps are ordered by their keys; of the order only the
scan of `claim` makes use, and the lease sweep.
-/

namespace InferLab.BatchQueue

open Std (TreeMap)

def maxIdempotencyKeyBytes : ℕ := 200
def maxPayloadBytes : ℕ := 1024 * 1024
def maxErrorBytes : ℕ := 1000
def maxAttemptsLimit : ℕ := 100
def maxVisibilityTimeoutMs : ℕ := 3600000

/-- What the log says of the jobs. -/
structure QueueData (Value : Type) where
  jobs : TreeMap String (JobRecord Value)
  idempotencyIndex : TreeMap String String
  nextJobNumber : ℕ
  nextClaimNumber : ℕ
  pending : ℕ
  claimed : ℕ
  completed : ℕ
  deadLetter : ℕ
  claimsTotal : ℕ
  acknowledgmentsTotal : ℕ
  redeliveriesTotal : ℕ
  explicitFailuresTotal : ℕ
  deadLetteredTotal : ℕ
  tornTailRecordsDiscarded : ℕ

/-- The state `QueueStore::open` starts the replay from. -/
def QueueData.start {Value : Type} (tornTailRecordsDiscarded : ℕ) : QueueData Value where
  jobs := ∅
  idempotencyIndex := ∅
  nextJobNumber := 1
  nextClaimNumber := 1
  pending := 0
  claimed := 0
  completed := 0
  deadLetter := 0
  claimsTotal := 0
  acknowledgmentsTotal := 0
  redeliveriesTotal := 0
  explicitFailuresTotal := 0
  deadLetteredTotal := 0
  tornTailRecordsDiscarded

/-- What the store holds under its lock. -/
structure StoreInner (Value : Type) where
  wal : Wal Value
  data : QueueData Value

variable {Value : Type}

/-! ## The effect of an event -/

def logicalWalError (message : String) : QueueError :=
  .storage s!"invalid WAL transition: {message}"

/-- `parse_sequence`: the number after `start`, `0` when there is none. -/
def parseSequence (value start : String) : ℕ :=
  ((stripStart? value start).bind parseU64?).getD 0

/-- `format!("batch-{:08}", number)`. -/
def jobIdOf (number : ℕ) : String := "batch-" ++ String.ofList (paddedDecimal 8 number)

/-- `format!("claim-{:012}", number)`. -/
def claimTokenOf (number : ℕ) : String := "claim-" ++ String.ofList (paddedDecimal 12 number)

/-- The counters are `u64`. -/
def increment (counter : ℕ) : ℕ := saturatingAdd u64Max counter 1

/-- The job whose active claim is named, as `transition_claimed_job` finds it. -/
def transitionClaimedJob (data : QueueData Value) (jobId claimToken : String) :
    Except QueueError (JobRecord Value) :=
  match data.jobs[jobId]? with
  | none => .error (logicalWalError s!"transition references missing job {jobId}")
  | some job =>
    if job.status ≠ .claimed ∨ ¬ job.activeClaim.any (·.claimToken == claimToken) then
      .error (logicalWalError s!"transition uses inactive claim {claimToken} for job {jobId}")
    else
      .ok job

def applyEvent (data : QueueData Value) : WalEvent Value → Except QueueError (QueueData Value)
  | .enqueued jobId idempotencyKey payload maxAttempts atMs =>
    if data.jobs.contains jobId then
      .error (logicalWalError s!"duplicate job id {jobId}")
    else if data.idempotencyIndex.contains idempotencyKey then
      .error (logicalWalError s!"duplicate idempotency key {idempotencyKey}")
    else
      match enqueuedJob (.enqueued jobId idempotencyKey payload maxAttempts atMs) with
      | none => .error (logicalWalError "enqueue event could not create job")
      | some job => .ok { data with
          jobs := data.jobs.insert jobId job
          pending := increment data.pending
          idempotencyIndex := data.idempotencyIndex.insert idempotencyKey jobId
          nextJobNumber :=
            max data.nextJobNumber (increment (parseSequence jobId "batch-")) }
  | .claimed jobId consumerId claimToken visibilityDeadlineMs attempt atMs =>
    match data.jobs[jobId]? with
    | none => .error (logicalWalError s!"claim references missing job {jobId}")
    | some job =>
      if job.status ≠ .pending ∨ attempt ≠ saturatingAdd u32Max job.attempts 1 then
        .error (logicalWalError s!"invalid claim transition for job {jobId}")
      else
        let job := { job with
          status := .claimed
          attempts := attempt
          activeClaim := some { consumerId, claimToken, visibilityDeadlineMs }
          updatedAtMs := atMs }
        .ok { data with
          jobs := data.jobs.insert jobId job
          pending := data.pending - 1
          claimed := increment data.claimed
          claimsTotal := increment data.claimsTotal
          redeliveriesTotal :=
            if attempt > 1 then increment data.redeliveriesTotal else data.redeliveriesTotal
          nextClaimNumber :=
            max data.nextClaimNumber (increment (parseSequence claimToken "claim-")) }
  | .released jobId claimToken reason expired atMs =>
    match transitionClaimedJob data jobId claimToken with
    | .error error => .error error
    | .ok job =>
      let job := { job with
        status := .pending
        activeClaim := none
        updatedAtMs := atMs
        lastError := some reason }
      .ok { data with
        jobs := data.jobs.insert jobId job
        explicitFailuresTotal :=
          if expired then data.explicitFailuresTotal else increment data.explicitFailuresTotal
        claimed := data.claimed - 1
        pending := increment data.pending }
  | .acknowledged jobId claimToken atMs =>
    match transitionClaimedJob data jobId claimToken with
    | .error error => .error error
    | .ok job =>
      let job := { job with
        status := .completed
        activeClaim := none
        updatedAtMs := atMs }
      .ok { data with
        jobs := data.jobs.insert jobId job
        acknowledgmentsTotal := increment data.acknowledgmentsTotal
        claimed := data.claimed - 1
        completed := increment data.completed }
  | .deadLettered jobId claimToken reason expired atMs =>
    match transitionClaimedJob data jobId claimToken with
    | .error error => .error error
    | .ok job =>
      let job := { job with
        status := .deadLetter
        activeClaim := none
        updatedAtMs := atMs
        lastError := some reason }
      .ok { data with
        jobs := data.jobs.insert jobId job
        explicitFailuresTotal :=
          if expired then data.explicitFailuresTotal else increment data.explicitFailuresTotal
        deadLetteredTotal := increment data.deadLetteredTotal
        claimed := data.claimed - 1
        deadLetter := increment data.deadLetter }

/-- `replay_events`, from the events of the file. -/
def replayEvents (data : QueueData Value) (events : List (WalEvent Value)) :
    Except QueueError (QueueData Value) :=
  events.foldlM applyEvent data

variable (codec : Codec Value)

/-- `QueueStore::open`, and what is on the disk afterwards. -/
def openStore (path : String) (disk : Disk Value) :
    Except QueueError (StoreInner Value) × Disk Value :=
  match openWal codec path disk with
  | .error error => (.error error, disk)
  | .ok (wal, replay) =>
    match replayEvents (.start replay.discardedTornTail.toNat) replay.events with
    | .error error => (.error error, wal.disk)
    | .ok data => (.ok { wal, data }, wal.disk)

/-- What a function that holds the lock returns, and the store it leaves. -/
structure Reply (Value α : Type) where
  result : Except QueueError α
  inner : StoreInner Value

/-- What the operator `?` does: an error ends the call. -/
def Reply.andThen {α β : Type} (reply : Reply Value α)
    (next : α → StoreInner Value → Reply Value β) : Reply Value β :=
  match reply.result with
  | .error error => { result := .error error, inner := reply.inner }
  | .ok a => next a reply.inner

/-- The two lines that end every change: the event is appended, then applied. -/
def StoreInner.record (inner : StoreInner Value) (event : WalEvent Value) : Reply Value Unit :=
  match inner.wal.append codec event with
  | (.error error, wal) => { result := .error error, inner := { inner with wal } }
  | (.ok (), wal) =>
    match applyEvent inner.data event with
    | .error error => { result := .error error, inner := { inner with wal } }
    | .ok data => { result := .ok (), inner := { wal, data } }

/-! ## Leases -/

/-- The claims whose deadline has passed: job, token, and whether the attempts are used up. -/
def expiredClaims (data : QueueData Value) (nowMs : ℕ) : List (String × String × Bool) :=
  data.jobs.toList.filterMap fun (id, job) =>
    job.activeClaim.bind fun lease =>
      if job.status = .claimed ∧ lease.visibilityDeadlineMs ≤ nowMs then
        some (id, lease.claimToken, decide (job.attempts ≥ job.maxAttempts))
      else
        none

/-- The event that ends a claim without success. -/
def failureEvent (jobId claimToken reason : String) (exhausted expired : Bool) (atMs : ℕ) :
    WalEvent Value :=
  if exhausted then
    .deadLettered jobId claimToken reason expired atMs
  else
    .released jobId claimToken reason expired atMs

/-- The loop of `refresh_expired_claims`. -/
def expireAll (nowMs : ℕ) : List (String × String × Bool) → StoreInner Value → Reply Value Unit
  | [], inner => { result := .ok (), inner }
  | (jobId, claimToken, exhausted) :: rest, inner =>
    (inner.record codec
      (failureEvent jobId claimToken "visibility_timeout" exhausted true nowMs)).andThen
      fun () inner => expireAll nowMs rest inner

def refreshExpiredClaims (inner : StoreInner Value) (nowMs : ℕ) : Reply Value Unit :=
  expireAll codec nowMs (expiredClaims inner.data nowMs) inner

def requireActiveClaim (data : QueueData Value) (jobId consumerId claimToken : String) :
    Except QueueError Unit :=
  match data.jobs[jobId]? with
  | none => .error (.notFound s!"job {jobId} does not exist")
  | some job =>
    if job.status ≠ .claimed ∨
        ¬ job.activeClaim.any
          (fun lease => lease.consumerId == consumerId && lease.claimToken == claimToken) then
      .error (.staleClaim s!"claim token is stale or does not own job {jobId}")
    else
      .ok ()

def cloneJob (data : QueueData Value) (jobId : String) : Except QueueError (JobRecord Value) :=
  match data.jobs[jobId]? with
  | none => .error (.notFound s!"job {jobId} does not exist")
  | some job => .ok job

def validateNonemptyLimited (field value : String) (maximumBytes : ℕ) : Except QueueError Unit :=
  if trim value = [] then
    .error (.invalid s!"{field} must not be empty")
  else if value.utf8ByteSize > maximumBytes then
    .error (.invalid s!"{field} must be at most {maximumBytes} bytes")
  else
    .ok ()

/-! ## The calls -/

/-- A check that reads the store and leaves it as it is. -/
def StoreInner.check {α : Type} (inner : StoreInner Value) (result : Except QueueError α) :
    Reply Value α :=
  { result, inner }

def enqueue [BEq Value] (inner : StoreInner Value) (request : EnqueueRequest Value)
    (nowMs : ℕ) : Reply Value (EnqueueResponse Value) :=
  (inner.check (validateNonemptyLimited "idempotency_key" request.idempotencyKey
    maxIdempotencyKeyBytes)).andThen fun () inner =>
  if ¬ (1 ≤ request.maxAttempts ∧ request.maxAttempts ≤ maxAttemptsLimit) then
    inner.check (.error (.invalid s!"max_attempts must be between 1 and {maxAttemptsLimit}"))
  else if codec.payloadLength request.payload > maxPayloadBytes then
    inner.check (.error (.invalid s!"payload must be at most {maxPayloadBytes} encoded bytes"))
  else
    match inner.data.idempotencyIndex[request.idempotencyKey]? with
    | some existingId =>
      match inner.data.jobs[existingId]? with
      | none =>
        inner.check
          (.error (.storage s!"idempotency index references missing job {existingId}"))
      | some existing =>
        if existing.payload != request.payload ∨ existing.maxAttempts ≠ request.maxAttempts then
          inner.check (.error (.idempotencyConflict (s!"idempotency key " ++
            s!"{request.idempotencyKey} is already bound to a different request")))
        else
          inner.check (.ok { created := false, job := existing })
    | none =>
      let event := .enqueued (jobIdOf inner.data.nextJobNumber) request.idempotencyKey
        request.payload request.maxAttempts nowMs
      (inner.record codec event).andThen fun () inner =>
      match enqueuedJob event with
      | some job => inner.check (.ok { created := true, job })
      -- the panic of `expect`, which an event that enqueues never reaches
      | none => inner.check (.error (.storage "enqueue event always creates a job"))

/-- The first pending job in the order of the identifiers. -/
def firstPending (data : QueueData Value) : Option String :=
  data.jobs.toList.findSome? fun (id, job) => if job.status = .pending then some id else none

/-- The claim of a job that was found pending. -/
def claimJob (inner : StoreInner Value) (request : ClaimRequest) (nowMs : ℕ) (jobId : String)
    (job : JobRecord Value) : Reply Value (Option (ClaimResponse Value)) :=
  let attempt := saturatingAdd u32Max job.attempts 1
  let claimToken := claimTokenOf inner.data.nextClaimNumber
  let visibilityDeadlineMs := saturatingAdd u64Max nowMs request.visibilityTimeoutMs
  let event := .claimed jobId request.consumerId claimToken visibilityDeadlineMs attempt nowMs
  (inner.record codec event).andThen fun () inner =>
  match inner.data.jobs[jobId]? with
  | none => inner.check (.error (.storage s!"claimed job {jobId} disappeared"))
  | some job => inner.check (.ok (some {
      jobId
      idempotencyKey := job.idempotencyKey
      payload := job.payload
      attempt
      maxAttempts := job.maxAttempts
      consumerId := request.consumerId
      claimToken
      visibilityDeadlineMs }))

/-- What `claim` does after the sweep. -/
def claimFirst (inner : StoreInner Value) (request : ClaimRequest) (nowMs : ℕ) :
    Reply Value (Option (ClaimResponse Value)) :=
  match firstPending inner.data with
  | none => inner.check (.ok none)
  | some jobId =>
    match inner.data.jobs[jobId]? with
    | none => inner.check (.error (.storage s!"selected job {jobId} disappeared"))
    | some job => claimJob codec inner request nowMs jobId job

def claim (inner : StoreInner Value) (request : ClaimRequest) (nowMs : ℕ) :
    Reply Value (Option (ClaimResponse Value)) :=
  (inner.check (validateNonemptyLimited "consumer_id" request.consumerId 200)).andThen
    fun () inner =>
  if ¬ (1 ≤ request.visibilityTimeoutMs ∧
      request.visibilityTimeoutMs ≤ maxVisibilityTimeoutMs) then
    inner.check (.error (.invalid
      s!"visibility_timeout_ms must be between 1 and {maxVisibilityTimeoutMs}"))
  else
    (refreshExpiredClaims codec inner nowMs).andThen fun () inner =>
    claimFirst codec inner request nowMs

/-- The sweep, and then the check of the claim, that `acknowledge` and `fail` share. -/
def requireLease (inner : StoreInner Value) (jobId consumerId claimToken : String)
    (nowMs : ℕ) : Reply Value Unit :=
  (refreshExpiredClaims codec inner nowMs).andThen fun () inner =>
  inner.check (requireActiveClaim inner.data jobId consumerId claimToken)

def acknowledge (inner : StoreInner Value) (jobId : String) (request : AckRequest)
    (nowMs : ℕ) : Reply Value (JobRecord Value) :=
  (inner.check (validateNonemptyLimited "consumer_id" request.consumerId 200)).andThen
    fun () inner =>
  (inner.check (validateNonemptyLimited "claim_token" request.claimToken 200)).andThen
    fun () inner =>
  (requireLease codec inner jobId request.consumerId request.claimToken nowMs).andThen
    fun () inner =>
  (inner.record codec (.acknowledged jobId request.claimToken nowMs)).andThen fun () inner =>
  inner.check (cloneJob inner.data jobId)

def fail (inner : StoreInner Value) (jobId : String) (request : FailRequest) (nowMs : ℕ) :
    Reply Value (JobRecord Value) :=
  (inner.check (validateNonemptyLimited "consumer_id" request.consumerId 200)).andThen
    fun () inner =>
  (inner.check (validateNonemptyLimited "claim_token" request.claimToken 200)).andThen
    fun () inner =>
  (inner.check (validateNonemptyLimited "error" request.error maxErrorBytes)).andThen
    fun () inner =>
  (requireLease codec inner jobId request.consumerId request.claimToken nowMs).andThen
    fun () inner =>
  match inner.data.jobs[jobId]? with
  | none => inner.check (.error (.notFound s!"job {jobId} does not exist"))
  | some job =>
    (inner.record codec (failureEvent jobId request.claimToken request.error
      (decide (job.attempts ≥ job.maxAttempts)) false nowMs)).andThen fun () inner =>
    inner.check (cloneJob inner.data jobId)

def getJob (inner : StoreInner Value) (jobId : String) (nowMs : ℕ) :
    Reply Value (JobRecord Value) :=
  (refreshExpiredClaims codec inner nowMs).andThen fun () inner =>
  inner.check (cloneJob inner.data jobId)

def deadLetters (inner : StoreInner Value) (nowMs : ℕ) : Reply Value (List (JobRecord Value)) :=
  (refreshExpiredClaims codec inner nowMs).andThen fun () inner =>
  inner.check (.ok (inner.data.jobs.values.filter (·.status = .deadLetter)))

def snapshot (inner : StoreInner Value) (nowMs : ℕ) : Reply Value QueueSnapshot :=
  (refreshExpiredClaims codec inner nowMs).andThen fun () inner =>
  inner.check (.ok {
    walPath := inner.wal.path
    walBytes := inner.wal.bytes
    walEvents := inner.wal.events
    jobsTotal := inner.data.jobs.size
    pending := inner.data.pending
    claimed := inner.data.claimed
    completed := inner.data.completed
    deadLetter := inner.data.deadLetter
    claimsTotal := inner.data.claimsTotal
    acknowledgmentsTotal := inner.data.acknowledgmentsTotal
    redeliveriesTotal := inner.data.redeliveriesTotal
    explicitFailuresTotal := inner.data.explicitFailuresTotal
    deadLetteredTotal := inner.data.deadLetteredTotal
    tornTailRecordsDiscarded := inner.data.tornTailRecordsDiscarded })

/-- `metrics_snapshot` reads the counters and sweeps nothing. -/
def metricsSnapshot (inner : StoreInner Value) : Reply Value QueueMetricsSnapshot :=
  inner.check (.ok {
    walBytes := inner.wal.bytes
    walEvents := inner.wal.events
    pending := inner.data.pending
    claimed := inner.data.claimed
    completed := inner.data.completed
    deadLetter := inner.data.deadLetter
    claimsTotal := inner.data.claimsTotal
    acknowledgmentsTotal := inner.data.acknowledgmentsTotal
    redeliveriesTotal := inner.data.redeliveriesTotal
    explicitFailuresTotal := inner.data.explicitFailuresTotal
    deadLetteredTotal := inner.data.deadLetteredTotal
    tornTailRecordsDiscarded := inner.data.tornTailRecordsDiscarded })

/-! ## The life of a queue -/

/-- The calls of the store. -/
inductive Call (Value : Type)
  | enqueue (request : EnqueueRequest Value)
  | claim (request : ClaimRequest)
  | acknowledge (jobId : String) (request : AckRequest)
  | fail (jobId : String) (request : FailRequest)
  | getJob (jobId : String)
  | deadLetters
  | snapshot
  | metricsSnapshot

inductive Response (Value : Type)
  | enqueued (response : EnqueueResponse Value)
  | claimed (response : Option (ClaimResponse Value))
  | job (job : JobRecord Value)
  | jobs (jobs : List (JobRecord Value))
  | snapshot (snapshot : QueueSnapshot)
  | metrics (snapshot : QueueMetricsSnapshot)
  deriving DecidableEq, Repr

def Reply.map {α β : Type} (f : α → β) (reply : Reply Value α) : Reply Value β where
  result := reply.result.map f
  inner := reply.inner

def StoreInner.call [BEq Value] (inner : StoreInner Value) (nowMs : ℕ) :
    Call Value → Reply Value (Response Value)
  | .enqueue request => (BatchQueue.enqueue codec inner request nowMs).map .enqueued
  | .claim request => (BatchQueue.claim codec inner request nowMs).map .claimed
  | .acknowledge jobId request => (BatchQueue.acknowledge codec inner jobId request nowMs).map .job
  | .fail jobId request => (BatchQueue.fail codec inner jobId request nowMs).map .job
  | .getJob jobId => (BatchQueue.getJob codec inner jobId nowMs).map .job
  | .deadLetters => (BatchQueue.deadLetters codec inner nowMs).map .jobs
  | .snapshot => (BatchQueue.snapshot codec inner nowMs).map .snapshot
  | .metricsSnapshot => (BatchQueue.metricsSnapshot inner).map .metrics

/-- The queue's process holds the store, or is down and only the disk is left. -/
inductive World (Value : Type)
  | running (inner : StoreInner Value)
  | stopped (disk : Disk Value)

/-- What happens to a queue. -/
inductive Action (Value : Type)
  /-- A call at a clock reading; `outcomes` is what becomes of the records it appends. -/
  | call (request : Call Value) (nowMs : ℕ) (outcomes : List WriteOutcome)
  /-- The process ends, by a crash or otherwise. -/
  | stop
  | reopen

def World.start : World Value :=
  .stopped { file := [], outcomes := [], appended := [], unfinished := none }

def World.disk : World Value → Disk Value
  | .running inner => inner.wal.disk
  | .stopped disk => disk

/-- The store as a call finds it. -/
def StoreInner.withOutcomes (inner : StoreInner Value) (outcomes : List WriteOutcome) :
    StoreInner Value :=
  { inner with wal := { inner.wal with disk := { inner.wal.disk with outcomes } } }

variable [BEq Value]

def World.step (path : String) : World Value → Action Value → World Value
  | .running inner, .call request nowMs outcomes =>
    .running ((inner.withOutcomes outcomes).call codec nowMs request).inner
  | .running inner, .stop => .stopped inner.wal.disk
  | .stopped disk, .reopen =>
    match openStore codec path disk with
    | (.ok inner, _) => .running inner
    | (.error _, disk) => .stopped disk
  -- a process that is down answers no calls, and one that runs has the log open
  | w, _ => w

/-- What the caller is answered. -/
def World.answer : World Value → Action Value → Option (Except QueueError (Response Value))
  | .running inner, .call request nowMs outcomes =>
    some ((inner.withOutcomes outcomes).call codec nowMs request).result
  | _, _ => none

/-- The world after the actions, from an empty disk. -/
def World.after (path : String) (actions : List (Action Value)) : World Value :=
  actions.foldl (World.step codec path) .start

end InferLab.BatchQueue
