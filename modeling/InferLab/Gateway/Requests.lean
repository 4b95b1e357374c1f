import InferLab.Interleaving
import InferLab.Primitives
import Mathlib.Logic.Function.Basic

/-!
# Gateway: requests side by side

A completion request is admitted, takes a worker, waits for one of the worker's execution slots,
makes an attempt and either streams the answer or retries after a pause. It may end at every
`await`: then what it holds is dropped.

One step here is one access to what the requests share: an atomic counter, or a semaphore. Which
worker a policy selects, what the circuit breakers, the deadlines, the workers and the clients do
is a choice. The largest values observed and the counters that nothing reads are left out.
-/

namespace InferLab.Gateway

/-! ## What requests share -/

/-- The atomic counters of `AdmissionController`, of `ResilienceController` and of the workers. -/
inductive Counter
  | outstanding
  | queued
  | executing
  | inFlight (worker : ℕ)
  | originalRequests
  | attempts
  | retrySlotsUsed
  | retriesGranted
deriving Repr, DecidableEq

/-- The semaphores. -/
inductive Slots
  | outstanding
  | queue
  | execution (worker : ℕ)
deriving Repr, DecidableEq

/-- A worker is known by its place among all workers that any pool has had: a pool that is built
anew has workers of its own, with counters and semaphores of their own. -/
structure Shared where
  counter : Counter → ℕ
  /-- What a semaphore was made with. -/
  permits : Slots → ℕ
  available : Slots → ℕ
  /-- The names of all workers. -/
  workers : List String
  /-- The pool of the current routing snapshot. -/
  pool : List ℕ

namespace Shared

/-- `fetch_add` of one. The counters have 64 bits; no run is taken to make 2 ^ 64 requests, attempts
or retries, so that none of them wraps around here. -/
def fetchAdd (s : Shared) (k : Counter) : Shared :=
  { s with counter := Function.update s.counter k (s.counter k + 1) }

/-- `fetch_sub` of one, which wraps around. -/
def fetchSub (s : Shared) (k : Counter) : Shared :=
  { s with
    counter := Function.update s.counter k
      (if s.counter k = 0 then u64Max else s.counter k - 1) }

def tryAcquire (s : Shared) (p : Slots) : Option Shared :=
  if s.available p = 0 then none
  else some { s with available := Function.update s.available p (s.available p - 1) }

def release (s : Shared) (p : Slots) : Shared :=
  { s with available := Function.update s.available p (s.available p + 1) }

/-- A pool with workers of these names replaces the current one. -/
def replacePool (limit : ℕ) (s : Shared) (ids : List String) : Shared :=
  let fresh := (List.range ids.length).map (s.workers.length + ·)
  let slots (of : Slots → ℕ) (p : Slots) : ℕ := match p with
    | .execution worker => if worker ∈ fresh then limit else of p
    | _ => of p
  { s with
    permits := slots s.permits
    available := slots s.available
    workers := s.workers ++ ids
    pool := fresh }

end Shared

/-! ## Where a request is -/

/-- What a request has to give back. A guard is counted after its permit was acquired, and its
`drop` first undoes the count. -/
structure Held where
  outstandingPermit : Bool := false
  outstanding : Bool := false
  lease : Option ℕ := none
  queuePermit : Bool := false
  queued : Bool := false
  executionPermit : Option ℕ := none
  executing : Bool := false
  reservation : Bool := false
  outstanding_guarded : outstanding = true → outstandingPermit = true := by simp
  queued_guarded : queued = true → queuePermit = true := by simp
  executing_guarded : executing = true → executionPermit.isSome = true := by simp
  /-- A request leaves the queue before it is counted as executing. -/
  queue_left : executing = true → queuePermit = false := by simp
deriving Repr, DecidableEq

/-- What the end of a guard gives back, one after the other. -/
inductive Part
  | outstanding
  | outstandingPermit
  | lease
  | queued
  | queuePermit
  | executing
  | executionPermit
  | reservation
deriving Repr, DecidableEq

/-- How much of `drop(execution_guard); drop(lease)` is still to come. -/
inductive Dropping
  | executing
  | permit
  | lease
deriving Repr, DecidableEq

/-- Where a request is between two atomic steps. -/
inductive Point
  | arriving
  /-- Not admitted. -/
  | rejected
  /-- With a permit, and not counted yet. -/
  | admitting
  | admitted
  /-- With a request context; the rest of the request is read. -/
  | started
  /-- At the head of the loop. -/
  | choosing
  | leased (worker : ℕ)
  /-- No execution slot was free. -/
  | enqueueing (worker : ℕ)
  | queueing (worker : ℕ)
  /-- Waits for an execution slot. -/
  | queued (worker : ℕ)
  /-- Has been given an execution slot, and is still in the queue. -/
  | assigned (worker : ℕ)
  | dequeueing (worker : ℕ)
  | entering (worker : ℕ)
  | executing (worker : ℕ)
  /-- Waits for the head of the response. -/
  | attempting (worker : ℕ)
  /-- The attempt has failed. -/
  | failed (worker : ℕ) (dropping : Dropping) (retryable : Bool)
  /-- At `reserve_retry_plan`, with the worker if there is a response. -/
  | reserving (response : Option ℕ)
  /-- In the loop of `reserve_retry`. -/
  | comparing (response : Option ℕ) (allowed used : ℕ)
  /-- A retry is reserved, and the response is dropped. -/
  | yielding (worker : ℕ) (dropping : Dropping)
  | backingOff
  | streaming (worker : ℕ)
  /-- At the end: what is held is dropped. -/
  | unwinding (held : Held)
deriving Repr, DecidableEq

/-- A request that is admitted. -/
@[simp]
def Held.admitted : Held := { outstandingPermit := true, outstanding := true }

/-- A request that executes on a worker. -/
@[simp]
def Held.executingOn (worker : ℕ) : Held where
  outstandingPermit := true
  outstanding := true
  lease := some worker
  executionPermit := some worker
  executing := true

/-- A request with the execution permit of its worker, before and after it is counted. -/
@[simp]
def Held.permitted (worker : ℕ) : Held where
  outstandingPermit := true
  outstanding := true
  lease := some worker
  executionPermit := some worker

/-- A request that drops its execution guard and its lease. -/
def Held.dropping (worker : ℕ) : Dropping → Held
  | .executing => .executingOn worker
  | .permit => .permitted worker
  | .lease => { Held.admitted with lease := some worker }

/-- A request that is about to retry, if it may. -/
def Held.responding : Option ℕ → Held
  | some worker => .executingOn worker
  | none => .admitted

def Point.held : Point → Held
  | .arriving | .rejected => {}
  | .admitting => { outstandingPermit := true }
  | .admitted | .started | .choosing => .admitted
  | .leased worker | .enqueueing worker => { Held.admitted with lease := some worker }
  | .queueing worker =>
    { outstandingPermit := true, outstanding := true, lease := some worker, queuePermit := true }
  | .queued worker =>
    { outstandingPermit := true, outstanding := true, lease := some worker, queuePermit := true,
      queued := true }
  | .assigned worker =>
    { outstandingPermit := true, outstanding := true, lease := some worker, queuePermit := true,
      queued := true, executionPermit := some worker }
  | .dequeueing worker =>
    { outstandingPermit := true, outstanding := true, lease := some worker, queuePermit := true,
      executionPermit := some worker }
  | .entering worker => .permitted worker
  | .executing worker | .attempting worker | .streaming worker => .executingOn worker
  | .failed worker dropping _ => .dropping worker dropping
  | .reserving response | .comparing response _ _ => .responding response
  | .yielding worker dropping => { Held.dropping worker dropping with reservation := true }
  | .backingOff => { Held.admitted with reservation := true }
  | .unwinding held => held

/-- Whether the request has come past `start_request`. -/
def Point.hasStarted : Point → Bool
  | .arriving | .rejected | .admitting | .admitted => false
  | _ => true

/-- A request on its way through the gateway. -/
structure Request where
  pool : List ℕ := []
  retriesUsed : ℕ := 0
  attemptsStarted : ℕ := 0
  point : Point := .arriving
deriving Repr, DecidableEq

namespace Request

@[simp]
def goTo (r : Request) (point : Point) : Request := { r with point := point }

/-- The request ends. -/
def finish (r : Request) : Request := r.goTo (.unwinding r.point.held)

def finished (r : Request) : Bool := decide (r.point = .rejected ∨ r.point = .unwinding {})

end Request

/-! ## Steps -/

/-- The limits of the gateway. -/
structure RequestConfig where
  queueCapacity : ℕ
  workerConcurrencyLimit : ℕ
  maxRetries : ℕ
  retryBudgetPercent : ℕ
deriving Repr, DecidableEq

/-- What the workers answer. -/
inductive AttemptResult
  | response (transient : Bool)
  | error (retryable : Bool)
deriving Repr, DecidableEq

/-- What the code of a request does not decide. -/
inductive Choice
  | proceed
  /-- A check fails, or a deadline is over. -/
  | fail
  /-- The client goes away. -/
  | cancel
  | choose (worker : ℕ)
  | attempted (result : AttemptResult)
  /-- The counters that `reserve_retry` loads, which may be those of a moment ago. -/
  | load (originalRequests used : ℕ)
  /-- The exchange fails and has observed this value. -/
  | exchangeFails (observed : ℕ)
  | drop (part : Part)
deriving Repr, DecidableEq

/-- How many retries a number of requests allows. -/
def retryAllowance (percent originalRequests : ℕ) : ℕ :=
  min (originalRequests * percent) u64Max / 100

/-- The end of a guard. -/
def Held.drop (s : Shared) (held : Held) : Part → Option (Shared × Held)
  | .outstanding =>
    if held.outstanding then some (s.fetchSub .outstanding,
      { held with outstanding := false, outstanding_guarded := by simp })
    else none
  | .outstandingPermit =>
    if h : held.outstandingPermit ∧ ¬ held.outstanding then some (s.release .outstanding,
      { held with outstandingPermit := false, outstanding_guarded := fun hc => absurd hc h.2 })
    else none
  | .lease => do
    let worker ← held.lease
    pure (s.fetchSub (.inFlight worker), { held with lease := none })
  | .queued =>
    if held.queued then some (s.fetchSub .queued,
      { held with queued := false, queued_guarded := by simp })
    else none
  | .queuePermit =>
    if h : held.queuePermit ∧ ¬ held.queued then some (s.release .queue,
      { held with queuePermit := false, queued_guarded := fun hc => absurd hc h.2,
                  queue_left := by simp })
    else none
  | .executing =>
    if held.executing then some (s.fetchSub .executing,
      { held with executing := false, executing_guarded := by simp, queue_left := by simp })
    else none
  | .executionPermit => do
    let worker ← held.executionPermit
    if h : held.executing then none
    else pure (s.release (.execution worker),
      { held with executionPermit := none, executing_guarded := fun hc => absurd hc h })
  | .reservation =>
    if held.reservation then some (s.fetchSub .retrySlotsUsed, { held with reservation := false })
    else none

/-- A step of `drop(execution_guard); drop(lease)`, and what is next. -/
def Dropping.step (s : Shared) (worker : ℕ) : Dropping → Shared × Option Dropping
  | .executing => (s.fetchSub .executing, some .permit)
  | .permit => (s.release (.execution worker), some .lease)
  | .lease => (s.fetchSub (.inFlight worker), none)

namespace Request

/-- A retry that is not granted: the response is passed on, if there is one. -/
def stopRetrying (r : Request) : Option ℕ → Request
  | some worker => r.goTo (.streaming worker)
  | none => r.finish

/-- A retry that is reserved. -/
def retryReserved (r : Request) : Option ℕ → Request
  | some worker => r.goTo (.yielding worker .executing)
  | none => r.goTo .backingOff

/-- From the arrival to the head of the loop: `try_admit_request`, `start_request` and the head of
`proxy_chat_completions`. -/
def tryAdmitRequest (s : Shared) (r : Request) : Choice → Option (Shared × Request)
  | .proceed => match r.point with
    | .arriving => match s.tryAcquire .outstanding with
      | some s' => some (s', r.goTo .admitting)
      | none => some (s, r.goTo .rejected)
    | .admitting => some (s.fetchAdd .outstanding, r.goTo .admitted)
    | .admitted => some (s.fetchAdd .originalRequests, r.goTo .started)
    | .started => some (s, { r with pool := s.pool, point := .choosing })
    | _ => none
  | .fail => match r.point with
    | .arriving => some (s, r.goTo .rejected)
    | .started => some (s, r.finish)
    | _ => none
  | .cancel => if r.point = .started then some (s, r.finish) else none
  | _ => none

/-- `admit_worker` with its lease, up to `record_attempt`. -/
def admitWorker (s : Shared) (r : Request) (worker : ℕ) : Choice → Option (Shared × Request)
  | .proceed => match r.point with
    | .leased _ => match s.tryAcquire (.execution worker) with
      | some s' => some (s', r.goTo (.entering worker))
      | none => some (s, r.goTo (.enqueueing worker))
    | .enqueueing _ => match s.tryAcquire .queue with
      | some s' => some (s', r.goTo (.queueing worker))
      | none => some (s, r.finish)
    | .queueing _ => some (s.fetchAdd .queued, r.goTo (.queued worker))
    | .queued _ => do
      let s' ← s.tryAcquire (.execution worker)
      pure (s', r.goTo (.assigned worker))
    | .assigned _ => some (s.fetchSub .queued, r.goTo (.dequeueing worker))
    | .dequeueing _ => some (s.release .queue, r.goTo (.entering worker))
    | .entering _ => some (s.fetchAdd .executing, r.goTo (.executing worker))
    | .executing _ => some (s.fetchAdd .attempts,
        { r with attemptsStarted := r.attemptsStarted + 1, point := .attempting worker })
    | _ => none
  | .fail => match r.point with
    | .queued _ | .assigned _ | .executing _ => some (s, r.finish)
    | _ => none
  | .cancel => match r.point with
    | .queued _ | .assigned _ => some (s, r.finish)
    | _ => none
  | _ => none

/-- What becomes of an attempt. -/
def afterAttempt (s : Shared) (r : Request) (worker : ℕ) : Choice → Option (Shared × Request)
  | .attempted (.response transient) =>
    some (s, r.goTo (if transient then .reserving (some worker) else .streaming worker))
  | .attempted (.error retryable) => some (s, r.goTo (.failed worker .executing retryable))
  | .cancel => some (s, r.finish)
  | _ => none

/-- The guards of a failed attempt are dropped; then the deadline is checked. -/
def afterFailure (s : Shared) (r : Request) (worker : ℕ) (dropping : Dropping) (retryable : Bool)
    (choice : Choice) : Option (Shared × Request) :=
  match dropping.step s worker with
  | (s', some next) => if choice = .proceed then some (s', r.goTo (.failed worker next retryable))
      else none
  | (s', none) => match choice with
    | .proceed => some (s', if retryable then r.goTo (.reserving none)
        else r.goTo (.unwinding .admitted))
    | .fail => some (s', r.goTo (.unwinding .admitted))
    | _ => none

/-- `reserve_retry_plan` and `reserve_retry`. -/
def reserveRetry (config : RequestConfig) (s : Shared) (r : Request) (response : Option ℕ) :
    Choice → Option (Shared × Request)
  | .proceed => match r.point with
    | .reserving _ =>
      if config.maxRetries ≤ r.retriesUsed then some (s, r.stopRetrying response) else none
    | .comparing _ allowed used =>
      if allowed ≤ used then some (s, r.stopRetrying response)
      else if s.counter .retrySlotsUsed = used then
        some (s.fetchAdd .retrySlotsUsed, r.retryReserved response)
      else none
    | _ => none
  | .load originalRequests used =>
    match r.point with
    | .reserving _ =>
      if r.retriesUsed < config.maxRetries ∧ originalRequests ≤ s.counter .originalRequests then
        some (s, r.goTo (.comparing response
          (retryAllowance config.retryBudgetPercent originalRequests) used))
      else none
    | _ => none
  | .exchangeFails observed => match r.point with
    | .comparing _ allowed used =>
      if used < allowed then some (s, r.goTo (.comparing response allowed observed)) else none
    | _ => none
  | _ => none

/-- The guards of a response that is not passed on are dropped. -/
def yieldResponse (s : Shared) (r : Request) (worker : ℕ) (dropping : Dropping) (choice : Choice) :
    Option (Shared × Request) :=
  if choice = .proceed then
    match dropping.step s worker with
    | (s', some next) => some (s', r.goTo (.yielding worker next))
    | (s', none) => some (s', r.goTo .backingOff)
  else none

/-- `wait_for_reserved_retry`. -/
def waitForReservedRetry (s : Shared) (r : Request) : Choice → Option (Shared × Request)
  | .proceed => some (s.fetchAdd .retriesGranted,
      { r with retriesUsed := r.retriesUsed + 1, point := .choosing })
  | .fail | .cancel => some (s, r.finish)
  | _ => none

/-- The next access of a request to what is shared. -/
def step (config : RequestConfig) (s : Shared) (r : Request) (choice : Choice) :
    Option (Shared × Request) :=
  match r.point with
  | .arriving | .admitting | .admitted | .started => r.tryAdmitRequest s choice
  | .choosing => match choice with
    | .choose worker =>
      if worker ∈ r.pool then some (s.fetchAdd (.inFlight worker), r.goTo (.leased worker))
      else none
    | .fail => some (s, r.finish)
    | _ => none
  | .leased worker | .enqueueing worker | .queueing worker | .queued worker | .assigned worker
  | .dequeueing worker | .entering worker | .executing worker => r.admitWorker s worker choice
  | .attempting worker => r.afterAttempt s worker choice
  | .failed worker dropping retryable => r.afterFailure s worker dropping retryable choice
  | .reserving response | .comparing response _ _ => r.reserveRetry config s response choice
  | .yielding worker dropping => r.yieldResponse s worker dropping choice
  | .backingOff => r.waitForReservedRetry s choice
  | .streaming _ => if choice = .proceed ∨ choice = .fail ∨ choice = .cancel then some (s, r.finish)
      else none
  | .rejected => none
  | .unwinding held => match choice with
    | .drop part => do
      let (s', held') ← held.drop s part
      pure (s', r.goTo (.unwinding held'))
    | _ => none

end Request

/-! ## The gateway -/

/-- `AdmissionController::new` with the pool at the start. -/
def Shared.start (config : RequestConfig) (ids : List String) : Except String Shared := do
  let capacity := ids.length * config.workerConcurrencyLimit
  if 1000000 < config.queueCapacity then
    throw "admission queue capacity must not exceed 1000000"
  else if capacity = 0 then throw "worker execution capacity must be greater than zero"
  else if u64Max < capacity + config.queueCapacity then
    throw "total admission capacity is too large"
  else
    let slots : Slots → ℕ
      | .outstanding => capacity + config.queueCapacity
      | .queue => config.queueCapacity
      | .execution _ => 0
    pure (Shared.replacePool config.workerConcurrencyLimit ⟨fun _ => 0, slots, slots, [], []⟩ ids)

/-- Requests and replacements of the pool, in any order. -/
def requestRules (config : RequestConfig) (ids : List String) :
    TaskRules Shared Request Choice (List String) where
  start s := Shared.start config ids = .ok s
  fresh := {}
  step s r choice := r.step config s choice
  alter := Shared.replacePool config.workerConcurrencyLimit

/-- The requests, interleaved in any way. -/
abbrev requestSystem (config : RequestConfig) (ids : List String) :
    System (Ensemble Shared Request) :=
  Ensemble.system (requestRules config ids)

end InferLab.Gateway
