import InferLab.Gateway.CircuitBreaker
import InferLab.Gateway.RingStability
import InferLab.Gateway.SnapshotStore
import InferLab.Worker.Basic
import Mathlib.Data.List.DropRight
import Mathlib.Data.List.FinRange
import Mathlib.Logic.Function.Basic

/-!
# Gateway: worker pools

A pool selects a worker for every attempt, by one of five policies. Each policy puts all workers
in some order, and the first worker of it whose circuit grants an attempt is leased.

The source keeps counters and circuits in each worker. Here a `WorkerPool` has what never changes,
with the facts that its construction has checked, and a `PoolState` has the rest. `D` stands for
`f64`, and a clock gives the instant of every question to a circuit, in the order of the questions.
-/

namespace InferLab.Gateway

open Worker List

/-! ## Construction -/

/-- A worker as it is configured. -/
structure WorkerRegistration where
  id : String
  baseUrl : String
  weight : UInt32
deriving Repr, DecidableEq

/-- What a pool is made from. -/
structure RoutingConfig (D : Type) where
  policy : RoutingPolicy
  ewmaAlpha : D
  ewmaProbeInterval : ℕ
  consistentHashVirtualNodes : ℕ
  workerConcurrencyLimit : ℕ

/-- A worker that is in a pool. -/
structure PoolWorker where
  id : String
  baseUrl : String
  weight : UInt32
deriving Repr, DecidableEq

/-- The part of a pool that does not change. -/
structure WorkerPool (D : Type) where
  workers : List PoolWorker
  policy : RoutingPolicy
  totalWeight : Int64
  ewmaAlpha : D
  ewmaProbeInterval : ℕ
  hashRing : ConsistentHashRing
  totalExecutionCapacity : ℕ
  concurrencyLimit : ℕ
  circuitConfig : CircuitBreakerConfig
  workers_ne_nil : workers ≠ []
  weight_pos : ∀ worker ∈ workers, 0 < worker.weight.toNat
  totalWeight_eq : totalWeight.toInt = ((workers.map (·.weight.toNat)).sum : ℕ)
  hashRing_wellFormed : RingWellFormed hashRing
  hashRing_workerIds : hashRing.workerIds = workers.map (·.id)

/-- `i64::MAX`. -/
def i64Max : ℕ := 2 ^ 63 - 1

/-- `checked_add` over all workers. -/
def sumWeights : ℕ → List WorkerRegistration → Except String ℕ
  | total, [] => .ok total
  | total, worker :: workers => do
    require (total + worker.weight.toNat ≤ i64Max) "total worker weight is too large"
    sumWeights (total + worker.weight.toNat) workers

def checkRegistrations (workers : List WorkerRegistration) : Except String Unit := do
  require (!workers.isEmpty) "at least one worker is required"
  require (!workers.any fun worker => (trim worker.id).isEmpty || (trim worker.baseUrl).isEmpty)
    "worker IDs and URLs must not be empty"
  require (!workers.any fun worker => worker.weight == 0)
    "worker weights must be greater than zero"
  require (trimmed (workers.map (·.id))).Nodup "worker IDs must be unique"

section Config

variable {D : Type} [FloatOps D]

def checkRoutingConfig (config : RoutingConfig D) : Except String Unit := do
  require (FloatOps.isFinite config.ewmaAlpha && !FloatOps.lessEqual config.ewmaAlpha 0 &&
      !FloatOps.less (FloatOps.ofNat 1) config.ewmaAlpha)
    "EWMA alpha must be greater than 0 and at most 1"
  require (config.ewmaProbeInterval ≠ 0) "EWMA probe interval must be greater than zero"
  require (config.consistentHashVirtualNodes ≠ 0)
    "consistent-hash virtual-node count must be greater than zero"
  require (config.consistentHashVirtualNodes ≤ 100000)
    "consistent-hash virtual-node count must not exceed 100000"
  require (config.workerConcurrencyLimit ≠ 0) "worker concurrency limit must be greater than zero"
  require (config.workerConcurrencyLimit ≤ 100000)
    "worker concurrency limit must not exceed 100000"

end Config

/-- The characters of `s.trim_end_matches('/')`. -/
def trimEndSlashes (s : String) : List Char := s.toList.rdropWhile (· == '/')

/-- What a pool keeps of a registration. -/
def PoolWorker.ofRegistration (worker : WorkerRegistration) : PoolWorker where
  id := String.ofList (trim worker.id)
  baseUrl := String.ofList (trimEndSlashes worker.baseUrl)
  weight := worker.weight

lemma trim_ofList_trim (s : String) : trim (String.ofList (trim s)) = trim s := by
  have hends : (trim s).rdropWhile isWhiteSpace = trim s :=
    rdropWhile_idempotent isWhiteSpace (s.toList.dropWhile isWhiteSpace)
  have hbegins : (trim s).dropWhile isWhiteSpace = trim s := by
    rw [dropWhile_eq_self_iff]
    intro hpos
    have hinitial : trim s <+: s.toList.dropWhile isWhiteSpace := rdropWhile_prefix _ _
    have hpos' : 0 < (s.toList.dropWhile isWhiteSpace).length := hpos.trans_le hinitial.length_le
    rw [hinitial.getElem hpos]
    exact dropWhile_get_zero_not _ _ hpos'
  change ((String.ofList (trim s)).toList.dropWhile isWhiteSpace).rdropWhile isWhiteSpace = trim s
  rw [String.toList_ofList, hbegins, hends]

lemma trimmed_trimmed (workerIds : List String) :
    trimmed (trimmed workerIds) = trimmed workerIds := by
  unfold trimmed
  rw [map_map]
  apply map_congr_left
  intro workerId _
  exact congrArg String.ofList (trim_ofList_trim workerId)

variable {workers : List WorkerRegistration}

lemma of_sumWeights {start total : ℕ} (h : sumWeights start workers = .ok total)
    (hstart : start ≤ i64Max) :
    total = start + (workers.map (·.weight.toNat)).sum ∧ total ≤ i64Max := by
  induction workers generalizing start with
  | nil =>
    obtain rfl := Except.ok.inj h
    simpa using hstart
  | cons worker workers ih =>
    obtain ⟨_, hfits, h⟩ := of_bind h
    obtain ⟨hsum, hle⟩ := ih h (by simpa using of_require hfits)
    rw [map_cons, sum_cons]
    omega

/-- The weights fit an `i64`, so that `total_weight` is their sum. -/
theorem toInt_totalWeight {total : ℕ} (h : sumWeights 0 workers = .ok total) :
    (Int64.ofNat total).toInt =
      (((workers.map PoolWorker.ofRegistration).map (·.weight.toNat)).sum : ℕ) := by
  obtain ⟨hsum, hle⟩ := of_sumWeights h (Nat.zero_le _)
  have hlt : total < 2 ^ 63 := by
    unfold i64Max at hle
    omega
  rw [Int64.toInt_ofNat_of_lt hlt, hsum, map_map, Nat.zero_add]
  rfl

lemma of_checkRegistrations (h : checkRegistrations workers = .ok ()) :
    workers ≠ [] ∧ ∀ worker ∈ workers, worker.weight ≠ 0 := by
  unfold checkRegistrations at h
  simp only [bind_eq_ok_iff, require_eq_ok_iff, exists_const, Bool.not_eq_true',
    isEmpty_eq_false_iff, any_eq_false, beq_iff_eq] at h
  exact ⟨h.1, h.2.2.1⟩

namespace WorkerPool

variable {D : Type} [FloatOps D]

def fromConfigWithCircuitBreaker (workers : List WorkerRegistration) (config : RoutingConfig D)
    (circuitConfig : CircuitBreakerConfig) : Except String (WorkerPool D) :=
  match hchecked : checkRegistrations workers, htotal : sumWeights 0 workers with
  | .error error, _ => .error error
  | .ok (), .error error => .error error
  | .ok (), .ok total =>
    match checkRoutingConfig config, circuitConfig.validate with
    | .error error, _ => .error error
    | .ok (), .error error => .error error
    | .ok (), .ok () =>
      if usizeMax < workers.length * config.workerConcurrencyLimit then
        .error "total worker concurrency is too large"
      else
        match hring : ConsistentHashRing.new (trimmed (workers.map (·.id)))
            config.consistentHashVirtualNodes with
        | .error error => .error error
        | .ok hashRing => .ok
          { workers := workers.map PoolWorker.ofRegistration
            policy := config.policy
            totalWeight := Int64.ofNat total
            ewmaAlpha := config.ewmaAlpha
            ewmaProbeInterval := config.ewmaProbeInterval
            hashRing
            totalExecutionCapacity := workers.length * config.workerConcurrencyLimit
            concurrencyLimit := config.workerConcurrencyLimit
            circuitConfig
            workers_ne_nil := by
              rw [ne_eq, map_eq_nil_iff]
              exact (of_checkRegistrations hchecked).1
            weight_pos := by
              intro worker hmem
              obtain ⟨registration, hregistration, rfl⟩ := mem_map.mp hmem
              have hne := (of_checkRegistrations hchecked).2 registration hregistration
              exact Nat.pos_of_ne_zero fun hzero => hne (UInt32.toNat_inj.mp hzero)
            totalWeight_eq := toInt_totalWeight htotal
            hashRing_wellFormed := by
              obtain ⟨haccepted, rfl⟩ := new_eq_ok_iff.mp hring
              exact haccepted.wellFormed
            hashRing_workerIds := by
              obtain ⟨-, rfl⟩ := new_eq_ok_iff.mp hring
              rw [sortedRing, trimmed_trimmed, trimmed, map_map, map_map]
              rfl }

end WorkerPool

/-- What all pools of a gateway have in common. -/
structure PoolTemplate (D : Type) where
  ewmaAlpha : D
  ewmaProbeInterval : ℕ
  consistentHashVirtualNodes : ℕ
  workerConcurrencyLimit : ℕ
  circuitBreaker : CircuitBreakerConfig

section Pools

variable {D : Type}

def PoolTemplate.routingConfig (template : PoolTemplate D) (policy : RoutingPolicy) :
    RoutingConfig D where
  policy := policy
  ewmaAlpha := template.ewmaAlpha
  ewmaProbeInterval := template.ewmaProbeInterval
  consistentHashVirtualNodes := template.consistentHashVirtualNodes
  workerConcurrencyLimit := template.workerConcurrencyLimit

def buildPool [FloatOps D] (workers : List WorkerRegistration) (policy : RoutingPolicy)
    (template : PoolTemplate D) : Except IoError (WorkerPool D) :=
  (WorkerPool.fromConfigWithCircuitBreaker workers (template.routingConfig policy)
    template.circuitBreaker).mapError fun error => ⟨.other, error⟩

def committedPoolInput (committed : CommittedRoutingConfiguration) :
    Except IoError (List WorkerRegistration × RoutingPolicy) := do
  let policy ← (RoutingPolicy.parse committed.configuration.routingPolicy).mapError .invalidData
  let workers := committed.configuration.workers.map fun worker =>
    { id := worker.id, baseUrl := worker.baseUrl, weight := worker.weight }
  pure (workers, policy)

end Pools

/-! ## The state of a pool -/

/-- What selections read and change in a worker. -/
structure WorkerState (D : Type) where
  smoothCurrent : Int64
  /-- The estimate of `latency`, if there is one. -/
  latency : Option D
  inFlight : ℕ
  circuit : CircuitData

/-- The part that does. -/
structure PoolState (D : Type) (size : ℕ) where
  next : UInt64
  ewmaDecisions : UInt64
  workers : Fin size → WorkerState D

/-- The leased worker and its circuit's attempt. The other fields of a lease are for later
measurements. -/
structure WorkerLease (size : ℕ) where
  worker : Fin size
  circuitAttempt : CircuitAttempt
deriving Repr, DecidableEq

section State

variable {D : Type} {size : ℕ}

def PoolState.update (state : PoolState D size) (index : Fin size) (worker : WorkerState D) :
    PoolState D size :=
  { state with workers := Function.update state.workers index worker }

def lease (index : Fin size) (circuitAttempt : CircuitAttempt) (state : PoolState D size) :
    WorkerLease size × PoolState D size :=
  let worker := state.workers index
  (⟨index, circuitAttempt⟩,
    state.update index { worker with inFlight := worker.inFlight + 1 })

/-- The index is that of the lease. -/
def tryLeaseIndices : (clock : ℕ → ℕ) → List (Fin size) → PoolState D size →
    Option (WorkerLease size) × PoolState D size
  | _, [], state => (none, state)
  | clock, index :: indices, state =>
    let worker := state.workers index
    match worker.circuit.tryAcquireAt (clock 0) with
    | (none, circuit) =>
      tryLeaseIndices (fun turn => clock (turn + 1)) indices
        (state.update index { worker with circuit })
    | (some circuitAttempt, circuit) =>
      let (lease, state) := lease index circuitAttempt
        (state.update index { worker with circuit })
      (some lease, state)

end State

/-! ## Selection -/

namespace WorkerPool

variable {D : Type} (pool : WorkerPool D)

def size : ℕ := pool.workers.length

lemma size_pos : 0 < pool.size := length_pos_iff.mpr pool.workers_ne_nil

def id (index : Fin pool.size) : String := (pool.workers.get index).id

def weight (index : Fin pool.size) : ℕ := (pool.workers.get index).weight.toNat

/-- `next.fetch_add(1) % workers.len()`, and the state with the next number. -/
def fetchStart (state : PoolState D pool.size) : ℕ × PoolState D pool.size :=
  (state.next.toNat % pool.size, { state with next := state.next + 1 })

def rotatedIndices (start : ℕ) : List (Fin pool.size) :=
  (List.range pool.size).map fun offset =>
    ⟨(start + offset) % pool.size, Nat.mod_lt _ pool.size_pos⟩

def tryChooseRoundRobin (clock : ℕ → ℕ) (state : PoolState D pool.size) :
    Option (WorkerLease pool.size) × PoolState D pool.size :=
  let (start, state) := pool.fetchStart state
  tryLeaseIndices clock (pool.rotatedIndices start) state

/-- Stable, so that workers with equal counts stay in the rotating order. -/
def sortByInFlight (state : PoolState D pool.size) (indices : List (Fin pool.size)) :
    List (Fin pool.size) :=
  indices.insertionSort fun a b => (state.workers a).inFlight ≤ (state.workers b).inFlight

def tryChooseLeastInFlight (clock : ℕ → ℕ) (state : PoolState D pool.size) :
    Option (WorkerLease pool.size) × PoolState D pool.size :=
  let (start, state) := pool.fetchStart state
  tryLeaseIndices clock (pool.sortByInFlight state (pool.rotatedIndices start)) state

/-- The loop that adds every worker's weight to its score. The candidates carry the new scores. -/
def addWeights : List (Fin pool.size) → PoolState D pool.size →
    List (Fin pool.size × Int64) × PoolState D pool.size
  | [], state => ([], state)
  | index :: indices, state =>
    let worker := state.workers index
    let current := worker.smoothCurrent + Int64.ofNat (pool.weight index)
    let (candidates, state) := addWeights indices
      (state.update index { worker with smoothCurrent := current })
    ((index, current) :: candidates, state)

/-- `sort_by_key` with `Reverse`, which is stable as well. -/
def sortByScore (candidates : List (Fin pool.size × Int64)) : List (Fin pool.size × Int64) :=
  candidates.insertionSort fun a b => b.2 ≤ a.2

/-- The winner pays for its turn. -/
def payTurn (index : Fin pool.size) (state : PoolState D pool.size) : PoolState D pool.size :=
  let worker := state.workers index
  state.update index { worker with smoothCurrent := worker.smoothCurrent - pool.totalWeight }

def tryChooseWeightedRoundRobin (clock : ℕ → ℕ) (state : PoolState D pool.size) :
    Option (WorkerLease pool.size) × PoolState D pool.size :=
  let (start, state) := pool.fetchStart state
  let (candidates, state) := pool.addWeights (pool.rotatedIndices start) state
  match tryLeaseIndices clock ((pool.sortByScore candidates).map Prod.fst) state with
  | (none, state) => (none, state)
  | (some lease, state) => (some lease, pool.payTurn lease.worker state)

section Latency

variable [FloatOps D]

/-- `f64::INFINITY`. -/
def infinity : D := 0 - FloatOps.negInf

/-- The loop of `try_choose_ewma_latency` over the workers that are left. -/
def lowestLatency (state : PoolState D pool.size) :
    List (Fin pool.size) → Fin pool.size → D → Fin pool.size
  | [], selected, _ => selected
  | index :: indices, selected, lowestEwma =>
    match (state.workers index).latency with
    | none => index
    | some ewma =>
      if FloatOps.less ewma lowestEwma then
        lowestLatency state indices index ewma
      else
        lowestLatency state indices selected lowestEwma

/-- `decision` wraps as the counter does. -/
def ewmaCandidates (state : PoolState D pool.size) (start : ℕ) (decision : UInt64) :
    List (Fin pool.size) :=
  if decision.toNat % pool.ewmaProbeInterval = 0 then
    pool.rotatedIndices start
  else
    let selected := pool.lowestLatency state (pool.rotatedIndices start)
      ⟨start % pool.size, Nat.mod_lt _ pool.size_pos⟩ infinity
    selected :: (pool.rotatedIndices start).filter (· ≠ selected)

def tryChooseEwmaLatency (clock : ℕ → ℕ) (state : PoolState D pool.size) :
    Option (WorkerLease pool.size) × PoolState D pool.size :=
  let (start, state) := pool.fetchStart state
  let decision := state.ewmaDecisions + 1
  tryLeaseIndices clock (pool.ewmaCandidates state start decision)
    { state with ewmaDecisions := decision }

end Latency

/-- `hash_ring.owner_indices`. An index that no worker has would be out of bounds. -/
def ownerCandidates (key : List UInt8) : List (Fin pool.size) :=
  (pool.hashRing.ownerIndices key).filterMap fun index =>
    if h : index < pool.size then some ⟨index, h⟩ else none

def tryChooseConsistentHash (clock : ℕ → ℕ) (key : List UInt8) (state : PoolState D pool.size) :
    Option (WorkerLease pool.size) × PoolState D pool.size :=
  tryLeaseIndices clock (pool.ownerCandidates key) state

def tryChoose [FloatOps D] (clock : ℕ → ℕ) (state : PoolState D pool.size) :
    Option (WorkerLease pool.size) × PoolState D pool.size :=
  match pool.policy with
  | .roundRobin => pool.tryChooseRoundRobin clock state
  | .leastInFlight => pool.tryChooseLeastInFlight clock state
  | .weightedRoundRobin => pool.tryChooseWeightedRoundRobin clock state
  | .ewmaLatency => pool.tryChooseEwmaLatency clock state
  | .consistentHash => pool.tryChooseConsistentHash clock [] state

def tryChooseForKey [FloatOps D] (clock : ℕ → ℕ) (key : List UInt8)
    (state : PoolState D pool.size) : Option (WorkerLease pool.size) × PoolState D pool.size :=
  match pool.policy with
  | .consistentHash => pool.tryChooseConsistentHash clock key state
  | _ => pool.tryChoose clock state

/-- First the workers that have not been attempted, then those that have. -/
def retryCandidates (attemptedWorkers : List String) (start : ℕ) : List (Fin pool.size) :=
  (pool.rotatedIndices start).filter (fun index => !attemptedWorkers.contains (pool.id index)) ++
    (pool.rotatedIndices start).filter (fun index => attemptedWorkers.contains (pool.id index))

def tryChooseRetry (clock : ℕ → ℕ) (attemptedWorkers : List String)
    (state : PoolState D pool.size) : Option (WorkerLease pool.size) × PoolState D pool.size :=
  let (start, state) := pool.fetchStart state
  tryLeaseIndices clock (pool.retryCandidates attemptedWorkers start) state

end WorkerPool

end InferLab.Gateway
