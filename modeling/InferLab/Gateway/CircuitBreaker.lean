import InferLab.Checks
import InferLab.Primitives

/-!
# Gateway: circuit breakers

Each worker has a circuit. It counts the outcomes of the attempts that were granted while it was
closed, opens when too many of the last ones failed, and lets one probe through after a while.
Every attempt carries the generation of the circuit that granted it, by which the circuit
recognises outcomes that come too late.

Instants and durations are in nanoseconds. The counters of the diagnostics count without a bound;
the generation is the source's `u64`, which wraps.
-/

namespace InferLab.Gateway

/-- `Duration::from_secs`. -/
def durationOfSecs (seconds : ℕ) : ℕ := seconds * 1000000000

/-- When a circuit opens, and for how long. -/
structure CircuitBreakerConfig where
  windowSize : ℕ := 10
  minimumRequests : ℕ := 5
  failureRatePercent : ℕ := 50
  openDuration : ℕ := durationOfSecs 5
deriving Repr, DecidableEq

def CircuitBreakerConfig.validate (config : CircuitBreakerConfig) : Except String Unit := do
  require (config.windowSize ≠ 0 && config.windowSize ≤ 100000)
    "circuit window size must be between 1 and 100000"
  require (config.minimumRequests ≠ 0 && config.minimumRequests ≤ config.windowSize)
    "circuit minimum requests must be between 1 and the window size"
  require (config.failureRatePercent ≠ 0 && config.failureRatePercent ≤ 100)
    "circuit failure-rate percent must be between 1 and 100"
  require (config.openDuration ≠ 0 && config.openDuration ≤ durationOfSecs (60 * 60))
    "circuit open duration must be greater than zero and at most one hour"

/-- The state as it is reported. -/
inductive CircuitStateName
  | closed
  | opened
  | halfOpen
deriving Repr, DecidableEq

/-- The state that an attempt was let through in. -/
inductive AttemptKind
  | closed
  | halfOpen
deriving Repr, DecidableEq

/-- Whether attempts are let through. -/
inductive CircuitState
  | closed
  | opened (untilInstant : ℕ)
  | halfOpen (probeInFlight : Bool)
deriving Repr, DecidableEq

def CircuitState.name : CircuitState → CircuitStateName
  | .closed => .closed
  | .opened _ => .opened
  | .halfOpen _ => .halfOpen

/-- The probe flag of `snapshot`, which is not set unless the circuit is half-open. -/
def CircuitState.probeInFlight : CircuitState → Bool
  | .halfOpen probeInFlight => probeInFlight
  | _ => false

/-- A permit for one attempt. Whether it has been resolved is known from who holds it. -/
structure CircuitAttempt where
  generation : ℕ
  kind : AttemptKind
deriving Repr, DecidableEq

/-- What a circuit holds under its lock. -/
structure CircuitData where
  state : CircuitState
  generation : ℕ
  /-- Whether the last attempts failed, the oldest one first. -/
  outcomes : List Bool
  successfulAttemptsTotal : ℕ
  failedAttemptsTotal : ℕ
  openedTotal : ℕ
  rejectedTotal : ℕ
  halfOpenProbesTotal : ℕ
  recoveriesTotal : ℕ
deriving Repr, DecidableEq

/-- `CircuitBreaker::new`. -/
def CircuitData.new : CircuitData where
  state := .closed
  generation := 0
  outcomes := []
  successfulAttemptsTotal := 0
  failedAttemptsTotal := 0
  openedTotal := 0
  rejectedTotal := 0
  halfOpenProbesTotal := 0
  recoveriesTotal := 0

namespace CircuitData

variable (config : CircuitBreakerConfig) (data : CircuitData)

def refreshOpenState (now : ℕ) : CircuitData :=
  match data.state with
  | .opened untilInstant =>
    if untilInstant ≤ now then { data with state := .halfOpen false } else data
  | _ => data

/-- The attempt that is granted, if any, and the circuit afterwards. -/
def tryAcquireAt (now : ℕ) : Option CircuitAttempt × CircuitData :=
  let data := data.refreshOpenState now
  match data.state with
  | .closed => (some ⟨data.generation, .closed⟩, data)
  | .opened _ => (none, { data with rejectedTotal := data.rejectedTotal + 1 })
  | .halfOpen true => (none, { data with rejectedTotal := data.rejectedTotal + 1 })
  | .halfOpen false =>
    (some ⟨data.generation, .halfOpen⟩, { data with
      state := .halfOpen true
      halfOpenProbesTotal := data.halfOpenProbesTotal + 1 })

/-- `wrapping_add(1)`. -/
def nextGeneration : ℕ := (data.generation + 1) % 2 ^ 64

def openCircuit (now duration : ℕ) : CircuitData :=
  { data with
    generation := data.nextGeneration
    state := .opened (now + duration)
    openedTotal := data.openedTotal + 1 }

end CircuitData

def shouldOpen (outcomes : List Bool) (config : CircuitBreakerConfig) : Bool :=
  if outcomes.length < config.minimumRequests then
    false
  else
    outcomes.length * config.failureRatePercent ≤ outcomes.countP (fun failed => failed) * 100

/-- `push_back`, and `pop_front` when the window is full. -/
def pushOutcome (windowSize : ℕ) (outcomes : List Bool) (failed : Bool) : List Bool :=
  let outcomes := outcomes ++ [failed]
  if windowSize < outcomes.length then outcomes.tail else outcomes

/-- An attempt of this kind is resolved in this state. -/
def AttemptKind.accepts : AttemptKind → CircuitState → Bool
  | .closed, .closed => true
  | .halfOpen, .halfOpen _ => true
  | _, _ => false

namespace CircuitData

variable (config : CircuitBreakerConfig) (data : CircuitData)

/-- The counter of the outcomes. -/
def count (failed : Bool) : CircuitData :=
  if failed then
    { data with failedAttemptsTotal := data.failedAttemptsTotal + 1 }
  else
    { data with successfulAttemptsTotal := data.successfulAttemptsTotal + 1 }

def resolve (attempt : CircuitAttempt) (failed : Bool) (now : ℕ) : CircuitData :=
  if data.generation ≠ attempt.generation then
    data
  else if attempt.kind.accepts data.state = false then
    data
  else
    let data := data.count failed
    match attempt.kind with
    | .closed =>
      let data := { data with outcomes := pushOutcome config.windowSize data.outcomes failed }
      if shouldOpen data.outcomes config then data.openCircuit now config.openDuration else data
    | .halfOpen =>
      if failed then
        { data with outcomes := [true] }.openCircuit now config.openDuration
      else
        { data with
          generation := data.nextGeneration
          state := .closed
          outcomes := []
          recoveriesTotal := data.recoveriesTotal + 1 }

/-- An attempt is dropped before it is resolved. -/
def cancel (attempt : CircuitAttempt) : CircuitData :=
  match attempt.kind, data.state with
  | .halfOpen, .halfOpen _ =>
    if data.generation = attempt.generation then { data with state := .halfOpen false } else data
  | _, _ => data

end CircuitData

end InferLab.Gateway
