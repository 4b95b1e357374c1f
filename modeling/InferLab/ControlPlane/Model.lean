import InferLab.Primitives

/-!
# The data of the control plane

`model.rs`, and the error type of `lib.rs`. Node identities are a type `Id` with decidable
equality; `u64` values are natural numbers. A check that fails returns the text of the
`RaftError` its caller makes of it.
-/

namespace InferLab.ControlPlane

/-- `RaftError`, less the variants that only the HTTP layer raises. -/
inductive RaftError (Id : Type)
  | invalid (message : String)
  | conflict (message : String)
  | notLeader (leaderId : Option Id)
  | unavailable (message : String)
  | storage (message : String)
  deriving DecidableEq, Repr

/-- The bytes `validate_cluster_id` accepts; every other character has a byte it rejects. -/
def isClusterIdChar (c : Char) : Bool :=
  c.isAlphanum || c == '.' || c == '_' || c == '-'

def validateClusterId (clusterId : String) : Except String Unit :=
  if clusterId ≠ "" ∧ clusterId.utf8ByteSize ≤ 128 ∧ clusterId.toList.all isClusterIdChar then
    .ok ()
  else
    .error "cluster_id must contain 1 to 128 ASCII letters, digits, '.', '_', or '-'"

/-- What a node takes itself for. -/
inductive Role
  | follower
  | candidate
  | leader
  deriving DecidableEq, Repr

/-- A worker that requests are sent to. -/
structure WorkerConfiguration where
  id : String
  baseUrl : String
  weight : ℕ
  deriving DecidableEq, Repr

/-- What the cluster agrees on. -/
structure RoutingConfiguration where
  routingPolicy : String
  workers : List WorkerConfiguration
  deriving DecidableEq, Repr

/-- Who asked for a configuration. -/
structure CommittedWriteProvenance where
  writerId : String
  issuedAtMs : ℕ
  nonce : String
  deriving DecidableEq, Repr

/-! ## The check of a routing configuration -/

def policies : List String :=
  ["round-robin", "least-in-flight", "weighted-round-robin", "ewma-latency", "consistent-hash"]

/-- The loop over the workers; `identities` are the trimmed names seen so far. -/
def validateWorkers (identities : List (List Char)) :
    List WorkerConfiguration → Except String Unit
  | [] => .ok ()
  | worker :: rest =>
    if trim worker.id = [] ∨ worker.id.utf8ByteSize > 100 then
      .error "worker IDs must contain 1 to 100 bytes"
    else if trim worker.id ∈ identities then
      .error s!"worker ID {worker.id} is duplicated"
    else if worker.weight = 0 then
      .error s!"worker {worker.id} must have a positive weight"
    else if !(startsWith worker.baseUrl "http://" || startsWith worker.baseUrl "https://") then
      .error s!"worker {worker.id} base_url must start with http:// or https://"
    else
      validateWorkers (trim worker.id :: identities) rest

def RoutingConfiguration.validate (configuration : RoutingConfiguration) : Except String Unit :=
  if configuration.routingPolicy ∉ policies then
    .error ("routing_policy must be one of " ++ ", ".intercalate policies)
  else if configuration.workers = [] ∨ configuration.workers.length > 100 then
    .error "workers must contain between 1 and 100 entries"
  else
    validateWorkers [] configuration.workers

/-! ## The replicated log -/

/-- What an entry does. -/
inductive Command
  | noop
  | setRoutingConfiguration (configuration : RoutingConfiguration)
      (writer : Option CommittedWriteProvenance)
  deriving DecidableEq, Repr

/-- An entry of the log. -/
structure LogEntry where
  index : ℕ
  term : ℕ
  command : Command
  deriving DecidableEq, Repr

/-- A configuration with its place in the log. -/
structure CommittedConfiguration where
  clusterId : String
  revision : ℕ
  term : ℕ
  configuration : RoutingConfiguration
  writer : Option CommittedWriteProvenance
  deriving DecidableEq, Repr

/-- What a node keeps on disk. -/
structure PersistentState (Id : Type) where
  clusterId : String
  currentTerm : ℕ
  votedFor : Option Id
  log : List LogEntry
  commitIndex : ℕ
  deriving DecidableEq, Repr

/-- `PersistentState::default()`, the state of a node whose file does not exist yet. -/
def PersistentState.default {Id : Type} : PersistentState Id where
  clusterId := ""
  currentTerm := 0
  votedFor := none
  log := []
  commitIndex := 0

/-! ## The remote procedure calls -/

/-- A candidate asks for a vote. -/
structure RequestVoteRequest (Id : Type) where
  clusterId : String
  term : ℕ
  candidateId : Id
  lastLogIndex : ℕ
  lastLogTerm : ℕ
  deriving DecidableEq, Repr

structure RequestVoteResponse where
  term : ℕ
  voteGranted : Bool
  deriving DecidableEq, Repr

/-- A leader sends entries, or none. -/
structure AppendEntriesRequest (Id : Type) where
  clusterId : String
  term : ℕ
  leaderId : Id
  prevLogIndex : ℕ
  prevLogTerm : ℕ
  entries : List LogEntry
  leaderCommit : ℕ
  deriving DecidableEq, Repr

structure AppendEntriesResponse where
  term : ℕ
  success : Bool
  matchIndex : ℕ
  deriving DecidableEq, Repr

end InferLab.ControlPlane
