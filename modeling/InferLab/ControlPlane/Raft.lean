import Mathlib.Logic.Function.Basic
import InferLab.ControlPlane.Storage

/-!
# A Raft node

`raft.rs`. Everything a node does happens in critical sections under its state lock; between
two of them it only waits for replies. Each section is a function of the node's state. Its
`Outcome` is the state it leaves in memory, the states it has saved on the way, and the
result, so that a crash in the middle can be told from a section that ran to its end.

Counters, deadlines, trace events and the HTTP client are left out: a deadline that has
passed or not is a choice of the environment.
-/

namespace InferLab.ControlPlane

/-- A node's configuration as `NodeConfig::validate` accepts it. -/
structure NodeConfig (Id : Type) where
  nodeId : Id
  clusterId : String
  peers : List Id
  clusterId_ok : validateClusterId clusterId = .ok ()
  peers_length : peers.length = 2
  nodup : (nodeId :: peers).Nodup

namespace NodeConfig

variable {Id : Type} (config : NodeConfig Id)

def clusterSize : ℕ := config.peers.length + 1

def majority : ℕ := config.clusterSize / 2 + 1

end NodeConfig

/-- What a node holds in memory. -/
structure VolatileState (Id : Type) where
  persistent : PersistentState Id
  role : Role
  leaderId : Option Id
  lastApplied : ℕ
  committedConfiguration : Option CommittedConfiguration
  nextIndex : Id → Option ℕ
  matchIndex : Id → Option ℕ
  storageError : Option String

/-- How a critical section ends: the state in memory, the states saved in order, and the
result it returns. -/
structure Outcome (Id α : Type) where
  state : VolatileState Id
  saves : List (PersistentState Id)
  result : Except (RaftError Id) α

namespace Outcome

variable {Id α : Type}

def done (state : VolatileState Id) (value : α) : Outcome Id α := ⟨state, [], .ok value⟩

def fail (state : VolatileState Id) (error : RaftError Id) : Outcome Id α :=
  ⟨state, [], .error error⟩

end Outcome

variable {Id α : Type}

/-! ## The log -/

def lastLogPosition (state : PersistentState Id) : ℕ × ℕ :=
  match state.log.getLast? with
  | some entry => (entry.index, entry.term)
  | none => (0, 0)

def logTerm (state : PersistentState Id) (index : ℕ) : Option ℕ :=
  if index = 0 then some 0 else state.log[index - 1]?.map (·.term)

def previousMatches (state : PersistentState Id) (index term : ℕ) : Bool :=
  (index == 0 && term == 0) || logTerm state index == some term

def validateIncomingEntries (previousIndex : ℕ) (entries : List LogEntry) : Except String Unit :=
  checkEntries
    (fun before entry =>
      s!"incoming entry index {entry.index} term {entry.term} does not match " ++
        s!"expected index {before + 1}")
    previousIndex entries

def candidateLogIsAtLeastAsUpToDate (candidateLastIndex candidateLastTerm voterLastIndex
    voterLastTerm : ℕ) : Bool :=
  candidateLastTerm > voterLastTerm ||
    (candidateLastTerm == voterLastTerm && candidateLastIndex ≥ voterLastIndex)

def highestCommittableIndex (state : PersistentState Id) (currentTerm : ℕ)
    (matchIndexes : List ℕ) (majority : ℕ) : Option ℕ :=
  let lastIndex := state.log.length
  (List.range' (state.commitIndex + 1) (lastIndex - state.commitIndex)).reverse.find?
    fun candidate => logTerm state candidate == some currentTerm &&
      (matchIndexes.filter (· ≥ candidate)).length ≥ majority

/-- The loop of `apply_committed` over the committed entries. -/
def applyEntries (clusterId : String) : Option CommittedConfiguration → List LogEntry →
    Except String (Option CommittedConfiguration)
  | committed, [] => .ok committed
  | committed, entry :: rest =>
    match entry.command with
    | .noop => applyEntries clusterId committed rest
    | .setRoutingConfiguration configuration writer =>
      match configuration.validate with
      | .error error =>
        .error s!"committed configuration at index {entry.index} is invalid: {error}"
      | .ok () =>
        applyEntries clusterId
          (some { clusterId, revision := entry.index, term := entry.term, configuration, writer })
          rest

def applyCommitted (persistent : PersistentState Id) :
    Except String (ℕ × Option CommittedConfiguration) := do
  let committed ← applyEntries persistent.clusterId none
    (persistent.log.take persistent.commitIndex)
  return (persistent.commitIndex, committed)

/-- The loop of `handle_append_entries` over the incoming entries, the first of which belongs
at `index`: the new log, and whether it changed. -/
def mergeEntries (commitIndex : ℕ) (log : List LogEntry) :
    ℕ → List LogEntry → Except String (List LogEntry × Bool)
  | _, [] => .ok (log, false)
  | index, incoming :: rest =>
    match log[index - 1]? with
    | some existing =>
      if existing ≠ incoming then
        if index ≤ commitIndex then
          .error s!"leader attempted to overwrite committed log index {index}"
        else
          .ok (log.take (index - 1) ++ incoming :: rest, true)
      else
        mergeEntries commitIndex log (index + 1) rest
    | none => .ok (log ++ incoming :: rest, true)

/-! ## Pieces of the critical sections -/

def requireClusterIdentity (config : NodeConfig Id) (observedClusterId : String)
    (state : VolatileState Id) (next : Outcome Id α) : Outcome Id α :=
  if observedClusterId = config.clusterId then
    next
  else
    .fail state (.invalid (s!"Raft cluster identity mismatch: node belongs to " ++
      s!"'{config.clusterId}', RPC claimed '{observedClusterId}'"))

def requireStorage (state : VolatileState Id) (next : Outcome Id α) : Outcome Id α :=
  match state.storageError with
  | some error =>
    .fail state (.storage s!"node is unavailable after storage failure: {error}")
  | none => next

/-- `persist_locked`, and what the section does after it. -/
def persistLocked (state : VolatileState Id) (next : VolatileState Id → Outcome Id α) :
    Outcome Id α :=
  match save state.persistent with
  | .error error => .fail { state with storageError := some error } (.storage error)
  | .ok saved =>
    let outcome := next state
    { outcome with saves := saved :: outcome.saves }

/-- `if changed { self.persist_locked(&mut state)?; }` -/
def persistIf (changed : Bool) (state : VolatileState Id)
    (next : VolatileState Id → Outcome Id α) : Outcome Id α :=
  if changed then persistLocked state next else next state

/-- `apply_committed_locked`, and what the section does after it. -/
def applyCommittedLocked (state : VolatileState Id) (next : VolatileState Id → Outcome Id α) :
    Outcome Id α :=
  match applyCommitted state.persistent with
  | .error error => .fail state (.storage error)
  | .ok (lastApplied, committedConfiguration) =>
    next { state with lastApplied, committedConfiguration }

def becomeFollower (state : VolatileState Id) (term : ℕ) (leaderId : Option Id) :
    VolatileState Id :=
  { state with
    persistent :=
      if term > state.persistent.currentTerm then
        { state.persistent with currentTerm := term, votedFor := none }
      else
        state.persistent
    role := .follower
    leaderId
    nextIndex := fun _ => none
    matchIndex := fun _ => none }

/-! ## Opening a node -/

/-- The state of a node that has just been opened. -/
def openedState (persistent : PersistentState Id) (lastApplied : ℕ)
    (committedConfiguration : Option CommittedConfiguration) : VolatileState Id where
  persistent
  role := .follower
  leaderId := none
  lastApplied
  committedConfiguration
  nextIndex := fun _ => none
  matchIndex := fun _ => none
  storageError := none

/-- `open_with_service_signer` on what the node's file holds: the node, and what the file
holds afterwards. -/
def openNode (config : NodeConfig Id) (file : PersistentState Id) :
    Except (RaftError Id) (VolatileState Id × PersistentState Id) := do
  let persistent ← (load file).mapError .storage
  let (persistent, file) ←
    if persistent.clusterId = "" then do
      let persistent := { persistent with clusterId := config.clusterId }
      let file ← (save persistent).mapError .storage
      pure (persistent, file)
    else if persistent.clusterId ≠ config.clusterId then
      throw (.storage (s!"persisted cluster identity '{persistent.clusterId}' does not match " ++
        s!"configured cluster identity '{config.clusterId}'"))
    else
      pure (persistent, file)
  let (lastApplied, committedConfiguration) ← (applyCommitted persistent).mapError .storage
  return (openedState persistent lastApplied committedConfiguration, file)

/-- `committed_configuration`, what a node reports. -/
def committedConfiguration (state : VolatileState Id) :
    Except (RaftError Id) CommittedConfiguration :=
  match state.committedConfiguration with
  | some committed => .ok committed
  | none => .error (.unavailable "no routing configuration has been committed")

section Handlers

variable [DecidableEq Id]

/-! ## Answering the other nodes -/

/-- The part of `handle_request_vote` after the term of the request has been accepted;
`persistentChanged` says whether it was a new one. -/
def castVote (persistentChanged : Bool) (request : RequestVoteRequest Id)
    (state : VolatileState Id) : Outcome Id RequestVoteResponse :=
  let (lastIndex, lastTerm) := lastLogPosition state.persistent
  let candidateIsCurrent := candidateLogIsAtLeastAsUpToDate request.lastLogIndex
    request.lastLogTerm lastIndex lastTerm
  let canVote := state.persistent.votedFor == none ||
    state.persistent.votedFor == some request.candidateId
  let voteGranted := canVote && candidateIsCurrent
  let state :=
    if voteGranted then
      { state with
        persistent := { state.persistent with votedFor := some request.candidateId } }
    else
      state
  persistIf (persistentChanged || voteGranted) state fun state =>
  .done state { term := state.persistent.currentTerm, voteGranted }

def handleRequestVote (config : NodeConfig Id) (request : RequestVoteRequest Id)
    (state : VolatileState Id) : Outcome Id RequestVoteResponse :=
  requireClusterIdentity config request.clusterId state <|
  requireStorage state <|
  let newer : Bool := request.term > state.persistent.currentTerm
  let state := if newer then becomeFollower state request.term none else state
  if request.term < state.persistent.currentTerm then
    .done state { term := state.persistent.currentTerm, voteGranted := false }
  else
    castVote newer request state

/-- The part of `handle_append_entries` after the term of the request has been accepted and,
if it is new, saved. -/
def acceptEntries (request : AppendEntriesRequest Id) (state : VolatileState Id) :
    Outcome Id AppendEntriesResponse :=
  if !previousMatches state.persistent request.prevLogIndex request.prevLogTerm then
    .done state {
      term := state.persistent.currentTerm
      success := false
      matchIndex := (lastLogPosition state.persistent).1 }
  else
    match validateIncomingEntries request.prevLogIndex request.entries with
    | .error error => .fail state (.invalid error)
    | .ok () =>
    match mergeEntries state.persistent.commitIndex state.persistent.log
      (request.prevLogIndex + 1) request.entries with
    | .error error => .fail state (.storage error)
    | .ok (log, logChanged) =>
      let state := { state with persistent := { state.persistent with log } }
      let matchedIndex := request.prevLogIndex + request.entries.length
      let newCommit := min request.leaderCommit state.persistent.log.length
      let respond := fun (state : VolatileState Id) => Outcome.done state {
        term := state.persistent.currentTerm
        success := true
        matchIndex := matchedIndex }
      if newCommit > state.persistent.commitIndex then
        let state :=
          { state with persistent := { state.persistent with commitIndex := newCommit } }
        applyCommittedLocked state fun state => persistLocked state respond
      else
        persistIf logChanged state respond

def handleAppendEntries (config : NodeConfig Id) (request : AppendEntriesRequest Id)
    (state : VolatileState Id) : Outcome Id AppendEntriesResponse :=
  requireClusterIdentity config request.clusterId state <|
  requireStorage state <|
  if request.term < state.persistent.currentTerm then
    .done state {
      term := state.persistent.currentTerm
      success := false
      matchIndex := (lastLogPosition state.persistent).1 }
  else
    let newer : Bool := request.term > state.persistent.currentTerm
    let state :=
      if newer then
        becomeFollower state request.term (some request.leaderId)
      else
        { state with role := .follower, leaderId := some request.leaderId }
    -- a new term reaches the disk before anything below can reject the request
    persistIf newer state (acceptEntries request)

/-! ## Campaigning -/

/-- The start of `campaign`: nothing for a leader, else the request it sends to its peers.
The role is read under the campaign lock just before the section; only a campaign makes a
leader, so reading it here is the same. -/
def campaignStart (config : NodeConfig Id) (state : VolatileState Id) :
    Outcome Id (Option (RequestVoteRequest Id)) :=
  if state.role = .leader then
    .done state none
  else
    requireStorage state <|
    let state := { state with
      role := .candidate
      leaderId := none
      persistent := { state.persistent with
        currentTerm := min (state.persistent.currentTerm + 1) u64Max
        votedFor := some config.nodeId } }
    persistLocked state fun state =>
    let (lastLogIndex, lastLogTerm) := lastLogPosition state.persistent
    .done state (some {
      clusterId := config.clusterId
      term := state.persistent.currentTerm
      candidateId := config.nodeId
      lastLogIndex
      lastLogTerm })

/-- One response in the loop over them: the votes and the highest term so far. -/
def tallyVote (request : RequestVoteRequest Id) (tally : ℕ × ℕ)
    (response : Id × Option RequestVoteResponse) : ℕ × ℕ :=
  match response.2 with
  | some response =>
    (if response.term = request.term ∧ response.voteGranted then tally.1 + 1 else tally.1,
      max tally.2 response.term)
  | none => tally

/-- The votes for `request` and the highest term among the responses. -/
def tallyVotes (request : RequestVoteRequest Id)
    (responses : List (Id × Option RequestVoteResponse)) : ℕ × ℕ :=
  responses.foldl (tallyVote request) (1, request.term)

/-- The end of `campaign`, once each peer has answered or not: whether the node now leads. -/
def campaignEnd (config : NodeConfig Id) (request : RequestVoteRequest Id)
    (responses : List (Id × Option RequestVoteResponse)) (state : VolatileState Id) :
    Outcome Id Bool :=
  let (votes, highestTerm) := tallyVotes request responses
  if highestTerm > state.persistent.currentTerm then
    persistLocked (becomeFollower state highestTerm none) fun state => .done state false
  else if state.role = .candidate ∧ state.persistent.currentTerm = request.term ∧
      votes ≥ config.majority then
    let noopIndex := state.persistent.log.length + 1
    let state := { state with
      role := .leader
      leaderId := some config.nodeId
      persistent := { state.persistent with
        log := state.persistent.log ++
          [{ index := noopIndex, term := state.persistent.currentTerm, command := .noop }] }
      nextIndex := fun peer => if peer ∈ config.peers then some (noopIndex + 1) else none
      matchIndex := Function.update
        (fun peer => if peer ∈ config.peers then some 0 else none) config.nodeId
        (some noopIndex) }
    persistLocked state fun state => .done state true
  else
    .done state false

/-! ## Replicating -/

/-- The request `replicate_round` makes for one peer. -/
def appendEntriesFor (config : NodeConfig Id) (state : VolatileState Id) (peer : Id) :
    AppendEntriesRequest Id :=
  let nextIndex := (state.nextIndex peer).getD (state.persistent.log.length + 1)
  let prevLogIndex := nextIndex - 1
  { clusterId := config.clusterId
    term := state.persistent.currentTerm
    leaderId := config.nodeId
    prevLogIndex
    prevLogTerm := (logTerm state.persistent prevLogIndex).getD 0
    entries := state.persistent.log.drop (min (nextIndex - 1) state.persistent.log.length)
    leaderCommit := state.persistent.commitIndex }

/-- The start of `replicate_round`: for a leader its term, and a request for each peer. -/
def replicateStart (config : NodeConfig Id) (state : VolatileState Id) :
    Outcome Id (Option (ℕ × List (Id × AppendEntriesRequest Id))) :=
  requireStorage state <|
  if state.role ≠ .leader then
    .done state none
  else
    .done state (some (state.persistent.currentTerm,
      config.peers.map fun peer => (peer, appendEntriesFor config state peer)))

/-- The loop of `replicate_round` over the responses, up to the first of a higher term. -/
def recordResponses (state : VolatileState Id) :
    List (Id × Option AppendEntriesResponse) → VolatileState Id × Option ℕ
  | [] => (state, none)
  | (peerId, some response) :: rest =>
    if response.term > state.persistent.currentTerm then
      (state, some response.term)
    else if response.success then
      recordResponses { state with
        matchIndex := Function.update state.matchIndex peerId (some response.matchIndex)
        nextIndex := Function.update state.nextIndex peerId (some (response.matchIndex + 1)) }
        rest
    else
      let next := (state.nextIndex peerId).getD 1
      recordResponses { state with
        nextIndex := Function.update state.nextIndex peerId (some (max (next - 1) 1)) } rest
  | (_, none) :: rest => recordResponses state rest

/-- What `replicate_round` does after the loop: commit what a majority has stored. -/
def commitReplicated (config : NodeConfig Id) (state : VolatileState Id) : Outcome Id Unit :=
  let oldCommit := state.persistent.commitIndex
  let matchIndexes := state.persistent.log.length ::
    config.peers.map fun peer => (state.matchIndex peer).getD 0
  match highestCommittableIndex state.persistent state.persistent.currentTerm matchIndexes
    config.majority with
  | some candidate =>
    if candidate > oldCommit then
      let state :=
        { state with persistent := { state.persistent with commitIndex := candidate } }
      applyCommittedLocked state fun state => persistLocked state fun state => .done state ()
    else
      .done state ()
  | none => .done state ()

/-- The end of `replicate_round`, once each peer has answered or not. -/
def replicateEnd (config : NodeConfig Id) (term : ℕ)
    (responses : List (Id × Option AppendEntriesResponse)) (state : VolatileState Id) :
    Outcome Id Unit :=
  if state.role ≠ .leader ∨ state.persistent.currentTerm ≠ term then
    .done state ()
  else
    match recordResponses state responses with
    | (state, some higher) =>
      persistLocked (becomeFollower state higher none) fun state => .done state ()
    | (state, none) => commitReplicated config state

/-! ## Writing a configuration -/

/-- A call of `write_configuration_with_fence` that has appended its entry and waits: what it
was given, and where the entry went. -/
structure PendingWrite where
  configuration : RoutingConfiguration
  writer : Option CommittedWriteProvenance
  entryIndex : ℕ
  entryTerm : ℕ
  deriving DecidableEq, Repr

/-- The start of `write_configuration_with_fence`, up to the appended entry. -/
def writeConfigurationWithFence (config : NodeConfig Id) (configuration : RoutingConfiguration)
    (expectedRevision : Option ℕ) (writer : Option CommittedWriteProvenance)
    (state : VolatileState Id) : Outcome Id PendingWrite :=
  match configuration.validate with
  | .error error => .fail state (.invalid error)
  | .ok () =>
  requireStorage state <|
  if state.role ≠ .leader then
    .fail state (.notLeader state.leaderId)
  else
    let currentRevision := (state.committedConfiguration.map (·.revision)).getD 0
    let conflict := match expectedRevision with
      | some expectedRevision => if expectedRevision ≠ currentRevision then
          some (s!"expected committed revision {expectedRevision}, but current revision " ++
            s!"is {currentRevision}")
        else none
      | none => none
    match conflict with
    | some message => .fail state (.conflict message)
    | none =>
      let index := state.persistent.log.length + 1
      let term := state.persistent.currentTerm
      let state := { state with
        persistent := { state.persistent with
          log := state.persistent.log ++
            [{ index, term, command := .setRoutingConfiguration configuration writer }] }
        matchIndex := Function.update state.matchIndex config.nodeId (some index) }
      persistLocked state fun state =>
      .done state { configuration, writer, entryIndex := index, entryTerm := term }

/-- One look of the waiting call at the state after a replication round: `some` is the
acknowledgement, `none` waits for another round. -/
def pollWrite (write : PendingWrite) (state : VolatileState Id) :
    Outcome Id (Option CommittedConfiguration) :=
  requireStorage state <|
  if state.persistent.commitIndex ≥ write.entryIndex then
    match state.committedConfiguration with
    | some committed => .done state (some committed)
    | none => .fail state (.storage
        s!"configuration entry {write.entryIndex} committed but was not applied")
  else if state.role ≠ .leader ∨ state.persistent.currentTerm ≠ write.entryTerm then
    .fail state (.notLeader state.leaderId)
  else
    .done state none

end Handlers

end InferLab.ControlPlane
