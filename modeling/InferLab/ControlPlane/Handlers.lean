import InferLab.ControlPlane.RaftTheorems

/-!
# The handlers on requests with any content

What the critical sections of one node can do when nothing is known about who sends the
requests: one inversion for the part of `handle_append_entries` that changes the log, and for
each handler what it leaves in memory and what it has saved.
-/

namespace InferLab.ControlPlane

open Except List

open Consensus (overlay)

variable {Id α : Type}

/-! ## Saving -/

lemma save_eq_ok {state saved : PersistentState Id} (h : save state = .ok saved) :
    saved = state := by
  unfold save at h
  cases hcheck : validatePersistentState state with
  | error error => simp [hcheck, bind, Except.bind] at h
  | ok checked =>
    rw [hcheck] at h
    exact (ok.inj h).symm

/-- A save is refused and the node fails closed, or the file holds what is in memory. -/
theorem persistLocked_cases (state : VolatileState Id) (next : VolatileState Id → Outcome Id α) :
    (∃ error, persistLocked state next =
      .fail { state with storageError := some error } (.storage error)) ∨
    persistLocked state next =
      { next state with saves := state.persistent :: (next state).saves } := by
  unfold persistLocked
  cases hsave : save state.persistent with
  | error error => exact .inl ⟨error, rfl⟩
  | ok saved =>
    obtain rfl := save_eq_ok hsave
    exact .inr rfl

variable {next : VolatileState Id → Outcome Id α}

/-- A save whose section goes on to answer leaves the state as it was saved. -/
theorem persistLocked_ok {state : VolatileState Id} {value : α}
    (h : (persistLocked state next).result = .ok value) :
    persistLocked state next =
      { next state with saves := state.persistent :: (next state).saves } := by
  rcases persistLocked_cases state next with ⟨error, hfail⟩ | hsaved
  · rw [hfail] at h
    simp [Outcome.fail] at h
  · exact hsaved

/-- `P` holds of what a section leaves in memory, and of everything it saves. -/
def Outcome.Always (outcome : Outcome Id α) (P : PersistentState Id → Prop) : Prop :=
  P outcome.state.persistent ∧ ∀ saved ∈ outcome.saves, P saved

namespace Outcome.Always

variable {P : PersistentState Id → Prop} {state : VolatileState Id}

lemma mono {Q : PersistentState Id → Prop} {outcome : Outcome Id α} (h : outcome.Always P)
    (hPQ : ∀ p, P p → Q p) : outcome.Always Q :=
  ⟨hPQ _ h.1, fun saved hsaved => hPQ _ (h.2 saved hsaved)⟩

lemma done {value : α} (h : P state.persistent) : (Outcome.done state value).Always P :=
  ⟨h, by simp [Outcome.done]⟩

lemma fail {error : RaftError Id} (h : P state.persistent) :
    (Outcome.fail state error : Outcome Id α).Always P :=
  ⟨h, by simp [Outcome.fail]⟩

lemma persistLocked (h : P state.persistent) (hnext : (next state).Always P) :
    (ControlPlane.persistLocked state next).Always P := by
  rcases persistLocked_cases state next with ⟨error, hfail⟩ | hsaved
  · rw [hfail]
    exact .fail h
  · rw [hsaved]
    exact ⟨hnext.1, forall_mem_cons.mpr ⟨h, hnext.2⟩⟩

lemma persistIf {changed : Bool} (h : P state.persistent) (hnext : (next state).Always P) :
    (ControlPlane.persistIf changed state next).Always P := by
  cases changed with
  | false => exact hnext
  | true => exact .persistLocked h hnext

lemma applyCommittedLocked (h : P state.persistent)
    (hnext : ∀ lastApplied committedConfiguration,
      (next { state with lastApplied, committedConfiguration }).Always P) :
    (ControlPlane.applyCommittedLocked state next).Always P := by
  unfold ControlPlane.applyCommittedLocked
  cases applyCommitted state.persistent with
  | error error => exact .fail h
  | ok applied => exact hnext applied.1 applied.2

lemma requireStorage {next : Outcome Id α} (h : P state.persistent) (hnext : next.Always P) :
    (ControlPlane.requireStorage state next).Always P := by
  unfold ControlPlane.requireStorage
  cases state.storageError with
  | none => exact hnext
  | some error => exact .fail h

lemma requireClusterIdentity {config : NodeConfig Id} {clusterId : String}
    {next : Outcome Id α} (h : P state.persistent) (hnext : next.Always P) :
    (ControlPlane.requireClusterIdentity config clusterId state next).Always P := by
  unfold ControlPlane.requireClusterIdentity
  split_ifs
  · exact hnext
  · exact .fail h

end Outcome.Always

/-! ## Sections that save nothing -/

/-- A look at the state changes nothing. -/
theorem pollWrite_state (write : PendingWrite) (state : VolatileState Id) :
    (pollWrite write state).state = state ∧ (pollWrite write state).saves = [] := by
  unfold pollWrite requireStorage
  split
  · exact ⟨rfl, rfl⟩
  · split_ifs
    · split <;> exact ⟨rfl, rfl⟩
    · exact ⟨rfl, rfl⟩
    · exact ⟨rfl, rfl⟩

lemma replicateStart_state (config : NodeConfig Id) (state : VolatileState Id) :
    (replicateStart config state).state = state ∧ (replicateStart config state).saves = [] := by
  unfold replicateStart requireStorage
  split
  · exact ⟨rfl, rfl⟩
  · split_ifs
    · exact ⟨rfl, rfl⟩
    · exact ⟨rfl, rfl⟩

/-! ## Opening -/

/-- A node that opens holds what its file holds, which has passed the checks. -/
theorem openNode_ok {config : NodeConfig Id} {file disk : PersistentState Id}
    {node : VolatileState Id} (h : openNode config file = .ok (node, disk)) :
    node.persistent = { file with clusterId := config.clusterId } ∧ disk = node.persistent ∧
      node.storageError = none ∧ validatePersistentState node.persistent = .ok () ∧
      ∃ applied, applyCommitted node.persistent = .ok applied := by
  unfold openNode load at h
  cases hcheck : validatePersistentState file with
  | error error => simp [hcheck, bind, Except.bind, Except.mapError] at h
  | ok checked =>
    simp only [hcheck, bind, Except.bind, Except.mapError, pure, Except.pure] at h
    split_ifs at h with hempty hother
    · cases hsave : save { file with clusterId := config.clusterId } with
      | error error => simp [hsave] at h
      | ok saved =>
        obtain rfl := save_eq_ok hsave
        cases happly : applyCommitted { file with clusterId := config.clusterId } with
        | error error => simp [hsave, happly] at h
        | ok applied =>
          simp only [hsave, happly, ok.injEq, Prod.mk.injEq] at h
          obtain ⟨rfl, rfl⟩ := h
          refine ⟨rfl, rfl, rfl, ?_, applied, happly⟩
          unfold save at hsave
          cases hvalid : validatePersistentState
              { file with clusterId := config.clusterId } with
          | error error => simp [hvalid, bind, Except.bind] at hsave
          | ok checked => simp [openedState, hvalid]
    · cases happly : applyCommitted file with
      | error error => simp [happly] at h
      | ok applied =>
        simp only [happly, ok.injEq, Prod.mk.injEq] at h
        obtain ⟨rfl, rfl⟩ := h
        have hid : file.clusterId = config.clusterId := by simpa using hother
        exact ⟨by rw [← hid]; rfl, rfl, rfl, hcheck, applied, happly⟩

/-- A node opens on a well-formed file whose committed configurations are valid. -/
theorem openNode_wellFormed {config : NodeConfig Id} {file : PersistentState Id}
    (h : file.WellFormed config.clusterId)
    (hvalid : ∀ e ∈ file.log.take file.commitIndex, ValidCommand e) :
    openNode config file = .ok (openedState file file.commitIndex
      (latestConfiguration file.clusterId (file.log.take file.commitIndex)), file) := by
  have hne : config.clusterId ≠ "" := by
    intro hempty
    have hid := config.clusterId_ok
    rw [hempty] at hid
    exact absurd hid (by decide)
  rw [openNode, h.load_eq config.clusterId_ok]
  simp only [Except.mapError, bind, Except.bind, pure, Except.pure, if_neg hne, h.clusterId_eq,
    applyCommitted_eq hvalid, ne_eq, not_true_eq_false, if_false]

/-- A node that is opened for the first time: its file does not exist yet. -/
theorem openNode_default (config : NodeConfig Id) :
    openNode config .default =
      .ok (openedState { PersistentState.default with clusterId := config.clusterId } 0 none,
        { PersistentState.default with clusterId := config.clusterId }) := by
  have hload : load (.default : PersistentState Id) = .ok .default := by
    simp [load, validatePersistentState, PersistentState.default, checkEntries, pure, bind,
      Except.pure, Except.bind]
  have hwell : ({ PersistentState.default with clusterId := config.clusterId } :
      PersistentState Id).WellFormed config.clusterId :=
    ⟨rfl, le_rfl, by simp [PersistentState.default, Indexed]⟩
  rw [openNode, hload]
  simp only [Except.mapError, bind, Except.bind, pure, Except.pure,
    hwell.save_eq config.clusterId_ok]
  rfl

/-! ## Votes -/

section Votes

variable [DecidableEq Id] {config : NodeConfig Id} {state : VolatileState Id}

lemma castVote_granted {changed : Bool} {request : RequestVoteRequest Id}
    {response : RequestVoteResponse}
    (h : (castVote changed request state).result = .ok response)
    (hgranted : response.voteGranted = true) :
    (castVote changed request state).saves =
        [(castVote changed request state).state.persistent] ∧
      (castVote changed request state).state.persistent =
        { state.persistent with votedFor := some request.candidateId } := by
  unfold castVote at h ⊢
  simp only at h ⊢
  generalize ((state.persistent.votedFor == none ||
    state.persistent.votedFor == some request.candidateId) &&
    candidateLogIsAtLeastAsUpToDate _ _ _ _) = granted at h ⊢
  cases granted with
  | false =>
    -- without a grant the response says so
    exfalso
    rw [Bool.or_false, if_neg (by simp)] at h
    cases changed with
    | false =>
      obtain rfl := ok.inj h
      simp at hgranted
    | true =>
      rw [persistIf_true] at h
      have hsaved := persistLocked_ok h
      rw [hsaved] at h
      obtain rfl := ok.inj h
      simp at hgranted
  | true =>
    rw [Bool.or_true, persistIf_true, if_pos rfl] at h ⊢
    rw [persistLocked_ok h]
    exact ⟨rfl, rfl⟩

/-- A granted vote is saved with the term of the request. -/
theorem handleRequestVote_granted {request : RequestVoteRequest Id}
    {response : RequestVoteResponse}
    (h : (handleRequestVote config request state).result = .ok response)
    (hgranted : response.voteGranted = true) :
    (handleRequestVote config request state).saves =
        [(handleRequestVote config request state).state.persistent] ∧
      (handleRequestVote config request state).state.persistent.currentTerm = request.term ∧
      (handleRequestVote config request state).state.persistent.votedFor =
        some request.candidateId := by
  unfold handleRequestVote requireClusterIdentity requireStorage at h ⊢
  split_ifs at h ⊢ with hidentity
  · cases hstorage : state.storageError with
    | some error => simp [hstorage, Outcome.fail] at h
    | none =>
      simp only [hstorage] at h ⊢
      by_cases hnewer : request.term > state.persistent.currentTerm
      · have hterm : (becomeFollower state request.term none).persistent.currentTerm =
            request.term := by
          simp [becomeFollower, hnewer]
        rw [decide_eq_true hnewer, if_pos rfl, if_neg (by omega)] at h ⊢
        obtain ⟨hsaves, hpersistent⟩ := castVote_granted h hgranted
        exact ⟨hsaves, by rw [hpersistent]; exact hterm, by rw [hpersistent]⟩
      · simp only [decide_eq_false hnewer, Bool.false_eq_true, if_false] at h ⊢
        split_ifs at h ⊢ with hstale
        · obtain rfl := ok.inj h
          simp at hgranted
        · obtain ⟨hsaves, hpersistent⟩ := castVote_granted h hgranted
          refine ⟨hsaves, ?_, by rw [hpersistent]⟩
          rw [hpersistent]
          simp only
          omega
  · simp [Outcome.fail] at h

omit [DecidableEq Id] in
/-- A campaign that sends requests has saved the node's own vote. -/
theorem campaignStart_stands {request : RequestVoteRequest Id}
    (h : (campaignStart config state).result = .ok (some request)) :
    (campaignStart config state).saves = [(campaignStart config state).state.persistent] ∧
      (campaignStart config state).state.persistent.currentTerm = request.term ∧
      (campaignStart config state).state.persistent.votedFor = some request.candidateId := by
  unfold campaignStart requireStorage at h ⊢
  split_ifs at h ⊢ with hrole
  · simp [Outcome.done] at h
  · cases hstorage : state.storageError with
    | some error => simp [hstorage, Outcome.fail] at h
    | none =>
      simp only [hstorage] at h ⊢
      have hsaved := persistLocked_ok h
      rw [hsaved] at h ⊢
      obtain rfl := Option.some.inj (ok.inj h)
      exact ⟨rfl, rfl, rfl⟩

end Votes

/-! ## Accepting entries -/

/-- The state with the log that the entries of a request leave. -/
def mergedState (state : VolatileState Id) (log : List LogEntry) : VolatileState Id :=
  { state with persistent := { state.persistent with log } }

/-- The state with that log, when the first `commitIndex` entries are committed as well. -/
def committingState (state : VolatileState Id) (log : List LogEntry) (commitIndex : ℕ) :
    VolatileState Id :=
  { state with persistent := { state.persistent with log, commitIndex } }

/-- The answer to a request whose entries the log now holds. -/
def acknowledge (request : AppendEntriesRequest Id) (state : VolatileState Id) :
    Outcome Id AppendEntriesResponse :=
  .done state {
    term := state.persistent.currentTerm
    success := true
    matchIndex := request.prevLogIndex + request.entries.length }

/-- The request is on top of the node's log and its entries leave `log`. -/
structure Merges (request : AppendEntriesRequest Id) (persistent : PersistentState Id)
    (log : List LogEntry) (changed : Bool) : Prop where
  previous : previousMatches persistent request.prevLogIndex request.prevLogTerm = true
  incoming : validateIncomingEntries request.prevLogIndex request.entries = .ok ()
  merge : mergeEntries persistent.commitIndex persistent.log (request.prevLogIndex + 1)
    request.entries = .ok (log, changed)

namespace Merges

variable {request : AppendEntriesRequest Id} {persistent : PersistentState Id}
  {log : List LogEntry} {changed : Bool}

section

variable (h : Merges request persistent log changed)
include h

lemma prevLogIndex_le : request.prevLogIndex ≤ persistent.log.length := by
  have hprev := previousMatches_iff.mp h.previous
  split_ifs at hprev with hzero
  · omega
  · obtain ⟨e, he, -⟩ := hprev
    obtain ⟨hlt, -⟩ := List.getElem?_eq_some_iff.mp he
    omega

lemma log_eq :
    log = overlay persistent.log
      (persistent.log.take request.prevLogIndex ++ request.entries) :=
  (mergeEntries_eq h.prevLogIndex_le h.merge).1

/-- A request leaves one log. -/
theorem log_unique {log' : List LogEntry} {changed' : Bool}
    (h' : Merges request persistent log' changed') : log' = log := by
  have heq := h'.merge.symm.trans h.merge
  simp only [ok.injEq, Prod.mk.injEq] at heq
  exact heq.1

end

lemma log_eq_of_unchanged (h : Merges request persistent log false) : log = persistent.log :=
  (mergeEntries_eq h.prevLogIndex_le h.merge).2 rfl

section

variable (h : Merges request persistent log changed)
include h

lemma length_source :
    (persistent.log.take request.prevLogIndex ++ request.entries).length =
      request.prevLogIndex + request.entries.length := by
  have hle := h.prevLogIndex_le
  simp only [length_append, length_take]
  omega

/-- The log now holds what the request says, up to the index it confirms. -/
theorem take_eq :
    log.take (request.prevLogIndex + request.entries.length) =
      persistent.log.take request.prevLogIndex ++ request.entries := by
  have hpre := Consensus.prefix_overlay persistent.log
    (persistent.log.take request.prevLogIndex ++ request.entries)
  rw [← h.log_eq, prefix_iff_eq_take, h.length_source] at hpre
  exact hpre.symm

lemma le_length : request.prevLogIndex + request.entries.length ≤ log.length := by
  have hle := Consensus.length_le_overlay persistent.log
    (persistent.log.take request.prevLogIndex ++ request.entries)
  rwa [← h.log_eq, h.length_source] at hle

lemma indexed (hlog : Indexed 0 persistent.log) : Indexed 0 log := by
  have hincoming : Indexed request.prevLogIndex request.entries :=
    (checkEntries_eq_ok _ _ _).mp h.incoming
  rw [h.log_eq, overlay]
  split_ifs
  · exact hlog
  · intro i e he
    rw [List.getElem?_append] at he
    simp only [length_take, Nat.min_eq_left h.prevLogIndex_le] at he
    split_ifs at he with hi
    · rw [List.getElem?_take_of_lt hi] at he
      exact hlog i e he
    · have := hincoming _ e he
      omega

end

end Merges

/-- The ways `acceptEntries` can end. -/
inductive Accepting (request : AppendEntriesRequest Id) (state : VolatileState Id) :
    Outcome Id AppendEntriesResponse → Prop
  | mismatched (previous : previousMatches state.persistent request.prevLogIndex
        request.prevLogTerm = false) :
      Accepting request state (.done state {
        term := state.persistent.currentTerm
        success := false
        matchIndex := (lastLogPosition state.persistent).1 })
  | refused (error : RaftError Id)
      (unmerged : ∀ log changed, ¬ Merges request state.persistent log changed)
      (previous : previousMatches state.persistent request.prevLogIndex
        request.prevLogTerm = true) :
      Accepting request state (.fail state error)
  | stored {log : List LogEntry} {changed : Bool}
      (merges : Merges request state.persistent log changed)
      (le : min request.leaderCommit log.length ≤ state.persistent.commitIndex) :
      Accepting request state (persistIf changed (mergedState state log) (acknowledge request))
  | unapplied {log : List LogEntry} {changed : Bool} {error : String}
      (merges : Merges request state.persistent log changed)
      (lt : state.persistent.commitIndex < min request.leaderCommit log.length)
      (apply : applyCommitted (committingState state log
        (min request.leaderCommit log.length)).persistent = .error error) :
      Accepting request state
        (.fail (committingState state log (min request.leaderCommit log.length)) (.storage error))
  | committed {log : List LogEntry} {changed : Bool} {lastApplied : ℕ}
      {committedConfiguration : Option CommittedConfiguration}
      (merges : Merges request state.persistent log changed)
      (lt : state.persistent.commitIndex < min request.leaderCommit log.length)
      (apply : applyCommitted (committingState state log
        (min request.leaderCommit log.length)).persistent = .ok (lastApplied,
          committedConfiguration)) :
      Accepting request state (persistLocked
        { committingState state log (min request.leaderCommit log.length) with
          lastApplied, committedConfiguration } (acknowledge request))

lemma acceptEntries_cases (request : AppendEntriesRequest Id) (state : VolatileState Id) :
    Accepting request state (acceptEntries request state) := by
  unfold acceptEntries
  cases hprev : previousMatches state.persistent request.prevLogIndex request.prevLogTerm with
  | false => exact .mismatched hprev
  | true =>
    rw [if_neg (by simp)]
    cases hincoming : validateIncomingEntries request.prevLogIndex request.entries with
    | error error =>
      refine .refused _ (fun log changed hmerges => ?_) hprev
      have hok := hmerges.incoming
      simp [hincoming] at hok
    | ok checked =>
      cases hmerge : mergeEntries state.persistent.commitIndex state.persistent.log
          (request.prevLogIndex + 1) request.entries with
      | error error =>
        refine .refused _ (fun log changed hmerges => ?_) hprev
        have hok := hmerges.merge
        simp [hmerge] at hok
      | ok merged =>
        obtain ⟨log, changed⟩ := merged
        have hmerges : Merges request state.persistent log changed := ⟨hprev, hincoming, hmerge⟩
        simp only
        split_ifs with hcommit
        · unfold applyCommittedLocked
          cases happly : applyCommitted (committingState state log
              (min request.leaderCommit log.length)).persistent with
          | error error =>
            simp only [committingState] at happly
            simp only [happly]
            exact .unapplied hmerges hcommit happly
          | ok applied =>
            obtain ⟨lastApplied, committedConfiguration⟩ := applied
            simp only [committingState] at happly
            simp only [happly]
            exact .committed hmerges hcommit happly
        · exact .stored hmerges (Nat.not_lt.mp hcommit)

/-- After a successful answer the log is the merged one, and the commit index is raised to the
leader's as far as that log reaches. -/
theorem acceptEntries_success {request : AppendEntriesRequest Id} {state : VolatileState Id}
    {response : AppendEntriesResponse} (h : (acceptEntries request state).result = .ok response)
    (hsuccess : response.success = true) :
    ∃ log changed, Merges request state.persistent log changed ∧
      (acceptEntries request state).state.persistent = { state.persistent with
        log
        commitIndex := max state.persistent.commitIndex (min request.leaderCommit log.length) } ∧
      response.matchIndex = request.prevLogIndex + request.entries.length := by
  have hcases := acceptEntries_cases request state
  generalize acceptEntries request state = outcome at h hcases
  cases hcases with
  | mismatched =>
    obtain rfl := ok.inj h
    simp at hsuccess
  | refused => simp [Outcome.fail] at h
  | @stored log changed merges le =>
    refine ⟨log, changed, merges, ?_⟩
    rw [Nat.max_eq_left le]
    cases changed with
    | false =>
      obtain rfl := ok.inj h
      exact ⟨rfl, rfl⟩
    | true =>
      rw [persistIf_true] at h ⊢
      have hsaved := persistLocked_ok h
      rw [hsaved] at h ⊢
      obtain rfl := ok.inj h
      exact ⟨rfl, rfl⟩
  | unapplied => simp [Outcome.fail] at h
  | @committed log changed lastApplied committedConfiguration merges lt apply =>
    refine ⟨log, changed, merges, ?_⟩
    rw [Nat.max_eq_right lt.le]
    have hsaved := persistLocked_ok h
    rw [hsaved] at h ⊢
    obtain rfl := ok.inj h
    exact ⟨rfl, rfl⟩

/-! ## Requests of a term that is not past -/

/-- The node follows the sender of the request, in the term of the request. -/
def followingState (request : AppendEntriesRequest Id) (state : VolatileState Id) :
    VolatileState Id :=
  if request.term > state.persistent.currentTerm then
    becomeFollower state request.term (some request.leaderId)
  else
    { state with role := .follower, leaderId := some request.leaderId }

section Following

variable (request : AppendEntriesRequest Id) (state : VolatileState Id)

@[simp]
lemma followingState_log :
    (followingState request state).persistent.log = state.persistent.log := by
  unfold followingState becomeFollower
  split_ifs <;> rfl

@[simp]
lemma followingState_commitIndex :
    (followingState request state).persistent.commitIndex = state.persistent.commitIndex := by
  unfold followingState becomeFollower
  split_ifs <;> rfl

@[simp]
lemma followingState_clusterId :
    (followingState request state).persistent.clusterId = state.persistent.clusterId := by
  unfold followingState becomeFollower
  split_ifs <;> rfl

lemma followingState_currentTerm (h : state.persistent.currentTerm ≤ request.term) :
    (followingState request state).persistent.currentTerm = request.term := by
  unfold followingState becomeFollower
  split_ifs with hnewer
  · rfl
  · simp only
    omega

lemma followingState_persistent_of_not_newer
    (h : ¬ request.term > state.persistent.currentTerm) :
    (followingState request state).persistent = state.persistent := by
  rw [followingState, if_neg h]

/-- Whether a request is on top of a log does not depend on the term. -/
theorem previousMatches_following :
    previousMatches (followingState request state).persistent request.prevLogIndex
      request.prevLogTerm =
      previousMatches state.persistent request.prevLogIndex request.prevLogTerm := by
  simp [previousMatches, logTerm]

lemma merges_following_iff {log : List LogEntry} {changed : Bool} :
    Merges request (followingState request state).persistent log changed ↔
      Merges request state.persistent log changed := by
  have hmatches := previousMatches_following request state
  constructor
  · rintro ⟨hprev, hincoming, hmerge⟩
    exact ⟨hmatches ▸ hprev, hincoming, by simpa using hmerge⟩
  · rintro ⟨hprev, hincoming, hmerge⟩
    exact ⟨hmatches ▸ hprev, hincoming, by simpa using hmerge⟩

end Following

/-- The ways `handleAppendEntries` can end. -/
inductive Handling (config : NodeConfig Id) (request : AppendEntriesRequest Id)
    (state : VolatileState Id) : Outcome Id AppendEntriesResponse → Prop
  | refused (error : RaftError Id)
      (why : request.clusterId ≠ config.clusterId ∨ state.storageError ≠ none) :
      Handling config request state (.fail state error)
  | stale (healthy : state.storageError = none)
      (lt : request.term < state.persistent.currentTerm) :
      Handling config request state (.done state {
        term := state.persistent.currentTerm
        success := false
        matchIndex := (lastLogPosition state.persistent).1 })
  | accepted (identity : request.clusterId = config.clusterId)
      (healthy : state.storageError = none)
      (le : state.persistent.currentTerm ≤ request.term) :
      Handling config request state (persistIf (request.term > state.persistent.currentTerm)
        (followingState request state) (acceptEntries request))

lemma handleAppendEntries_cases [DecidableEq Id] (config : NodeConfig Id)
    (request : AppendEntriesRequest Id) (state : VolatileState Id) :
    Handling config request state (handleAppendEntries config request state) := by
  unfold handleAppendEntries requireClusterIdentity
  split_ifs with hidentity hstale
  · unfold requireStorage
    cases hstorage : state.storageError with
    | some error => exact .refused _ (.inr (by simp [hstorage]))
    | none => exact .stale hstorage hstale
  · unfold requireStorage
    cases hstorage : state.storageError with
    | some error => exact .refused _ (.inr (by simp [hstorage]))
    | none =>
      have haccepted : Handling config request state _ :=
        .accepted hidentity hstorage (Nat.not_lt.mp hstale)
      simpa [followingState, hstorage] using haccepted
  · exact .refused _ (.inl hidentity)

lemma handleAppendEntries_success [DecidableEq Id] {config : NodeConfig Id}
    {request : AppendEntriesRequest Id} {state : VolatileState Id}
    {response : AppendEntriesResponse}
    (h : (handleAppendEntries config request state).result = .ok response)
    (hsuccess : response.success = true) :
    ∃ log changed, Merges request state.persistent log changed ∧
      (handleAppendEntries config request state).state.persistent = {
        (followingState request state).persistent with
        log
        commitIndex := max state.persistent.commitIndex (min request.leaderCommit log.length) } ∧
      response.matchIndex = request.prevLogIndex + request.entries.length := by
  have hcases := handleAppendEntries_cases config request state
  generalize handleAppendEntries config request state = outcome at h hcases
  cases hcases with
  | refused => simp [Outcome.fail] at h
  | stale =>
    obtain rfl := ok.inj h
    simp at hsuccess
  | accepted identity healthy le =>
    have haccept : ∀ h' : (acceptEntries request (followingState request state)).result =
        .ok response, ∃ log changed, Merges request state.persistent log changed ∧
          (acceptEntries request (followingState request state)).state.persistent = {
            (followingState request state).persistent with
            log
            commitIndex := max state.persistent.commitIndex
              (min request.leaderCommit log.length) } ∧
          response.matchIndex = request.prevLogIndex + request.entries.length := by
      intro h'
      obtain ⟨log, changed, hmerges, hstate, hmatch⟩ := acceptEntries_success h' hsuccess
      rw [followingState_commitIndex] at hstate
      exact ⟨log, changed, (merges_following_iff request state).mp hmerges, hstate, hmatch⟩
    by_cases hnewer : request.term > state.persistent.currentTerm
    · rw [decide_eq_true hnewer, persistIf_true] at h ⊢
      have hsaved := persistLocked_ok h
      rw [hsaved] at h ⊢
      exact haccept h
    · rw [decide_eq_false hnewer, persistIf_false] at h ⊢
      exact haccept h

end InferLab.ControlPlane
