import InferLab.Consensus.Safety
import InferLab.ControlPlane.Cluster
import InferLab.ControlPlane.RaftTheorems

/-!
# The critical sections refine the protocol

Each critical section of a node is a few moves of that node in the abstract protocol
(`Refines`): what it saves on the way are states the moves pass through, so a crash in the
middle is accounted for as well. The facts about messages that the moves need are stated
over the history (`VoteRequested`, `Voted`, `AppendRequested`, `Appended`) and stay true.
-/

namespace InferLab.ControlPlane

open Consensus Except List

/-- The entries that may stand at position `i` of a log. -/
def FitsAt (i : ℕ) (e : LogEntry) : Prop :=
  e.index = i + 1 ∧ e.term ≠ 0 ∧ ValidCommand e

/-- The protocol the nodes follow. -/
def raft (Id : Type) [DecidableEq Id] [Fintype Id] : Protocol Id LogEntry :=
  Protocol.majority LogEntry.term FitsAt

def Role.standing : Role → Standing
  | .follower => .follower
  | .candidate => .candidate
  | .leader => .leader

variable {Id α : Type}

/-- The registers of `n` are what `persistent` holds. -/
structure Stores (c : Cluster Id) (a : State Id LogEntry) (n : Id)
    (persistent : PersistentState Id) : Prop where
  term : a.term n = persistent.currentTerm
  vote : a.vote n persistent.currentTerm = persistent.votedFor
  log : a.log n = persistent.log
  commit : a.commit n = persistent.commitIndex
  clusterId : persistent.clusterId = c.clusterId

/-- The node `n` in memory: its registers, and what it derives from them. -/
structure Tracks (c : Cluster Id) (a : State Id LogEntry) (n : Id) (state : VolatileState Id) :
    Prop extends Stores c a n state.persistent where
  standing : a.standing n = state.role.standing
  healthy : state.storageError = none
  lastApplied : state.lastApplied = state.persistent.commitIndex
  configuration : state.committedConfiguration = latestConfiguration c.clusterId
    (state.persistent.log.take state.persistent.commitIndex)
  matched : state.role = .leader → ∀ p k, state.matchIndex p = some k → k ≤ a.stored p (a.term n)
  next : state.role = .leader → ∀ p k, state.nextIndex p = some k →
    k ≤ state.persistent.log.length + 1

/-! ## Facts about messages -/

/-- A candidate has asked for votes with the log it stands with. -/
structure VoteRequested (c : Cluster Id) (a : State Id LogEntry)
    (request : RequestVoteRequest Id) : Prop where
  clusterId : request.clusterId = c.clusterId
  stood : a.vote request.candidateId request.term = some request.candidateId
  lastLogIndex : request.lastLogIndex = (a.ballot request.candidateId request.term).length
  lastLogTerm : request.lastLogTerm =
    ((a.ballot request.candidateId request.term).getLast?.map (·.term)).getD 0

/-- A granted vote has been cast. -/
def Voted (a : State Id LogEntry) (n : Id) (request : RequestVoteRequest Id)
    (response : RequestVoteResponse) : Prop :=
  countsFor request (some response) → a.vote n request.term = some request.candidateId

/-- A leader has sent a part of its ledger, and said how much of it is chosen. -/
structure AppendRequested [DecidableEq Id] [Fintype Id] (c : Cluster Id) (a : State Id LogEntry)
    (request : AppendEntriesRequest Id) : Prop where
  clusterId : request.clusterId = c.clusterId
  led : a.leader request.term ≠ none
  le_length : request.prevLogIndex + request.entries.length ≤ (a.ledger request.term).length
  entries : (a.ledger request.term).take request.prevLogIndex ++ request.entries =
    (a.ledger request.term).take (request.prevLogIndex + request.entries.length)
  prevLogTerm : request.prevLogIndex ≠ 0 → ∃ e,
    (a.ledger request.term)[request.prevLogIndex - 1]? = some e ∧ e.term = request.prevLogTerm
  commit_le : request.leaderCommit ≤ request.prevLogIndex + request.entries.length
  commit : request.leaderCommit = 0 ∨ ∃ t k, t ≤ request.term ∧ (raft Id).Chosen a t k ∧
    request.leaderCommit ≤ k ∧ (a.ledger t).take request.leaderCommit <+: a.ledger request.term
  reached : ∃ m, request.leaderCommit ≤ a.commit m

/-- A successful append has been stored. -/
def Appended (a : State Id LogEntry) (n : Id) (request : AppendEntriesRequest Id)
    (response : AppendEntriesResponse) : Prop :=
  response.success →
    response.matchIndex = request.prevLogIndex + request.entries.length ∧
      response.matchIndex ≤ a.stored n request.term

/-- The entry the call has appended. -/
def PendingWrite.entry (write : PendingWrite) : LogEntry where
  index := write.entryIndex
  term := write.entryTerm
  command := .setRoutingConfiguration write.configuration write.writer

/-- The call has put its entry into the ledger of its term. -/
def Proposed (a : State Id LogEntry) (write : PendingWrite) : Prop :=
  (a.ledger write.entryTerm)[write.entryIndex - 1]? = some write.entry ∧ 0 < write.entryIndex

section Mono

variable {c : Cluster Id} {a a' : State Id LogEntry} (hext : a.Extends a')
include hext

lemma VoteRequested.mono {request : RequestVoteRequest Id} (h : VoteRequested c a request) :
    VoteRequested c a' request := by
  have hballot := hext.ballot _ _ h.stood
  refine ⟨h.clusterId, hext.vote _ _ _ h.stood, ?_, ?_⟩
  · rw [hballot, h.lastLogIndex]
  · rw [hballot, h.lastLogTerm]

lemma Voted.mono {n : Id} {request : RequestVoteRequest Id} {response : RequestVoteResponse}
    (h : Voted a n request response) : Voted a' n request response :=
  fun hcount => hext.vote _ _ _ (h hcount)

lemma AppendRequested.mono [DecidableEq Id] [Fintype Id] {request : AppendEntriesRequest Id}
    (h : AppendRequested c a request) : AppendRequested c a' request where
  clusterId := h.clusterId
  led := hext.leader_ne_none h.led
  le_length := h.le_length.trans (hext.ledger _).length_le
  entries := by
    have := h.le_length
    rw [hext.take_ledger h.le_length, hext.take_ledger (by omega), h.entries]
  prevLogTerm hne := by
    obtain ⟨e, he, hterm⟩ := h.prevLogTerm hne
    exact ⟨e, hext.getElem?_ledger he, hterm⟩
  commit_le := h.commit_le
  commit := by
    rcases h.commit with h0 | ⟨t, k, ht, hchosen, hle, hpre⟩
    · exact .inl h0
    · refine .inr ⟨t, k, ht, hchosen.mono hext, hle, ?_⟩
      rw [hext.take_ledger (hle.trans hchosen.1.le_length)]
      exact hpre.trans (hext.ledger _)
  reached := by
    obtain ⟨m, hm⟩ := h.reached
    exact ⟨m, hm.trans (hext.commit_le m)⟩

lemma Appended.mono {n : Id} {request : AppendEntriesRequest Id}
    {response : AppendEntriesResponse} (h : Appended a n request response) :
    Appended a' n request response := by
  intro hsuccess
  obtain ⟨hmatch, hle⟩ := h hsuccess
  exact ⟨hmatch, hle.trans (hext.stored_le _ _)⟩

lemma Proposed.mono {write : PendingWrite} (h : Proposed a write) : Proposed a' write :=
  ⟨hext.getElem?_ledger h.1, h.2⟩

/-- A node is tracked as before when others have moved. -/
theorem Tracks.frame {m : Id} {state : VolatileState Id} (h : Tracks c a m state)
    (hsame : a.SameAt a' m) : Tracks c a' m state where
  __ := h
  term := hsame.term.trans h.term
  vote := by rw [hsame.vote, h.vote]
  log := hsame.log.trans h.log
  commit := hsame.commit.trans h.commit
  standing := hsame.standing.trans h.standing
  matched hrole p k hk := by
    rw [hsame.term]
    exact (h.matched hrole p k hk).trans (hext.stored_le _ _)

end Mono

variable [DecidableEq Id] [Fintype Id]

/-! ## What holds of the registers -/

section Registers

variable {c : Cluster Id} {a : State Id LogEntry} {n : Id} {persistent : PersistentState Id}
  {state : VolatileState Id}

lemma indexed_of_sound (hinv : (raft Id).Inv a) {log : List LogEntry}
    (hsound : (raft Id).Sound a log) : Indexed 0 log := by
  intro i e he
  obtain ⟨hindex, hterm, -⟩ := hinv.fits hsound he
  exact ⟨by omega, hterm⟩

lemma Stores.wellFormed (h : Stores c a n persistent) (hinv : (raft Id).Inv a) :
    persistent.WellFormed c.clusterId where
  clusterId_eq := h.clusterId
  commitIndex_le := by
    rw [← h.commit, ← h.log]
    exact hinv.commit_le_length n
  indexed := by
    rw [← h.log]
    exact indexed_of_sound hinv (hinv.log_sound n)

lemma Stores.valid (h : Stores c a n persistent) (hinv : (raft Id).Inv a) :
    ∀ e ∈ persistent.log, ValidCommand e := by
  rw [← h.log]
  intro e he
  obtain ⟨i, hi⟩ := List.getElem?_of_mem he
  exact (hinv.fits (hinv.log_sound n) hi).2.2

omit [DecidableEq Id] [Fintype Id] in
lemma Cluster.clusterId_ok (c : Cluster Id) (n : Id) : validateClusterId c.clusterId = .ok () := by
  rw [← c.clusterId_eq n]
  exact (c.config n).clusterId_ok

/-- What a leader has stored of its own ledger is its log. -/
theorem Tracks.leads (h : Tracks c a n state) (hinv : (raft Id).Inv a)
    (hrole : state.role = .leader) :
    a.leader (a.term n) = some n ∧ a.log n = a.ledger (a.term n) ∧
      a.stored n (a.term n) = (a.log n).length :=
  hinv.leads n (by rw [h.standing, hrole]; rfl)

end Registers

/-! ## Sections as moves -/

/-- How the commit index of `n` may have moved: not at all, up as that of a leader in its
term, or up to what some node has known. -/
def Advanced (a a' : State Id LogEntry) (n : Id) : Prop :=
  a'.commit n = a.commit n ∨ (a.standing n = .leader ∧ a'.term n = a.term n) ∨
    ∃ m, a'.commit n ≤ a.commit m

/-- Moves after which `n` follows and has committed nothing new. -/
structure Quiet (a a' : State Id LogEntry) (n : Id) : Prop where
  moves : (raft Id).Moves n a a'
  commit : a'.commit n = a.commit n
  standing : a'.standing n = .follower

lemma Quiet.advanced {a a' a'' : State Id LogEntry} {n : Id} (h : Quiet a a' n)
    (hadv : Advanced a' a'' n) : Advanced a a'' n := by
  rcases hadv with heq | ⟨hleads, -⟩ | ⟨m, hle⟩
  · exact .inl (heq.trans h.commit)
  · rw [h.standing] at hleads
    exact absurd hleads (by simp)
  · refine .inr (.inr ⟨m, hle.trans_eq ?_⟩)
    rcases eq_or_ne m n with rfl | hne
    · exact h.commit
    · exact (h.moves.sameAt hne).commit

/-- A section of node `n`, run on a state whose registers are `persistent`, is some moves of
`n` from `a`: to every state it saves, and to the one it ends in. `post` is what is then true
of its result. -/
structure Refines (c : Cluster Id) (a : State Id LogEntry) (n : Id)
    (persistent : PersistentState Id) (outcome : Outcome Id α)
    (post : Except (RaftError Id) α → State Id LogEntry → Prop) : Prop where
  saves : ∀ saved ∈ outcome.saves,
    ∃ a', (raft Id).Moves n a a' ∧ Advanced a a' n ∧ Stores c a' n saved
  last : outcome.saves.getLast?.getD persistent = outcome.state.persistent
  ends : ∃ a', (raft Id).Moves n a a' ∧ Advanced a a' n ∧ Tracks c a' n outcome.state ∧
    post outcome.result a'

namespace Refines

variable {c : Cluster Id} {a a' : State Id LogEntry} {n : Id}
  {persistent : PersistentState Id} {state : VolatileState Id}
  {post : Except (RaftError Id) α → State Id LogEntry → Prop}

lemma done {value : α} (h : Tracks c a n state) (hpost : post (.ok value) a) :
    Refines c a n state.persistent (.done state value) post where
  saves := by simp [Outcome.done]
  last := rfl
  ends := ⟨a, .refl a, Or.inl rfl, h, hpost⟩

lemma fail {error : RaftError Id} (h : Tracks c a n state) (hpost : post (.error error) a) :
    Refines c a n state.persistent (.fail state error) post where
  saves := by simp [Outcome.fail]
  last := rfl
  ends := ⟨a, .refl a, Or.inl rfl, h, hpost⟩

lemma trans {outcome : Outcome Id α} (hquiet : Quiet a a' n)
    (h : Refines c a' n persistent outcome post) : Refines c a n persistent outcome post where
  saves saved hsaved := by
    obtain ⟨b, hb, hadv, hstores⟩ := h.saves saved hsaved
    exact ⟨b, hquiet.moves.trans hb, hquiet.advanced hadv, hstores⟩
  last := h.last
  ends := by
    obtain ⟨b, hb, hadv, hrest⟩ := h.ends
    exact ⟨b, hquiet.moves.trans hb, hquiet.advanced hadv, hrest⟩

/-- A save succeeds, and is one of the states on the way. -/
theorem persist {next : VolatileState Id → Outcome Id α} (hinv : (raft Id).Inv a')
    (hquiet : Quiet a a' n) (hstores : Stores c a' n state.persistent)
    (h : Refines c a' n state.persistent (next state) post) :
    Refines c a n persistent (persistLocked state next) post := by
  rw [persistLocked_eq (hstores.wellFormed hinv) (c.clusterId_ok n)]
  have h' := h.trans hquiet
  refine ⟨fun saved hsaved => ?_, ?_, h'.ends⟩
  · rcases mem_cons.mp hsaved with rfl | hrest
    · exact ⟨a', hquiet.moves, .inl hquiet.commit, hstores⟩
    · exact h'.saves saved hrest
  · simpa [List.getLast?_cons] using h.last

/-- A section that saves and is done. -/
theorem persistDone {value : VolatileState Id → α} (hinv : (raft Id).Inv a')
    (hmoves : (raft Id).Moves n a a') (hadv : Advanced a a' n) (h : Tracks c a' n state)
    (hpost : post (.ok (value state)) a') :
    Refines c a n persistent (persistLocked state fun state => .done state (value state))
      post := by
  rw [persistLocked_eq (h.wellFormed hinv) (c.clusterId_ok n)]
  refine ⟨fun saved hsaved => ?_, rfl, a', hmoves, hadv, h, hpost⟩
  obtain rfl : saved = state.persistent := by simpa [Outcome.done] using hsaved
  exact ⟨a', hmoves, hadv, h.toStores⟩

end Refines

/-! ## Single moves -/

section Moves

variable {c : Cluster Id} {a : State Id LogEntry} {n : Id} {state : VolatileState Id}

omit [Fintype Id] in
lemma Tracks.grant (h : Tracks c a n state) (m : Id) :
    Tracks c (a.grant n m) n
      { state with persistent := { state.persistent with votedFor := some m } } where
  __ := h
  vote := by simp [State.grant, h.term]

omit [Fintype Id] in
/-- A node that follows in its current term. -/
theorem Tracks.follow (h : Tracks c a n state) (leaderId : Option Id) :
    Tracks c (a.rest n) n { state with role := .follower, leaderId } where
  __ := h
  standing := by simp [State.rest, Role.standing]
  matched := by simp
  next := by simp

lemma Tracks.becomeFollower (h : Tracks c a n state) (hinv : (raft Id).Inv a) {term : ℕ}
    (later : state.persistent.currentTerm < term) (leaderId : Option Id) :
    Tracks c (a.advance n term) n (becomeFollower state term leaderId) where
  term := by simp [State.advance, ControlPlane.becomeFollower, later]
  vote := by
    have hnone : a.vote n term = none := by
      by_contra hne
      have := hinv.vote_term n term hne
      rw [h.term] at this
      omega
    simp [State.advance, ControlPlane.becomeFollower, later, hnone]
  log := by simp [State.advance, ControlPlane.becomeFollower, later, h.log]
  commit := by simp [State.advance, ControlPlane.becomeFollower, later, h.commit]
  clusterId := by simp [ControlPlane.becomeFollower, later, h.clusterId]
  standing := by simp [State.advance, ControlPlane.becomeFollower, Role.standing]
  healthy := h.healthy
  lastApplied := by simp [ControlPlane.becomeFollower, later, h.lastApplied]
  configuration := by simp [ControlPlane.becomeFollower, later, h.configuration]
  matched := by simp [ControlPlane.becomeFollower]
  next := by simp [ControlPlane.becomeFollower]

lemma Tracks.store (h : Tracks c a n state) (hinv : (raft Id).Inv a)
    (hrole : state.role = .follower) {k : ℕ} (hstep : (raft Id).Step n a (a.store n k)) :
    Tracks c (a.store n k) n { state with persistent := { state.persistent with
      log := overlay state.persistent.log ((a.ledger (a.term n)).take k) } } where
  __ := h
  log := by simp [State.store, h.log]
  standing := by simp [State.store, hrole, Role.standing]
  configuration := by
    have heq := hinv.committed_eq (hinv.step hstep).1 (hinv.step hstep).2 (n := n) rfl
    simp only [State.committed, State.store, Function.update_self] at heq
    rw [h.log, h.commit] at heq
    rw [h.configuration]
    simp only [heq]
  matched := by simp [hrole]
  next := by simp [hrole]

omit [Fintype Id] in
lemma Tracks.learn (h : Tracks c a n state) (k : ℕ) :
    Tracks c (a.learn n k) n { state with
      persistent := { state.persistent with commitIndex := k }
      lastApplied := k
      committedConfiguration :=
        latestConfiguration state.persistent.clusterId (state.persistent.log.take k) } where
  __ := h
  commit := by simp [State.learn]
  lastApplied := rfl
  configuration := by rw [h.clusterId]

/-- Learning a commit index: the committed configuration is applied and all is saved. -/
theorem Refines.commit {a' : State Id LogEntry} {persistent : PersistentState Id}
    {value : VolatileState Id → α}
    {post : Except (RaftError Id) α → State Id LogEntry → Prop} {k : ℕ}
    (hinv : (raft Id).Inv a') (hmoves : (raft Id).Moves n a a') (h : Tracks c a' n state)
    (hlearn : (raft Id).Step n a' (a'.learn n k)) (hadv : Advanced a (a'.learn n k) n)
    (hpost : post (.ok (value { state with
        persistent := { state.persistent with commitIndex := k }
        lastApplied := k
        committedConfiguration := latestConfiguration state.persistent.clusterId
          (state.persistent.log.take k) })) (a'.learn n k)) :
    Refines c a n persistent (applyCommittedLocked
      { state with persistent := { state.persistent with commitIndex := k } }
      fun state => persistLocked state fun state => .done state (value state)) post := by
  rw [applyCommittedLocked_eq]
  · exact .persistDone (hinv.step hlearn).1 (hmoves.trans hlearn.moves) hadv (h.learn k) hpost
  · exact fun e he => h.valid hinv e (take_subset _ _ he)

end Moves

/-! ## Votes -/

section Votes

variable {c : Cluster Id} {a : State Id LogEntry} {n : Id} {state : VolatileState Id}

omit [DecidableEq Id] [Fintype Id] in
lemma requireClusterIdentity_eq {clusterId : String} (h : clusterId = c.clusterId)
    (next : Outcome Id α) : requireClusterIdentity (c.config n) clusterId state next = next := by
  rw [requireClusterIdentity, if_pos (h.trans (c.clusterId_eq n).symm)]

omit [DecidableEq Id] [Fintype Id] in
lemma requireStorage_eq (h : state.storageError = none) (next : Outcome Id α) :
    requireStorage state next = next := by
  rw [requireStorage, h]

lemma castVote_refines (hinv : (raft Id).Inv a) (h : Tracks c a n state)
    {request : RequestVoteRequest Id} (hreq : VoteRequested c a request)
    (hterm : state.persistent.currentTerm = request.term) {persistent : PersistentState Id}
    {changed : Bool} (hsame : changed = false → persistent = state.persistent) :
    Refines c a n persistent (castVote changed request state)
      fun result a' => ∀ response, result = .ok response → Voted a' n request response := by
  unfold castVote
  rw [lastLogPosition_eq (h.wellFormed hinv).indexed]
  simp only
  generalize hgranted : ((state.persistent.votedFor == none ||
    state.persistent.votedFor == some request.candidateId) &&
    candidateLogIsAtLeastAsUpToDate _ _ _ _) = granted
  cases granted with
  | false =>
    have hnot : ∀ response, Except.ok { term := state.persistent.currentTerm, voteGranted := false }
        = (Except.ok response : Except (RaftError Id) _) → Voted a n request response := by
      intro response hresponse
      obtain rfl := ok.inj hresponse
      simp [Voted, countsFor]
    cases changed with
    | false =>
      rw [hsame rfl]
      exact .done h hnot
    | true =>
      rw [Bool.or_false, persistIf_true, if_neg (by simp)]
      exact .persistDone hinv (.refl a) (.inl rfl) h hnot
  | true =>
    -- the vote is cast and saved
    simp only [Bool.and_eq_true, Bool.or_eq_true, beq_iff_eq,
      candidateLogIsAtLeastAsUpToDate_iff] at hgranted
    obtain ⟨hfree, hcurrent⟩ := hgranted
    have hn : a.term n = request.term := h.term.trans hterm
    have hstep : (raft Id).Step n a (a.grant n request.candidateId) := by
      refine .grant a request.candidateId ?_ ?_ ?_
      · rw [hn, ← hterm, h.vote]
        exact hfree
      · rw [hn]
        exact hreq.stood
      · rw [hn]
        rw [hreq.lastLogIndex, hreq.lastLogTerm, ← h.log] at hcurrent
        exact hcurrent
    have htracks := h.grant request.candidateId
    rw [Bool.or_true, persistIf_true, if_pos rfl]
    refine .persistDone (hinv.step hstep).1 hstep.moves (.inl rfl) htracks ?_
    intro response _ _
    simp [State.grant, hn]

lemma handleRequestVote_refines (hinv : (raft Id).Inv a) (h : Tracks c a n state)
    {request : RequestVoteRequest Id} (hreq : VoteRequested c a request) :
    Refines c a n state.persistent (handleRequestVote (c.config n) request state)
      fun result a' => ∀ response, result = .ok response → Voted a' n request response := by
  unfold handleRequestVote
  rw [requireClusterIdentity_eq hreq.clusterId, requireStorage_eq h.healthy]
  simp only
  by_cases hnewer : request.term > state.persistent.currentTerm
  · -- a new term: the node follows in it, and may vote
    have hstep : (raft Id).Step n a (a.advance n request.term) :=
      .advance a request.term (by rw [h.term]; exact hnewer)
    have hext := (hinv.step hstep).2
    have hterm : (becomeFollower state request.term none).persistent.currentTerm =
        request.term := by
      simp [becomeFollower, hnewer]
    rw [decide_eq_true hnewer, if_pos rfl, if_neg (by omega)]
    exact .trans ⟨hstep.moves, rfl, by simp [State.advance]⟩ (castVote_refines (hinv.step hstep).1
      (h.becomeFollower hinv hnewer none) (hreq.mono hext) hterm (by simp))
  · rw [decide_eq_false hnewer]
    simp only [Bool.false_eq_true, if_false]
    split_ifs with hstale
    · refine .done h ?_
      intro response hresponse
      obtain rfl := ok.inj hresponse
      simp [Voted, countsFor]
    · exact castVote_refines hinv h hreq (by omega) fun _ => rfl

end Votes

/-! ## Entries -/

section Entries

variable {c : Cluster Id} {a : State Id LogEntry} {n : Id} {state : VolatileState Id}
  {request : AppendEntriesRequest Id}

/-- The check on the previous entry makes the logs agree up to it. -/
theorem AppendRequested.take_prev (hinv : (raft Id).Inv a) (h : Tracks c a n state)
    (hreq : AppendRequested c a request)
    (hprev : previousMatches state.persistent request.prevLogIndex request.prevLogTerm = true) :
    request.prevLogIndex ≤ state.persistent.log.length ∧
      state.persistent.log.take request.prevLogIndex =
        (a.ledger request.term).take request.prevLogIndex := by
  rw [previousMatches_iff] at hprev
  split_ifs at hprev with hzero
  · simp [hzero]
  · obtain ⟨e, he, hterm⟩ := hprev
    obtain ⟨e', he', hterm'⟩ := hreq.prevLogTerm hzero
    obtain ⟨hlt, -⟩ := List.getElem?_eq_some_iff.mp he
    refine ⟨by omega, ?_⟩
    have hsound : (raft Id).Sound a state.persistent.log := h.log ▸ hinv.log_sound n
    have := hsound.take_eq_take (hinv.ledger_sound _) he he' (hterm.trans hterm'.symm)
    rwa [Nat.sub_add_cancel (by omega)] at this

lemma acceptEntries_refines (hinv : (raft Id).Inv a) (h : Tracks c a n state)
    (hrole : state.role = .follower) (hreq : AppendRequested c a request)
    (hterm : state.persistent.currentTerm = request.term) :
    Refines c a n state.persistent (acceptEntries request state)
      fun result a' => ∀ response, result = .ok response → Appended a' n request response := by
  have hn : a.term n = request.term := h.term.trans hterm
  unfold acceptEntries
  split_ifs with hprev
  · refine .done h ?_
    intro response hresponse
    obtain rfl := ok.inj hresponse
    simp [Appended]
  simp only [Bool.not_eq_true, Bool.not_eq_false'] at hprev
  split
  · exact .fail h (by simp)
  split
  · exact .fail h (by simp)
  rename_i log changed hmerge
  obtain ⟨hle, htake⟩ := hreq.take_prev hinv h hprev
  obtain ⟨hlog, hunchanged⟩ := mergeEntries_eq hle hmerge
  -- the new log is laid over by what the leader sent of its ledger
  set k := request.prevLogIndex + request.entries.length with hk
  rw [htake, hreq.entries, ← hn] at hlog
  have hstep : (raft Id).Step n a (a.store n k) := by
    refine .store a k ?_ ?_
    · rw [hn]
      exact hreq.led
    · rw [hn]
      exact hreq.le_length
  obtain ⟨hinv', hext⟩ := hinv.step hstep
  have htracks := h.store hinv hrole hstep
  rw [← hlog] at htracks
  have hstored : k ≤ (a.store n k).stored n request.term := by
    simp [State.store, ← hn]
  have hpost : ∀ b : State Id LogEntry, (a.store n k).stored n request.term ≤
      b.stored n request.term → ∀ response, (Except.ok
        { term := state.persistent.currentTerm, success := true, matchIndex := k } :
        Except (RaftError Id) AppendEntriesResponse) = .ok response →
      Appended b n request response := by
    intro b hb response hresponse
    obtain rfl := ok.inj hresponse
    exact fun _ => ⟨rfl, hstored.trans hb⟩
  simp only
  split_ifs with hcommit
  · -- the commit index moves up to what the leader has committed
    have hlong : k ≤ log.length := by
      have := length_le_overlay state.persistent.log ((a.ledger (a.term n)).take k)
      rw [← hlog, length_take, hn] at this
      have := hreq.le_length
      omega
    have hmin : min request.leaderCommit log.length = request.leaderCommit := by
      have := hreq.commit_le
      omega
    rw [hmin] at hcommit ⊢
    have hlearn : (raft Id).Step n (a.store n k) ((a.store n k).learn n request.leaderCommit) := by
      rcases (hreq.mono hext).commit with h0 | ⟨t, j, ht, hchosen, hle', hpre⟩
      · omega
      · refine .learn _ _ t j ?_ ?_ hchosen hle' ?_
        · rw [htracks.commit]
          exact hcommit.le
        · rw [htracks.term]
          exact ht.trans_eq hterm.symm
        · rw [htracks.log, hlog]
          refine List.IsPrefix.trans (prefix_take_iff.mpr ⟨?_, ?_⟩) (prefix_overlay _ _)
          · rw [hn]
            exact hpre
          · exact (length_take_le _ _).trans hreq.commit_le
    refine .commit hinv' hstep.moves htracks hlearn (.inr (.inr ?_)) (hpost _ le_rfl)
    obtain ⟨m, hm⟩ := hreq.reached
    exact ⟨m, by simpa [State.learn] using hm⟩
  · cases changed with
    | true =>
      rw [persistIf_true]
      exact .persistDone hinv' hstep.moves (.inl rfl) htracks (hpost _ le_rfl)
    | false =>
      obtain rfl := hunchanged rfl
      exact .trans ⟨hstep.moves, rfl, by simp [State.store]⟩ (.done htracks (hpost _ le_rfl))

lemma handleAppendEntries_refines (hinv : (raft Id).Inv a) (h : Tracks c a n state)
    (hreq : AppendRequested c a request) :
    Refines c a n state.persistent (handleAppendEntries (c.config n) request state)
      fun result a' => ∀ response, result = .ok response → Appended a' n request response := by
  unfold handleAppendEntries
  rw [requireClusterIdentity_eq hreq.clusterId, requireStorage_eq h.healthy]
  split_ifs with hstale
  · refine .done h ?_
    intro response hresponse
    obtain rfl := ok.inj hresponse
    simp [Appended]
  simp only
  by_cases hnewer : request.term > state.persistent.currentTerm
  · -- a new term is saved first
    have hstep : (raft Id).Step n a (a.advance n request.term) :=
      .advance a request.term (by rw [h.term]; exact hnewer)
    obtain ⟨hinv', hext⟩ := hinv.step hstep
    have htracks := h.becomeFollower hinv hnewer (some request.leaderId)
    rw [decide_eq_true hnewer, if_pos rfl, persistIf_true]
    refine .persist hinv' ⟨hstep.moves, rfl, by simp [State.advance]⟩ htracks.toStores ?_
    exact acceptEntries_refines hinv' htracks rfl (hreq.mono hext)
      (by simp [becomeFollower, hnewer])
  · have hstep : (raft Id).Step n a (a.rest n) := .rest a
    obtain ⟨hinv', hext⟩ := hinv.step hstep
    rw [decide_eq_false hnewer, if_neg (by simp), persistIf_false]
    exact .trans ⟨hstep.moves, rfl, by simp [State.rest]⟩ (acceptEntries_refines hinv'
      (h.follow (some request.leaderId)) rfl (hreq.mono hext) (by simp only; omega))

end Entries

end InferLab.ControlPlane
