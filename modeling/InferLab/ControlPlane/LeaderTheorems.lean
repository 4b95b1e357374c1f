import InferLab.ControlPlane.Handlers
import InferLab.ControlPlane.SectionTheorems

/-!
# Campaigning, leading and reopening refine the protocol

The sections a node runs on its own account: the two ends of a campaign and of a replication
round, the append of a client write, and opening a node on what its file holds. Votes and
match indexes are counted against the cluster's majority here.
-/

namespace InferLab.ControlPlane

open Consensus List

variable {Id : Type} [DecidableEq Id] [Fintype Id] {c : Cluster Id} {a : State Id LogEntry}
  {n : Id} {state : VolatileState Id}

/-! ## Quorums -/

omit [DecidableEq Id] in
lemma Cluster.card_eq (c : Cluster Id) (n : Id) : Fintype.card Id = (c.config n).clusterSize := by
  classical
  have hnodup := (c.config n).nodup
  have huniv : (n :: (c.config n).peers).toFinset = Finset.univ := by
    ext p
    by_cases hp : p = n <;> simp [hp, c.mem_peers]
  rw [c.nodeId_eq] at hnodup
  rw [← Finset.card_univ, ← huniv, toFinset_card_of_nodup hnodup]
  rfl

/-- Distinct nodes, a majority of the cluster, are a quorum. -/
theorem isQuorum_of_list (c : Cluster Id) (n : Id) {l : List Id} (hnodup : l.Nodup)
    (hmajority : (c.config n).majority ≤ l.length) : (raft Id).IsQuorum l.toFinset := by
  change Fintype.card Id / 2 + 1 ≤ l.toFinset.card
  rw [toFinset_card_of_nodup hnodup, c.card_eq n]
  exact hmajority

omit [Fintype Id] [DecidableEq Id] in
/-- A node and some of its peers, each once. -/
theorem Cluster.nodup_cons (c : Cluster Id) (n : Id) {l : List Id}
    (hl : l.Sublist (c.config n).peers) : (n :: l).Nodup := by
  have hnodup := (c.config n).nodup
  rw [c.nodeId_eq] at hnodup
  exact hnodup.sublist (hl.cons_cons n)

/-! ## Campaigns -/

omit [Fintype Id] in
lemma Tracks.stand (h : Tracks c a n state) :
    Tracks c (a.stand n (state.persistent.currentTerm + 1)) n { state with
      role := .candidate
      leaderId := none
      persistent := { state.persistent with
        currentTerm := state.persistent.currentTerm + 1
        votedFor := some n } } where
  __ := h
  term := by simp [State.stand]
  vote := by simp [State.stand]
  standing := by simp [State.stand, Role.standing]
  matched := by simp
  next := by simp

lemma campaignStart_refines (hinv : (raft Id).Inv a) (h : Tracks c a n state)
    (hbound : state.persistent.currentTerm < u64Max) :
    Refines c a n state.persistent (campaignStart (c.config n) state)
      fun result a' => ∀ request, result = .ok (some request) →
        request.candidateId = n ∧ VoteRequested c a' request := by
  unfold campaignStart
  split_ifs with hrole
  · exact .done h (by simp)
  rw [requireStorage_eq h.healthy]
  simp only [Nat.min_eq_left (Nat.succ_le_of_lt hbound), c.nodeId_eq]
  have hstep : (raft Id).Step n a (a.stand n (state.persistent.currentTerm + 1)) :=
    .stand a _ (by rw [h.term]; omega)
  have htracks := h.stand
  refine .persistDone (hinv.step hstep).1 hstep.moves (.inl rfl) htracks ?_
  intro request hrequest
  obtain rfl := Option.some.inj (Except.ok.inj hrequest)
  have hposition := lastLogPosition_eq (htracks.wellFormed (hinv.step hstep).1).indexed
  have hballot : (a.stand n (state.persistent.currentTerm + 1)).ballot n
      (state.persistent.currentTerm + 1) = state.persistent.log := by
    simp [State.stand, h.log]
  refine ⟨rfl, c.clusterId_eq n, by simp [State.stand], ?_, ?_⟩
  · simp only [hposition, hballot]
  · simp only [hposition, hballot]

/-- A majority of counted responses and the candidate's own vote are a quorum of votes. -/
theorem exists_quorum_of_tally {request : RequestVoteRequest Id}
    (hself : a.vote n request.term = some n) (hcandidate : request.candidateId = n)
    {responses : List (Id × Option RequestVoteResponse)}
    (hpeers : responses.map Prod.fst = (c.config n).peers)
    (hvoted : ∀ answer ∈ responses, ∀ response ∈ answer.2, Voted a answer.1 request response)
    (hmajority : (c.config n).majority ≤ (tallyVotes request responses).1) :
    ∃ Q, (raft Id).IsQuorum Q ∧ ∀ q ∈ Q, a.vote q request.term = some n := by
  set granted := responses.filter fun answer => countsFor request answer.2 with hgranted
  have hsub : (granted.map Prod.fst).Sublist (c.config n).peers := by
    rw [← hpeers]
    exact filter_sublist.map Prod.fst
  refine ⟨_, isQuorum_of_list c n (c.nodup_cons n hsub) ?_, ?_⟩
  · rw [tallyVotes_votes, ← hgranted] at hmajority
    simp only [length_cons, length_map]
    omega
  · intro q hq
    rcases mem_cons.mp (mem_toFinset.mp hq) with rfl | hq
    · exact hself
    · obtain ⟨answer, hanswer, rfl⟩ := mem_map.mp hq
      obtain ⟨hmem, hcounts⟩ := mem_filter.mp hanswer
      cases hresponse : answer.2 with
      | none => simp [countsFor, hresponse] at hcounts
      | some response =>
        rw [hresponse] at hcounts
        rw [hvoted answer hmem response hresponse hcounts, hcandidate]

omit [Fintype Id] in
lemma Tracks.win (h : Tracks c a n state) :
    Tracks c (a.win n) n { state with
      role := .leader
      leaderId := some n
      nextIndex := fun _ => none
      matchIndex := fun peer => if peer ∈ (c.config n).peers then some 0 else none } where
  __ := h
  standing := by simp [State.win, Role.standing]
  matched _ p k hk := by
    simp only at hk
    split_ifs at hk
    simp only [Option.some.injEq] at hk
    omega
  next := by simp

/-- The leader adds an entry, and may set what it will send next. -/
theorem Tracks.propose (h : Tracks c a n state) (hinv : (raft Id).Inv a)
    (hrole : state.role = .leader) (entry : LogEntry) (nextIndex : Id → Option ℕ)
    (hnext : ∀ p k, nextIndex p = some k → k ≤ state.persistent.log.length + 2) :
    Tracks c (a.propose n entry) n { state with
      persistent := { state.persistent with log := state.persistent.log ++ [entry] }
      nextIndex
      matchIndex := Function.update state.matchIndex n
        (some (state.persistent.log.length + 1)) } where
  __ := h
  log := by simp [State.propose, h.log]
  configuration := by
    rw [h.configuration]
    simp only
    rw [take_append_of_le_length (h.wellFormed hinv).commitIndex_le]
  matched _ p k hk := by
    rcases eq_or_ne p n with rfl | hne
    · obtain rfl : state.persistent.log.length + 1 = k := by simpa using hk
      simp [State.propose, h.log]
    · simp only [Function.update_of_ne hne] at hk
      simpa [State.propose, hne] using h.matched hrole p k hk
  next _ p k hk := by
    have := hnext p k hk
    simp
    omega

section

variable (hinv : (raft Id).Inv a)
include hinv

lemma campaignEnd_refines (h : Tracks c a n state) {request : RequestVoteRequest Id}
    (hreq : VoteRequested c a request) (hcandidate : request.candidateId = n)
    {responses : List (Id × Option RequestVoteResponse)}
    (hpeers : responses.map Prod.fst = (c.config n).peers)
    (hvoted : ∀ answer ∈ responses, ∀ response ∈ answer.2, Voted a answer.1 request response) :
    Refines c a n state.persistent (campaignEnd (c.config n) request responses state)
      fun _ _ => True := by
  unfold campaignEnd
  simp only
  split_ifs with hhigher hwon
  · have hstep : (raft Id).Step n a (a.advance n (tallyVotes request responses).2) :=
      .advance a _ (by rw [h.term]; exact hhigher)
    have htracks := h.becomeFollower hinv hhigher none
    exact .persistDone (hinv.step hstep).1 hstep.moves (.inl rfl) htracks trivial
  · obtain ⟨hrole, hterm, hmajority⟩ := hwon
    have hself : a.vote n request.term = some n := by
      rw [← hcandidate]
      exact hreq.stood
    obtain ⟨Q, hQ, hvotes⟩ := exists_quorum_of_tally hself hcandidate hpeers hvoted hmajority
    have hn : a.term n = request.term := h.term.trans hterm
    have hwin : (raft Id).Step n a (a.win n) := by
      refine .win a Q (by rw [h.standing, hrole]; rfl) hQ ?_
      rw [hn]
      exact hvotes
    obtain ⟨hinv', -⟩ := hinv.step hwin
    -- the new leader opens its term with an empty command
    have hpropose : (raft Id).Step n (a.win n) ((a.win n).propose n
        { index := state.persistent.log.length + 1
          term := state.persistent.currentTerm
          command := .noop }) := by
      refine .propose _ _ (by simp [State.win]) h.term.symm ⟨?_, ?_, ?_⟩
      · simp [State.win, h.log]
      · have := hinv'.leader_pos (t := a.term n) (by simp [State.win])
        rw [h.term] at this
        exact this.ne'
      · intro configuration writer hcommand
        simp at hcommand
    have htracks := h.win.propose hinv' rfl
      { index := state.persistent.log.length + 1
        term := state.persistent.currentTerm
        command := .noop }
      (fun peer => if peer ∈ (c.config n).peers then
        some (state.persistent.log.length + 1 + 1) else none) (by
        intro p k hk
        split_ifs at hk
        simp only [Option.some.injEq] at hk
        simp only
        omega)
    simp only [c.nodeId_eq]
    exact .persistDone (hinv'.step hpropose).1 (hwin.moves.trans hpropose.moves) (.inl rfl)
      htracks trivial
  · exact .done h trivial

/-! ## Replication -/

lemma appendEntriesFor_requested (h : Tracks c a n state) (hrole : state.role = .leader)
    (peer : Id) : AppendRequested c a (appendEntriesFor (c.config n) state peer) := by
  obtain ⟨hled, hlog, -⟩ := h.leads hinv hrole
  rw [h.term] at hled hlog
  have hnext : (state.nextIndex peer).getD (state.persistent.log.length + 1) ≤
      state.persistent.log.length + 1 := by
    cases hget : state.nextIndex peer with
    | none => simp
    | some k => exact h.next hrole peer k hget
  have hledger : a.ledger state.persistent.currentTerm = state.persistent.log := by
    rw [← hlog, h.log]
  unfold appendEntriesFor
  generalize (state.nextIndex peer).getD (state.persistent.log.length + 1) = next at hnext
  have hprev : next - 1 ≤ state.persistent.log.length := by omega
  have hsum : next - 1 + (state.persistent.log.length - (next - 1)) =
      state.persistent.log.length := by omega
  simp only [Nat.min_eq_left hprev]
  refine
    { clusterId := c.clusterId_eq n
      led := by simp [hled]
      le_length := by simp [hledger, hsum]
      entries := by simp [hledger, hsum]
      prevLogTerm := fun hne => ?_
      commit_le := ?_
      commit := ?_
      reached := ⟨n, h.commit.ge⟩ }
  · obtain ⟨e, he⟩ : ∃ e, state.persistent.log[next - 1 - 1]? = some e :=
      ⟨_, List.getElem?_eq_getElem (by simp only at hne; omega)⟩
    refine ⟨e, by rw [hledger, he], ?_⟩
    rw [(logTerm_eq_some hne).mpr ⟨e, he, rfl⟩]
    rfl
  · simp only [length_drop, hsum]
    exact (h.wellFormed hinv).commitIndex_le
  · rcases hinv.commit_known n with h0 | ⟨t, k, ht, hchosen, hle, hpre⟩
    · exact .inl (h.commit ▸ h0)
    · rw [h.commit] at hle hpre
      exact .inr ⟨t, k, h.term ▸ ht, hchosen, hle, hlog ▸ hpre⟩

lemma replicateStart_refines (h : Tracks c a n state) :
    Refines c a n state.persistent (replicateStart (c.config n) state)
      fun result a' => ∀ round, result = .ok (some round) →
        ∀ sent ∈ round.2, sent.2.term = round.1 ∧ AppendRequested c a' sent.2 := by
  unfold replicateStart
  rw [requireStorage_eq h.healthy]
  split_ifs with hrole
  · exact .done h (by simp)
  · refine .done h ?_
    intro round hround sent hsent
    obtain rfl := Option.some.inj (Except.ok.inj hround)
    obtain ⟨peer, -, rfl⟩ := mem_map.mp hsent
    exact ⟨rfl, appendEntriesFor_requested hinv h (by simpa using hrole) peer⟩

/-- What the leader records of the responses: only its two tables change. -/
theorem recordResponses_tracks (h : Tracks c a n state) (hrole : state.role = .leader)
    {responses : List (Id × Option AppendEntriesResponse)}
    (hstored : ∀ answer ∈ responses, ∀ response ∈ answer.2, response.success →
      response.matchIndex ≤ a.stored answer.1 (a.term n)) :
    Tracks c a n (recordResponses state responses).1 ∧
      (recordResponses state responses).1.persistent = state.persistent ∧
      (recordResponses state responses).1.role = .leader ∧
      ∀ term ∈ (recordResponses state responses).2, state.persistent.currentTerm < term := by
  induction responses generalizing state with
  | nil => exact ⟨h, rfl, hrole, by simp [recordResponses]⟩
  | cons answer rest ih =>
    have hrest : ∀ answer ∈ rest, ∀ response ∈ answer.2, response.success →
        response.matchIndex ≤ a.stored answer.1 (a.term n) :=
      fun answer hanswer => hstored answer (mem_cons_of_mem _ hanswer)
    obtain ⟨peer, _ | response⟩ := answer
    · exact ih h hrole hrest
    · rw [recordResponses]
      split_ifs with hhigher hsuccess
      · exact ⟨h, rfl, hrole, by simpa using hhigher⟩
      · have hle := hstored _ mem_cons_self response rfl hsuccess
        have hlen : response.matchIndex ≤ state.persistent.log.length := by
          obtain ⟨-, hlog, -⟩ := h.leads hinv hrole
          rw [← h.log, hlog]
          exact hle.trans (hinv.stored_le _ _)
        refine ih ?_ hrole hrest
        refine { h with matched := fun _ p k hk => ?_, next := fun _ p k hk => ?_ }
        · rcases eq_or_ne p peer with rfl | hne
          · obtain rfl : response.matchIndex = k := by simpa using hk
            exact hle
          · exact h.matched hrole p k (by simpa [hne] using hk)
        · rcases eq_or_ne p peer with rfl | hne
          · obtain rfl : response.matchIndex + 1 = k := by simpa using hk
            exact Nat.succ_le_succ hlen
          · exact h.next hrole p k (by simpa [hne] using hk)
      · refine ih ?_ hrole hrest
        refine { h with next := fun _ p k hk => ?_ }
        rcases eq_or_ne p peer with rfl | hne
        · have hk' : max ((state.nextIndex p).getD 1 - 1) 1 = k := by simpa using hk
          cases hget : state.nextIndex p with
          | none =>
            simp only [hget, Option.getD_none] at hk'
            omega
          | some next =>
            have := h.next hrole p next hget
            simp only [hget, Option.getD_some] at hk'
            simp only
            omega
        · exact h.next hrole p k (by simpa [hne] using hk)

/-- A majority of match indexes at `index` is a quorum that has stored that much. -/
theorem exists_quorum_of_matchIndexes (h : Tracks c a n state) (hrole : state.role = .leader)
    {index : ℕ} (hpos : 0 < index)
    (hmajority : (c.config n).majority ≤ ((state.persistent.log.length ::
      (c.config n).peers.map fun peer => (state.matchIndex peer).getD 0).filter
        (· ≥ index)).length) :
    ∃ Q, (raft Id).IsQuorum Q ∧ ∀ q ∈ Q, index ≤ a.stored q (a.term n) := by
  obtain ⟨-, hlog, hown⟩ := h.leads hinv hrole
  set stored := (c.config n).peers.filter fun peer => (state.matchIndex peer).getD 0 ≥ index
    with hstored
  have hpeer : ∀ q ∈ stored, index ≤ a.stored q (a.term n) := by
    intro q hq
    have hq' := (mem_filter.mp hq).2
    simp only [decide_eq_true_eq] at hq'
    cases hget : state.matchIndex q with
    | none =>
      simp only [hget, Option.getD_none] at hq'
      omega
    | some k =>
      simp only [hget, Option.getD_some] at hq'
      exact hq'.trans (h.matched hrole q k hget)
  have hsub : stored.Sublist (c.config n).peers := filter_sublist
  have hcount : (((c.config n).peers.map fun peer => (state.matchIndex peer).getD 0).filter
      (· ≥ index)).length = stored.length := by
    rw [filter_map, length_map]
    rfl
  rw [filter_cons] at hmajority
  split_ifs at hmajority with hself
  · refine ⟨_, isQuorum_of_list c n (c.nodup_cons n hsub) (by simpa [hcount] using hmajority), ?_⟩
    intro q hq
    rcases mem_cons.mp (mem_toFinset.mp hq) with rfl | hq
    · rw [hown, h.log]
      simpa using hself
    · exact hpeer q hq
  · refine ⟨_, isQuorum_of_list c n (c.nodup_cons n hsub).of_cons (by rwa [hcount] at hmajority),
      ?_⟩
    exact fun q hq => hpeer q (mem_toFinset.mp hq)

lemma commitReplicated_refines (h : Tracks c a n state) (hrole : state.role = .leader) :
    Refines c a n state.persistent (commitReplicated (c.config n) state) fun _ _ => True := by
  unfold commitReplicated
  simp only
  split
  · rename_i candidate hcandidate
    obtain ⟨hlt, -, ⟨e, he, hterm⟩, hmajority⟩ := highestCommittableIndex_eq_some hcandidate
    obtain ⟨hled, hlog, -⟩ := h.leads hinv hrole
    rw [if_pos hlt]
    -- a quorum has stored the leader's ledger up to an entry of its own term
    have hchosen : (raft Id).Chosen a (a.term n) candidate := by
      refine ⟨⟨by omega, e, ?_, ?_⟩, ?_⟩
      · rw [← hlog, h.log, he]
      · rw [h.term]
        exact hterm
      · exact exists_quorum_of_matchIndexes hinv h hrole (by omega) hmajority
    have hlearn : (raft Id).Step n a (a.learn n candidate) := by
      refine .learn a candidate (a.term n) candidate ?_ le_rfl hchosen le_rfl ?_
      · rw [h.commit]
        omega
      · rw [← hlog]
        exact take_prefix _ _
    refine .commit hinv (.refl a) h hlearn (.inr (.inl ⟨?_, rfl⟩)) trivial
    rw [h.standing, hrole]
    rfl
  · exact .done h trivial

lemma replicateEnd_refines (h : Tracks c a n state) {term : ℕ}
    {responses : List (Id × Option AppendEntriesResponse)}
    (hstored : ∀ answer ∈ responses, ∀ response ∈ answer.2, response.success →
      response.matchIndex ≤ a.stored answer.1 term) :
    Refines c a n state.persistent (replicateEnd (c.config n) term responses state)
      fun _ _ => True := by
  unfold replicateEnd
  split_ifs with hleft
  · exact .done h trivial
  simp only [ne_eq, not_or, not_not] at hleft
  obtain ⟨hrole, hterm⟩ := hleft
  rw [← hterm, ← h.term] at hstored
  obtain ⟨htracks, hpersistent, hrole', hhigher⟩ := recordResponses_tracks hinv h hrole hstored
  generalize recordResponses state responses = recorded at htracks hpersistent hrole' hhigher
  obtain ⟨state', _ | higher⟩ := recorded
  · rw [← hpersistent]
    exact commitReplicated_refines hinv htracks hrole'
  · have hlt : state'.persistent.currentTerm < higher := by
      rw [hpersistent]
      exact hhigher higher rfl
    have hstep : (raft Id).Step n a (a.advance n higher) :=
      .advance a higher (by rw [htracks.term]; exact hlt)
    exact .persistDone (hinv.step hstep).1 hstep.moves (.inl rfl)
      (htracks.becomeFollower hinv hlt none) trivial

/-! ## Client writes -/

lemma writeConfigurationWithFence_refines (h : Tracks c a n state)
    (configuration : RoutingConfiguration) (expectedRevision : Option ℕ)
    (writer : Option CommittedWriteProvenance) :
    Refines c a n state.persistent (writeConfigurationWithFence (c.config n) configuration
      expectedRevision writer state)
      fun result a' => ∀ pending, result = .ok pending → Proposed a' pending := by
  unfold writeConfigurationWithFence
  split
  · exact .fail h (by simp)
  rename_i hvalid
  rw [requireStorage_eq h.healthy]
  split_ifs with hrole
  · exact .fail h (by simp)
  simp only [ne_eq, not_not] at hrole
  simp only
  split
  · exact .fail h (by simp)
  obtain ⟨hled, hlog, -⟩ := h.leads hinv hrole
  set entry : LogEntry :=
    { index := state.persistent.log.length + 1
      term := state.persistent.currentTerm
      command := .setRoutingConfiguration configuration writer } with hentry
  have hstep : (raft Id).Step n a (a.propose n entry) := by
    refine .propose a entry (by rw [h.standing, hrole]; rfl) h.term.symm ⟨?_, ?_, ?_⟩
    · rw [h.log]
    · have := hinv.leader_pos (t := a.term n) (by simp [hled])
      rw [h.term] at this
      exact this.ne'
    · intro configuration' writer' hcommand
      simp only [hentry, Command.setRoutingConfiguration.injEq] at hcommand
      rw [← hcommand.1]
      exact hvalid
  have htracks := h.propose hinv hrole entry state.nextIndex fun p k hk =>
    (h.next hrole p k hk).trans (Nat.le_succ _)
  simp only [c.nodeId_eq]
  refine .persistDone (hinv.step hstep).1 hstep.moves (.inl rfl) htracks ?_
  intro pending hpending
  obtain rfl := Except.ok.inj hpending
  refine ⟨?_, Nat.succ_pos _⟩
  simp [State.propose, PendingWrite.entry, ← h.term, h.log, hentry]

end

lemma pollWrite_refines (h : Tracks c a n state) (write : PendingWrite) :
    Refines c a n state.persistent (pollWrite write state) fun _ _ => True := by
  obtain ⟨hstate, hsaves⟩ := pollWrite_state write state
  refine ⟨by simp [hsaves], by simp [hsaves, hstate], a, .refl a, .inl rfl, ?_, trivial⟩
  rwa [hstate]

/-! ## Opening a node -/

/-- A node opens on what it has saved, and then follows. -/
theorem openNode_eq (hinv : (raft Id).Inv a) {persistent : PersistentState Id}
    (h : Stores c a n persistent) :
    ∃ state, openNode (c.config n) persistent = .ok (state, persistent) ∧
      Tracks c (a.rest n) n state ∧ state.persistent = persistent := by
  refine ⟨_, openNode_wellFormed (c.clusterId_eq n ▸ h.wellFormed hinv) fun e he =>
    h.valid hinv e (take_subset _ _ he), ?_, rfl⟩
  exact
    { h with
      standing := by simp [State.rest, openedState, Role.standing]
      healthy := rfl
      lastApplied := rfl
      configuration := by
        rw [← h.clusterId]
        rfl
      matched := by simp [openedState]
      next := by simp [openedState] }

end InferLab.ControlPlane
