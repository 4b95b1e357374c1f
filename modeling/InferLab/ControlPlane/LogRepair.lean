import InferLab.ControlPlane.Durability

/-!
# A new leader repairs the log of a peer

The exchanges of a new leader with one peer, when every request and every reply arrives and
nothing else happens. Each exchange that fails moves the previous entry back by one, and the
first one that succeeds replaces what the peer holds: the leader's own first entry is at the
end of its log, and no other log has an entry of that term yet.
-/

namespace InferLab.ControlPlane

open Consensus List Option

variable {Id : Type} [DecidableEq Id]

/-! ## Exchanges -/

/-- One round of the leader `n` in which only the peer `p` is reached: the two nodes after it,
or the error of whichever of them fails. -/
def exchange (c : Cluster Id) (n p : Id) (leader peer : VolatileState Id) :
    Except (RaftError Id) (VolatileState Id × VolatileState Id) :=
  match (replicateStart (c.config n) leader).result with
  | .error error => .error error
  | .ok none => .ok (leader, peer)
  | .ok (some round) =>
    let answer := handleAppendEntries (c.config p) (appendEntriesFor (c.config n) leader p) peer
    match answer.result with
    | .error error => .error error
    | .ok response =>
      let ended := replicateEnd (c.config n) round.1
        ((c.config n).peers.map fun q => (q, if q = p then some response else none)) leader
      match ended.result with
      | .error error => .error error
      | .ok () => .ok (ended.state, answer.state)

/-- A number of exchanges one after the other, up to the first error. -/
def exchanges (c : Cluster Id) (n p : Id) :
    ℕ → VolatileState Id → VolatileState Id →
      Except (RaftError Id) (VolatileState Id × VolatileState Id)
  | 0, leader, peer => .ok (leader, peer)
  | k + 1, leader, peer =>
    match exchange c n p leader peer with
    | .error error => .error error
    | .ok after => exchanges c n p k after.1 after.2

/-! ## What the peer does -/

section Peer

variable {config : NodeConfig Id} {state : VolatileState Id} {request : AppendEntriesRequest Id}
  {log : List LogEntry} {changed : Bool}

omit [DecidableEq Id] in
lemma acceptEntries_mismatched (h : previousMatches state.persistent request.prevLogIndex
    request.prevLogTerm = false) :
    acceptEntries request state = .done state {
      term := state.persistent.currentTerm
      success := false
      matchIndex := (lastLogPosition state.persistent).1 } := by
  rw [acceptEntries, h]
  rfl

omit [DecidableEq Id] in
/-- A request whose entries can be merged and applied is acknowledged. -/
theorem acceptEntries_merged (hreopens : Reopens config state.persistent)
    (hmerges : Merges request state.persistent log changed)
    (hvalid : ∀ e ∈ log, ValidCommand e) :
    (acceptEntries request state).result = .ok {
      term := state.persistent.currentTerm
      success := true
      matchIndex := request.prevLogIndex + request.entries.length } := by
  have hcases := acceptEntries_cases request state
  generalize acceptEntries request state = outcome at hcases
  have htake : ∀ k, ∀ e ∈ log.take k, ValidCommand e :=
    fun k e he => hvalid e (take_subset _ _ he)
  cases hcases with
  | mismatched previous =>
    have htrue := hmerges.previous
    simp [previous] at htrue
  | refused error unmerged => exact absurd hmerges (unmerged log changed)
  | @stored log' changed' merges le =>
    obtain rfl := hmerges.log_unique merges
    cases changed' with
    | false => rfl
    | true =>
      rw [persistIf_true, persistLocked_eq (merges.reopens hreopens).wellFormed config.clusterId_ok]
      rfl
  | unapplied merges lt apply =>
    obtain rfl := hmerges.log_unique merges
    rw [applyCommitted_eq (htake _)] at apply
    simp at apply
  | @committed log' changed' lastApplied committedConfiguration merges lt apply =>
    obtain rfl := hmerges.log_unique merges
    have hcommitting := merges.reopens_committing hreopens (htake _)
    rw [persistLocked_eq (show ({ committingState state log'
      (min request.leaderCommit log'.length) with
        lastApplied, committedConfiguration } : VolatileState Id).persistent.WellFormed
          config.clusterId from hcommitting.wellFormed) config.clusterId_ok]
    rfl

/-- A request of a term that is not past is handled by a node that follows its sender. -/
theorem handleAppendEntries_accepted (hreopens : Reopens config state.persistent)
    (hidentity : request.clusterId = config.clusterId) (hhealthy : state.storageError = none)
    (hle : state.persistent.currentTerm ≤ request.term) :
    (handleAppendEntries config request state).result =
        (acceptEntries request (followingState request state)).result ∧
      (handleAppendEntries config request state).state =
        (acceptEntries request (followingState request state)).state := by
  have hfollowing : Reopens config (followingState request state).persistent :=
    hreopens.of_eq (by simp) (by simp) (by simp)
  have hcases := handleAppendEntries_cases config request state
  generalize handleAppendEntries config request state = outcome at hcases
  cases hcases with
  | refused error why =>
    rcases why with hother | hfailed
    · exact absurd hidentity hother
    · exact absurd hhealthy hfailed
  | stale _ lt => omega
  | accepted =>
    by_cases hnewer : request.term > state.persistent.currentTerm
    · rw [decide_eq_true hnewer, persistIf_true,
        persistLocked_eq hfollowing.wellFormed config.clusterId_ok]
      exact ⟨rfl, rfl⟩
    · rw [decide_eq_false hnewer, persistIf_false]
      exact ⟨rfl, rfl⟩

end Peer

/-! ## What the leader does -/

section Leader

variable {config : NodeConfig Id} {state : VolatileState Id} {p : Id}
  {response : AppendEntriesResponse}

/-- What the leader records of one response in its own term. -/
def recordResponse (state : VolatileState Id) (p : Id) (response : AppendEntriesResponse) :
    VolatileState Id :=
  if response.success then
    { state with
      matchIndex := Function.update state.matchIndex p (some response.matchIndex)
      nextIndex := Function.update state.nextIndex p (some (response.matchIndex + 1)) }
  else
    { state with
      nextIndex := Function.update state.nextIndex p
        (some (max ((state.nextIndex p).getD 1 - 1) 1)) }

@[simp]
lemma recordResponse_persistent :
    (recordResponse state p response).persistent = state.persistent := by
  unfold recordResponse
  split_ifs <;> rfl

@[simp]
lemma recordResponse_role : (recordResponse state p response).role = state.role := by
  unfold recordResponse
  split_ifs <;> rfl

lemma recordResponses_silent {peers : List Id} (hp : p ∉ peers) :
    recordResponses state (peers.map fun q => (q, if q = p then some response else none)) =
      (state, none) := by
  induction peers with
  | nil => rfl
  | cons q rest ih =>
    obtain ⟨hne, hrest⟩ : p ≠ q ∧ p ∉ rest := by simpa using hp
    rw [map_cons, if_neg hne.symm]
    exact ih hrest

/-- Where only one peer has answered, its response is what is recorded. -/
theorem recordResponses_single {peers : List Id} (hnodup : peers.Nodup) (hp : p ∈ peers)
    (hterm : response.term ≤ state.persistent.currentTerm) :
    recordResponses state (peers.map fun q => (q, if q = p then some response else none)) =
      (recordResponse state p response, none) := by
  induction peers with
  | nil => simp at hp
  | cons q rest ih =>
    obtain ⟨hfresh, hrest⟩ := List.nodup_cons.mp hnodup
    rw [map_cons]
    by_cases hq : q = p
    · subst hq
      rw [if_pos rfl, recordResponses, if_neg (Nat.not_lt.mpr hterm), recordResponse]
      split_ifs
      · exact recordResponses_silent hfresh
      · exact recordResponses_silent hfresh
    · rw [if_neg hq, recordResponses]
      exact ih hrest ((mem_cons.mp hp).resolve_left (Ne.symm hq))

omit [DecidableEq Id] in
/-- Committing what a majority has stored changes neither the log nor what is sent next. -/
theorem commitReplicated_ok (hreopens : Reopens config state.persistent)
    (hvalid : ∀ e ∈ state.persistent.log, ValidCommand e) :
    (commitReplicated config state).result = .ok () ∧
      (commitReplicated config state).state.persistent.log = state.persistent.log ∧
      (commitReplicated config state).state.persistent.currentTerm =
        state.persistent.currentTerm ∧
      (commitReplicated config state).state.nextIndex = state.nextIndex ∧
      (commitReplicated config state).state.role = state.role := by
  unfold commitReplicated
  simp only
  split
  · rename_i candidate hcandidate
    obtain ⟨hlt, hle, -⟩ := highestCommittableIndex_eq_some hcandidate
    have hcommitted : Reopens config { state.persistent with commitIndex := candidate } :=
      ⟨⟨hreopens.wellFormed.clusterId_eq, hle, hreopens.wellFormed.indexed⟩,
        fun e he => hvalid e (take_subset _ _ he)⟩
    rw [if_pos hlt, applyCommittedLocked_eq _ hcommitted.valid,
      persistLocked_eq hcommitted.wellFormed config.clusterId_ok]
    exact ⟨rfl, rfl, rfl, rfl, rfl⟩
  · exact ⟨rfl, rfl, rfl, rfl, rfl⟩

end Leader

/-! ## One exchange -/

section Exchange

variable [Fintype Id] {c : Cluster Id} {a : State Id LogEntry} {n p : Id}
  {leader peer : VolatileState Id} {k : ℕ}

lemma Tracks.reopens {state : VolatileState Id} (h : Tracks c a n state)
    (hinv : (raft Id).Inv a) : Reopens (c.config n) state.persistent where
  wellFormed := c.clusterId_eq n ▸ h.wellFormed hinv
  valid e he := h.valid hinv e (take_subset _ _ he)

omit [DecidableEq Id] [Fintype Id] in
/-- The request for a peer whose next entry is at `k + 1`. -/
theorem appendEntriesFor_eq {config : NodeConfig Id} (hnext : leader.nextIndex p = some (k + 1))
    (hk : k ≤ leader.persistent.log.length) :
    appendEntriesFor config leader p =
      { clusterId := config.clusterId
        term := leader.persistent.currentTerm
        leaderId := config.nodeId
        prevLogIndex := k
        prevLogTerm := (logTerm leader.persistent k).getD 0
        entries := leader.persistent.log.drop k
        leaderCommit := leader.persistent.commitIndex } := by
  simp [appendEntriesFor, hnext, Nat.min_eq_left hk]

/-! ### Requests that were sent -/

namespace AppendRequested

variable {request : AppendEntriesRequest Id}

section

variable (hreq : AppendRequested c a request)
include hreq

/-- The entries of a request are those of the ledger after the previous one. -/
theorem getElem?_entries {i : ℕ} {e : LogEntry} (he : request.entries[i]? = some e) :
    (a.ledger request.term)[request.prevLogIndex + i]? = some e := by
  obtain ⟨hlt, -⟩ := List.getElem?_eq_some_iff.mp he
  have hlen : ((a.ledger request.term).take request.prevLogIndex).length =
      request.prevLogIndex := by
    have := hreq.le_length
    simp only [length_take]
    omega
  have hsent := congrArg (·[request.prevLogIndex + i]?) hreq.entries
  rw [List.getElem?_append_right (by omega), hlen, Nat.add_sub_cancel_left, he,
    List.getElem?_take_of_lt (by omega)] at hsent
  exact hsent.symm

lemma validateIncomingEntries_eq (hinv : (raft Id).Inv a) :
    validateIncomingEntries request.prevLogIndex request.entries = .ok () := by
  refine (checkEntries_eq_ok _ _ _).mpr fun i e he => ?_
  obtain ⟨hindex, hterm, -⟩ := hinv.ledger_fits _ _ e (hreq.getElem?_entries he)
  exact ⟨by omega, hterm⟩

/-- Where the previous entry of a request matches, the log is overlaid with the part of the
ledger that the request covers. -/
theorem merges (hinv : (raft Id).Inv a) (h : Tracks c a p peer)
    (hle : peer.persistent.currentTerm ≤ request.term)
    (hprev : previousMatches peer.persistent request.prevLogIndex request.prevLogTerm = true) :
    ∃ changed, Merges request peer.persistent (overlay peer.persistent.log
      ((a.ledger request.term).take (request.prevLogIndex + request.entries.length))) changed := by
  -- what the node knows to be committed is in the ledger, so no committed entry is replaced
  have hcommitted : peer.persistent.log.take peer.persistent.commitIndex <+:
      a.ledger request.term := by
    have hpre := hinv.committed_prefix_ledger (n := p) hreq.led (by rw [h.term]; exact hle)
    rwa [State.committed, h.log, h.commit] at hpre
  have hagree : ∀ i e, request.entries[i]? = some e →
      request.prevLogIndex + i < peer.persistent.commitIndex →
      peer.persistent.log[request.prevLogIndex + i]? = some e := by
    intro i e he hlt
    have hledger := hreq.getElem?_entries he
    obtain ⟨rest, hrest⟩ := hcommitted
    have hlen := (h.wellFormed hinv).commitIndex_le
    rw [← hrest, List.getElem?_append_left (by simp only [length_take]; omega),
      List.getElem?_take_of_lt hlt] at hledger
    exact hledger
  obtain ⟨log, changed, hmerge⟩ := mergeEntries_ok hagree
  obtain ⟨hprevious, htake⟩ := hreq.take_prev hinv h hprev
  have hlog := (mergeEntries_eq hprevious hmerge).1
  rw [htake, hreq.entries] at hlog
  subst hlog
  exact ⟨changed, hprev, hreq.validateIncomingEntries_eq hinv, hmerge⟩

end

end AppendRequested

/-- A leader and a peer whose term is not higher. -/
structure Repairing (c : Cluster Id) (a : State Id LogEntry) (n p : Id)
    (leader peer : VolatileState Id) : Prop where
  inv : (raft Id).Inv a
  tracksLeader : Tracks c a n leader
  tracksPeer : Tracks c a p peer
  leads : leader.role = .leader
  term_le : peer.persistent.currentTerm ≤ leader.persistent.currentTerm
  ne : p ≠ n

namespace Repairing

section

variable (h : Repairing c a n p leader peer)
include h

lemma next_le (hnext : leader.nextIndex p = some (k + 1)) : k ≤ leader.persistent.log.length := by
  have := h.tracksLeader.next h.leads p _ hnext
  omega

/-- Where the previous entry matches, the peer's log is overlaid with the leader's. -/
theorem merges (hnext : leader.nextIndex p = some (k + 1))
    (hprev : previousMatches peer.persistent k ((logTerm leader.persistent k).getD 0) = true) :
    ∃ changed, Merges (appendEntriesFor (c.config n) leader p) peer.persistent
      (overlay peer.persistent.log leader.persistent.log) changed := by
  have hk := h.next_le hnext
  have hrequested := appendEntriesFor_requested h.inv h.tracksLeader h.leads p
  rw [appendEntriesFor_eq hnext hk] at hrequested ⊢
  obtain ⟨changed, hmerges⟩ := hrequested.merges h.inv h.tracksPeer h.term_le hprev
  obtain ⟨-, hledger, -⟩ := h.tracksLeader.leads h.inv h.leads
  rw [h.tracksLeader.term, h.tracksLeader.log] at hledger
  have hall : k + (leader.persistent.log.drop k).length = leader.persistent.log.length := by
    simp only [length_drop]
    omega
  simp only [← hledger, hall, take_length] at hmerges
  exact ⟨changed, hmerges⟩

/-- The peer answers without an error: it takes over the leader's log, or it reports that the
previous entry does not match. -/
theorem answers (hnext : leader.nextIndex p = some (k + 1)) :
    ∃ response,
      (handleAppendEntries (c.config p) (appendEntriesFor (c.config n) leader p) peer).result =
        .ok response ∧
      response.term = leader.persistent.currentTerm ∧
      (handleAppendEntries (c.config p) (appendEntriesFor (c.config n) leader p)
        peer).state.persistent.currentTerm = leader.persistent.currentTerm ∧
      ((response.success = true ∧ response.matchIndex = leader.persistent.log.length ∧
          (handleAppendEntries (c.config p) (appendEntriesFor (c.config n) leader p)
            peer).state.persistent.log =
              overlay peer.persistent.log leader.persistent.log) ∨
        (response.success = false ∧
          previousMatches peer.persistent k ((logTerm leader.persistent k).getD 0) = false ∧
          (handleAppendEntries (c.config p) (appendEntriesFor (c.config n) leader p)
            peer).state.persistent.log = peer.persistent.log)) := by
  have hk := h.next_le hnext
  have hreopens := h.tracksPeer.reopens h.inv
  have hidentity : (appendEntriesFor (c.config n) leader p).clusterId = (c.config p).clusterId :=
    (c.clusterId_eq n).trans (c.clusterId_eq p).symm
  have hle : peer.persistent.currentTerm ≤ (appendEntriesFor (c.config n) leader p).term :=
    h.term_le
  have hterm := followingState_currentTerm _ _ hle
  obtain ⟨hresult, hstate⟩ :=
    handleAppendEntries_accepted hreopens hidentity h.tracksPeer.healthy hle
  have hmatches := previousMatches_following (appendEntriesFor (c.config n) leader p) peer
  cases hprev : previousMatches peer.persistent k ((logTerm leader.persistent k).getD 0) with
  | false =>
    have hmismatched := acceptEntries_mismatched (hmatches.trans (by
      rw [appendEntriesFor_eq hnext hk]
      exact hprev))
    rw [hresult, hstate, hmismatched]
    exact ⟨_, rfl, hterm, hterm, .inr ⟨rfl, rfl, followingState_log _ _⟩⟩
  | true =>
    obtain ⟨changed, hmerges⟩ := h.merges hnext hprev
    have hfollowing : Reopens (c.config p)
        (followingState (appendEntriesFor (c.config n) leader p) peer).persistent :=
      hreopens.of_eq (by simp) (by simp) (by simp)
    have hvalid : ∀ e ∈ overlay peer.persistent.log leader.persistent.log, ValidCommand e := by
      intro e he
      unfold overlay at he
      split_ifs at he
      · exact h.tracksPeer.valid h.inv e he
      · exact h.tracksLeader.valid h.inv e he
    have hok := hresult.trans
      (acceptEntries_merged hfollowing ((merges_following_iff _ _).mpr hmerges) hvalid)
    obtain ⟨log, changed', hmerges', hafter, -⟩ := handleAppendEntries_success hok rfl
    obtain rfl := hmerges.log_unique hmerges'
    refine ⟨_, hok, hterm, ?_, .inl ⟨rfl, ?_, ?_⟩⟩
    · rw [hafter]
      exact hterm
    · rw [appendEntriesFor_eq hnext hk]
      simp only [length_drop]
      omega
    · rw [hafter]

end

omit [DecidableEq Id] [Fintype Id] in
lemma peers_nodup_mem (c : Cluster Id) (hne : p ≠ n) :
    (c.config n).peers.Nodup ∧ p ∈ (c.config n).peers :=
  ⟨(c.config n).nodup.of_cons, (c.mem_peers n p).mpr hne⟩

/-- The end of the round, when the peer alone has answered in the leader's term. -/
theorem ends (h : Repairing c a n p leader peer) {response : AppendEntriesResponse}
    (hterm : response.term = leader.persistent.currentTerm) :
    let ended := replicateEnd (c.config n) leader.persistent.currentTerm
      ((c.config n).peers.map fun q => (q, if q = p then some response else none)) leader
    ended.result = .ok () ∧ ended.state.persistent.log = leader.persistent.log ∧
      ended.state.persistent.currentTerm = leader.persistent.currentTerm ∧
      ended.state.nextIndex = (recordResponse leader p response).nextIndex ∧
      ended.state.role = .leader := by
  obtain ⟨hnodup, hmem⟩ := peers_nodup_mem c h.ne
  have hreopens : Reopens (c.config n) (recordResponse leader p response).persistent := by
    rw [recordResponse_persistent]
    exact h.tracksLeader.reopens h.inv
  have hvalid : ∀ e ∈ (recordResponse leader p response).persistent.log, ValidCommand e := by
    rw [recordResponse_persistent]
    exact h.tracksLeader.valid h.inv
  have hcommit := commitReplicated_ok hreopens hvalid
  rw [recordResponse_persistent, recordResponse_role, h.leads] at hcommit
  unfold replicateEnd
  rw [if_neg (by simp [h.leads]), recordResponses_single hnodup hmem hterm.le]
  exact hcommit

lemma exchange_eq (h : Repairing c a n p leader peer)
    (hnext : leader.nextIndex p = some (k + 1)) :
    ∃ a' leader' peer', exchange c n p leader peer = .ok (leader', peer') ∧
      Repairing c a' n p leader' peer' ∧
      leader'.persistent.log = leader.persistent.log ∧
      leader'.persistent.currentTerm = leader.persistent.currentTerm ∧
      ((peer'.persistent.log = overlay peer.persistent.log leader.persistent.log ∧
          leader'.nextIndex p = some (leader.persistent.log.length + 1)) ∨
        (previousMatches peer.persistent k ((logTerm leader.persistent k).getD 0) = false ∧
          peer'.persistent.log = peer.persistent.log ∧
          leader'.nextIndex p = some (max k 1))) := by
  obtain ⟨response, hresult, hterm, hpeerTerm, hlogs⟩ := h.answers hnext
  obtain ⟨hended, hlog, hleaderTerm, hindexes, hrole⟩ := h.ends hterm
  have hstart : (replicateStart (c.config n) leader).result =
      .ok (some (leader.persistent.currentTerm, (c.config n).peers.map fun peer =>
        (peer, appendEntriesFor (c.config n) leader peer))) := by
    rw [replicateStart, requireStorage_eq h.tracksLeader.healthy, if_neg (by simp [h.leads])]
    rfl
  have hexchange : exchange c n p leader peer =
      .ok ((replicateEnd (c.config n) leader.persistent.currentTerm
        ((c.config n).peers.map fun q => (q, if q = p then some response else none)) leader).state,
        (handleAppendEntries (c.config p) (appendEntriesFor (c.config n) leader p)
          peer).state) := by
    simp only [exchange, hstart, hresult, hended]
  -- both sections are moves of the protocol, each of one node
  obtain ⟨a₁, hmoves₁, -, hpeer₁, hpost⟩ := (handleAppendEntries_refines h.inv h.tracksPeer
    (appendEntriesFor_requested h.inv h.tracksLeader h.leads p)).ends
  obtain ⟨hinv₁, hext₁⟩ := h.inv.moves hmoves₁
  have hleader₁ := h.tracksLeader.frame hext₁ (hmoves₁.sameAt h.ne.symm)
  have hstored : ∀ answer ∈ (c.config n).peers.map fun q =>
      (q, if q = p then some response else none), ∀ reply ∈ answer.2, reply.success →
        reply.matchIndex ≤ a₁.stored answer.1 leader.persistent.currentTerm := by
    intro answer hanswer reply hreply hsuccess
    obtain ⟨q, -, rfl⟩ := mem_map.mp hanswer
    by_cases hq : q = p
    · subst hq
      obtain rfl : response = reply := by simpa using hreply
      exact (hpost response hresult hsuccess).2
    · simp [hq] at hreply
  obtain ⟨a₂, hmoves₂, -, hleader₂, -⟩ := (replicateEnd_refines hinv₁ hleader₁ hstored).ends
  obtain ⟨hinv₂, hext₂⟩ := hinv₁.moves hmoves₂
  have hpeer₂ := hpeer₁.frame hext₂ (hmoves₂.sameAt h.ne)
  refine ⟨a₂, _, _, hexchange, ⟨hinv₂, hleader₂, hpeer₂, hrole, ?_, h.ne⟩, hlog, hleaderTerm, ?_⟩
  · rw [hpeerTerm, hleaderTerm]
  · rw [hindexes]
    rcases hlogs with ⟨hsuccess, hmatch, hoverlay⟩ | ⟨hfailure, hprev, hsame⟩
    · exact .inl ⟨hoverlay, by simp [recordResponse, hsuccess, hmatch]⟩
    · exact .inr ⟨hprev, hsame, by simp [recordResponse, hfailure, hnext]⟩

/-! ## Repeated exchanges -/

omit [DecidableEq Id] [Fintype Id] in
/-- A node whose log has the entry before `k + 1` of the leader's passes the check on it. -/
theorem previousMatches_of_log_eq {persistent persistent' : PersistentState Id}
    (hlog : persistent.log = persistent'.log) (hk : k ≤ persistent'.log.length) :
    previousMatches persistent k ((logTerm persistent' k).getD 0) = true := by
  rw [previousMatches_iff]
  split_ifs with hzero
  · simp [logTerm, hzero]
  · have hget : persistent'.log[k - 1]? = some persistent'.log[k - 1] :=
      List.getElem?_eq_getElem (by omega)
    refine ⟨persistent'.log[k - 1], by rw [hlog, hget], ?_⟩
    rw [(logTerm_eq_some hzero).mpr ⟨_, hget, rfl⟩]
    rfl

omit [DecidableEq Id] [Fintype Id] in
lemma previousMatches_zero (persistent persistent' : PersistentState Id) :
    previousMatches persistent 0 ((logTerm persistent' 0).getD 0) = true := by
  rw [previousMatches_iff]
  simp [logTerm]

/-- Once the logs are the same they stay so. -/
theorem exchanges_repaired (h : Repairing c a n p leader peer)
    (hsame : peer.persistent.log = leader.persistent.log)
    (hnext : leader.nextIndex p = some (leader.persistent.log.length + 1)) (m : ℕ) :
    ∃ leader' peer', exchanges c n p m leader peer = .ok (leader', peer') ∧
      leader'.persistent.log = leader.persistent.log ∧
      peer'.persistent.log = leader.persistent.log := by
  induction m generalizing a leader peer with
  | zero => exact ⟨leader, peer, rfl, rfl, hsame⟩
  | succ m ih =>
    obtain ⟨a', leader', peer', hexchange, h', hlog, -, hcases⟩ := h.exchange_eq hnext
    rw [exchanges, hexchange]
    rcases hcases with ⟨hoverlay, hnext'⟩ | ⟨hprev, -, -⟩
    · rw [hsame, overlay, if_pos prefix_rfl, ← hlog] at hoverlay
      rw [← hlog] at hnext' ⊢
      exact ih h' hoverlay hnext'
    · rw [previousMatches_of_log_eq hsame le_rfl] at hprev
      simp at hprev

/-- Each exchange repairs the log or moves the previous entry back by one. -/
theorem exchanges_repairs (h : Repairing c a n p leader peer)
    (hnext : leader.nextIndex p = some (k + 1)) {e : LogEntry} (he : e ∈ leader.persistent.log)
    (hterm : e.term = leader.persistent.currentTerm)
    (hold : ∀ e' ∈ peer.persistent.log, e'.term ≠ leader.persistent.currentTerm) (m : ℕ) :
    ∃ leader' peer', exchanges c n p m leader peer = .ok (leader', peer') ∧
      leader'.persistent.log = leader.persistent.log ∧
      (k + 1 ≤ m → peer'.persistent.log = leader.persistent.log) := by
  induction m generalizing a leader peer k with
  | zero => exact ⟨leader, peer, rfl, rfl, by omega⟩
  | succ m ih =>
    obtain ⟨a', leader', peer', hexchange, h', hlog, hterm', hcases⟩ := h.exchange_eq hnext
    rw [exchanges, hexchange]
    rcases hcases with ⟨hoverlay, hnext'⟩ | ⟨hprev, hpeer, hnext'⟩
    · -- the peer has no entry of the leader's term, so its log is replaced
      have hnot : ¬ leader.persistent.log <+: peer.persistent.log :=
        fun hpre => hold e (hpre.subset he) hterm
      rw [overlay, if_neg hnot, ← hlog] at hoverlay
      rw [← hlog] at hnext'
      obtain ⟨leader'', peer'', hrest, hleader, hpeer⟩ := h'.exchanges_repaired hoverlay hnext' m
      exact ⟨leader'', peer'', hrest, hleader.trans hlog, fun _ => hpeer.trans hlog⟩
    · cases k with
      | zero =>
        rw [previousMatches_zero] at hprev
        simp at hprev
      | succ k =>
        rw [Nat.max_eq_left (Nat.le_add_left 1 k)] at hnext'
        obtain ⟨leader'', peer'', hrest, hleader, hdone⟩ := ih h' hnext' (hlog ▸ he)
          (hterm.trans hterm'.symm) (by rw [hpeer, hterm']; exact hold)
        exact ⟨leader'', peer'', hrest, hleader.trans hlog,
          fun hm => (hdone (by omega)).trans hlog⟩

end Repairing

end Exchange

/-! ## From an election on -/

/-- What a node that has just become leader starts with. -/
theorem campaignEnd_won {config : NodeConfig Id} {request : RequestVoteRequest Id}
    {responses : List (Id × Option RequestVoteResponse)} {state : VolatileState Id}
    (hbefore : state.role ≠ .leader)
    (h : (campaignEnd config request responses state).state.role = .leader) :
    let won := (campaignEnd config request responses state).state
    state.role = .candidate ∧
      won.persistent.currentTerm = state.persistent.currentTerm ∧
      won.persistent.log = state.persistent.log ++
        [{ index := state.persistent.log.length + 1
           term := state.persistent.currentTerm
           command := .noop }] ∧
      ∀ q ∈ config.peers, won.nextIndex q = some (state.persistent.log.length + 1 + 1) := by
  unfold campaignEnd at h ⊢
  simp only at h ⊢
  split_ifs at h ⊢ with hhigher hwon
  · rw [(persistLocked_done_state _ _).1] at h
    simp [becomeFollower] at h
  · refine ⟨hwon.1, ?_⟩
    -- the save changes none of this, whether it succeeds or not
    generalize hstate : ({ state with
      role := Role.leader
      leaderId := some config.nodeId
      persistent := { state.persistent with
        log := state.persistent.log ++
          [{ index := state.persistent.log.length + 1
             term := state.persistent.currentTerm
             command := .noop }] }
      nextIndex := fun peer =>
        if peer ∈ config.peers then some (state.persistent.log.length + 1 + 1) else none
      matchIndex := Function.update (fun peer => if peer ∈ config.peers then some 0 else none)
        config.nodeId (some (state.persistent.log.length + 1)) } : VolatileState Id) = won
    rcases persistLocked_cases won fun state => .done state true with ⟨error, hfail⟩ | hsaved
    · rw [hfail]
      subst hstate
      exact ⟨rfl, rfl, fun q hq => if_pos hq⟩
    · rw [hsaved]
      subst hstate
      exact ⟨rfl, rfl, fun q hq => if_pos hq⟩
  · exact absurd h hbefore

variable [Fintype Id] {c : Cluster Id} {w w' : World Id} {n p : Id}

/-- Before a node takes the lead of a term no log has an entry of it. -/
theorem Sim.term_unused {a : State Id LogEntry} (hsim : Sim c w a) {term : ℕ}
    (hcandidate : (w.node n).role = .candidate)
    (hterm : (w.node n).persistent.currentTerm = term) (htakes : TakesLead c w n term) :
    ∀ e ∈ (w.node p).persistent.log, e.term ≠ term := by
  obtain ⟨Q, hQ, hvotes⟩ := htakes.exists_quorum hsim
  have hn : a.term n = term := (hsim.node n).term.trans hterm
  have hvacant : a.leader term = none := by
    rw [← hn]
    refine hsim.inv.vacant_of_votes ?_ hQ (hn ▸ hvotes)
    rw [(hsim.node n).standing, hcandidate]
    rfl
  rintro e he rfl
  obtain ⟨i, hi⟩ := List.getElem?_of_mem he
  rw [← (hsim.node p).log] at hi
  have hledger := (hsim.inv.log_sound p).getElem?_ledger hi
  rw [show (raft Id).termOf e = e.term from rfl, hsim.inv.ledger_leader e.term hvacant] at hledger
  simp at hledger

/-- Once a node has become leader with a log of `L` entries, its exchanges with a peer return no
error, and after `L + 1` of them the peer has its log. -/
theorem log_repair_converges (hw : c.system.Reachable w)
    {responses : List (Id × Option RequestVoteResponse)}
    (hstep : c.step? w (.run (.campaignEnd n responses)) = some w')
    (hbefore : (w.node n).role ≠ .leader) (hleads : (w'.node n).role = .leader) (hne : p ≠ n)
    (hterm : (w'.node p).persistent.currentTerm ≤ (w'.node n).persistent.currentTerm) (m : ℕ) :
    ∃ leader peer, exchanges c n p m (w'.node n) (w'.node p) = .ok (leader, peer) ∧
      leader.persistent.log = (w'.node n).persistent.log ∧
      ((w'.node n).persistent.log.length + 1 ≤ m →
        peer.persistent.log = leader.persistent.log) := by
  obtain ⟨a, -, hsim, hbound⟩ := c.simulation.reachable hw
  simp only [Cluster.step?, map_eq_some_iff] at hstep
  obtain ⟨attempt, hattempt, rfl⟩ := hstep
  obtain ⟨a', -, -, hsim'⟩ := (hsim.attempt hbound hattempt).next
  have hrepairing : Repairing c a' n p (attempt.next.node n) (attempt.next.node p) :=
    ⟨hsim'.inv, hsim'.node n, hsim'.node p, hleads, hterm, hne⟩
  have htakes : TakesLead c w n (attempt.next.node n).persistent.currentTerm :=
    .inr ⟨responses, attempt, hattempt, hleads, rfl⟩
  -- the section that ended the campaign
  obtain ⟨request, hnode, hpeer⟩ : ∃ request,
      attempt.next.node n = (campaignEnd (c.config n) request responses (w.node n)).state ∧
        attempt.next.node p = w.node p := by
    simp only [Cluster.attempt] at hattempt
    split at hattempt
    · simp at hattempt
    rename_i request _
    simp only [ite_none_right_eq_some, some.injEq] at hattempt
    obtain ⟨-, rfl⟩ := hattempt
    exact ⟨request, by simp [World.finish], by simp [World.finish, hne]⟩
  rw [hnode] at hleads
  obtain ⟨hcandidate, hwonTerm, hlog, hindexes⟩ := campaignEnd_won hbefore hleads
  rw [← hnode] at hwonTerm hlog hindexes
  have hnext : (attempt.next.node n).nextIndex p =
      some ((attempt.next.node n).persistent.log.length + 1) := by
    rw [hindexes p ((c.mem_peers n p).mpr hne), hlog]
    simp
  have hold : ∀ e ∈ (attempt.next.node p).persistent.log,
      e.term ≠ (attempt.next.node n).persistent.currentTerm := by
    rw [hpeer]
    exact hsim.term_unused hcandidate hwonTerm.symm htakes
  obtain ⟨leader, peer, hexchanges, hleader, hdone⟩ := hrepairing.exchanges_repairs hnext
    (by rw [hlog]; exact mem_concat_self) hwonTerm.symm hold m
  exact ⟨leader, peer, hexchanges, hleader, fun hm => (hdone hm).trans hleader.symm⟩

/-- Node `0` has led term `1` and written an entry that no other node has; node `1` then asks
for votes in term `2`. -/
def divergedCampaign : List (Action Cluster.Member) :=
  firstElection ++
    [.run (.write 0 (exampleConfiguration "round-robin") (some 0) none),
      .run (.campaignStart 1),
      .run (.requestVote 2
        { clusterId := "inferlab-default", term := 2, candidateId := 1, lastLogIndex := 0,
          lastLogTerm := 0 })]

/-- Node `1` wins it with the vote of node `2`. -/
def divergedElection : Action Cluster.Member :=
  .run (.campaignEnd 1 [(2, some { term := 2, voteGranted := true }), (0, none)])

theorem log_repair_converges_diverged : ∃ w w',
    Cluster.three.after? Cluster.three.start divergedCampaign = some w ∧
    Cluster.three.step? w divergedElection = some w' ∧
    (w'.node 0).persistent.log = firstEntries ∧ (w'.node 1).persistent.log.length = 1 ∧
    ∃ leader peer, exchanges Cluster.three 1 0 2 (w'.node 1) (w'.node 0) = .ok (leader, peer) ∧
      peer.persistent.log = (w'.node 1).persistent.log := by
  have hsome : (Cluster.three.trace? Cluster.three.start
      (divergedCampaign ++ divergedElection :: [])).isSome := by
    decide +kernel
  obtain ⟨run, hrun⟩ := isSome_iff_exists.mp hsome
  obtain ⟨w, w', hinfix, hafter, hstep⟩ := Cluster.three.exists_step_of_trace? hrun
  have hsummary : ((Cluster.three.after? Cluster.three.start divergedCampaign).bind fun w =>
      (Cluster.three.step? w divergedElection).map fun w' =>
        decide ((w.node 1).role ≠ .leader ∧ (w'.node 1).role = .leader ∧
          (w'.node 0).persistent.currentTerm ≤ (w'.node 1).persistent.currentTerm ∧
          (w'.node 0).persistent.log = firstEntries ∧
          (w'.node 1).persistent.log.length = 1)) = some true := by
    decide +kernel
  rw [hafter, bind_some, hstep, map_some] at hsummary
  obtain ⟨hbefore, hleads, hterm, hpeer, hlength⟩ :=
    of_decide_eq_true (some.inj hsummary)
  have hw : w ∈ run := hinfix.subset (by simp)
  have hreachable := (Cluster.three.isRun_of_trace? hrun).reachable hw
  obtain ⟨leader, peer, hexchanges, hlog, hdone⟩ :=
    log_repair_converges hreachable hstep hbefore hleads (by decide) hterm 2
  exact ⟨w, w', hafter, hstep, hpeer, hlength, leader, peer, hexchanges,
    (hdone (by omega)).trans hlog⟩

end InferLab.ControlPlane
