import InferLab.Checks
import InferLab.ControlPlane.LogRepair

/-!
# What a leader has on record about its peers

A leader has an entry in both tables for each of its peers. What it believes a peer to have
is in the peer's file, as long as the peer has not moved to a later term: replies may be old,
but a node drops nothing that it has stored of the log of the leader of its term. The
requests that are made from the tables are in order, and no node that receives one of them,
however late, answers with an error.
-/

namespace InferLab.ControlPlane

open Consensus Function Option

variable {Id α : Type}

/-! ## The tables -/

/-- A leader has an entry in both tables for every peer. -/
def Booked (peers : List Id) (state : VolatileState Id) : Prop :=
  state.role = .leader → ∀ p ∈ peers,
    (∃ k, state.matchIndex p = some k) ∧ ∃ k, state.nextIndex p = some (k + 1)

variable {peers : List Id} {config : NodeConfig Id} {state : VolatileState Id}

lemma booked_of_not_leader (h : state.role ≠ .leader) : Booked peers state :=
  fun hrole => absurd hrole h

/-- A section leaves the role and the tables of a node as they are. -/
structure Outcome.KeepsTables (outcome : Outcome Id α) (state : VolatileState Id) : Prop where
  role : outcome.state.role = state.role
  nextIndex : outcome.state.nextIndex = state.nextIndex
  matchIndex : outcome.state.matchIndex = state.matchIndex

namespace Outcome.KeepsTables

lemma booked {outcome : Outcome Id α} (h : outcome.KeepsTables state)
    (hbooked : Booked peers state) : Booked peers outcome.state := by
  unfold Booked
  rw [h.role, h.nextIndex, h.matchIndex]
  exact hbooked

lemma done {value : α} : (Outcome.done state value).KeepsTables state := ⟨rfl, rfl, rfl⟩

lemma fail {error : RaftError Id} : (Outcome.fail state error : Outcome Id α).KeepsTables state :=
  ⟨rfl, rfl, rfl⟩

lemma persistLocked {next : VolatileState Id → Outcome Id α}
    (hnext : (next state).KeepsTables state) :
    (ControlPlane.persistLocked state next).KeepsTables state := by
  rcases persistLocked_cases state next with ⟨error, hfail⟩ | hsaved
  · rw [hfail]
    exact ⟨rfl, rfl, rfl⟩
  · rw [hsaved]
    exact ⟨hnext.role, hnext.nextIndex, hnext.matchIndex⟩

lemma persistIf {changed : Bool} {next : VolatileState Id → Outcome Id α}
    (hnext : (next state).KeepsTables state) :
    (ControlPlane.persistIf changed state next).KeepsTables state := by
  cases changed with
  | false => exact hnext
  | true => exact .persistLocked hnext

lemma of_eq {outcome : Outcome Id α} {state' : VolatileState Id}
    (h : outcome.KeepsTables state') (hrole : state'.role = state.role)
    (hnext : state'.nextIndex = state.nextIndex) (hmatch : state'.matchIndex = state.matchIndex) :
    outcome.KeepsTables state :=
  ⟨h.role.trans hrole, h.nextIndex.trans hnext, h.matchIndex.trans hmatch⟩

end Outcome.KeepsTables

lemma acceptEntries_keepsTables (request : AppendEntriesRequest Id) (state : VolatileState Id) :
    (acceptEntries request state).KeepsTables state := by
  have hcases := acceptEntries_cases request state
  generalize acceptEntries request state = outcome at hcases
  cases hcases with
  | mismatched => exact .done
  | refused => exact .fail
  | stored => exact Outcome.KeepsTables.of_eq (.persistIf .done) rfl rfl rfl
  | unapplied => exact Outcome.KeepsTables.of_eq .fail rfl rfl rfl
  | committed => exact Outcome.KeepsTables.of_eq (.persistLocked .done) rfl rfl rfl

lemma commitReplicated_keepsTables (config : NodeConfig Id) (state : VolatileState Id) :
    (commitReplicated config state).KeepsTables state := by
  unfold commitReplicated applyCommittedLocked
  simp only
  split
  · split_ifs
    · split
      · exact Outcome.KeepsTables.of_eq .fail rfl rfl rfl
      · exact Outcome.KeepsTables.of_eq (.persistLocked .done) rfl rfl rfl
    · exact .done
  · exact .done

/-! ## The sections keep the tables complete -/

lemma booked_persistLocked {next : VolatileState Id → Outcome Id α}
    (h : Booked peers state) (hnext : (next state).KeepsTables state) :
    Booked peers (persistLocked state next).state :=
  (Outcome.KeepsTables.persistLocked hnext).booked h

lemma campaignStart_booked (h : Booked peers state) :
    Booked peers (campaignStart config state).state := by
  unfold campaignStart requireStorage
  split_ifs
  · exact h
  · split
    · exact h
    · exact booked_persistLocked (booked_of_not_leader (by simp)) .done

lemma becomeFollower_booked (term : ℕ) (leaderId : Option Id) :
    Booked peers (becomeFollower state term leaderId) :=
  booked_of_not_leader (by simp [becomeFollower])

lemma openNode_role {file disk : PersistentState Id}
    (h : openNode config file = .ok (state, disk)) : state.role = .follower := by
  unfold openNode at h
  obtain ⟨persistent, -, h⟩ := of_bind h
  simp only at h
  split_ifs at h
  · obtain ⟨saved, -, h⟩ := of_bind h
    obtain ⟨owned, -, h⟩ := of_bind h
    obtain ⟨applied, -, h⟩ := of_bind h
    cases h
    rfl
  · obtain ⟨owned, hthrow, -⟩ := of_bind h
    simp [throw, throwThe, MonadExceptOf.throw] at hthrow
  · obtain ⟨owned, -, h⟩ := of_bind h
    obtain ⟨applied, -, h⟩ := of_bind h
    cases h
    rfl

section Sections

variable [DecidableEq Id]

/-- A node that wins starts both tables. -/
theorem campaignEnd_booked (h : Booked config.peers state) (request : RequestVoteRequest Id)
    (responses : List (Id × Option RequestVoteResponse)) :
    Booked config.peers (campaignEnd config request responses state).state := by
  unfold campaignEnd
  simp only
  split_ifs
  · exact booked_persistLocked (becomeFollower_booked _ _) .done
  · refine booked_persistLocked (fun _ p hp => ?_) .done
    have hne : p ≠ config.nodeId := by
      rintro rfl
      exact (List.nodup_cons.mp config.nodup).1 hp
    exact ⟨⟨0, by simp [hne, hp]⟩, ⟨state.persistent.log.length + 1, by simp [hp]⟩⟩
  · exact h

lemma castVote_keepsTables (changed : Bool) (request : RequestVoteRequest Id)
    (state : VolatileState Id) : (castVote changed request state).KeepsTables state := by
  unfold castVote
  simp only
  generalize ((state.persistent.votedFor == none ||
    state.persistent.votedFor == some request.candidateId) &&
    candidateLogIsAtLeastAsUpToDate _ _ _ _) = granted
  refine Outcome.KeepsTables.of_eq (.persistIf .done) ?_ ?_ ?_
  all_goals cases granted <;> rfl

section

variable (h : Booked peers state)
include h

lemma handleRequestVote_booked (request : RequestVoteRequest Id) :
    Booked peers (handleRequestVote config request state).state := by
  have hfollow : Booked peers (if (request.term > state.persistent.currentTerm : Bool) then
      becomeFollower state request.term none else state) := by
    split_ifs
    · exact becomeFollower_booked _ _
    · exact h
  unfold handleRequestVote requireClusterIdentity requireStorage
  split_ifs
  · split
    · exact h
    · dsimp only
      generalize (if (request.term > state.persistent.currentTerm : Bool) then
        becomeFollower state request.term none else state) = following at hfollow ⊢
      split_ifs
      · exact hfollow
      · exact (castVote_keepsTables _ request following).booked hfollow
  · exact h

lemma handleAppendEntries_booked (request : AppendEntriesRequest Id) :
    Booked peers (handleAppendEntries config request state).state := by
  have hcases := handleAppendEntries_cases config request state
  generalize handleAppendEntries config request state = outcome at hcases
  cases hcases with
  | refused => exact h
  | stale => exact h
  | accepted =>
    refine (Outcome.KeepsTables.persistIf (acceptEntries_keepsTables request _)).booked ?_
    apply booked_of_not_leader
    unfold followingState
    split_ifs <;> simp [becomeFollower]

lemma recordResponses_booked (responses : List (Id × Option AppendEntriesResponse)) :
    Booked peers (recordResponses state responses).1 := by
  induction responses generalizing state with
  | nil => exact h
  | cons answer rest ih =>
    obtain ⟨q, answer⟩ := answer
    cases answer with
    | none => exact ih h
    | some response =>
      unfold recordResponses
      split_ifs with hhigher hsuccess
      · exact h
      · refine ih fun hrole p hp => ?_
        obtain ⟨hmatch, hnext⟩ := h hrole p hp
        by_cases hpq : p = q
        · subst hpq
          exact ⟨⟨_, update_self ..⟩, ⟨_, update_self ..⟩⟩
        · simpa [update_of_ne hpq] using ⟨hmatch, hnext⟩
      · refine ih fun hrole p hp => ?_
        obtain ⟨hmatch, hnext⟩ := h hrole p hp
        refine ⟨hmatch, ?_⟩
        by_cases hpq : p = q
        · subst hpq
          -- the entry to send next goes back by one, but not below the first
          refine ⟨max ((state.nextIndex p).getD 1 - 1) 1 - 1, ?_⟩
          simp only [update_self, some.injEq]
          omega
        · simpa [update_of_ne hpq] using hnext

lemma replicateEnd_booked (term : ℕ) (responses : List (Id × Option AppendEntriesResponse)) :
    Booked peers (replicateEnd config term responses state).state := by
  have hrecorded := recordResponses_booked h responses
  unfold replicateEnd
  split_ifs
  · exact h
  · split
    · exact booked_persistLocked (becomeFollower_booked _ _) .done
    · rename_i hstate
      rw [hstate] at hrecorded
      exact (commitReplicated_keepsTables config _).booked hrecorded

end

lemma writeConfigurationWithFence_booked (h : Booked config.peers state)
    (configuration : RoutingConfiguration) (expectedRevision : Option ℕ)
    (writer : Option CommittedWriteProvenance) :
    Booked config.peers (writeConfigurationWithFence config configuration expectedRevision writer
      state).state := by
  unfold writeConfigurationWithFence requireStorage
  split
  · exact h
  · split
    · exact h
    · split_ifs
      · exact h
      · simp only
        split
        · exact h
        · refine booked_persistLocked (fun hrole p hp => ?_) .done
          obtain ⟨⟨k, hk⟩, hnext⟩ := h hrole p hp
          refine ⟨?_, hnext⟩
          -- the node records its own entry only
          by_cases hself : p = config.nodeId
          · exact ⟨_, by rw [hself]; exact update_self ..⟩
          · exact ⟨k, (update_of_ne hself ..).trans hk⟩

end Sections

/-! ## The cluster -/

namespace Cluster

variable [DecidableEq Id] {c : Cluster Id} {w w' : World Id} {n : Id}

/-- Every leader of the cluster has complete tables. -/
def AllBooked (c : Cluster Id) (w : World Id) : Prop :=
  ∀ n, Booked (c.config n).peers (w.node n)

section

variable (h : c.AllBooked w)
include h

lemma AllBooked.update (hstate : Booked (c.config n).peers state) (m : Id) :
    Booked (c.config m).peers (Function.update w.node n state m) := by
  by_cases hm : m = n
  · subst hm
    rwa [update_self]
  · rw [update_of_ne hm]
    exact h m

lemma AllBooked.finish {outcome : Outcome Id α} (hstate : Booked (c.config n).peers outcome.state)
    {after : World Id → Except (RaftError Id) α → World Id}
    (hafter : ∀ w result, (after w result).node = w.node) :
    c.AllBooked (w.finish n outcome after).next := by
  unfold AllBooked World.finish
  rw [hafter]
  exact h.update hstate

lemma AllBooked.attempt {event : Event Id} {attempt : Attempt Id}
    (hattempt : c.attempt w event = some attempt) : c.AllBooked attempt.next := by
  cases event with
  | campaignStart n =>
    simp only [Cluster.attempt, ite_none_right_eq_some, some.injEq] at hattempt
    obtain ⟨-, rfl⟩ := hattempt
    exact h.finish (campaignStart_booked (h n)) fun w result => by split <;> rfl
  | campaignEnd n responses =>
    simp only [Cluster.attempt] at hattempt
    split at hattempt
    · simp at hattempt
    simp only [ite_none_right_eq_some, some.injEq] at hattempt
    obtain ⟨-, rfl⟩ := hattempt
    exact h.finish (campaignEnd_booked (h n) _ responses) fun w result => rfl
  | requestVote n request =>
    simp only [Cluster.attempt, ite_none_right_eq_some, some.injEq] at hattempt
    obtain ⟨-, rfl⟩ := hattempt
    exact h.finish (handleRequestVote_booked (h n) request) fun w result => by split <;> rfl
  | replicateStart n =>
    simp only [Cluster.attempt, ite_none_right_eq_some, some.injEq] at hattempt
    obtain ⟨-, rfl⟩ := hattempt
    refine h.finish ?_ fun w result => by split <;> rfl
    rw [(replicateStart_state (c.config n) (w.node n)).1]
    exact h n
  | replicateEnd n responses =>
    simp only [Cluster.attempt] at hattempt
    split at hattempt
    · simp at hattempt
    simp only [ite_none_right_eq_some, some.injEq] at hattempt
    obtain ⟨-, rfl⟩ := hattempt
    exact h.finish (replicateEnd_booked (h n) _ responses) fun w result => rfl
  | appendEntries n request =>
    simp only [Cluster.attempt, ite_none_right_eq_some, some.injEq] at hattempt
    obtain ⟨-, rfl⟩ := hattempt
    exact h.finish (handleAppendEntries_booked (h n) request) fun w result => by split <;> rfl
  | write n configuration expectedRevision writer =>
    simp only [Cluster.attempt, ite_none_right_eq_some, some.injEq] at hattempt
    obtain ⟨-, rfl⟩ := hattempt
    exact h.finish (writeConfigurationWithFence_booked (h n) configuration expectedRevision writer)
      fun w result => by split <;> rfl
  | poll n =>
    simp only [Cluster.attempt] at hattempt
    split at hattempt
    · simp at hattempt
    simp only [some.injEq] at hattempt
    obtain rfl := hattempt
    refine h.finish ?_ fun w result => by split <;> rfl
    rw [(pollWrite_state _ (w.node n)).1]
    exact h n

/-- A node that opens follows. -/
theorem AllBooked.reopen {file : PersistentState Id} (hopen : c.reopen w n file = some w') :
    c.AllBooked w' := by
  unfold Cluster.reopen at hopen
  split at hopen
  · rename_i state file' hnode
    obtain rfl := some.inj hopen
    refine h.update (booked_of_not_leader ?_)
    rw [openNode_role hnode]
    simp
  · simp at hopen

lemma AllBooked.step {action : Action Id} (hstep : c.step? w action = some w') :
    c.AllBooked w' := by
  cases action with
  | run event =>
    simp only [Cluster.step?, map_eq_some_iff] at hstep
    obtain ⟨attempt, hattempt, rfl⟩ := hstep
    exact h.attempt hattempt
  | crash event saved =>
    simp only [Cluster.step?] at hstep
    split at hstep
    · exact h.reopen hstep
    · simp at hstep
  | restart n => exact h.reopen hstep
  | abandonCampaign n =>
    obtain rfl := some.inj hstep
    exact h
  | abandonRound n =>
    obtain rfl := some.inj hstep
    exact h
  | abandonWrite n =>
    obtain rfl := some.inj hstep
    exact h

end

lemma allBooked (hw : c.system.Reachable w) : c.AllBooked w := by
  refine hw.invariant ?_ ?_
  · rintro _ rfl n
    exact booked_of_not_leader (by simp [start, openedState])
  · intro w w' h hstep
    obtain ⟨⟨action, haction⟩, -⟩ := hstep
    exact h.step haction

end Cluster

/-! ## Requests that a leader makes and has made -/

section Requests

variable [DecidableEq Id] [Fintype Id] {c : Cluster Id} {a : State Id LogEntry} {n p : Id}
  {peer : VolatileState Id} {request : AppendEntriesRequest Id}

/-- A node answers a request that a leader has sent, whenever it receives it. -/
theorem AppendRequested.answered (hreq : AppendRequested c a request) (hinv : (raft Id).Inv a)
    (h : Tracks c a p peer) :
    ∃ response, (handleAppendEntries (c.config p) request peer).result = .ok response := by
  have hidentity : request.clusterId = (c.config p).clusterId :=
    hreq.clusterId.trans (c.clusterId_eq p).symm
  by_cases hle : peer.persistent.currentTerm ≤ request.term
  · have hreopens := h.reopens hinv
    rw [(handleAppendEntries_accepted hreopens hidentity h.healthy hle).1]
    have hmatches := previousMatches_following request peer
    cases hprev : previousMatches peer.persistent request.prevLogIndex request.prevLogTerm with
    | false => exact ⟨_, by rw [acceptEntries_mismatched (hmatches.trans hprev)]; rfl⟩
    | true =>
      obtain ⟨changed, hmerges⟩ := hreq.merges hinv h hle hprev
      have hfollowing : Reopens (c.config p) (followingState request peer).persistent :=
        hreopens.of_eq (by simp) (by simp) (by simp)
      refine ⟨_, acceptEntries_merged hfollowing ((merges_following_iff _ _).mpr hmerges) ?_⟩
      intro e he
      unfold overlay at he
      split_ifs at he
      · exact h.valid hinv e he
      · obtain ⟨i, hi⟩ := List.getElem?_of_mem (List.take_subset _ _ he)
        exact (hinv.ledger_fits _ i e hi).2.2
  · -- a request of a past term is answered with the term of the node
    have hcases := handleAppendEntries_cases (c.config p) request peer
    generalize handleAppendEntries (c.config p) request peer = outcome at hcases
    cases hcases with
    | refused error why =>
      rcases why with hother | hfailed
      · exact absurd hidentity hother
      · exact absurd h.healthy hfailed
    | stale => exact ⟨_, rfl⟩
    | accepted _ _ hle' => exact absurd hle' hle

omit [Fintype Id] [DecidableEq Id] in
lemma logTerm_of_le {persistent : PersistentState Id} {k : ℕ}
    (h : k ≤ persistent.log.length) : ∃ term, logTerm persistent k = some term := by
  unfold logTerm
  split_ifs with hzero
  · exact ⟨0, rfl⟩
  · have hlt : k - 1 < persistent.log.length := by omega
    exact ⟨_, by rw [List.getElem?_eq_getElem hlt]; rfl⟩

/-- What a leader has on record about a peer: the entry it sends next is in its log or the one
after it, and what it believes the peer to have is in the peer's file unless the peer has
moved on. -/
theorem Sim.tables {w : World Id} (hsim : Sim c w a) (hbooked : c.AllBooked w)
    (hrole : (w.node n).role = .leader) (hp : p ≠ n) :
    ∃ matched next, (w.node n).matchIndex p = some matched ∧
      (w.node n).nextIndex p = some (next + 1) ∧
      next ≤ (w.node n).persistent.log.length ∧
      ((w.node p).persistent.currentTerm ≤ (w.node n).persistent.currentTerm →
        matched ≤ agreement (w.node n).persistent.log (w.disk p).log) := by
  have htracks := hsim.node n
  obtain ⟨⟨matched, hmatched⟩, next, hnext⟩ := hbooked n hrole p ((c.mem_peers n p).mpr hp)
  refine ⟨matched, next, hmatched, hnext, ?_, fun hle => ?_⟩
  · have := htracks.next hrole p _ hnext
    omega
  · have hstored := hsim.inv.stored_le_agreement (n := p) (m := n)
      (by rw [htracks.standing, hrole]; rfl)
      (by rw [htracks.term, (hsim.node p).term]; exact hle)
      (htracks.matched hrole p matched hmatched)
    rwa [htracks.log, (hsim.node p).log, ← hsim.disk p] at hstored

/-- What a leader has on record about its peers is right: the matched entries of a peer whose
term is not higher are common to its file and the leader's log, and the next entry lies in the
leader's log or right after it. The requests made from these records name a previous entry
that exists and commit no more than they reach, and a node that receives one, at any later
time, answers without an error. -/
theorem leader_bookkeeping {w : World Id} (hw : c.system.Reachable w) :
    (∀ n, (w.node n).role = .leader → ∀ p, p ≠ n →
      ∃ matched next, (w.node n).matchIndex p = some matched ∧
        (w.node n).nextIndex p = some next ∧
        1 ≤ next ∧ next ≤ (w.node n).persistent.log.length + 1 ∧
        ((w.node p).persistent.currentTerm ≤ (w.node n).persistent.currentTerm →
          matched ≤ agreement (w.node n).persistent.log (w.disk p).log) ∧
        (let request := appendEntriesFor (c.config n) (w.node n) p
         logTerm (w.node n).persistent request.prevLogIndex = some request.prevLogTerm ∧
         request.leaderCommit ≤ request.prevLogIndex + request.entries.length)) ∧
    ∀ p request, (p, request) ∈ w.appendRequests →
      request.leaderCommit ≤ request.prevLogIndex + request.entries.length ∧
      ∃ response, (handleAppendEntries (c.config p) request (w.node p)).result =
        .ok response := by
  obtain ⟨a, -, hsim, -⟩ := c.simulation.reachable hw
  refine ⟨fun n hrole p hp => ?_, fun p request hsent => ?_⟩
  · obtain ⟨matched, next, hmatched, hnext, hle, hagree⟩ :=
      hsim.tables (Cluster.allBooked hw) hrole hp
    refine ⟨matched, next + 1, hmatched, hnext, by omega, by omega, hagree, ?_⟩
    have hrequested := appendEntriesFor_requested hsim.inv (hsim.node n) hrole p
    refine ⟨?_, hrequested.commit_le⟩
    obtain ⟨term, hterm⟩ := logTerm_of_le hle
    rw [appendEntriesFor_eq hnext hle]
    simp [hterm]
  · have hrequested := hsim.appendRequests _ hsent
    exact ⟨hrequested.commit_le, hrequested.answered hsim.inv (hsim.node p)⟩

end Requests

/-- After the first write the leader has recorded that node `1` holds both entries. -/
theorem leader_bookkeeping_firstWrite : ∃ run ∈ Cluster.three.trace? Cluster.three.start
    (firstElection ++ firstWrite), ∃ w ∈ run,
      (w.node 0).role = .leader ∧ (w.node 0).matchIndex 1 = some 2 ∧
      (1, firstRequest 0 0 0 firstEntries) ∈ w.appendRequests ∧
      2 ≤ agreement (w.node 0).persistent.log (w.disk 1).log ∧
      ∃ response, (handleAppendEntries (Cluster.three.config 1) (firstRequest 0 0 0 firstEntries)
        (w.node 1)).result = .ok response := by
  obtain ⟨run, htrace, w, hw, hrole, hmatched, hsent, hterm⟩ :
      ∃ run ∈ Cluster.three.trace? Cluster.three.start (firstElection ++ firstWrite),
        ∃ w ∈ run, (w.node 0).role = .leader ∧ (w.node 0).matchIndex 1 = some 2 ∧
          (1, firstRequest 0 0 0 firstEntries) ∈ w.appendRequests ∧
          (w.node 1).persistent.currentTerm ≤ (w.node 0).persistent.currentTerm := by
    decide +kernel
  have hbookkeeping := leader_bookkeeping ((Cluster.three.isRun_of_trace? htrace).reachable hw)
  obtain ⟨matched, next, hmatched', -, -, -, hagree, -⟩ := hbookkeeping.1 0 hrole 1 (by decide)
  obtain rfl : matched = 2 := some.inj (hmatched'.symm.trans hmatched)
  exact ⟨run, htrace, w, hw, hrole, hmatched, hsent, hagree hterm, (hbookkeeping.2 1 _ hsent).2⟩

end InferLab.ControlPlane
