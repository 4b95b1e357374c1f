import InferLab.ControlPlane.LeaderTheorems

/-!
# The cluster refines the protocol

`Sim` relates a world to a state of the abstract protocol: every node is tracked, every disk
holds what its node has in memory, and everything sent or in progress reports something that
has happened. Every step of the cluster is some moves of one node (`Sim.step`), so the
cluster inherits what the protocol guarantees (`Cluster.simulation`).
-/

namespace InferLab.ControlPlane

open Consensus Option List

variable {Id : Type} [DecidableEq Id] [Fintype Id]

/-- `a` is the state of the protocol that `w` is in. -/
structure Sim (c : Cluster Id) (w : World Id) (a : State Id LogEntry) : Prop where
  inv : (raft Id).Inv a
  node : ∀ n, Tracks c a n (w.node n)
  disk : ∀ n, w.disk n = (w.node n).persistent
  campaign : ∀ n, ∀ request ∈ w.campaign n,
    request.candidateId = n ∧ VoteRequested c a request
  round : ∀ n, ∀ round ∈ w.round n, ∀ sent ∈ round.2, sent.2.term = round.1
  write : ∀ n, ∀ pending ∈ w.write n, Proposed a pending
  voteRequests : ∀ message ∈ w.voteRequests, VoteRequested c a message.2
  voteReplies : ∀ message ∈ w.voteReplies, Voted a message.1 message.2.1 message.2.2
  appendRequests : ∀ message ∈ w.appendRequests, AppendRequested c a message.2
  appendReplies : ∀ message ∈ w.appendReplies, Appended a message.1 message.2.1 message.2.2

namespace Sim

variable {c : Cluster Id} {w : World Id} {a a' : State Id LogEntry} {n : Id}

/-! ## Calls in progress -/

lemma setCampaign (h : Sim c w a) (n : Id) (campaign : Option (RequestVoteRequest Id))
    (hnew : ∀ request ∈ campaign, request.candidateId = n ∧ VoteRequested c a request) :
    Sim c { w with campaign := Function.update w.campaign n campaign } a where
  __ := h
  campaign m request hm := by
    rcases eq_or_ne m n with rfl | hne
    · exact hnew request (by simpa using hm)
    · exact h.campaign m request (by simpa [hne] using hm)

lemma setRound (h : Sim c w a) (n : Id)
    (round : Option (ℕ × List (Id × AppendEntriesRequest Id)))
    (hnew : ∀ r ∈ round, ∀ sent ∈ r.2, sent.2.term = r.1) :
    Sim c { w with round := Function.update w.round n round } a where
  __ := h
  round m r hm := by
    rcases eq_or_ne m n with rfl | hne
    · exact hnew r (by simpa using hm)
    · exact h.round m r (by simpa [hne] using hm)

lemma setWrite (h : Sim c w a) (n : Id) (write : Option PendingWrite)
    (hnew : ∀ pending ∈ write, Proposed a pending) :
    Sim c { w with write := Function.update w.write n write } a where
  __ := h
  write m pending hm := by
    rcases eq_or_ne m n with rfl | hne
    · exact hnew pending (by simpa using hm)
    · exact h.write m pending (by simpa [hne] using hm)

/-! ## A node changes -/

/-- The node `n` has moved on, and is tracked again; all reports of the past stay true. -/
theorem setNode (h : Sim c w a) (hmoves : (raft Id).Moves n a a') {state : VolatileState Id}
    {file : PersistentState Id} (hfile : file = state.persistent) (htracks : Tracks c a' n state) :
    Sim c { w with
      node := Function.update w.node n state
      disk := Function.update w.disk n file } a' := by
  obtain ⟨hinv, hext⟩ := h.inv.moves hmoves
  refine
    { inv := hinv
      node := fun m => ?_
      disk := fun m => ?_
      campaign := fun m request hm => ?_
      round := h.round
      write := fun m pending hm => (h.write m pending hm).mono hext
      voteRequests := fun message hm => (h.voteRequests message hm).mono hext
      voteReplies := fun message hm => (h.voteReplies message hm).mono hext
      appendRequests := fun message hm => (h.appendRequests message hm).mono hext
      appendReplies := fun message hm => (h.appendReplies message hm).mono hext }
  · rcases eq_or_ne m n with rfl | hne
    · simpa using htracks
    · simpa [hne] using (h.node m).frame hext (hmoves.sameAt hne)
  · rcases eq_or_ne m n with rfl | hne
    · simpa using hfile
    · simpa [hne] using h.disk m
  · obtain ⟨hid, hrequested⟩ := h.campaign m request hm
    exact ⟨hid, hrequested.mono hext⟩

/-- What a section leads to: moves to every state it saves, and to the world after it. -/
structure Follows (c : Cluster Id) (a : State Id LogEntry) (attempt : Attempt Id) : Prop where
  saves : ∀ saved ∈ attempt.saves, ∃ a', (raft Id).Moves attempt.node a a' ∧
    Advanced a a' attempt.node ∧ Stores c a' attempt.node saved
  next : ∃ a', (raft Id).Moves attempt.node a a' ∧ Advanced a a' attempt.node ∧
    Sim c attempt.next a'

/-- A section that refines the protocol is followed by the world, when what is made of its
result is true. -/
theorem finish {α : Type} (h : Sim c w a) {outcome : Outcome Id α}
    {post : Except (RaftError Id) α → State Id LogEntry → Prop}
    (hrefines : Refines c a n (w.node n).persistent outcome post)
    {after : World Id → Except (RaftError Id) α → World Id}
    (hafter : ∀ w' a', Sim c w' a' → post outcome.result a' →
      Sim c (after w' outcome.result) a') : Follows c a (w.finish n outcome after) where
  saves := hrefines.saves
  next := by
    obtain ⟨a', hmoves, hadv, htracks, hpost⟩ := hrefines.ends
    refine ⟨a', hmoves, hadv, hafter _ a' (h.setNode hmoves ?_ htracks) hpost⟩
    rw [h.disk]
    exact hrefines.last

/-- Every section that can run is followed. -/
theorem attempt (h : Sim c w a) (hbound : Cluster.Bounded w)
    {event : Event Id} {attempt : Attempt Id} (hattempt : c.attempt w event = some attempt) :
    Follows c a attempt := by
  cases event with
  | campaignStart n =>
    simp only [Cluster.attempt, ite_none_right_eq_some, some.injEq] at hattempt
    obtain ⟨-, rfl⟩ := hattempt
    refine h.finish (campaignStart_refines h.inv (h.node n) (hbound n)) fun w' a' hw' hpost => ?_
    split
    · rename_i request hresult
      obtain ⟨hid, hrequested⟩ := hpost request hresult
      refine { hw'.setCampaign n (some request) (by simpa using ⟨hid, hrequested⟩) with
        voteRequests := forall_mem_append.mpr ⟨hw'.voteRequests, ?_⟩ }
      simpa using fun _ _ => hrequested
    · exact hw'
  | campaignEnd n responses =>
    simp only [Cluster.attempt] at hattempt
    split at hattempt
    · simp at hattempt
    rename_i request hcampaign
    simp only [ite_none_right_eq_some, some.injEq] at hattempt
    obtain ⟨⟨hpeers, hanswers⟩, rfl⟩ := hattempt
    obtain ⟨hid, hrequested⟩ := h.campaign n request hcampaign
    refine h.finish (campaignEnd_refines h.inv (h.node n) hrequested hid hpeers ?_)
      fun w' a' hw' _ => hw'.setCampaign n none (by simp)
    exact fun answer hanswer response hresponse =>
      h.voteReplies _ (hanswers answer hanswer response hresponse)
  | requestVote n request =>
    simp only [Cluster.attempt, ite_none_right_eq_some, some.injEq] at hattempt
    obtain ⟨hsent, rfl⟩ := hattempt
    refine h.finish (handleRequestVote_refines h.inv (h.node n) (h.voteRequests _ hsent))
      fun w' a' hw' hpost => ?_
    split
    · rename_i response hresult
      refine { hw' with voteReplies := forall_mem_append.mpr ⟨hw'.voteReplies, ?_⟩ }
      simpa using hpost response hresult
    · exact hw'
  | replicateStart n =>
    simp only [Cluster.attempt, ite_none_right_eq_some, some.injEq] at hattempt
    obtain ⟨-, rfl⟩ := hattempt
    refine h.finish (replicateStart_refines h.inv (h.node n)) fun w' a' hw' hpost => ?_
    split
    · rename_i round hresult
      have hround := hpost round hresult
      exact { hw'.setRound n (some round)
          (by simpa using fun p r hsent => (hround (p, r) hsent).1) with
        appendRequests := forall_mem_append.mpr
          ⟨hw'.appendRequests, fun sent hsent => (hround sent hsent).2⟩ }
    · exact hw'
  | replicateEnd n responses =>
    simp only [Cluster.attempt] at hattempt
    split at hattempt
    · simp at hattempt
    rename_i term requests hround
    simp only [ite_none_right_eq_some, some.injEq] at hattempt
    obtain ⟨⟨hpeers, hanswers⟩, rfl⟩ := hattempt
    refine h.finish (replicateEnd_refines h.inv (h.node n) ?_)
      fun w' a' hw' _ => hw'.setRound n none (by simp)
    intro answer hanswer response hresponse hsuccess
    -- the request this response answers was sent in the term of the round
    obtain ⟨sent, hsent⟩ : ∃ sent, (answer, sent) ∈ responses.zip requests := by
      have hlen : responses.length = requests.length := by
        simpa using congrArg List.length hpeers
      obtain ⟨i, hi⟩ := List.getElem?_of_mem hanswer
      obtain ⟨hlt, -⟩ := List.getElem?_eq_some_iff.mp hi
      have hsent : requests[i]? = some (requests[i]) := List.getElem?_eq_getElem (by omega)
      exact ⟨_, mem_of_getElem? (List.getElem?_zip_eq_some.mpr ⟨hi, hsent⟩)⟩
    have happended := h.appendReplies _ (hanswers _ hsent response hresponse) hsuccess
    have hterm : sent.2.term = term := h.round n _ hround sent (of_mem_zip hsent).2
    rw [← hterm]
    exact happended.2
  | appendEntries n request =>
    simp only [Cluster.attempt, ite_none_right_eq_some, some.injEq] at hattempt
    obtain ⟨hsent, rfl⟩ := hattempt
    refine h.finish (handleAppendEntries_refines h.inv (h.node n) (h.appendRequests _ hsent))
      fun w' a' hw' hpost => ?_
    split
    · rename_i response hresult
      refine { hw' with appendReplies := forall_mem_append.mpr ⟨hw'.appendReplies, ?_⟩ }
      simpa using hpost response hresult
    · exact hw'
  | write n configuration expectedRevision writer =>
    simp only [Cluster.attempt, ite_none_right_eq_some, some.injEq] at hattempt
    obtain ⟨-, rfl⟩ := hattempt
    refine h.finish (writeConfigurationWithFence_refines h.inv (h.node n) configuration
      expectedRevision writer) fun w' a' hw' hpost => ?_
    split
    · rename_i pending hresult
      exact hw'.setWrite n (some pending) (by simpa using hpost pending hresult)
    · exact hw'
  | poll n =>
    simp only [Cluster.attempt] at hattempt
    split at hattempt
    · simp at hattempt
    rename_i pending hwrite
    simp only [some.injEq] at hattempt
    obtain rfl := hattempt
    refine h.finish (pollWrite_refines (h.node n) pending) fun w' a' hw' _ => ?_
    split
    · exact hw'
    · exact hw'.setWrite n none (by simp)

/-! ## Steps -/

/-- A node that crashes reopens on what it has saved. -/
theorem reopen (h : Sim c w a) (hmoves : (raft Id).Moves n a a') {file : PersistentState Id}
    (hstores : Stores c a' n file) : ∃ w', c.reopen w n file = some w' ∧ Sim c w' (a'.rest n) := by
  obtain ⟨hinv, -⟩ := h.inv.moves hmoves
  obtain ⟨state, hopen, htracks, hpersistent⟩ := openNode_eq hinv hstores
  have hrest : (raft Id).Moves n a (a'.rest n) := hmoves.trans (Protocol.Step.rest a').moves
  have hset := h.setNode hrest hpersistent.symm htracks
  refine ⟨_, by rw [Cluster.reopen, hopen], ?_⟩
  exact ((hset.setCampaign n none (by simp)).setRound n none (by simp)).setWrite n none (by simp)

/-- Every step of the cluster is some moves of one node. -/
theorem step (h : Sim c w a) (hbound : Cluster.Bounded w)
    {action : Action Id} {w' : World Id} (hstep : c.step? w action = some w') :
    ∃ n a', (raft Id).Moves n a a' ∧ Advanced a a' n ∧ Sim c w' a' := by
  have hreopen : ∀ n a' file, (raft Id).Moves n a a' → Advanced a a' n → Stores c a' n file →
      c.reopen w n file = some w' →
      ∃ n a', (raft Id).Moves n a a' ∧ Advanced a a' n ∧ Sim c w' a' := by
    intro n a' file hmoves hadv hstores hw'
    obtain ⟨w'', hw'', hsim⟩ := h.reopen hmoves hstores
    obtain rfl : w'' = w' := some.inj (hw''.symm.trans hw')
    exact ⟨n, a'.rest n, hmoves.trans (Protocol.Step.rest a').moves, hadv, hsim⟩
  have hdisk : ∀ n, Stores c a n (w.disk n) := fun n => h.disk n ▸ (h.node n).toStores
  cases action with
  | run event =>
    simp only [Cluster.step?, map_eq_some_iff] at hstep
    obtain ⟨attempt, hattempt, rfl⟩ := hstep
    obtain ⟨a', hmoves, hadv, hsim⟩ := (h.attempt hbound hattempt).next
    exact ⟨attempt.node, a', hmoves, hadv, hsim⟩
  | crash event saved =>
    simp only [Cluster.step?] at hstep
    split at hstep
    · rename_i attempt hattempt
      cases hlast : (attempt.saves.take saved).getLast? with
      | none =>
        rw [hlast] at hstep
        exact hreopen _ a _ (.refl a) (.inl rfl) (hdisk _) hstep
      | some file =>
        rw [hlast] at hstep
        have hmem := take_subset _ _ (mem_of_getLast? hlast)
        obtain ⟨a', hmoves, hadv, hstores⟩ := (h.attempt hbound hattempt).saves file hmem
        exact hreopen _ a' file hmoves hadv hstores hstep
    · simp at hstep
  | restart n => exact hreopen n a _ (.refl a) (.inl rfl) (hdisk n) hstep
  | abandonCampaign n =>
    obtain rfl := some.inj hstep
    exact ⟨n, a, .refl a, .inl rfl, h.setCampaign n none (by simp)⟩
  | abandonRound n =>
    obtain rfl := some.inj hstep
    exact ⟨n, a, .refl a, .inl rfl, h.setRound n none (by simp)⟩
  | abandonWrite n =>
    obtain rfl := some.inj hstep
    exact ⟨n, a, .refl a, .inl rfl, h.setWrite n none (by simp)⟩

end Sim

namespace Cluster

variable (c : Cluster Id)

lemma sim_start : Sim c c.start Protocol.init where
  inv := Protocol.inv_init
  node n := by
    refine ⟨⟨rfl, rfl, rfl, rfl, c.clusterId_eq n⟩, rfl, rfl, rfl, rfl, ?_, ?_⟩
    · simp [start, openedState]
    · simp [start, openedState]
  disk _ := rfl
  campaign := by simp [start]
  round := by simp [start]
  write := by simp [start]
  voteRequests := by simp [start]
  voteReplies := by simp [start]
  appendRequests := by simp [start]
  appendReplies := by simp [start]

/-- The cluster, with its terms below `u64::MAX`, refines the protocol. -/
theorem simulation : System.Simulation c.system (raft Id).system
    fun w a => Sim c w a ∧ Bounded w where
  init w hw := by
    obtain rfl : w = c.start := hw
    exact ⟨Protocol.init, rfl, c.sim_start, fun n => by
      simp [start, openedState, PersistentState.default, u64Max]⟩
  step w w' a h hstep := by
    obtain ⟨hsim, hbound⟩ := h
    obtain ⟨⟨action, haction⟩, hbound'⟩ := hstep
    obtain ⟨n, a', hmoves, -, hsim'⟩ := hsim.step hbound haction
    exact ⟨a', hmoves.steps, hsim', hbound'⟩

/-- Whenever a node can crash, it reopens: what it has saved is never refused. -/
theorem crash_reopens {w : World Id} (hw : c.system.Reachable w) {event : Event Id}
    {attempt : Attempt Id} (hattempt : c.attempt w event = some attempt) (saved : ℕ) :
    ∃ w', c.step? w (.crash event saved) = some w' := by
  obtain ⟨a, -, hsim, hbound⟩ := c.simulation.reachable hw
  simp only [step?, hattempt]
  cases hlast : (attempt.saves.take saved).getLast? with
  | none =>
    have hstores : Stores c a attempt.node (w.disk attempt.node) :=
      hsim.disk attempt.node ▸ (hsim.node attempt.node).toStores
    obtain ⟨w', hw', -⟩ := hsim.reopen (.refl a) hstores
    exact ⟨w', hw'⟩
  | some file =>
    have hmem := take_subset _ _ (mem_of_getLast? hlast)
    obtain ⟨a', hmoves, -, hstores⟩ := (hsim.attempt hbound hattempt).saves file hmem
    obtain ⟨w', hw', -⟩ := hsim.reopen hmoves hstores
    exact ⟨w', hw'⟩

end Cluster

end InferLab.ControlPlane
