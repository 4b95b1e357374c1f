import InferLab.ControlPlane.Cluster
import InferLab.ControlPlane.Host

/-!
# One vote per term

A vote is recorded in memory and in the file before it is given, and no section takes a record
back as long as the term does not run into `u64::MAX`. There the saturating increment of
`campaign` leaves the term as it is, and the node stands in a term in which it may have voted.
-/

namespace InferLab.ControlPlane

open List Option

variable {Id α : Type}

/-! ## Records of votes -/

/-- `after` has the vote of `before`, or is in a later term. -/
def KeepsVote (before after : PersistentState Id) : Prop :=
  before.currentTerm < after.currentTerm ∨
    before.currentTerm = after.currentTerm ∧
      (before.votedFor = none ∨ after.votedFor = before.votedFor)

namespace KeepsVote

variable {p p' p'' : PersistentState Id}

lemma refl (p : PersistentState Id) : KeepsVote p p := Or.inr ⟨rfl, Or.inr rfl⟩

lemma trans (h : KeepsVote p p') (h' : KeepsVote p' p'') : KeepsVote p p'' := by
  unfold KeepsVote at *
  rcases h with hlt | ⟨heq, hvote⟩
  · left
    omega
  · rcases h' with hlt' | ⟨heq', hvote'⟩
    · left
      omega
    · refine .inr ⟨heq.trans heq', ?_⟩
      rcases hvote with hnone | hsame
      · exact .inl hnone
      · rw [hsame] at hvote'
        exact hvote'

/-- Changes to the log and the commit index do not touch the vote. -/
theorem of_eq (hterm : p'.currentTerm = p.currentTerm) (hvote : p'.votedFor = p.votedFor) :
    KeepsVote p p' :=
  .inr ⟨hterm.symm, .inr hvote⟩

lemma becomeFollower (state : VolatileState Id) (term : ℕ) (leaderId : Option Id) :
    KeepsVote state.persistent (becomeFollower state term leaderId).persistent := by
  unfold ControlPlane.becomeFollower
  by_cases hnewer : term > state.persistent.currentTerm
  · left
    simp [hnewer]
  · simp only [hnewer, if_false]
    exact refl _

lemma followingState (request : AppendEntriesRequest Id) (state : VolatileState Id) :
    KeepsVote state.persistent (followingState request state).persistent := by
  unfold ControlPlane.followingState
  split_ifs
  · exact becomeFollower state _ _
  · exact refl _

end KeepsVote

/-- The vote `(term, candidate)` is on record, or its term is past. -/
def Recorded (p : PersistentState Id) (vote : ℕ × Id) : Prop :=
  vote.1 < p.currentTerm ∨ vote.1 = p.currentTerm ∧ p.votedFor = some vote.2

lemma Recorded.of_keeps {p p' : PersistentState Id} {vote : ℕ × Id} (h : Recorded p vote)
    (hkeeps : KeepsVote p p') : Recorded p' vote := by
  unfold Recorded KeepsVote at *
  rcases h with hlt | ⟨heq, hvote⟩
  · left
    omega
  · rcases hkeeps with hlt | ⟨hterm, hnone | hsame⟩
    · left
      omega
    · rw [hvote] at hnone
      simp at hnone
    · exact .inr ⟨heq.trans hterm, hsame.trans hvote⟩

/-! ## What the sections do to the vote -/

section Sections

variable [DecidableEq Id] {config : NodeConfig Id} {state : VolatileState Id}

lemma castVote_keeps (changed : Bool) (request : RequestVoteRequest Id)
    (state : VolatileState Id) :
    (castVote changed request state).Always (KeepsVote state.persistent) := by
  unfold castVote
  simp only
  generalize hgranted : ((state.persistent.votedFor == none ||
    state.persistent.votedFor == some request.candidateId) &&
    candidateLogIsAtLeastAsUpToDate _ _ _ _) = granted
  have hkeeps : KeepsVote state.persistent (if granted then
      { state with persistent :=
        { state.persistent with votedFor := some request.candidateId } }
    else state).persistent := by
    cases granted with
    | false => exact .refl _
    | true =>
      simp only [Bool.and_eq_true, Bool.or_eq_true, beq_iff_eq] at hgranted
      refine .inr ⟨rfl, ?_⟩
      rcases hgranted.1 with hnone | hsame
      · exact .inl hnone
      · exact .inr hsame.symm
  exact .persistIf hkeeps (.done hkeeps)

lemma handleRequestVote_keeps (request : RequestVoteRequest Id) (state : VolatileState Id) :
    (handleRequestVote config request state).Always (KeepsVote state.persistent) := by
  unfold handleRequestVote
  refine .requireClusterIdentity (.refl _) (.requireStorage (.refl _) ?_)
  simp only
  have hfollow : KeepsVote state.persistent
      (if decide (request.term > state.persistent.currentTerm) = true then
        becomeFollower state request.term none else state).persistent := by
    split_ifs
    · exact .becomeFollower state _ _
    · exact .refl _
  generalize (if decide (request.term > state.persistent.currentTerm) = true then
    becomeFollower state request.term none else state) = following at hfollow ⊢
  split_ifs
  · exact .done hfollow
  · exact (castVote_keeps _ request following).mono fun _ => hfollow.trans

omit [DecidableEq Id] in
lemma acceptEntries_keeps (request : AppendEntriesRequest Id) (state : VolatileState Id) :
    (acceptEntries request state).Always (KeepsVote state.persistent) := by
  have hcases := acceptEntries_cases request state
  generalize acceptEntries request state = outcome at hcases
  cases hcases with
  | mismatched => exact .done (.refl _)
  | refused => exact .fail (.refl _)
  | stored => exact .persistIf (.of_eq rfl rfl) (.done (.of_eq rfl rfl))
  | unapplied => exact .fail (.of_eq rfl rfl)
  | committed => exact .persistLocked (.of_eq rfl rfl) (.done (.of_eq rfl rfl))

lemma handleAppendEntries_keeps (request : AppendEntriesRequest Id) (state : VolatileState Id) :
    (handleAppendEntries config request state).Always (KeepsVote state.persistent) := by
  have hcases := handleAppendEntries_cases config request state
  generalize handleAppendEntries config request state = outcome at hcases
  cases hcases with
  | refused => exact .fail (.refl _)
  | stale => exact .done (.refl _)
  | accepted =>
    have hfollow := KeepsVote.followingState request state
    have haccept := acceptEntries_keeps request (followingState request state)
    exact .persistIf hfollow (haccept.mono fun _ => hfollow.trans)

/-- A campaign does not run into the end of the terms, or only with the node's own vote. -/
def CampaignFits (config : NodeConfig Id) (p : PersistentState Id) : Prop :=
  p.currentTerm < u64Max ∨
    p.currentTerm = u64Max ∧ (p.votedFor = none ∨ p.votedFor = some config.nodeId)

omit [DecidableEq Id] in
lemma campaignStart_keeps (hfits : CampaignFits config state.persistent) :
    (campaignStart config state).Always (KeepsVote state.persistent) := by
  unfold campaignStart
  split_ifs
  · exact .done (.refl _)
  refine .requireStorage (.refl _) ?_
  have hstands : KeepsVote state.persistent { state.persistent with
      currentTerm := min (state.persistent.currentTerm + 1) u64Max
      votedFor := some config.nodeId } := by
    rcases hfits with hlt | ⟨hterm, hvote⟩
    · left
      simp only
      omega
    · refine .inr ⟨?_, ?_⟩
      · simp only
        omega
      · rcases hvote with hnone | hself
        · exact .inl hnone
        · exact .inr hself.symm
  exact .persistLocked hstands (.done hstands)

lemma campaignEnd_keeps (request : RequestVoteRequest Id)
    (responses : List (Id × Option RequestVoteResponse)) (state : VolatileState Id) :
    (campaignEnd config request responses state).Always (KeepsVote state.persistent) := by
  unfold campaignEnd
  simp only
  split_ifs
  · exact .persistLocked (.becomeFollower state _ _) (.done (.becomeFollower state _ _))
  · exact .persistLocked (.of_eq rfl rfl) (.done (.of_eq rfl rfl))
  · exact .done (.refl _)

lemma recordResponses_persistent (state : VolatileState Id)
    (responses : List (Id × Option AppendEntriesResponse)) :
    (recordResponses state responses).1.persistent = state.persistent := by
  induction responses generalizing state with
  | nil => rfl
  | cons answer rest ih =>
    obtain ⟨peer, _ | response⟩ := answer
    · exact ih state
    · rw [recordResponses]
      split_ifs
      · rfl
      · exact ih _
      · exact ih _

omit [DecidableEq Id] in
lemma commitReplicated_keeps (state : VolatileState Id) :
    (commitReplicated config state).Always (KeepsVote state.persistent) := by
  unfold commitReplicated
  simp only
  split
  · split_ifs
    · exact .applyCommittedLocked (.of_eq rfl rfl) fun _ _ =>
        .persistLocked (.of_eq rfl rfl) (.done (.of_eq rfl rfl))
    · exact .done (.refl _)
  · exact .done (.refl _)

lemma replicateEnd_keeps (term : ℕ) (responses : List (Id × Option AppendEntriesResponse))
    (state : VolatileState Id) :
    (replicateEnd config term responses state).Always (KeepsVote state.persistent) := by
  unfold replicateEnd
  split_ifs
  · exact .done (.refl _)
  have hpersistent := recordResponses_persistent state responses
  generalize recordResponses state responses = recorded at hpersistent
  obtain ⟨state', _ | higher⟩ := recorded
  · rw [← hpersistent]
    exact commitReplicated_keeps state'
  · rw [← hpersistent]
    exact .persistLocked (.becomeFollower state' _ _) (.done (.becomeFollower state' _ _))

lemma writeConfigurationWithFence_keeps (configuration : RoutingConfiguration)
    (expectedRevision : Option ℕ) (writer : Option CommittedWriteProvenance)
    (state : VolatileState Id) :
    (writeConfigurationWithFence config configuration expectedRevision writer state).Always
      (KeepsVote state.persistent) := by
  unfold writeConfigurationWithFence
  split
  · exact .fail (.refl _)
  refine .requireStorage (.refl _) ?_
  split_ifs
  · exact .fail (.refl _)
  simp only
  split
  · exact .fail (.refl _)
  · exact .persistLocked (.of_eq rfl rfl) (.done (.of_eq rfl rfl))

lemma Call.run_keeps (call : Call Id) (state : VolatileState Id)
    (hfits : call = .campaignStart → CampaignFits config state.persistent) :
    (call.run config state).Always (KeepsVote state.persistent) := by
  cases call with
  | requestVote request => exact handleRequestVote_keeps request state
  | appendEntries request => exact handleAppendEntries_keeps request state
  | campaignStart => exact campaignStart_keeps (hfits rfl)
  | campaignEnd request responses => exact campaignEnd_keeps request responses state
  | replicateStart =>
    obtain ⟨hstate, hsaves⟩ := replicateStart_state config state
    exact ⟨by simp [Call.run, Outcome.map, hstate, KeepsVote.refl],
      by simp [Call.run, Outcome.map, hsaves]⟩
  | replicateEnd term responses => exact replicateEnd_keeps term responses state
  | write configuration expectedRevision writer =>
    exact writeConfigurationWithFence_keeps configuration expectedRevision writer state
  | poll pending =>
    obtain ⟨hstate, hsaves⟩ := pollWrite_state pending state
    exact ⟨by simp [Call.run, Outcome.map, hstate, KeepsVote.refl],
      by simp [Call.run, Outcome.map, hsaves]⟩

/-! ## Votes that are given -/

/-- A vote that is given stands in memory and in the file. -/
theorem Call.givenVote_saved {call : Call Id} {vote : ℕ × Id}
    (h : call.givenVote (call.run config state).result = some vote) :
    (call.run config state).saves = [(call.run config state).state.persistent] ∧
      (call.run config state).state.persistent.currentTerm = vote.1 ∧
      (call.run config state).state.persistent.votedFor = some vote.2 := by
  cases call with
  | requestVote request =>
    cases hresult : (handleRequestVote config request state).result with
    | error error => simp [Call.run, Outcome.map, hresult, Except.map, Call.givenVote] at h
    | ok response =>
      simp only [Call.run, Outcome.map, hresult, Except.map, Call.givenVote,
        ite_none_right_eq_some, some.injEq] at h
      obtain ⟨hgranted, rfl⟩ := h
      exact handleRequestVote_granted hresult hgranted
  | campaignStart =>
    cases hresult : (ControlPlane.campaignStart config state).result with
    | error error => simp [Call.run, Outcome.map, hresult, Except.map, Call.givenVote] at h
    | ok request =>
      cases request with
      | none => simp [Call.run, Outcome.map, hresult, Except.map, Call.givenVote] at h
      | some request =>
        simp only [Call.run, Outcome.map, hresult, Except.map, Call.givenVote,
          some.injEq] at h
        obtain rfl := h
        exact campaignStart_stands hresult
  | _ => simp [Call.givenVote] at h

end Sections

/-! ## Runs -/

/-- What may happen so that votes stay single: campaigns fit into the terms. -/
def VotesAllowed (config : NodeConfig Id) (host : Host Id) (happening : Happening Id) : Prop :=
  ∀ call ∈ happening.call?, call = .campaignStart → CampaignFits config host.node.persistent

/-- All votes given are on record, and no two are of one term. -/
structure VotesKept (host : Host Id) : Prop where
  memory : ∀ vote ∈ host.given, Recorded host.node.persistent vote
  file : ∀ vote ∈ host.given, Recorded host.disk vote
  unique : ∀ term candidate candidate', (term, candidate) ∈ host.given →
    (term, candidate') ∈ host.given → candidate = candidate'

namespace VotesKept

variable [DecidableEq Id] {config : NodeConfig Id} {host host' : Host Id}

omit [DecidableEq Id] in
/-- Every file a section can leave has the votes given before it. -/
theorem recorded_fileAfter (h : VotesKept host) {outcome : Outcome Id α}
    (hkeeps : outcome.Always (KeepsVote host.node.persistent)) (saved : ℕ) :
    ∀ vote ∈ host.given, Recorded (Host.fileAfter host.disk outcome saved) vote := by
  intro vote hvote
  rcases Host.fileAfter_cases host.disk outcome saved with hdisk | hmem
  · rw [hdisk]
    exact h.file vote hvote
  · exact (h.memory vote hvote).of_keeps (hkeeps.2 _ hmem)

lemma ran (h : VotesKept host) {call : Call Id}
    (hkeeps : (call.run config host.node).Always (KeepsVote host.node.persistent))
    {given : List (ℕ × Id)}
    (hnew : given = [] ∨ ∃ vote, call.givenVote (call.run config host.node).result = some vote ∧
      given = [vote]) :
    VotesKept {
      node := (call.run config host.node).state
      disk := (call.run config host.node).saves.getLast?.getD host.disk
      given := host.given ++ given } := by
  have hmemory : ∀ vote ∈ host.given,
      Recorded (call.run config host.node).state.persistent vote :=
    fun vote hvote => (h.memory vote hvote).of_keeps hkeeps.1
  have hfile : ∀ vote ∈ host.given,
      Recorded ((call.run config host.node).saves.getLast?.getD host.disk) vote := by
    rw [Host.getLast?_getD_eq_fileAfter]
    exact h.recorded_fileAfter hkeeps _
  rcases hnew with rfl | ⟨vote, hvote, rfl⟩
  · rw [append_nil]
    exact ⟨hmemory, hfile, h.unique⟩
  · obtain ⟨hsaves, hterm, hcandidate⟩ := Call.givenVote_saved hvote
    have hrecorded : Recorded (call.run config host.node).state.persistent vote :=
      .inr ⟨hterm.symm, hcandidate⟩
    -- an earlier vote of the same term is the one on record
    have hsame : ∀ term candidate, (term, candidate) ∈ host.given → term = vote.1 →
        candidate = vote.2 := by
      rintro term candidate hmem rfl
      rcases hmemory _ hmem with hlt | ⟨-, hvoted⟩
      · exact absurd hlt (by simp [hterm])
      · exact some.inj (hvoted.symm.trans hcandidate)
    refine ⟨?_, ?_, ?_⟩
    · exact forall_mem_append.mpr ⟨hmemory, by simpa using hrecorded⟩
    · refine forall_mem_append.mpr ⟨hfile, ?_⟩
      rw [hsaves]
      simpa using hrecorded
    · intro term candidate candidate' hmem hmem'
      simp only [mem_append, mem_singleton] at hmem hmem'
      rcases hmem with hold | rfl
      · rcases hmem' with hold' | rfl
        · exact h.unique term candidate candidate' hold hold'
        · exact hsame _ _ hold rfl
      · rcases hmem' with hold' | heq
        · exact (hsame _ _ hold' rfl).symm
        · exact (Prod.mk.inj heq).2.symm

lemma step (h : VotesKept host) {happening : Happening Id}
    (hallowed : VotesAllowed config host happening)
    (hstep : host.step? config happening = some host') : VotesKept host' := by
  have hkeeps : ∀ call ∈ happening.call?,
      (call.run config host.node).Always (KeepsVote host.node.persistent) :=
    fun call hcall => call.run_keeps host.node (hallowed call hcall)
  cases Host.step?_cases hstep with
  | ran mem given new => exact h.ran (hkeeps _ mem) new
  | failed mem saved memory saves error =>
    exact ⟨fun vote hvote => (h.memory vote hvote).of_keeps ((hkeeps _ mem).2 _ saves),
      h.recorded_fileAfter (hkeeps _ mem) saved, h.unique⟩
  | @opened file disk node source opens =>
    obtain ⟨hpersistent, hdisk, -⟩ := openNode_ok opens
    have hfile : ∀ vote ∈ host.given, Recorded file vote := by
      intro vote hvote
      rcases source with rfl | ⟨call, hcall, hmem⟩
      · exact h.file vote hvote
      · exact (h.memory vote hvote).of_keeps ((hkeeps call hcall).2 _ hmem)
    have hnode : ∀ vote ∈ host.given, Recorded node.persistent vote := by
      rw [hpersistent]
      exact hfile
    exact ⟨hnode, hdisk ▸ hnode, h.unique⟩

end VotesKept

/-- In every run in which no campaign runs into the end of the terms with the node's vote given
away, the node gives its vote to one candidate in each term. -/
theorem single_vote_per_term [DecidableEq Id] {config : NodeConfig Id} {host : Host Id}
    (hreachable : (Host.system config (VotesAllowed config)).Reachable host)
    {term : ℕ} {candidate candidate' : Id} (h : (term, candidate) ∈ host.given)
    (h' : (term, candidate') ∈ host.given) : candidate = candidate' := by
  have hkept : VotesKept host := by
    refine hreachable.invariant ?_ ?_
    · rintro host ⟨hgiven, -⟩
      exact ⟨by simp [hgiven], by simp [hgiven], by simp [hgiven]⟩
    · rintro host host' hkept ⟨happening, hallowed, hstep⟩
      exact hkept.step hallowed hstep
  exact hkept.unique term candidate candidate' h h'

/-- A request for the vote in a term by a candidate with an empty log. -/
def voteRequest (term : ℕ) (candidateId : Cluster.Member) :
    RequestVoteRequest Cluster.Member where
  clusterId := "inferlab-default"
  term
  candidateId
  lastLogIndex := 0
  lastLogTerm := 0

/-- In the last term a node votes for another one, and then stands itself. -/
theorem votes_twice_in_last_term :
    ∃ host, (Host.system (Cluster.three.config 0) fun _ _ => True).Reachable host ∧
      (u64Max, 1) ∈ host.given ∧ (u64Max, 0) ∈ host.given := by
  obtain ⟨host, hrun, hgiven⟩ := map_eq_some_iff.mp
    (show ([.serve (.requestVote (voteRequest u64Max 1)), .serve .campaignStart].foldlM
        (Host.step? (Cluster.three.config 0)) (Host.fresh (Cluster.three.config 0))).map
        Host.given = some [(u64Max, 1), (u64Max, 0)] by decide +kernel)
  have hsteps : (Host.system (Cluster.three.config 0) fun _ _ => True).Steps
      (Host.fresh (Cluster.three.config 0)) host :=
    System.Steps.of_actions (fun _ happening _ h => ⟨happening, trivial, h⟩) hrun
  exact ⟨host, ⟨_, Host.init_fresh _ _, hsteps⟩, by simp [hgiven], by simp [hgiven]⟩

/-- Two candidates ask in one term, with a restart between them, and then the node stands. -/
def voteHappenings : List (Happening Cluster.Member) :=
  [.serve (.requestVote (voteRequest 5 1)), .restart, .serve (.requestVote (voteRequest 5 2)),
    .crash .campaignStart 1, .serve .campaignStart]

theorem single_vote_per_term_restarted :
    ∃ host, (Host.system (Cluster.three.config 0)
        (VotesAllowed (Cluster.three.config 0))).Reachable host ∧
      (5, 1) ∈ host.given ∧ (7, 0) ∈ host.given ∧
      ∀ candidate, (5, candidate) ∈ host.given → candidate = 1 := by
  obtain ⟨host, hrun, hgiven⟩ := map_eq_some_iff.mp
    (show (voteHappenings.foldlM (fun host happening =>
        if host.node.persistent.currentTerm < u64Max then
          host.step? (Cluster.three.config 0) happening
        else none) (Host.fresh (Cluster.three.config 0))).map Host.given =
        some [(5, 1), (7, 0)] by decide +kernel)
  have hsteps : (Host.system (Cluster.three.config 0)
      (VotesAllowed (Cluster.three.config 0))).Steps
      (Host.fresh (Cluster.three.config 0)) host := by
    refine System.Steps.of_actions (fun s happening s' h => ?_) hrun
    simp only [ite_none_right_eq_some] at h
    exact ⟨happening, fun _ _ _ => .inl h.1, h.2⟩
  have hreachable : (Host.system (Cluster.three.config 0)
      (VotesAllowed (Cluster.three.config 0))).Reachable host :=
    ⟨_, Host.init_fresh _ _, hsteps⟩
  have hfirst : (5, 1) ∈ host.given := by simp [hgiven]
  exact ⟨host, hreachable, hfirst, by simp [hgiven],
    fun candidate hcandidate => single_vote_per_term hreachable hcandidate hfirst⟩

end InferLab.ControlPlane
