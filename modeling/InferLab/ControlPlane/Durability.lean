import InferLab.ControlPlane.Host
import InferLab.ControlPlane.Safety

/-!
# What a node has acknowledged is in its file

A node answers a request for a vote or for entries only when its file holds what it has in
memory, through failed saves, failed requests and crashes. This rests on one condition:
`handle_append_entries` raises the commit index in memory and then checks the configurations it
covers. Where one is invalid the request fails between the change and its save, and the node
goes on with a log that its file does not have.
-/

namespace InferLab.ControlPlane

open List Option

variable {Id α : Type}

/-! ## States that can be saved and reopened -/

/-- The checks at the next start will pass. -/
structure Reopens (config : NodeConfig Id) (p : PersistentState Id) : Prop where
  wellFormed : p.WellFormed config.clusterId
  valid : ∀ e ∈ p.log.take p.commitIndex, ValidCommand e

/-- All states a section leaves or saves can be reopened, and the last of them is in the
file, which held `file` before. -/
structure Saved (config : NodeConfig Id) (file : PersistentState Id) (outcome : Outcome Id α) :
    Prop where
  always : outcome.Always (Reopens config)
  last : outcome.saves.getLast?.getD file = outcome.state.persistent

section Rules

variable {config : NodeConfig Id} {file : PersistentState Id} {state : VolatileState Id}

namespace Saved

lemma done {value : α} (h : Reopens config state.persistent) :
    Saved config state.persistent (.done state value) :=
  ⟨.done h, rfl⟩

lemma fail {error : RaftError Id} (h : Reopens config state.persistent) :
    Saved config state.persistent (.fail state error : Outcome Id α) :=
  ⟨.fail h, rfl⟩

/-- A save that may be needed brings the file up to date. -/
theorem persistLocked {next : VolatileState Id → Outcome Id α}
    (h : Reopens config state.persistent) (hnext : Saved config state.persistent (next state)) :
    Saved config file (persistLocked state next) := by
  rw [persistLocked_eq h.wellFormed config.clusterId_ok]
  refine ⟨⟨hnext.always.1, forall_mem_cons.mpr ⟨h, hnext.always.2⟩⟩, ?_⟩
  have hlast := hnext.last
  simpa [List.getLast?_cons] using hlast

lemma persistIf {changed : Bool} {next : VolatileState Id → Outcome Id α}
    (hfile : changed = false → file = state.persistent) (h : Reopens config state.persistent)
    (hnext : Saved config state.persistent (next state)) :
    Saved config file (persistIf changed state next) := by
  cases changed with
  | false =>
    rw [hfile rfl]
    exact hnext
  | true => exact .persistLocked h hnext

end Saved

lemma Reopens.of_eq {p p' : PersistentState Id} (h : Reopens config p)
    (hid : p'.clusterId = p.clusterId) (hlog : p'.log = p.log)
    (hcommit : p'.commitIndex = p.commitIndex) : Reopens config p' where
  wellFormed := by
    refine ⟨hid.trans h.wellFormed.clusterId_eq, ?_, ?_⟩
    · rw [hlog, hcommit]
      exact h.wellFormed.commitIndex_le
    · rw [hlog]
      exact h.wellFormed.indexed
  valid := by
    rw [hlog, hcommit]
    exact h.valid

lemma Reopens.openNode_eq (h : Reopens config file) :
    ∃ node, openNode config file = .ok (node, file) ∧ node.persistent = file :=
  ⟨_, openNode_wellFormed h.wellFormed h.valid, rfl⟩

lemma reopens_of_openNode {disk : PersistentState Id} {node : VolatileState Id}
    (h : openNode config file = .ok (node, disk)) : Reopens config node.persistent := by
  obtain ⟨hpersistent, -, -, hcheck, applied, happly⟩ := openNode_ok h
  have hwell := PersistentState.wellFormed_of_validate hcheck
  refine ⟨?_, valid_of_applyCommitted happly⟩
  rwa [hpersistent] at hwell ⊢

/-! ## Votes -/

variable [DecidableEq Id]

lemma castVote_saved {changed : Bool} (request : RequestVoteRequest Id)
    (h : Reopens config state.persistent) (hfile : changed = false → file = state.persistent) :
    Saved config file (castVote changed request state) := by
  unfold castVote
  simp only
  generalize ((state.persistent.votedFor == none ||
    state.persistent.votedFor == some request.candidateId) &&
    candidateLogIsAtLeastAsUpToDate _ _ _ _) = granted
  cases granted with
  | false =>
    rw [Bool.or_false, if_neg (by simp)]
    exact .persistIf hfile h (.done h)
  | true =>
    rw [Bool.or_true, if_pos rfl]
    have hvoted : Reopens config
        { state.persistent with votedFor := some request.candidateId } := h.of_eq rfl rfl rfl
    exact .persistIf (by simp) hvoted (.done hvoted)

omit [DecidableEq Id] in
lemma becomeFollower_reopens (h : Reopens config state.persistent) (term : ℕ)
    (leaderId : Option Id) : Reopens config (becomeFollower state term leaderId).persistent := by
  unfold becomeFollower
  simp only
  split_ifs
  · exact h.of_eq rfl rfl rfl
  · exact h

lemma handleRequestVote_saved (request : RequestVoteRequest Id)
    (h : Reopens config state.persistent) :
    Saved config state.persistent (handleRequestVote config request state) := by
  unfold handleRequestVote requireClusterIdentity requireStorage
  split_ifs
  · split
    · exact .fail h
    by_cases hnewer : request.term > state.persistent.currentTerm
    · have hterm : (becomeFollower state request.term none).persistent.currentTerm =
          request.term := by
        simp [becomeFollower, hnewer]
      simp only [decide_eq_true hnewer, if_true, hterm, lt_irrefl, if_false]
      exact castVote_saved request (becomeFollower_reopens h _ _) (by simp)
    · simp only [decide_eq_false hnewer, Bool.false_eq_true, if_false]
      split_ifs
      · exact .done h
      · exact castVote_saved request h fun _ => rfl
  · exact .fail h

/-! ## Entries -/

/-- Every configuration that the request makes the node count as committed is valid. -/
def Appliable (config : NodeConfig Id) (request : AppendEntriesRequest Id)
    (state : VolatileState Id) : Prop :=
  request.clusterId = config.clusterId → state.storageError = none →
    state.persistent.currentTerm ≤ request.term →
    ∀ log changed, Merges request state.persistent log changed →
      ∀ e ∈ log.take (min request.leaderCommit log.length), ValidCommand e

section Entries

variable {request : AppendEntriesRequest Id} {log : List LogEntry} {changed : Bool}

omit [DecidableEq Id] in
/-- Where all configurations are valid, those that a request commits are. -/
theorem Appliable.of_valid (hlog : ∀ e ∈ state.persistent.log, ValidCommand e)
    (hentries : ∀ e ∈ request.entries, ValidCommand e) : Appliable config request state := by
  intro _ _ _ log changed hmerges e he
  have hmem : e ∈ log := take_subset _ _ he
  rw [hmerges.log_eq, Consensus.overlay] at hmem
  split_ifs at hmem
  · exact hlog e hmem
  · rcases mem_append.mp hmem with hold | hnew
    · exact hlog e (take_subset _ _ hold)
    · exact hentries e hnew

omit [DecidableEq Id] in
lemma Merges.take_commitIndex (h : Merges request state.persistent log changed)
    (hreopens : Reopens config state.persistent) :
    log.take state.persistent.commitIndex =
      state.persistent.log.take state.persistent.commitIndex :=
  mergeEntries_take hreopens.wellFormed.commitIndex_le h.merge

omit [DecidableEq Id] in
lemma Merges.reopens (h : Merges request state.persistent log changed)
    (hreopens : Reopens config state.persistent) :
    Reopens config (mergedState state log).persistent where
  wellFormed := by
    refine ⟨hreopens.wellFormed.clusterId_eq, ?_, h.indexed hreopens.wellFormed.indexed⟩
    have hlength := congrArg List.length (h.take_commitIndex hreopens)
    have hle := hreopens.wellFormed.commitIndex_le
    simp only [length_take] at hlength
    simp only [mergedState]
    omega
  valid := by
    simp only [mergedState]
    rw [h.take_commitIndex hreopens]
    exact hreopens.valid

omit [DecidableEq Id] in
lemma Merges.reopens_committing (h : Merges request state.persistent log changed)
    (hreopens : Reopens config state.persistent)
    (hvalid : ∀ e ∈ log.take (min request.leaderCommit log.length), ValidCommand e) :
    Reopens config
      (committingState state log (min request.leaderCommit log.length)).persistent where
  wellFormed := ⟨hreopens.wellFormed.clusterId_eq, Nat.min_le_right _ _,
    h.indexed hreopens.wellFormed.indexed⟩
  valid := hvalid

omit [DecidableEq Id] in
lemma acceptEntries_saved (hreopens : Reopens config state.persistent)
    (hvalid : ∀ log changed, Merges request state.persistent log changed →
      ∀ e ∈ log.take (min request.leaderCommit log.length), ValidCommand e) :
    Saved config state.persistent (acceptEntries request state) := by
  have hcases := acceptEntries_cases request state
  generalize acceptEntries request state = outcome at hcases
  cases hcases with
  | mismatched => exact .done hreopens
  | refused => exact .fail hreopens
  | @stored log changed merges le =>
    have hmerged := merges.reopens hreopens
    refine .persistIf (fun hsame => ?_) hmerged (.done hmerged)
    subst hsame
    simp only [mergedState, merges.log_eq_of_unchanged]
  | @unapplied log changed error merges lt apply =>
    have hvalid' := hvalid log changed merges
    rw [applyCommitted_eq hvalid'] at apply
    simp at apply
  | @committed log changed lastApplied committedConfiguration merges lt apply =>
    have hcommitting := merges.reopens_committing hreopens (hvalid log changed merges)
    exact .persistLocked hcommitting (.done hcommitting)

lemma handleAppendEntries_saved (hreopens : Reopens config state.persistent)
    (hvalid : Appliable config request state) :
    Saved config state.persistent (handleAppendEntries config request state) := by
  have hcases := handleAppendEntries_cases config request state
  generalize handleAppendEntries config request state = outcome at hcases
  cases hcases with
  | refused => exact .fail hreopens
  | stale => exact .done hreopens
  | accepted identity healthy le =>
    have hfollowing : Reopens config (followingState request state).persistent :=
      hreopens.of_eq (by simp) (by simp) (by simp)
    refine .persistIf (fun hsame => ?_) hfollowing (acceptEntries_saved hfollowing ?_)
    · exact (followingState_persistent_of_not_newer request state (by simpa using hsame)).symm
    · intro log changed hmerges
      exact hvalid identity healthy le log changed ((merges_following_iff request state).mp hmerges)

omit [DecidableEq Id] in
/-- A request over an invalid configuration fails after it has raised the commit index. -/
theorem acceptEntries_unsaved (hreopens : Reopens config state.persistent)
    (hmerges : Merges request state.persistent log changed) {e : LogEntry}
    (he : e ∈ log.take (min request.leaderCommit log.length)) (hinvalid : ¬ ValidCommand e) :
    (acceptEntries request state).saves = [] ∧
      (∃ error, (acceptEntries request state).result = .error error) ∧
      state.persistent.commitIndex <
        (acceptEntries request state).state.persistent.commitIndex := by
  have hcases := acceptEntries_cases request state
  generalize acceptEntries request state = outcome at hcases
  cases hcases with
  | mismatched previous =>
    have htrue := hmerges.previous
    simp [previous] at htrue
  | refused error unmerged => exact absurd hmerges (unmerged log changed)
  | stored merges le =>
    -- what was committed before is valid
    obtain rfl := hmerges.log_unique merges
    refine absurd (hreopens.valid e ?_) hinvalid
    rw [← merges.take_commitIndex hreopens]
    exact take_subset_take_left _ le he
  | unapplied merges lt apply =>
    obtain rfl := hmerges.log_unique merges
    exact ⟨rfl, ⟨_, rfl⟩, lt⟩
  | committed merges lt apply =>
    obtain rfl := hmerges.log_unique merges
    exact absurd (valid_of_applyCommitted apply e he) hinvalid

lemma handleAppendEntries_unsaved (hreopens : Reopens config state.persistent)
    (hnot : ¬ Appliable config request state) :
    (∃ error, (handleAppendEntries config request state).result = .error error) ∧
      (handleAppendEntries config request state).saves.getLast?.getD state.persistent ≠
        (handleAppendEntries config request state).state.persistent := by
  simp only [Appliable, not_forall] at hnot
  obtain ⟨hidentity, hhealthy, hle, log, changed, hmerges, e, he, hinvalid⟩ := hnot
  have hfollowing : Reopens config (followingState request state).persistent :=
    hreopens.of_eq (by simp) (by simp) (by simp)
  obtain ⟨hsaves, herror, hlt⟩ := acceptEntries_unsaved hfollowing
    ((merges_following_iff request state).mpr hmerges) he hinvalid
  rw [followingState_commitIndex] at hlt
  have hcases := handleAppendEntries_cases config request state
  generalize handleAppendEntries config request state = outcome at hcases
  cases hcases with
  | refused error why =>
    rcases why with hother | hfailed
    · exact absurd hidentity hother
    · exact absurd hhealthy hfailed
  | stale _ lt => omega
  | accepted =>
    -- the file has the old commit index, whether or not the term was saved
    by_cases hnewer : request.term > state.persistent.currentTerm
    · rw [decide_eq_true hnewer, persistIf_true,
        persistLocked_eq hfollowing.wellFormed config.clusterId_ok]
      refine ⟨herror, fun hstep => ?_⟩
      have hcommit := congrArg PersistentState.commitIndex hstep
      simp only [hsaves, List.getLast?_singleton, getD_some,
        followingState_commitIndex] at hcommit
      omega
    · rw [decide_eq_false hnewer, persistIf_false]
      refine ⟨herror, fun hstep => ?_⟩
      have hcommit := congrArg PersistentState.commitIndex hstep
      simp only [hsaves, List.getLast?_nil, getD_none] at hcommit
      omega

end Entries

end Rules

/-! ## Runs -/

/-- The calls that other nodes make. -/
def Call.IsRequest : Call Id → Prop
  | .requestVote _ | .appendEntries _ => True
  | _ => False

/-- The call commits no invalid configuration. -/
def Call.Applies (config : NodeConfig Id) (state : VolatileState Id) : Call Id → Prop
  | .appendEntries request => Appliable config request state
  | _ => True

/-- What may happen so that answers are durable: requests for votes and for entries, none of
which commits an invalid configuration. -/
def RequestsApply (config : NodeConfig Id) (host : Host Id) (happening : Happening Id) : Prop :=
  ∀ call ∈ happening.call?, call.IsRequest ∧ call.Applies config host.node

section Calls

variable [DecidableEq Id] {config : NodeConfig Id} {state : VolatileState Id} {call : Call Id}

/-- After a storage error a node refuses every request. -/
theorem Call.run_unavailable (hrequest : call.IsRequest) (hfailed : state.storageError ≠ none) :
    (call.run config state).state = state ∧ (call.run config state).saves = [] ∧
      ∀ reply, (call.run config state).result ≠ .ok reply := by
  obtain ⟨error, herror⟩ := ne_none_iff_exists'.mp hfailed
  cases call with
  | requestVote request =>
    simp only [Call.run, Outcome.map, handleRequestVote, requireClusterIdentity, requireStorage,
      herror]
    split_ifs
    · exact ⟨rfl, rfl, by simp [Outcome.fail, Except.map]⟩
    · exact ⟨rfl, rfl, by simp [Outcome.fail, Except.map]⟩
  | appendEntries request =>
    simp only [Call.run, Outcome.map, handleAppendEntries, requireClusterIdentity, requireStorage,
      herror]
    split_ifs
    · exact ⟨rfl, rfl, by simp [Outcome.fail, Except.map]⟩
    · exact ⟨rfl, rfl, by simp [Outcome.fail, Except.map]⟩
  | _ => exact absurd hrequest id

lemma Call.run_saved (hrequest : call.IsRequest) (happlies : call.Applies config state)
    (hreopens : Reopens config state.persistent) :
    Saved config state.persistent (call.run config state) := by
  cases call with
  | requestVote request =>
    obtain ⟨halways, hlast⟩ := handleRequestVote_saved request hreopens
    exact ⟨halways, hlast⟩
  | appendEntries request =>
    obtain ⟨halways, hlast⟩ := handleAppendEntries_saved hreopens happlies
    exact ⟨halways, hlast⟩
  | _ => exact absurd hrequest id

/-- A request that is answered has committed nothing invalid. -/
theorem Call.applies_of_ok {reply : Reply Id} (hreopens : Reopens config state.persistent)
    (h : (call.run config state).result = .ok reply) : call.Applies config state := by
  cases call with
  | appendEntries request =>
    by_contra hnot
    obtain ⟨⟨error, herror⟩, -⟩ := handleAppendEntries_unsaved hreopens hnot
    obtain ⟨response, hresponse, -⟩ := Outcome.map_result_eq_ok.mp h
    rw [herror] at hresponse
    simp at hresponse
  | _ => trivial

end Calls

/-- A node that can reopen, and whose file is in step with its memory unless a save failed. -/
structure Durable (config : NodeConfig Id) (host : Host Id) : Prop where
  memory : Reopens config host.node.persistent
  file : Reopens config host.disk
  in_step : host.node.storageError = none → host.disk = host.node.persistent

namespace Durable

variable [DecidableEq Id] {config : NodeConfig Id} {host host' : Host Id}

omit [DecidableEq Id] in
lemma of_openNode {file disk : PersistentState Id} {node : VolatileState Id}
    {given : List (ℕ × Id)} (h : openNode config file = .ok (node, disk)) :
    Durable config { node, disk, given } := by
  obtain ⟨-, hdisk, -⟩ := openNode_ok h
  have hreopens := reopens_of_openNode h
  exact ⟨hreopens, hdisk ▸ hreopens, fun _ => hdisk⟩

omit [DecidableEq Id] in
lemma reopens_fileAfter (h : Durable config host) {outcome : Outcome Id α}
    (halways : outcome.Always (Reopens config)) (saved : ℕ) :
    Reopens config (Host.fileAfter host.disk outcome saved) := by
  rcases Host.fileAfter_cases host.disk outcome saved with hdisk | hmem
  · rw [hdisk]
    exact h.file
  · exact halways.2 _ hmem

lemma step (h : Durable config host) {happening : Happening Id}
    (hallowed : RequestsApply config host happening)
    (hstep : host.step? config happening = some host') : Durable config host' := by
  have hsaved : ∀ call ∈ happening.call?,
      Saved config host.node.persistent (call.run config host.node) :=
    fun call hcall => call.run_saved (hallowed call hcall).1 (hallowed call hcall).2 h.memory
  cases Host.step?_cases hstep with
  | @ran call mem given new =>
    refine ⟨(hsaved call mem).always.1, ?_, fun hhealthy => ?_⟩
    · simp only
      rw [Host.getLast?_getD_eq_fileAfter]
      exact h.reopens_fileAfter (hsaved call mem).always _
    · simp only at hhealthy ⊢
      by_cases hbefore : host.node.storageError = none
      · rw [h.in_step hbefore]
        exact (hsaved call mem).last
      · rw [(Call.run_unavailable (hallowed call mem).1 hbefore).1] at hhealthy
        exact absurd hhealthy hbefore
  | @failed call mem saved memory saves error =>
    exact ⟨(hsaved call mem).always.2 _ saves, h.reopens_fileAfter (hsaved call mem).always saved,
      fun hhealthy => absurd hhealthy error⟩
  | opened source opens => exact .of_openNode opens

lemma of_reachable (h : (Host.system config (RequestsApply config)).Reachable host) :
    Durable config host := by
  refine h.invariant ?_ ?_
  · rintro ⟨node, disk, given⟩ ⟨-, file, hopen⟩
    exact .of_openNode hopen
  · rintro host host' hdurable ⟨happening, hallowed, hstep⟩
    exact hdurable.step hallowed hstep

end Durable

/-! ## Acknowledgements -/

/-- What the file holds once a node has answered `call` with `reply`. -/
structure Acknowledged [DecidableEq Id] (config : NodeConfig Id) (host : Host Id)
    (call : Call Id) (reply : Reply Id) (file : PersistentState Id) : Prop where
  in_step : file = (call.run config host.node).state.persistent
  reopens : ∃ node, openNode config file = .ok (node, file) ∧ node.persistent = file
  vote : ∀ request response, call = .requestVote request → reply = .vote response →
    response.voteGranted = true →
    file.currentTerm = request.term ∧ file.votedFor = some request.candidateId
  entries : ∀ request response, call = .appendEntries request → reply = .append response →
    response.success = true →
    response.matchIndex = request.prevLogIndex + request.entries.length ∧
      response.matchIndex ≤ file.log.length ∧
      file.log.take response.matchIndex =
        host.node.persistent.log.take request.prevLogIndex ++ request.entries

/-- In every run of requests none of which commits an invalid configuration, an answer finds
the file in step with the memory; and a request that does commit one leaves it behind. -/
theorem durable_acknowledgement [DecidableEq Id] {config : NodeConfig Id} {host : Host Id}
    (hreachable : (Host.system config (RequestsApply config)).Reachable host) :
    (∀ call reply, call.IsRequest → (call.run config host.node).result = .ok reply →
      Acknowledged config host call reply
        ((call.run config host.node).saves.getLast?.getD host.disk)) ∧
    (host.node.storageError = none → ∀ request,
      ((handleAppendEntries config request host.node).saves.getLast?.getD host.disk =
          (handleAppendEntries config request host.node).state.persistent ↔
        Appliable config request host.node)) := by
  have hdurable := Durable.of_reachable hreachable
  constructor
  · intro call reply hrequest hok
    have hhealthy : host.node.storageError = none := by
      by_contra hfailed
      exact (Call.run_unavailable hrequest hfailed).2.2 reply hok
    have hsaved := call.run_saved hrequest (Call.applies_of_ok hdurable.memory hok) hdurable.memory
    rw [hdurable.in_step hhealthy, hsaved.last]
    refine ⟨rfl, hsaved.always.1.openNode_eq, ?_, ?_⟩
    · rintro request response rfl rfl hgranted
      obtain ⟨response', hresult, hreply⟩ := Outcome.map_result_eq_ok.mp hok
      obtain rfl := Reply.vote.inj hreply
      exact (handleRequestVote_granted hresult hgranted).2
    · rintro request response rfl rfl hsuccess
      obtain ⟨response', hresult, hreply⟩ := Outcome.map_result_eq_ok.mp hok
      obtain rfl := Reply.append.inj hreply
      obtain ⟨log, changed, hmerges, hstate, hmatch⟩ := handleAppendEntries_success hresult hsuccess
      have hlog : ((Call.appendEntries request).run config host.node).state.persistent.log = log :=
        congrArg PersistentState.log hstate
      rw [hlog, hmatch]
      exact ⟨rfl, hmerges.le_length, hmerges.take_eq⟩
  · intro hhealthy request
    rw [hdurable.in_step hhealthy]
    refine ⟨fun hstep => ?_, fun hvalid =>
      (handleAppendEntries_saved hdurable.memory hvalid).last⟩
    by_contra hnot
    exact (handleAppendEntries_unsaved hdurable.memory hnot).2 hstep

/-- A request whose only entry sets a policy that does not exist, and calls it committed. -/
def invalidRequest : AppendEntriesRequest Cluster.Member :=
  firstRequest 0 0 1
    [{ index := 1, term := 1,
       command := .setRoutingConfiguration (exampleConfiguration "random") none }]

/-- A node fails that request, and then confirms the entry, which its file does not have. -/
theorem acknowledges_unsaved_entry :
    ∃ host, (Host.system (Cluster.three.config 1) fun _ _ => True).Reachable host ∧
      (let outcome := handleAppendEntries (Cluster.three.config 1) (firstRequest 1 1 0 [])
        host.node
      outcome.result = .ok { term := 1, success := true, matchIndex := 1 } ∧
      outcome.state.persistent.log.length = 1 ∧
      (outcome.saves.getLast?.getD host.disk).log = []) := by
  obtain ⟨host, hstep, hsummary⟩ := map_eq_some_iff.mp
    (show ((Host.fresh (Cluster.three.config 1)).step? (Cluster.three.config 1)
        (.serve (.appendEntries invalidRequest))).map (fun host =>
          let outcome := handleAppendEntries (Cluster.three.config 1) (firstRequest 1 1 0 [])
            host.node
          decide (outcome.result = .ok { term := 1, success := true, matchIndex := 1 } ∧
            outcome.state.persistent.log.length = 1 ∧
            (outcome.saves.getLast?.getD host.disk).log = [])) = some true by decide +kernel)
  exact ⟨host, ⟨_, Host.init_fresh _ _, .single ⟨_, trivial, hstep⟩⟩,
    of_decide_eq_true hsummary⟩

theorem durable_acknowledgement_stored :
    ∃ host, (Host.system (Cluster.three.config 1)
        (RequestsApply (Cluster.three.config 1))).Reachable host ∧
      host.disk.log = firstEntries ∧
      Acknowledged (Cluster.three.config 1) host (.appendEntries (firstRequest 2 1 2 []))
        (.append { term := 1, success := true, matchIndex := 2 })
        (((Call.appendEntries (firstRequest 2 1 2 [])).run (Cluster.three.config 1)
          host.node).saves.getLast?.getD host.disk) := by
  obtain ⟨host, hstep, hsummary⟩ := map_eq_some_iff.mp
    (show ((Host.fresh (Cluster.three.config 1)).step? (Cluster.three.config 1)
        (.serve (.appendEntries (firstRequest 0 0 0 firstEntries)))).map (fun host =>
          decide (host.disk.log = firstEntries ∧
            (handleAppendEntries (Cluster.three.config 1) (firstRequest 2 1 2 [])
              host.node).result = .ok { term := 1, success := true, matchIndex := 2 })) =
        some true by decide +kernel)
  obtain ⟨hlog, hresult⟩ := of_decide_eq_true hsummary
  have hvalid : ∀ e ∈ firstEntries, ValidCommand e := by
    refine forall_mem_cons.mpr ⟨by simp [ValidCommand], ?_⟩
    refine forall_mem_singleton.mpr fun configuration writer hcommand => ?_
    obtain ⟨rfl, -⟩ := Command.setRoutingConfiguration.inj hcommand
    decide
  have hallowed : RequestsApply (Cluster.three.config 1) (Host.fresh (Cluster.three.config 1))
      (.serve (.appendEntries (firstRequest 0 0 0 firstEntries))) := by
    rintro call hcall
    obtain rfl := some.inj hcall
    refine ⟨trivial, Appliable.of_valid ?_ hvalid⟩
    simp [Host.fresh, openedState, PersistentState.default]
  have hreachable : (Host.system (Cluster.three.config 1)
      (RequestsApply (Cluster.three.config 1))).Reachable host :=
    ⟨_, Host.init_fresh _ _, .single ⟨_, hallowed, hstep⟩⟩
  refine ⟨host, hreachable, hlog, (durable_acknowledgement hreachable).1 _ _ trivial ?_⟩
  exact Outcome.map_result_eq_ok.mpr ⟨_, hresult, rfl⟩

/-! ## On a majority -/

/-- What a node has committed is on the disks of a majority, and stays there through every
leadership change, truncation and crash. -/
theorem committed_on_majority [DecidableEq Id] [Fintype Id] {c : Cluster Id} {w : World Id}
    (hw : c.system.Reachable w) (n : Id) :
    ∃ Q : Finset Id, Fintype.card Id / 2 + 1 ≤ Q.card ∧ ∀ w', c.system.Steps w w' → ∀ q ∈ Q,
      (w.node n).persistent.log.take (w.node n).persistent.commitIndex <+: (w'.disk q).log := by
  obtain ⟨a, -, ha⟩ := c.simulation.reachable hw
  rw [← (ha.1.node n).log, ← (ha.1.node n).commit]
  rcases ha.1.inv.committed_cases n with hnil | ⟨t, k, -, hchosen, hle, heq⟩
  · have hpos : 0 < Fintype.card Id := Fintype.card_pos_iff.mpr ⟨n⟩
    refine ⟨Finset.univ, by rw [Finset.card_univ]; omega, fun w' _ q _ => ?_⟩
    show a.committed n <+: _
    rw [hnil]
    exact nil_prefix
  · obtain ⟨Q, hQ, hstored⟩ := hchosen.2
    refine ⟨Q, hQ, fun w' hsteps q hq => ?_⟩
    obtain ⟨a', hmoves, ha'⟩ := c.simulation.steps ha hsteps
    obtain ⟨hinv, hext⟩ := ha.1.inv.steps hmoves
    have hkept := hinv.chosen_kept (hchosen.mono hext) ((hstored q hq).trans (hext.stored_le q t))
    rw [hext.take_ledger hchosen.1.le_length, (ha'.1.node q).log, ← ha'.1.disk q] at hkept
    show a.committed n <+: _
    rw [heq]
    exact (take_prefix_take_left hle).trans hkept

theorem committed_on_majority_three : ∃ (w : World Cluster.Member) (Q : Finset Cluster.Member),
    Cluster.three.system.Reachable w ∧
    (w.node 0).persistent.log.take (w.node 0).persistent.commitIndex = firstEntries ∧
    2 ≤ Q.card ∧ ∀ w', Cluster.three.system.Steps w w' → ∀ q ∈ Q,
      firstEntries <+: (w'.disk q).log := by
  obtain ⟨run, htrace, w, hw, hcommit, hlog⟩ : ∃ run ∈ Cluster.three.trace? Cluster.three.start
      (firstElection ++ firstWrite), ∃ w ∈ run, 2 ≤ (w.node 0).persistent.commitIndex ∧
        (w.node 0).persistent.log = firstEntries := by
    decide +kernel
  have hreach := (Cluster.three.isRun_of_trace? htrace).reachable hw
  have htake : (w.node 0).persistent.log.take (w.node 0).persistent.commitIndex = firstEntries := by
    rw [hlog, take_of_length_le hcommit]
  obtain ⟨Q, hQ, hkept⟩ := committed_on_majority hreach 0
  exact ⟨w, Q, hreach, htake, hQ, fun w' hsteps q hq => htake ▸ hkept w' hsteps q hq⟩

end InferLab.ControlPlane
