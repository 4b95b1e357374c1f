import InferLab.ControlPlane.Refinement

/-!
# Safety of the three-node control plane

Over every run of the cluster: at most one node takes the lead of a term, two nodes that have
committed an index have committed the same entry there, two logs with entries of one term at
one index agree up to it, and a leader of a later term holds what was committed before. Each
is the protocol's guarantee, read off through the simulation.
-/

namespace InferLab.ControlPlane

open Consensus List Option

variable {Id : Type} [DecidableEq Id] [Fintype Id] {c : Cluster Id} {run : List (World Id)}
  {w w' : World Id} {n m : Id}

/-! ## From runs to the protocol -/

/-- Two moments of a run are two moments of a run of the protocol. -/
theorem Cluster.sim_of_mem (hrun : c.system.IsRun run) (hw : w ∈ run) (hw' : w' ∈ run) :
    ∃ a a', Sim c w a ∧ Sim c w' a' ∧ (a.Extends a' ∨ a'.Extends a) := by
  rcases hrun.steps_or_steps hw hw' with hsteps | hsteps
  · obtain ⟨a, -, ha⟩ := c.simulation.reachable (hrun.reachable hw)
    obtain ⟨a', hmoves, ha'⟩ := c.simulation.steps ha hsteps
    exact ⟨a, a', ha.1, ha'.1, .inl (ha.1.inv.steps hmoves).2⟩
  · obtain ⟨a', -, ha'⟩ := c.simulation.reachable (hrun.reachable hw')
    obtain ⟨a, hmoves, ha⟩ := c.simulation.steps ha' hsteps
    exact ⟨a, a', ha.1, ha'.1, .inr (ha'.1.inv.steps hmoves).2⟩

variable {a : State Id LogEntry} {state : VolatileState Id}

omit [DecidableEq Id] [Fintype Id] in
lemma Tracks.standing_eq_leader (h : Tracks c a n state) :
    a.standing n = .leader ↔ state.role = .leader := by
  rw [h.standing]
  cases state.role <;> simp [Role.standing]

/-- A configuration with one worker. -/
def exampleConfiguration (routingPolicy : String) : RoutingConfiguration where
  routingPolicy
  workers := [{ id := "worker", baseUrl := "http://worker", weight := 1 }]

/-- Node `0` wins term `1` with the vote of node `1`. -/
def firstElection : List (Action Cluster.Member) :=
  [.run (.campaignStart 0),
    .run (.requestVote 1
      { clusterId := "inferlab-default", term := 1, candidateId := 0, lastLogIndex := 0,
        lastLogTerm := 0 }),
    .run (.campaignEnd 0 [(1, some { term := 1, voteGranted := true }), (2, none)])]

/-- The entries of the leader after its first write. -/
def firstEntries : List LogEntry :=
  [{ index := 1, term := 1, command := .noop },
    { index := 2, term := 1,
      command := .setRoutingConfiguration (exampleConfiguration "round-robin") none }]

/-- A request of the leader `0` in term `1`. -/
def firstRequest (prevLogIndex prevLogTerm leaderCommit : ℕ) (entries : List LogEntry) :
    AppendEntriesRequest Cluster.Member where
  clusterId := "inferlab-default"
  term := 1
  leaderId := 0
  prevLogIndex
  prevLogTerm
  entries
  leaderCommit

/-- The leader `0` writes a configuration, which node `1` stores at the second attempt; both
commit it. -/
def firstWrite : List (Action Cluster.Member) :=
  [.run (.write 0 (exampleConfiguration "round-robin") (some 0) none),
    .run (.replicateStart 0),
    .run (.appendEntries 1 (firstRequest 1 1 0 (firstEntries.drop 1))),
    .run (.replicateEnd 0 [(1, some { term := 1, success := false, matchIndex := 0 }), (2, none)]),
    .run (.replicateStart 0),
    .run (.appendEntries 1 (firstRequest 0 0 0 firstEntries)),
    .run (.replicateEnd 0 [(1, some { term := 1, success := true, matchIndex := 2 }), (2, none)]),
    .run (.replicateStart 0),
    .run (.appendEntries 1 (firstRequest 2 1 2 []))]

/-! ## Elections -/

omit [DecidableEq Id] [Fintype Id] in
lemma persistLocked_done_state {α : Type} (state : VolatileState Id)
    (value : VolatileState Id → α) :
    (persistLocked state fun state => .done state (value state)).state.role = state.role ∧
      (persistLocked state fun state => .done state (value state)).state.persistent =
        state.persistent := by
  unfold persistLocked
  split
  · exact ⟨rfl, rfl⟩
  · exact ⟨rfl, rfl⟩

omit [Fintype Id] in
/-- The end of a campaign leaves a leader only where there was one, or a majority voted. -/
theorem campaignEnd_leader {config : NodeConfig Id} {request : RequestVoteRequest Id}
    {responses : List (Id × Option RequestVoteResponse)}
    (h : (campaignEnd config request responses state).state.role = .leader) :
    (campaignEnd config request responses state).state = state ∨
      (config.majority ≤ (tallyVotes request responses).1 ∧
        (campaignEnd config request responses state).state.persistent.currentTerm =
          request.term) := by
  unfold campaignEnd at h ⊢
  simp only at h ⊢
  split_ifs at h ⊢ with hhigher hwon
  · rw [(persistLocked_done_state _ _).1] at h
    simp [becomeFollower] at h
  · right
    rw [(persistLocked_done_state _ _).2]
    exact ⟨hwon.2.2, hwon.2.1⟩
  · exact .inl rfl

/-- The node `n` takes the lead of `term`: it leads, or it is in the section that ends its
campaign and makes it leader there, also if it crashes before that is saved. -/
def TakesLead (c : Cluster Id) (w : World Id) (n : Id) (term : ℕ) : Prop :=
  ((w.node n).role = .leader ∧ (w.node n).persistent.currentTerm = term) ∨
    ∃ responses attempt, c.attempt w (.campaignEnd n responses) = some attempt ∧
      (attempt.next.node n).role = .leader ∧
      (attempt.next.node n).persistent.currentTerm = term

/-- Whoever takes the lead has the votes of a quorum. -/
theorem TakesLead.exists_quorum (hsim : Sim c w a) {term : ℕ} (h : TakesLead c w n term) :
    ∃ Q, (raft Id).IsQuorum Q ∧ ∀ q ∈ Q, a.vote q term = some n := by
  have hleads : (w.node n).role = .leader → (w.node n).persistent.currentTerm = term →
      ∃ Q, (raft Id).IsQuorum Q ∧ ∀ q ∈ Q, a.vote q term = some n := by
    rintro hrole rfl
    have hled := ((hsim.node n).leads hsim.inv hrole).1
    rw [(hsim.node n).term] at hled
    obtain ⟨Q, hQ, hkept⟩ := hsim.inv.leader_kept _ _ hled
    exact ⟨Q, hQ, fun q hq => (hkept q hq).1⟩
  rcases h with ⟨hrole, hterm⟩ | ⟨responses, attempt, hattempt, hrole, hterm⟩
  · exact hleads hrole hterm
  simp only [Cluster.attempt] at hattempt
  split at hattempt
  · simp at hattempt
  rename_i request hcampaign
  simp only [ite_none_right_eq_some, some.injEq] at hattempt
  obtain ⟨⟨hpeers, hanswers⟩, rfl⟩ := hattempt
  obtain ⟨hid, hrequested⟩ := hsim.campaign n request hcampaign
  simp only [World.finish, Function.update_self] at hrole hterm
  rcases campaignEnd_leader hrole with hsame | ⟨hmajority, hterm'⟩
  · rw [hsame] at hrole hterm
    exact hleads hrole hterm
  · rw [← hterm, hterm']
    have hstood := hrequested.stood
    rw [hid] at hstood
    exact exists_quorum_of_tally hstood hid hpeers
      (fun answer hanswer response hresponse =>
        hsim.voteReplies _ (hanswers answer hanswer response hresponse)) hmajority

/-- At most one node ever takes the lead of a term. -/
theorem election_safety (hrun : c.system.IsRun run) (hw : w ∈ run) (hw' : w' ∈ run) {term : ℕ}
    (hn : TakesLead c w n term) (hm : TakesLead c w' m term) : n = m := by
  obtain ⟨a, a', hsim, hsim', hext⟩ := Cluster.sim_of_mem hrun hw hw'
  obtain ⟨Q, hQ, hvotes⟩ := hn.exists_quorum hsim
  obtain ⟨Q', hQ', hvotes'⟩ := hm.exists_quorum hsim'
  obtain ⟨q, hq, hq'⟩ := (raft Id).inter hQ hQ'
  have heq : some n = some m := by
    rcases hext with hext | hext
    · exact (hext.vote _ _ _ (hvotes q hq)).symm.trans (hvotes' q hq')
    · exact (hvotes q hq).symm.trans (hext.vote _ _ _ (hvotes' q hq'))
  exact some.inj heq

theorem election_safety_three : ∃ run ∈ Cluster.three.trace? Cluster.three.start firstElection,
    (∃ w ∈ run, TakesLead Cluster.three w 0 1) ∧
      ∀ w ∈ run, ∀ m, TakesLead Cluster.three w m 1 → m = 0 := by
  obtain ⟨run, htrace, w, hw, hlead⟩ : ∃ run ∈ Cluster.three.trace? Cluster.three.start
      firstElection, ∃ w ∈ run, (w.node 0).role = .leader ∧
        (w.node 0).persistent.currentTerm = 1 := by
    decide +kernel
  refine ⟨run, htrace, ⟨w, hw, .inl hlead⟩, fun w' hw' m hm => ?_⟩
  exact election_safety (Cluster.three.isRun_of_trace? htrace) hw' hw hm (.inl hlead)

/-! ## Committed entries -/

/-- What a node reports is set by one of its committed entries. -/
theorem Tracks.committed_entry (hinv : (raft Id).Inv a) (h : Tracks c a n state)
    {committed : CommittedConfiguration} (hreport : state.committedConfiguration = some committed) :
    ∃ e, state.persistent.log[committed.revision - 1]? = some e ∧ 0 < committed.revision ∧
      committed.revision ≤ state.persistent.commitIndex ∧
      configurationAt c.clusterId e = some committed := by
  rw [h.configuration] at hreport
  obtain ⟨e, he, hconfiguration⟩ := mem_filterMap.mp (mem_of_getLast? hreport)
  obtain ⟨i, hi⟩ := List.getElem?_of_mem he
  obtain ⟨hlt, -⟩ := List.getElem?_eq_some_iff.mp hi
  rw [length_take] at hlt
  have hget : state.persistent.log[i]? = some e := by
    rwa [List.getElem?_take_of_lt (by omega)] at hi
  have hrevision : committed.revision = i + 1 := by
    have hindex := ((h.wellFormed hinv).indexed i e hget).1
    unfold configurationAt at hconfiguration
    split at hconfiguration
    · simp at hconfiguration
    · rw [← some.inj hconfiguration]
      simp only
      omega
  rw [hrevision]
  exact ⟨e, hget, by omega, by omega, hconfiguration⟩

/-- Two nodes that have committed an index have the same entry there, at any two moments. -/
theorem Cluster.committed_agree (hrun : c.system.IsRun run) (hw : w ∈ run) (hw' : w' ∈ run)
    {i : ℕ} (hpos : 0 < i) (hn : i ≤ (w.node n).persistent.commitIndex)
    (hm : i ≤ (w'.node m).persistent.commitIndex) :
    ∃ e, (w.node n).persistent.log[i - 1]? = some e ∧
      (w'.node m).persistent.log[i - 1]? = some e := by
  obtain ⟨a, a', hsim, hsim', hext⟩ := Cluster.sim_of_mem hrun hw hw'
  have hcmp : a.committed n <+: a'.committed m ∨ a'.committed m <+: a.committed n := by
    rcases hext with hext | hext
    · exact hsim.inv.committed_comparable hsim'.inv hext n m
    · exact (hsim'.inv.committed_comparable hsim.inv hext m n).symm
  have hcommit := (hsim.node n).commit
  have hcommit' := (hsim'.node m).commit
  have hlen := hsim.inv.commit_le_length n
  have hlen' := hsim'.inv.commit_le_length m
  rw [← (hsim.node n).log, ← (hsim'.node m).log]
  have hget : (a.committed n)[i - 1]? = (a.log n)[i - 1]? :=
    List.getElem?_take_of_lt (by omega)
  have hget' : (a'.committed m)[i - 1]? = (a'.log m)[i - 1]? :=
    List.getElem?_take_of_lt (by omega)
  have hsame : (a.committed n)[i - 1]? = (a'.committed m)[i - 1]? := by
    have hlt : i - 1 < (a.committed n).length := by
      simp only [State.committed, length_take]
      omega
    have hlt' : i - 1 < (a'.committed m).length := by
      simp only [State.committed, length_take]
      omega
    rcases hcmp with ⟨r, hr⟩ | ⟨r, hr⟩
    · rw [← hr, List.getElem?_append_left hlt]
    · rw [← hr, List.getElem?_append_left hlt']
  refine ⟨(a.log n)[i - 1], List.getElem?_eq_getElem (by omega), ?_⟩
  rw [← hget', ← hsame, hget]
  exact List.getElem?_eq_getElem (by omega)

/-- One committed log: what is committed, and what is reported as committed, never differs
between two nodes, at one moment or at two. -/
theorem state_machine_safety (hrun : c.system.IsRun run) (hw : w ∈ run) (hw' : w' ∈ run)
    (n m : Id) :
    (∀ i, 0 < i → i ≤ (w.node n).persistent.commitIndex →
      i ≤ (w'.node m).persistent.commitIndex →
      ∃ e, (w.node n).persistent.log[i - 1]? = some e ∧
        (w'.node m).persistent.log[i - 1]? = some e) ∧
    ∀ committed committed', committedConfiguration (w.node n) = .ok committed →
      committedConfiguration (w'.node m) = .ok committed' →
      committed.revision = committed'.revision →
      committed.term = committed'.term ∧ committed.configuration = committed'.configuration := by
  refine ⟨fun i => Cluster.committed_agree hrun hw hw', fun committed committed' h h' hrev => ?_⟩
  have hreport : ∀ {state : VolatileState Id} {committed},
      committedConfiguration state = .ok committed →
      state.committedConfiguration = some committed := by
    intro state committed h
    unfold committedConfiguration at h
    split at h
    · rename_i heq
      rw [heq, Except.ok.inj h]
    · simp at h
  obtain ⟨a, a', hsim, hsim', -⟩ := Cluster.sim_of_mem hrun hw hw'
  obtain ⟨e, he, hpos, hle, hat⟩ := (hsim.node n).committed_entry hsim.inv (hreport h)
  obtain ⟨e', he', -, hle', hat'⟩ := (hsim'.node m).committed_entry hsim'.inv (hreport h')
  rw [← hrev] at he' hle'
  obtain ⟨e'', hn, hm⟩ := Cluster.committed_agree hrun hw hw' hpos hle hle'
  rw [he] at hn
  rw [he'] at hm
  obtain rfl := some.inj hn
  obtain rfl := some.inj hm
  obtain rfl := some.inj (hat.symm.trans hat')
  exact ⟨rfl, rfl⟩

theorem state_machine_safety_three : ∃ run ∈ Cluster.three.trace? Cluster.three.start
    (firstElection ++ firstWrite), ∃ w ∈ run, ∃ e,
      (w.node 0).persistent.log[1]? = some e ∧ (w.node 1).persistent.log[1]? = some e := by
  obtain ⟨run, htrace, w, hw, h0, h1⟩ : ∃ run ∈ Cluster.three.trace? Cluster.three.start
      (firstElection ++ firstWrite), ∃ w ∈ run, 2 ≤ (w.node 0).persistent.commitIndex ∧
        2 ≤ (w.node 1).persistent.commitIndex := by
    decide +kernel
  have hrun := Cluster.three.isRun_of_trace? htrace
  exact ⟨run, htrace, w, hw, (state_machine_safety hrun hw hw 0 1).1 2 (by decide) h0 h1⟩

/-! ## Log matching -/

/-- Two logs with entries of one term at one index are the same up to that index: index, term,
command and writer of every entry. -/
theorem log_matching (hw : c.system.Reachable w) (n m : Id) {i : ℕ} {e e' : LogEntry}
    (he : (w.node n).persistent.log[i - 1]? = some e)
    (he' : (w.node m).persistent.log[i - 1]? = some e') (hterm : e.term = e'.term) :
    (w.node n).persistent.log.take i = (w.node m).persistent.log.take i := by
  obtain ⟨a, -, hsim, -⟩ := c.simulation.reachable hw
  have hsound : (raft Id).Sound a (w.node n).persistent.log :=
    (hsim.node n).log ▸ hsim.inv.log_sound n
  have hsound' : (raft Id).Sound a (w.node m).persistent.log :=
    (hsim.node m).log ▸ hsim.inv.log_sound m
  have htake := hsound.take_eq_take hsound' he he' hterm
  cases i with
  | zero => simp
  | succ i => simpa using htake

theorem log_matching_three : ∃ run ∈ Cluster.three.trace? Cluster.three.start
    (firstElection ++ firstWrite), ∃ w ∈ run,
      (w.node 0).persistent.log.length = 2 ∧ (w.node 1).persistent.log.length = 2 ∧
      (w.node 0).persistent.log.take 2 = (w.node 1).persistent.log.take 2 := by
  obtain ⟨run, htrace, w, hw, hlen, hlen', h0, h1⟩ :
      ∃ run ∈ Cluster.three.trace? Cluster.three.start (firstElection ++ firstWrite), ∃ w ∈ run,
        (w.node 0).persistent.log.length = 2 ∧ (w.node 1).persistent.log.length = 2 ∧
        (w.node 0).persistent.log[2 - 1]? = firstEntries[2 - 1]? ∧
        (w.node 1).persistent.log[2 - 1]? = firstEntries[2 - 1]? := by
    decide +kernel
  have hreachable := (Cluster.three.isRun_of_trace? htrace).reachable hw
  exact ⟨run, htrace, w, hw, hlen, hlen', log_matching hreachable 0 1 h0 h1 rfl⟩

/-! ## Leaders of later terms -/

/-- A commit index that passes every other is moved there by a leader in its own term. -/
theorem Sim.first_commit (h : Sim c w a) (hbound : Cluster.Bounded w) (hstep : c.system.step w w')
    {i : ℕ} (hbefore : ∀ p, (w.node p).persistent.commitIndex < i)
    (hn : i ≤ (w'.node n).persistent.commitIndex) :
    (w.node n).role = .leader ∧
      (w'.node n).persistent.currentTerm = (w.node n).persistent.currentTerm := by
  obtain ⟨⟨action, haction⟩, -⟩ := hstep
  obtain ⟨m, a', hmoves, hadv, hsim'⟩ := h.step hbound haction
  have hcommit : ∀ p, a.commit p < i := fun p => (h.node p).commit ▸ hbefore p
  rw [← (hsim'.node n).commit] at hn
  obtain rfl : n = m := by
    by_contra hne
    have := hcommit n
    rw [(hmoves.sameAt hne).commit] at hn
    omega
  rcases hadv with heq | ⟨hleads, hterm⟩ | ⟨p, hp⟩
  · have := hcommit n
    omega
  · rw [(h.node n).term, (hsim'.node n).term] at hterm
    exact ⟨(h.node n).standing_eq_leader.mp hleads, hterm⟩
  · have := hcommit p
    omega

/-- An entry that a node has committed is held by every leader of a later term than that
node's, before or after. -/
theorem Cluster.leader_holds (hrun : c.system.IsRun run) (hw : w ∈ run) (hw' : w' ∈ run) {i : ℕ}
    {e : LogEntry} (hpos : 0 < i) (hcommit : i ≤ (w.node n).persistent.commitIndex)
    (he : (w.node n).persistent.log[i - 1]? = some e) (hm : (w'.node m).role = .leader)
    (hlater : (w.node n).persistent.currentTerm < (w'.node m).persistent.currentTerm) :
    (w'.node m).persistent.log[i - 1]? = some e := by
  obtain ⟨a, a', hsim, hsim', hext⟩ := Cluster.sim_of_mem hrun hw hw'
  have hpre := hsim.inv.committed_prefix_leader hsim'.inv hext (n := n) (m := m)
    ((hsim'.node m).standing_eq_leader.mpr hm)
    (by rw [(hsim.node n).term, (hsim'.node m).term]; exact hlater)
  rw [← (hsim.node n).commit] at hcommit
  rw [← (hsim.node n).log] at he
  rw [← (hsim'.node m).log]
  have hget : (a.committed n)[i - 1]? = some e := by
    rw [State.committed, List.getElem?_take_of_lt (by omega), he]
  obtain ⟨hlt, -⟩ := List.getElem?_eq_some_iff.mp hget
  obtain ⟨r, hr⟩ := hpre
  rw [← hr, List.getElem?_append_left hlt, hget]

/-- Leader completeness: an entry ever committed at `i` was first committed there by a leader,
and is held by every leader of a later term, whenever that leader leads. -/
theorem leader_completeness (hrun : c.system.IsRun run) (hw : w ∈ run) {i : ℕ} {e : LogEntry}
    (hpos : 0 < i) (hcommit : i ≤ (w.node m).persistent.commitIndex)
    (he : (w.node m).persistent.log[i - 1]? = some e) :
    ∃ before w₁ w₂ after leader, run = before ++ w₁ :: w₂ :: after ∧
      (∀ v ∈ before ++ [w₁], ∀ p, (v.node p).persistent.commitIndex < i) ∧
      i ≤ (w₂.node leader).persistent.commitIndex ∧
      (w₁.node leader).role = .leader ∧
      (w₂.node leader).persistent.currentTerm = (w₁.node leader).persistent.currentTerm ∧
      ∀ w' ∈ run, ∀ later, (w'.node later).role = .leader →
        (w₁.node leader).persistent.currentTerm < (w'.node later).persistent.currentTerm →
        (w'.node later).persistent.log[i - 1]? = some e := by
  have hstart : ∀ v, c.system.init v → ¬ ∃ p, i ≤ (v.node p).persistent.commitIndex := by
    rintro v rfl ⟨p, hp⟩
    exact absurd hp (Nat.not_le.mpr hpos)
  obtain ⟨before, w₁, w₂, after, hsplit, hbefore, leader, hleader⟩ :=
    hrun.exists_first hstart hw ⟨m, hcommit⟩
  have hinfix : [w₁, w₂] <:+: run := ⟨before, after, by simp [hsplit]⟩
  have hw₁ : w₁ ∈ run := hinfix.subset (by simp)
  have hw₂ : w₂ ∈ run := hinfix.subset (by simp)
  have hfirst : ∀ v ∈ before ++ [w₁], ∀ p, (v.node p).persistent.commitIndex < i :=
    fun v hv p => Nat.lt_of_not_le fun hle => hbefore v hv ⟨p, hle⟩
  obtain ⟨a, -, hsim, hbound⟩ := c.simulation.reachable (hrun.reachable hw₁)
  obtain ⟨hrole, hterm⟩ := hsim.first_commit hbound (hrun.step_of_infix hinfix)
    (hfirst w₁ (by simp)) hleader
  refine ⟨before, w₁, w₂, after, leader, hsplit, hfirst, hleader, hrole, hterm, ?_⟩
  intro w' hw' later hlater hlt
  -- the entry at `i` of the leader is the one any other node commits there
  obtain ⟨e', he₂, he'⟩ := Cluster.committed_agree hrun hw₂ hw hpos hleader hcommit
  obtain rfl : e = e' := some.inj (he.symm.trans he')
  exact Cluster.leader_holds hrun hw₂ hw' hpos hleader he₂ hlater (by rw [hterm]; exact hlt)

/-- Node `1` wins term `2` after the write has been committed. -/
def secondElection : List (Action Cluster.Member) :=
  [.run (.campaignStart 1),
    .run (.requestVote 2
      { clusterId := "inferlab-default", term := 2, candidateId := 1, lastLogIndex := 2,
        lastLogTerm := 1 }),
    .run (.campaignEnd 1 [(2, some { term := 2, voteGranted := true }), (0, none)])]

theorem leader_completeness_three : ∃ run ∈ Cluster.three.trace? Cluster.three.start
    (firstElection ++ firstWrite ++ secondElection), ∃ w ∈ run, ∃ e,
      (w.node 1).role = .leader ∧ (w.node 1).persistent.currentTerm = 2 ∧
      (w.node 0).persistent.log[1]? = some e ∧ (w.node 1).persistent.log[1]? = some e := by
  obtain ⟨run, htrace, w, hw, hrole, hterm, hcommit, hlog, hfirst⟩ :
      ∃ run ∈ Cluster.three.trace? Cluster.three.start
        (firstElection ++ firstWrite ++ secondElection), ∃ w ∈ run,
        (w.node 1).role = .leader ∧ (w.node 1).persistent.currentTerm = 2 ∧
        2 ≤ (w.node 0).persistent.commitIndex ∧
        (w.node 0).persistent.log[1]? = firstEntries[1]? ∧
        ∀ v ∈ run, ∀ p, (v.node p).role = .leader → (v.node p).persistent.commitIndex < 2 →
          (v.node p).persistent.currentTerm < 2 := by
    decide +kernel
  obtain ⟨before, w₁, w₂, after, leader, hsplit, hbefore, -, hleads, -, hholds⟩ :=
    leader_completeness (Cluster.three.isRun_of_trace? htrace) hw (by decide) hcommit hlog
  have hw₁ : w₁ ∈ run := by simp [hsplit]
  have hearly := hfirst w₁ hw₁ leader hleads (hbefore w₁ (by simp) leader)
  exact ⟨run, htrace, w, hw, _, hrole, hterm, hlog, hholds w hw 1 hrole
    (by rw [hterm]; exact hearly)⟩

end InferLab.ControlPlane
