import InferLab.ControlPlane.Safety

/-!
# What a node has applied

In every reachable state a node has applied exactly the entries it knows to be committed, what
it has saved passes its own check, and neither its commit index nor the revision it reports
ever goes back. The last part rests on the protocol: the committed start of a log is never cut,
whoever leads and however often the node reopens.
-/

namespace InferLab.ControlPlane

open Consensus List Option

variable {Id : Type}

/-! ## The last configuration of a list of entries -/

variable {clusterId : String}

lemma latestConfiguration_eq_none {entries : List LogEntry} :
    latestConfiguration clusterId entries = none ↔ ∀ e ∈ entries, e.command = .noop := by
  rw [latestConfiguration, List.getLast?_eq_none_iff, filterMap_eq_nil_iff]
  refine forall₂_congr fun e _ => ?_
  unfold configurationAt
  cases e.command <;> simp

lemma configurationAt_eq_some {e : LogEntry} {committed : CommittedConfiguration} :
    configurationAt clusterId e = some committed ↔ ∃ configuration writer,
      e.command = .setRoutingConfiguration configuration writer ∧
      committed = { clusterId, revision := e.index, term := e.term, configuration, writer } := by
  unfold configurationAt
  cases e.command with
  | noop => simp
  | setRoutingConfiguration configuration writer => simp [eq_comm]

/-- The last configuration is set by an entry after which there are only empty commands. -/
theorem latestConfiguration_eq_some {entries : List LogEntry} {committed : CommittedConfiguration} :
    latestConfiguration clusterId entries = some committed ↔
      ∃ before e after, entries = before ++ e :: after ∧ (∀ e' ∈ after, e'.command = .noop) ∧
        configurationAt clusterId e = some committed := by
  have hnoop : ∀ after : List LogEntry, (∀ e' ∈ after, e'.command = .noop) ↔
      after.filterMap (configurationAt clusterId) = [] := by
    intro after
    rw [← latestConfiguration_eq_none, latestConfiguration,
      List.getLast?_eq_none_iff]
  constructor
  · intro h
    obtain ⟨ys, hys⟩ := List.getLast?_eq_some_iff.mp h
    obtain ⟨before, rest, rfl, -, hrest⟩ := filterMap_eq_append_iff.mp hys
    obtain ⟨skipped, e, after, rfl, -, he, hafter⟩ := filterMap_eq_cons_iff.mp hrest
    exact ⟨before ++ skipped, e, after, by simp, (hnoop after).mpr hafter, he⟩
  · rintro ⟨before, e, after, rfl, hafter, he⟩
    rw [latestConfiguration, filterMap_append, filterMap_cons_some he,
      (hnoop after).mp hafter]
    simp

/-- The revision a node reports, `0` before the first. -/
def committedRevision (committed : Option CommittedConfiguration) : ℕ :=
  (committed.map (·.revision)).getD 0

/-- More committed entries do not take the reported revision back. -/
theorem committedRevision_le_of_prefix {entries entries' : List LogEntry}
    (hindexed : Indexed 0 entries') (hpre : entries <+: entries') :
    committedRevision (latestConfiguration clusterId entries) ≤
      committedRevision (latestConfiguration clusterId entries') := by
  obtain ⟨added, rfl⟩ := hpre
  have happend : latestConfiguration clusterId (entries ++ added) =
      (latestConfiguration clusterId added).or (latestConfiguration clusterId entries) := by
    rw [latestConfiguration, filterMap_append, List.getLast?_append]
    rfl
  rw [happend]
  cases hadded : latestConfiguration clusterId added with
  | none => simp
  | some committed =>
    cases hold : latestConfiguration clusterId entries with
    | none => simp [committedRevision]
    | some committed' =>
      -- an entry that was added stands behind every old one
      obtain ⟨before, e, after, rfl, -, he⟩ := latestConfiguration_eq_some.mp hadded
      obtain ⟨before', e', after', rfl, -, he'⟩ := latestConfiguration_eq_some.mp hold
      obtain ⟨-, -, -, rfl⟩ := configurationAt_eq_some.mp he
      obtain ⟨-, -, -, rfl⟩ := configurationAt_eq_some.mp he'
      have hindex' := (hindexed before'.length e' (by simp)).1
      have hindex := (hindexed ((before' ++ e' :: after').length + before.length) e (by
        rw [List.getElem?_append_right (Nat.le_add_right _ _)]
        simp)).1
      simp only [length_append, length_cons] at hindex
      simp only [committedRevision, some_or, map_some, getD_some]
      omega

/-! ## Applied entries -/

/-- A node reports what the entries up to its commit index say. -/
structure Applied (clusterId : String) (state : VolatileState Id) : Prop where
  lastApplied_eq : state.lastApplied = state.persistent.commitIndex
  commitIndex_le : state.persistent.commitIndex ≤ state.persistent.log.length
  absent_iff : state.committedConfiguration = none ↔
    ∀ e ∈ state.persistent.log.take state.persistent.commitIndex, e.command = .noop
  reported_iff : ∀ committed, state.committedConfiguration = some committed ↔
    ∃ before e after configuration writer,
      state.persistent.log.take state.persistent.commitIndex = before ++ e :: after ∧
      e.command = .setRoutingConfiguration configuration writer ∧
      (∀ e' ∈ after, e'.command = .noop) ∧
      committed = { clusterId, revision := e.index, term := e.term, configuration, writer }

variable [DecidableEq Id] [Fintype Id] {c : Cluster Id} {w w' : World Id} {n : Id}

lemma Tracks.applied {a : State Id LogEntry} {state : VolatileState Id}
    (h : Tracks c a n state) (hinv : (raft Id).Inv a) : Applied c.clusterId state where
  lastApplied_eq := h.lastApplied
  commitIndex_le := (h.wellFormed hinv).commitIndex_le
  absent_iff := by rw [h.configuration, latestConfiguration_eq_none]
  reported_iff committed := by
    rw [h.configuration, latestConfiguration_eq_some]
    simp only [configurationAt_eq_some]
    constructor
    · rintro ⟨before, e, after, hsplit, hafter, configuration, writer, hcommand, rfl⟩
      exact ⟨before, e, after, configuration, writer, hsplit, hcommand, hafter, rfl⟩
    · rintro ⟨before, e, after, configuration, writer, hsplit, hcommand, hafter, rfl⟩
      exact ⟨before, e, after, hsplit, hafter, configuration, writer, hcommand, rfl⟩

/-- The committed start of a node's log only grows. -/
theorem Cluster.committed_grows (hw : c.system.Reachable w) (hsteps : c.system.Steps w w')
    (n : Id) :
    (w.node n).persistent.log.take (w.node n).persistent.commitIndex <+:
        (w'.node n).persistent.log.take (w'.node n).persistent.commitIndex ∧
      (w.node n).persistent.commitIndex ≤ (w'.node n).persistent.commitIndex := by
  obtain ⟨a, -, ha⟩ := c.simulation.reachable hw
  obtain ⟨a', hmoves, ha'⟩ := c.simulation.steps ha hsteps
  have hext := (ha.1.inv.steps hmoves).2
  have hle := hext.commit_le n
  have hlen := ha.1.inv.commit_le_length n
  have hlen' := ha'.1.inv.commit_le_length n
  have hcmp := ha.1.inv.committed_comparable ha'.1.inv hext n n
  simp only [State.committed] at hcmp
  rw [(ha.1.node n).log, (ha.1.node n).commit, (ha'.1.node n).log, (ha'.1.node n).commit] at hcmp
  rw [(ha.1.node n).commit] at hle hlen
  rw [(ha'.1.node n).commit] at hle hlen'
  rw [(ha.1.node n).log] at hlen
  rw [(ha'.1.node n).log] at hlen'
  refine ⟨?_, hle⟩
  rcases hcmp with hpre | hpre
  · exact hpre
  · have heq := hpre.eq_of_length_le (by
      simp only [length_take]
      omega)
    rw [heq]

/-- A node has applied what it knows to be committed and can always reopen, and what it knows
to be committed only grows. -/
theorem applied_state_invariant (hw : c.system.Reachable w) (n : Id) :
    Applied c.clusterId (w.node n) ∧
    validatePersistentState (w.disk n) = .ok () ∧ w.disk n = (w.node n).persistent ∧
    (∃ w', c.step? w (.restart n) = some w') ∧
    (∀ event attempt, c.attempt w event = some attempt →
      (∀ file ∈ attempt.saves, validatePersistentState file = .ok ()) ∧
      ∀ saved, ∃ w', c.step? w (.crash event saved) = some w') ∧
    ∀ w', c.system.Steps w w' →
      (w.node n).persistent.commitIndex ≤ (w'.node n).persistent.commitIndex ∧
      committedRevision (w.node n).committedConfiguration ≤
        committedRevision (w'.node n).committedConfiguration := by
  obtain ⟨a, -, hsim, hbound⟩ := c.simulation.reachable hw
  have hstores : Stores c a n (w.disk n) := hsim.disk n ▸ (hsim.node n).toStores
  refine ⟨(hsim.node n).applied hsim.inv, (hstores.wellFormed hsim.inv).validate_eq
    (c.clusterId_ok n), hsim.disk n, ?_, ?_, ?_⟩
  · obtain ⟨w', hw', -⟩ := hsim.reopen (.refl a) hstores
    exact ⟨w', hw'⟩
  · intro event attempt hattempt
    refine ⟨fun file hfile => ?_, c.crash_reopens hw hattempt⟩
    obtain ⟨a', hmoves, -, hsaved⟩ := (hsim.attempt hbound hattempt).saves file hfile
    exact (hsaved.wellFormed (hsim.inv.moves hmoves).1).validate_eq (c.clusterId_ok attempt.node)
  · intro w' hsteps
    obtain ⟨hpre, hle⟩ := Cluster.committed_grows hw hsteps n
    refine ⟨hle, ?_⟩
    obtain ⟨a', -, hsim', -⟩ := c.simulation.reachable (hw.trans hsteps)
    rw [(hsim.node n).configuration, (hsim'.node n).configuration]
    refine committedRevision_le_of_prefix (fun i e he => ?_) hpre
    rw [List.getElem?_take] at he
    split_ifs at he
    exact ((hsim'.node n).wellFormed hsim'.inv).indexed i e he

/-- Node `1` loses the power while it stores the write, and is brought up to date after it has
come back. -/
def crashedWrite : List (Action Cluster.Member) :=
  [.run (.write 0 (exampleConfiguration "round-robin") (some 0) none),
    .run (.replicateStart 0),
    .run (.appendEntries 1 (firstRequest 1 1 0 (firstEntries.drop 1))),
    .run (.replicateEnd 0 [(1, some { term := 1, success := false, matchIndex := 0 }), (2, none)]),
    .run (.replicateStart 0),
    .crash (.appendEntries 1 (firstRequest 0 0 0 firstEntries)) 1,
    .run (.appendEntries 1 (firstRequest 0 0 0 firstEntries)),
    .run (.replicateEnd 0 [(1, some { term := 1, success := true, matchIndex := 2 }), (2, none)]),
    .restart 0]

theorem applied_state_invariant_crashed : ∃ run ∈ Cluster.three.trace? Cluster.three.start
    (firstElection ++ crashedWrite), ∃ w ∈ run,
      (w.node 0).persistent.commitIndex = 2 ∧ (w.node 0).role = .follower ∧
      Applied "inferlab-default" (w.node 0) ∧
      validatePersistentState (w.disk 1) = .ok () := by
  obtain ⟨run, htrace, w, hw, hcommit, hrole⟩ :
      ∃ run ∈ Cluster.three.trace? Cluster.three.start (firstElection ++ crashedWrite),
        ∃ w ∈ run, (w.node 0).persistent.commitIndex = 2 ∧ (w.node 0).role = .follower := by
    decide +kernel
  have hreachable := (Cluster.three.isRun_of_trace? htrace).reachable hw
  exact ⟨run, htrace, w, hw, hcommit, hrole, (applied_state_invariant hreachable 0).1,
    (applied_state_invariant hreachable 1).2.1⟩

end InferLab.ControlPlane
