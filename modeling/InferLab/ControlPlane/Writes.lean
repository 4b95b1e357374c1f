import InferLab.ControlPlane.Safety
import InferLab.ControlPlane.WriteAuthorization

/-!
# What a client write is answered, and what its fence guards

A write waits until the commit index passes its entry and is then answered with the
configuration that is committed by then. `acknowledged_iff` says exactly when that is the
configuration of the write. A fenced write is compared with the committed revision when it is
appended; `fence_iff_settled` says exactly when that is the revision it ends up behind.
-/

namespace InferLab.ControlPlane

open Consensus List Cluster Option

/-! ## The last configuration of a log -/

def LogEntry.setsConfiguration (entry : LogEntry) : Bool :=
  match entry.command with
  | .noop => false
  | .setRoutingConfiguration .. => true

/-- The index of the last entry that sets a configuration, `0` when there is none. -/
def latestRevision (entries : List LogEntry) : ℕ :=
  ((entries.filter (·.setsConfiguration)).getLast?.map (·.index)).getD 0

lemma latestConfiguration_revision (clusterId : String) (entries : List LogEntry) :
    ((latestConfiguration clusterId entries).map (·.revision)).getD 0 =
      latestRevision entries := by
  have hmap : (entries.filterMap (configurationAt clusterId)).map (·.revision) =
      (entries.filter (·.setsConfiguration)).map (·.index) := by
    induction entries with
    | nil => rfl
    | cons entry rest ih =>
      cases hcommand : entry.command with
      | noop => simpa [configurationAt, LogEntry.setsConfiguration, hcommand] using ih
      | setRoutingConfiguration configuration writer =>
        simpa [configurationAt, LogEntry.setsConfiguration, hcommand] using ih
  rw [latestConfiguration, latestRevision, ← List.getLast?_map, ← List.getLast?_map, hmap]

lemma latestRevision_append (l l' : List LogEntry) :
    latestRevision (l ++ l') =
      if l'.filter (·.setsConfiguration) = [] then latestRevision l else latestRevision l' := by
  unfold latestRevision
  rw [filter_append]
  split_ifs with hnil
  · rw [hnil, append_nil]
  · rw [List.getLast?_append_of_ne_nil _ hnil]

variable {entries : List LogEntry}

lemma lt_latestRevision {before : ℕ} (h : Indexed before entries)
    (hne : entries.filter (·.setsConfiguration) ≠ []) : before < latestRevision entries := by
  obtain ⟨e, he⟩ := ne_none_iff_exists'.mp (mt List.getLast?_eq_none_iff.mp hne)
  have hmem := (mem_filter.mp (mem_of_getLast? he)).1
  obtain ⟨i, hi⟩ := List.getElem?_of_mem hmem
  have := (h i e hi).1
  rw [latestRevision, he]
  simp only [map_some, getD_some]
  omega

section

variable (h : Indexed 0 entries)
include h

lemma latestRevision_le : latestRevision entries ≤ entries.length := by
  unfold latestRevision
  cases hlast : (entries.filter (·.setsConfiguration)).getLast? with
  | none => simp
  | some e =>
    have hmem := (mem_filter.mp (mem_of_getLast? hlast)).1
    obtain ⟨i, hi⟩ := List.getElem?_of_mem hmem
    obtain ⟨hlt, -⟩ := List.getElem?_eq_some_iff.mp hi
    have := (h i e hi).1
    simp only [map_some, getD_some]
    omega

lemma Indexed.take (k : ℕ) : Indexed 0 (entries.take k) := by
  intro i e he
  obtain ⟨hlt, -⟩ := List.getElem?_eq_some_iff.mp he
  rw [length_take] at hlt
  exact h i e (by rwa [List.getElem?_take_of_lt (by omega)] at he)

lemma Indexed.drop (k : ℕ) : Indexed k (entries.drop k) := by
  intro i e he
  rw [List.getElem?_drop] at he
  have := h _ e he
  omega

/-- The first `k` entries have the last configuration exactly when the rest set none. -/
theorem latestRevision_take_eq_iff (k : ℕ) :
    latestRevision (entries.take k) = latestRevision entries ↔
      ∀ e ∈ entries.drop k, e.setsConfiguration = false := by
  have hsplit : latestRevision entries =
      if (entries.drop k).filter (·.setsConfiguration) = [] then latestRevision (entries.take k)
      else latestRevision (entries.drop k) := by
    rw [← latestRevision_append, take_append_drop]
  rw [hsplit]
  split_ifs with hnil
  · simpa [filter_eq_nil_iff] using hnil
  · have hlt := lt_latestRevision (h.drop k) hnil
    have hle := latestRevision_le (h.take k)
    rw [length_take] at hle
    constructor
    · omega
    · intro hnone
      exact absurd (filter_eq_nil_iff.mpr (by simpa using hnone)) hnil

/-- The last configuration is not set before any entry that sets one. -/
theorem lt_latestRevision_of_mem {i : ℕ} {e : LogEntry} (he : entries[i]? = some e)
    (hsets : e.setsConfiguration = true) : i < latestRevision entries := by
  have hne : (entries.drop i).filter (·.setsConfiguration) ≠ [] := by
    have hmem : e ∈ entries.drop i := mem_of_getElem? (i := 0) (by simpa using he)
    intro hnil
    have := filter_eq_nil_iff.mp hnil e hmem
    exact this hsets
  have hlt := lt_latestRevision (h.drop i) hne
  have := latestRevision_append (entries.take i) (entries.drop i)
  rw [take_append_drop, if_neg hne] at this
  omega

end

variable {Id : Type} [DecidableEq Id] [Fintype Id] {c : Cluster Id} {run : List (World Id)}
  {w w' : World Id} {n m : Id}

/-! ## Acknowledgements -/

/-- The answer that names the call's own entry. -/
def PendingWrite.acknowledgement (write : PendingWrite) (c : Cluster Id) :
    CommittedConfiguration where
  clusterId := c.clusterId
  revision := write.entryIndex
  term := write.entryTerm
  configuration := write.configuration
  writer := write.writer

/-- The answer `committed` names the entry the call has appended, and that is committed. -/
structure Acknowledges (write : PendingWrite) (state : VolatileState Id)
    (committed : CommittedConfiguration) : Prop where
  revision : committed.revision = write.entryIndex
  term : committed.term = write.entryTerm
  configuration : committed.configuration = write.configuration
  writer : committed.writer = write.writer
  entry : state.persistent.log[write.entryIndex - 1]? = some write.entry
  entry_committed : write.entryIndex ≤ state.persistent.commitIndex

variable {write : PendingWrite}

omit [DecidableEq Id] [Fintype Id] in
lemma pollWrite_eq_some {state : VolatileState Id} {committed : CommittedConfiguration}
    (h : (pollWrite write state).result = .ok (some committed)) :
    write.entryIndex ≤ state.persistent.commitIndex ∧
      state.committedConfiguration = some committed := by
  unfold pollWrite requireStorage at h
  split at h
  · simp [Outcome.fail] at h
  · split_ifs at h with hcommit hleft
    · split at h
      · rename_i committed' heq
        obtain rfl : committed' = committed := by simpa [Outcome.done] using h
        exact ⟨hcommit, heq⟩
      · simp [Outcome.fail] at h
    · simp [Outcome.fail] at h
    · simp [Outcome.done] at h

omit [DecidableEq Id] [Fintype Id] in
/-- An entry followed by none that sets a configuration is the one that counts. -/
theorem latestConfiguration_eq {clusterId : String} {i : ℕ} {e : LogEntry} (hpos : 0 < i)
    (he : entries[i - 1]? = some e) (hrest : ∀ e ∈ entries.drop i, e.setsConfiguration = false)
    {committed : CommittedConfiguration} (hat : configurationAt clusterId e = some committed) :
    latestConfiguration clusterId entries = some committed := by
  have htake : entries.take i = entries.take (i - 1) ++ [e] := by
    obtain ⟨j, rfl⟩ := Nat.exists_eq_add_of_le' hpos
    rw [take_add_one]
    simp only [Nat.add_sub_cancel] at he ⊢
    rw [he]
    rfl
  have hdrop : (entries.drop i).filterMap (configurationAt clusterId) = [] := by
    rw [filterMap_eq_nil_iff]
    intro e' he'
    have hsets := hrest e' he'
    cases hcommand : e'.command with
    | noop => simp [configurationAt, hcommand]
    | setRoutingConfiguration => simp [LogEntry.setsConfiguration, hcommand] at hsets
  rw [latestConfiguration, ← take_append_drop i entries, filterMap_append, hdrop,
    htake, filterMap_append]
  simp [hat]

/-- A write is answered with its own entry exactly when the log still has that entry and no
committed entry after it sets a configuration. -/
theorem acknowledged_iff (hrun : c.system.IsRun run) (hw : w ∈ run) {write : PendingWrite}
    (hwrite : w.write n = some write) {committed : CommittedConfiguration}
    (hack : (pollWrite write (w.node n)).result = .ok (some committed)) :
    Acknowledges write (w.node n) committed ↔
      logTerm (w.node n).persistent write.entryIndex = some write.entryTerm ∧
        ∀ e ∈ ((w.node n).persistent.log.take (w.node n).persistent.commitIndex).drop
          write.entryIndex, e.setsConfiguration = false := by
  obtain ⟨a, -, hsim, -⟩ := c.simulation.reachable (hrun.reachable hw)
  have htracks := hsim.node n
  obtain ⟨hledger, hpos⟩ := hsim.write n write hwrite
  obtain ⟨hcommit, hreport⟩ := pollWrite_eq_some hack
  set log := (w.node n).persistent.log with hlog
  set commitIndex := (w.node n).persistent.commitIndex with hcommitIndex
  have hindexed : Indexed 0 log := (htracks.wellFormed hsim.inv).indexed
  have hget : (log.take commitIndex)[write.entryIndex - 1]? = log[write.entryIndex - 1]? :=
    List.getElem?_take_of_lt (by omega)
  rw [htracks.configuration] at hreport
  constructor
  · intro h
    refine ⟨(logTerm_eq_some hpos.ne').mpr ⟨_, h.entry, rfl⟩, ?_⟩
    -- both the whole committed log and its part up to the entry have the entry's revision
    refine (latestRevision_take_eq_iff (hindexed.take commitIndex) _).mp ?_
    have hprefix : latestConfiguration c.clusterId
        ((log.take commitIndex).take write.entryIndex) = some (write.acknowledgement c) :=
      latestConfiguration_eq hpos
        (by rw [List.getElem?_take_of_lt (by omega), hget]; exact h.entry) (by simp) rfl
    rw [← latestConfiguration_revision c.clusterId, ← latestConfiguration_revision c.clusterId,
      hprefix, hreport]
    simp [h.revision, PendingWrite.acknowledgement]
  · rintro ⟨hterm, hrest⟩
    obtain ⟨e, he, heterm⟩ := (logTerm_eq_some hpos.ne').mp hterm
    -- the entry there is of the call's term, so it is the one of that term's ledger
    have hsound : (raft Id).Sound a log := by
      rw [hlog, ← htracks.log]
      exact hsim.inv.log_sound n
    obtain rfl : e = write.entry := by
      have := hsound.getElem?_ledger he
      rw [show (raft Id).termOf e = write.entryTerm from heterm, hledger] at this
      exact (some.inj this).symm
    have hlatest : latestConfiguration c.clusterId (log.take commitIndex) =
        some (write.acknowledgement c) :=
      latestConfiguration_eq hpos (hget.trans he) hrest rfl
    rw [hreport] at hlatest
    obtain rfl := some.inj hlatest
    exact ⟨rfl, rfl, rfl, rfl, he, hcommit⟩

theorem acknowledged_iff_three : ∃ run ∈ three.trace? three.start
    (firstElection ++ firstWrite), ∃ w ∈ run, ∃ write ∈ w.write 0, ∃ committed,
      (pollWrite write (w.node 0)).result = .ok (some committed) ∧
        Acknowledges write (w.node 0) committed := by
  obtain ⟨run, htrace, w, hw, write, hwrite, hack, hterm, hrest⟩ :
      ∃ run ∈ three.trace? three.start (firstElection ++ firstWrite),
        ∃ w ∈ run, ∃ write ∈ w.write 0,
        (pollWrite write (w.node 0)).result =
          .ok (some (write.acknowledgement three)) ∧
        logTerm (w.node 0).persistent write.entryIndex = some write.entryTerm ∧
        ∀ e ∈ ((w.node 0).persistent.log.take (w.node 0).persistent.commitIndex).drop
          write.entryIndex, e.setsConfiguration = false := by
    decide +kernel
  exact ⟨run, htrace, w, hw, write, hwrite, _, hack,
    (acknowledged_iff (three.isRun_of_trace? htrace) hw hwrite hack).mpr ⟨hterm, hrest⟩⟩

/-- The entries of node `1` in term `2`. -/
def secondEntries : List LogEntry :=
  [{ index := 1, term := 2, command := .noop },
    { index := 2, term := 2,
      command := .setRoutingConfiguration (exampleConfiguration "least-in-flight") none }]

/-- A request of the leader `1` in term `2`. -/
def secondRequest (prevLogIndex prevLogTerm leaderCommit : ℕ) (entries : List LogEntry) :
    AppendEntriesRequest Member where
  clusterId := "inferlab-default"
  term := 2
  leaderId := 1
  prevLogIndex
  prevLogTerm
  entries
  leaderCommit

/-- While node `0` waits for its write, node `1` wins term `2`, commits another configuration
at the same index with node `2`, and then replaces the log of node `0`. -/
def overtakenWrite : List (Action Member) :=
  [.run (.write 0 (exampleConfiguration "round-robin") none none),
    .run (.replicateStart 0),
    .run (.campaignStart 1),
    .run (.requestVote 2
      { clusterId := "inferlab-default", term := 2, candidateId := 1, lastLogIndex := 0,
        lastLogTerm := 0 }),
    .run (.campaignEnd 1 [(2, some { term := 2, voteGranted := true }), (0, none)]),
    .run (.write 1 (exampleConfiguration "least-in-flight") none none),
    .run (.replicateStart 1),
    .run (.appendEntries 2 (secondRequest 1 2 0 (secondEntries.drop 1))),
    .run (.replicateEnd 1 [(2, some { term := 2, success := false, matchIndex := 0 }), (0, none)]),
    .run (.replicateStart 1),
    .run (.appendEntries 2 (secondRequest 0 0 0 secondEntries)),
    .run (.replicateEnd 1 [(2, some { term := 2, success := true, matchIndex := 2 }), (0, none)]),
    .run (.replicateStart 1),
    .run (.appendEntries 0 (secondRequest 1 2 2 (secondEntries.drop 1))),
    .run (.replicateEnd 1 [(2, none), (0, some { term := 2, success := false, matchIndex := 2 })]),
    .run (.replicateStart 1),
    .run (.appendEntries 0 (secondRequest 0 0 2 secondEntries)),
    .run (.replicateEnd 0 [(1, none), (2, none)])]

/-- A write is answered with the configuration of another leader, which has replaced its own
entry. -/
theorem acknowledged_overtaken : ∃ run w write committed, three.system.IsRun run ∧
    w ∈ run ∧ w.write 0 = some write ∧
    (pollWrite write (w.node 0)).result = .ok (some committed) ∧
    committed.term ≠ write.entryTerm ∧ committed.configuration ≠ write.configuration ∧
    write.entry ∉ (w.node 0).persistent.log := by
  obtain ⟨run, htrace, w, hw, write, hwrite, hack, hrest⟩ :
      ∃ run ∈ three.trace? three.start (firstElection ++ overtakenWrite),
        ∃ w ∈ run, ∃ write ∈ w.write 0,
        (pollWrite write (w.node 0)).result = .ok (some
          { clusterId := "inferlab-default", revision := 2, term := 2,
            configuration := exampleConfiguration "least-in-flight", writer := none }) ∧
        2 ≠ write.entryTerm ∧ exampleConfiguration "least-in-flight" ≠ write.configuration ∧
        write.entry ∉ (w.node 0).persistent.log := by
    decide +kernel
  exact ⟨run, w, write, _, three.isRun_of_trace? htrace, hw, hwrite, hack, hrest⟩

/-! ## Fences -/

variable {writer : Option CommittedWriteProvenance} {configuration : RoutingConfiguration}

omit [Fintype Id] in
lemma writeConfigurationWithFence_eq_ok {config : NodeConfig Id} {expectedRevision : Option ℕ}
    {state : VolatileState Id}
    (h : (writeConfigurationWithFence config configuration expectedRevision writer state).result =
      .ok write) :
    state.role = .leader ∧
      write = { configuration, writer
                entryIndex := state.persistent.log.length + 1
                entryTerm := state.persistent.currentTerm } ∧
      ∀ r ∈ expectedRevision, r = (state.committedConfiguration.map (·.revision)).getD 0 := by
  unfold writeConfigurationWithFence requireStorage at h
  split at h
  · simp [Outcome.fail] at h
  split at h
  · simp [Outcome.fail] at h
  split_ifs at h with hrole
  · simp [Outcome.fail] at h
  simp only at h
  split at h
  · simp [Outcome.fail] at h
  rename_i hconflict
  refine ⟨by simpa using hrole, ?_, ?_⟩
  · unfold persistLocked at h
    split at h
    · simp [Outcome.fail] at h
    · exact (Except.ok.inj h).symm
  · intro r hr
    obtain rfl : expectedRevision = some r := hr
    by_contra hne
    simp [hne] at hconflict

/-- In the run, node `n` runs a write at `w₁` that appends an entry; the section may be cut
short by a crash. -/
structure Appends (c : Cluster Id) (run : List (World Id)) (w₁ : World Id) (n : Id)
    (configuration : RoutingConfiguration) (expectedRevision : Option ℕ)
    (writer : Option CommittedWriteProvenance) (write : PendingWrite) : Prop where
  taken : ∃ w₂, [w₁, w₂] <:+: run ∧
    (c.step? w₁ (.run (.write n configuration expectedRevision writer)) = some w₂ ∨
      ∃ saved, c.step? w₁ (.crash (.write n configuration expectedRevision writer) saved) =
        some w₂)
  appended : (writeConfigurationWithFence (c.config n) configuration expectedRevision writer
    (w₁.node n)).result = .ok write

/-- The signed `request` is authorized by some node at some time, and appended by `n`. -/
def Submitted (c : Cluster Id) (run : List (World Id)) (request : AuthorizedRoutingConfiguration)
    (w₁ : World Id) (n : Id) (write : PendingWrite) : Prop :=
  ∃ mode nowMs proposal,
    authorize mode (.authorized request) c.clusterId nowMs = .ok proposal ∧
      Appends c run w₁ n proposal.configuration proposal.expectedRevision proposal.writer write

/-- The entry of the write is in the committed log of a node. -/
structure CommittedAt (write : PendingWrite) (state : VolatileState Id) : Prop where
  le : write.entryIndex ≤ state.persistent.commitIndex
  entry : state.persistent.log[write.entryIndex - 1]? = some write.entry

/-- No entry beyond the commit index sets a configuration. -/
def Settled (state : VolatileState Id) : Prop :=
  ∀ e ∈ state.persistent.log.drop state.persistent.commitIndex, e.setsConfiguration = false

instance (state : VolatileState Id) : Decidable (Settled state) :=
  inferInstanceAs (Decidable (∀ e ∈ _, _))

/-- The log before a committed entry is the log its leader had when it appended it. -/
theorem CommittedAt.take_eq (hrun : c.system.IsRun run) (hw : w ∈ run) (hw' : w' ∈ run)
    (hrole : (w.node n).role = .leader)
    (hindex : write.entryIndex = (w.node n).persistent.log.length + 1)
    (hterm : write.entryTerm = (w.node n).persistent.currentTerm)
    (h : CommittedAt write (w'.node m)) :
    (w'.node m).persistent.log.take (write.entryIndex - 1) = (w.node n).persistent.log := by
  obtain ⟨a, a', hsim, hsim', hext⟩ := sim_of_mem hrun hw hw'
  obtain ⟨-, hledger, -⟩ := (hsim.node n).leads hsim.inv hrole
  rw [(hsim.node n).term, ← hterm, (hsim.node n).log] at hledger
  have hentry := h.entry
  rw [← (hsim'.node m).log] at hentry ⊢
  obtain ⟨hlt, -⟩ := List.getElem?_eq_some_iff.mp hentry
  have hpre : (a'.log m).take (write.entryIndex - 1 + 1) <+: a'.ledger write.entryTerm :=
    hsim'.inv.log_sound m _ _ hentry
  have hlen : ((a'.log m).take (write.entryIndex - 1 + 1)).length = write.entryIndex := by
    rw [length_take]
    omega
  rcases hext with hext | hext
  · have hpre' : (a'.log m).take (write.entryIndex - 1) <+: a'.ledger write.entryTerm :=
      (take_prefix_take_left (by omega)).trans hpre
    have hold := hext.ledger write.entryTerm
    rw [← hledger] at hold
    have hsame : ((a'.log m).take (write.entryIndex - 1)).length =
        (w.node n).persistent.log.length := by
      rw [length_take]
      omega
    exact (prefix_of_prefix_length_le hpre' hold hsame.le).eq_of_length hsame
  · -- before the append the ledger was too short to hold the entry
    have hshort := (hpre.trans (hext.ledger write.entryTerm)).length_le
    rw [hlen, ← hledger] at hshort
    omega

/-- A fenced write ends up behind the revision it expected exactly when its leader had no
configuration waiting to be committed. -/
theorem Appends.fence_iff (hrun : c.system.IsRun run) {w₁ : World Id} {r : ℕ}
    (h : Appends c run w₁ n configuration (some r) writer write) (hw : w ∈ run)
    (hcommitted : CommittedAt write (w.node m)) :
    r = latestRevision ((w.node m).persistent.log.take (write.entryIndex - 1)) ↔
      Settled (w₁.node n) := by
  obtain ⟨w₂, hinfix, -⟩ := h.taken
  have hw₁ : w₁ ∈ run := hinfix.subset (by simp)
  obtain ⟨hrole, hwrite, hfence⟩ := writeConfigurationWithFence_eq_ok h.appended
  obtain ⟨a, -, hsim, -⟩ := c.simulation.reachable (hrun.reachable hw₁)
  have hindexed := ((hsim.node n).wellFormed hsim.inv).indexed
  rw [hcommitted.take_eq hrun hw₁ hw hrole (by rw [hwrite]) (by rw [hwrite]), hfence r rfl,
    (hsim.node n).configuration, latestConfiguration_revision]
  exact latestRevision_take_eq_iff hindexed _

/-- Two committed entries of writes with one fence are one entry, if both leaders had no
configuration waiting. -/
theorem Appends.entryIndex_le (hrun : c.system.IsRun run) {w₁ w₁' : World Id} {n' m' : Id}
    {configuration configuration' : RoutingConfiguration} {r : ℕ}
    {writer writer' : Option CommittedWriteProvenance} {write write' : PendingWrite}
    (h : Appends c run w₁ n configuration (some r) writer write)
    (h' : Appends c run w₁' n' configuration' (some r) writer' write')
    (hsettled : Settled (w₁.node n)) (hsettled' : Settled (w₁'.node n')) (hw : w ∈ run)
    (hcommitted : CommittedAt write (w.node m)) (hw' : w' ∈ run)
    (hcommitted' : CommittedAt write' (w'.node m')) : write'.entryIndex ≤ write.entryIndex := by
  by_contra hlt
  rw [not_le] at hlt
  have hr := (h.fence_iff hrun hw hcommitted).mpr hsettled
  have hr' := (h'.fence_iff hrun hw' hcommitted').mpr hsettled'
  obtain ⟨a, a', hsim, hsim', -⟩ := sim_of_mem hrun hw hw'
  have hindexed := ((hsim.node m).wellFormed hsim.inv).indexed
  have hindexed' := ((hsim'.node m').wellFormed hsim'.inv).indexed
  obtain ⟨-, hwrite, -⟩ := writeConfigurationWithFence_eq_ok h.appended
  have hpos : 0 < write.entryIndex := by
    rw [hwrite]
    exact Nat.succ_pos _
  -- the first entry is committed before the second, and sets a configuration
  obtain ⟨e, he, he'⟩ := committed_agree hrun hw hw' hpos hcommitted.le
    (hlt.le.trans hcommitted'.le)
  obtain rfl : write.entry = e := some.inj (hcommitted.entry.symm.trans he)
  have hbetween := lt_latestRevision_of_mem (hindexed'.take (write'.entryIndex - 1))
    (i := write.entryIndex - 1) (by rw [List.getElem?_take_of_lt (by omega)]; exact he') rfl
  have hbefore := latestRevision_le (hindexed.take (write.entryIndex - 1))
  rw [length_take] at hbefore
  omega

/-- The fence of a write: it ends up behind the revision it expected exactly when no
configuration was waiting in its leader's log, and a signed request whose submissions all
meet that condition is committed at most once. -/
theorem fence_iff_settled (hrun : c.system.IsRun run) :
    (∀ w₁ n configuration r writer write,
      Appends c run w₁ n configuration (some r) writer write →
      ∀ w ∈ run, ∀ m, CommittedAt write (w.node m) →
        (r = latestRevision ((w.node m).persistent.log.take (write.entryIndex - 1)) ↔
          Settled (w₁.node n))) ∧
    ∀ request w₁ n write w₁' n' write', Submitted c run request w₁ n write →
      Submitted c run request w₁' n' write' → Settled (w₁.node n) → Settled (w₁'.node n') →
      ∀ w ∈ run, ∀ m, CommittedAt write (w.node m) →
      ∀ w' ∈ run, ∀ m', CommittedAt write' (w'.node m') →
        write.entryIndex = write'.entryIndex := by
  refine ⟨fun w₁ n configuration r writer write h w hw m hc => h.fence_iff hrun hw hc, ?_⟩
  rintro request w₁ n write w₁' n' write' ⟨mode, nowMs, proposal, hauth, h⟩
    ⟨mode', nowMs', proposal', hauth', h'⟩ hs hs' w hw m hc w' hw' m' hc'
  rw [(authorize_authorized hauth).2] at h
  rw [(authorize_authorized hauth').2] at h'
  exact le_antisymm (h'.entryIndex_le hrun h hs' hs hw' hc' hw hc)
    (h.entryIndex_le hrun h' hs hs' hw hc hw' hc')

/-- A write among the actions of a run appends, when it does so in the world before it. -/
theorem exists_appends_of_trace? {actions rest : List (Action Id)} {expectedRevision : Option ℕ}
    (write : PendingWrite)
    (htrace : c.trace? c.start
      (actions ++ .run (.write n configuration expectedRevision writer) :: rest) = some run)
    (happended : ∀ w₁ ∈ c.after? c.start actions, (writeConfigurationWithFence (c.config n)
      configuration expectedRevision writer (w₁.node n)).result = .ok write) :
    ∃ w₁ ∈ c.after? c.start actions,
      Appends c run w₁ n configuration expectedRevision writer write := by
  obtain ⟨w₁, w₂, hinfix, hafter, hstep⟩ := c.exists_step_of_trace? htrace
  exact ⟨w₁, hafter, ⟨w₂, hinfix, .inl hstep⟩, happended w₁ hafter⟩

theorem fence_iff_settled_three : ∃ run w₁ write w, three.system.IsRun run ∧
    Appends three run w₁ 0 (exampleConfiguration "round-robin") (some 0) none write ∧
    Settled (w₁.node 0) ∧ w ∈ run ∧ CommittedAt write (w.node 0) ∧
    0 = latestRevision ((w.node 0).persistent.log.take (write.entryIndex - 1)) := by
  set write : PendingWrite :=
    { configuration := exampleConfiguration "round-robin", writer := none, entryIndex := 2,
      entryTerm := 1 } with hwrite
  obtain ⟨run, htrace, w, hw, hle, hentry⟩ :
      ∃ run ∈ three.trace? three.start (firstElection ++ firstWrite),
        ∃ w ∈ run, 2 ≤ (w.node 0).persistent.commitIndex ∧
        (w.node 0).persistent.log[1]? = some write.entry := by
    decide +kernel
  have hrun := three.isRun_of_trace? htrace
  obtain ⟨w₁, hafter, happends⟩ := exists_appends_of_trace? write htrace
    (by decide +kernel)
  have hsettled : ∀ w₁ ∈ three.after? three.start firstElection,
      Settled (w₁.node 0) := by
    decide +kernel
  have hcommitted : CommittedAt write (w.node 0) := ⟨hle, hentry⟩
  exact ⟨run, w₁, write, w, hrun, happends, hsettled w₁ hafter, hw, hcommitted,
    ((fence_iff_settled hrun).1 w₁ 0 _ 0 none write happends w hw 0 hcommitted).mpr
      (hsettled w₁ hafter)⟩

/-- A request an operator has signed, against an empty control plane. -/
def exampleRequest : AuthorizedRoutingConfiguration where
  expectedRevision := 0
  configuration := exampleConfiguration "round-robin"
  authorization := {
    schema := "inferlab.control-write-authorization.v1"
    algorithm := "ed25519"
    writerId := "deploy-bot"
    issuedAtMs := 1000
    nonce := "deploy-0000000001"
    signature := "signature" }

def exampleWriter : CommittedWriteProvenance where
  writerId := "deploy-bot"
  issuedAtMs := 1000
  nonce := "deploy-0000000001"

def submitRequest : Action Member :=
  .run (.write 0 (exampleConfiguration "round-robin") (some 0) (some exampleWriter))

def retriedEntries : List LogEntry :=
  [{ index := 1, term := 1, command := .noop },
    { index := 2, term := 1,
      command := .setRoutingConfiguration (exampleConfiguration "round-robin") exampleWriter },
    { index := 3, term := 1,
      command := .setRoutingConfiguration (exampleConfiguration "round-robin") exampleWriter }]

/-- The first submission is appended, but its round does not reach a majority in time. -/
def timedOutWrite : List (Action Member) :=
  [.run (.replicateStart 0),
    .run (.appendEntries 1 (firstRequest 1 1 0 ((retriedEntries.take 2).drop 1))),
    .run (.replicateEnd 0 [(1, some { term := 1, success := false, matchIndex := 0 }), (2, none)]),
    .run (.poll 0),
    .abandonWrite 0]

/-- After the second submission both entries are replicated and committed. -/
def committedTwice : List (Action Member) :=
  [.run (.replicateStart 0),
    .run (.appendEntries 1 (firstRequest 0 0 0 retriedEntries)),
    .run (.replicateEnd 0 [(1, some { term := 1, success := true, matchIndex := 3 }), (2, none)])]

/-- One signed request is submitted twice to one leader and committed twice: the second time
the revision it expects is behind it. -/
theorem fence_passed_twice : ∃ run w₁ write w₁' write' w, three.system.IsRun run ∧
    Submitted three run exampleRequest w₁ 0 write ∧
    Submitted three run exampleRequest w₁' 0 write' ∧
    w ∈ run ∧ CommittedAt write (w.node 0) ∧ CommittedAt write' (w.node 0) ∧
    write.entryIndex ≠ write'.entryIndex ∧
    exampleRequest.expectedRevision ≠
      latestRevision ((w.node 0).persistent.log.take (write'.entryIndex - 1)) := by
  set write : PendingWrite :=
    { configuration := exampleConfiguration "round-robin", writer := some exampleWriter
      entryIndex := 2, entryTerm := 1 } with hwrite
  set write' : PendingWrite := { write with entryIndex := 3 } with hwrite'
  obtain ⟨run, htrace, w, hw, hle, hentry, hle', hentry', hbehind⟩ :
      ∃ run ∈ three.trace? three.start (firstElection ++ submitRequest ::
          (timedOutWrite ++ submitRequest :: committedTwice)), ∃ w ∈ run,
        2 ≤ (w.node 0).persistent.commitIndex ∧
        (w.node 0).persistent.log[1]? = some write.entry ∧
        3 ≤ (w.node 0).persistent.commitIndex ∧
        (w.node 0).persistent.log[2]? = some write'.entry ∧
        0 ≠ latestRevision ((w.node 0).persistent.log.take 2) := by
    decide +kernel
  obtain ⟨w₁, -, happends⟩ := exists_appends_of_trace? write htrace
    (by decide +kernel)
  rw [← cons_append, ← append_assoc] at htrace
  obtain ⟨w₁', -, happends'⟩ := exists_appends_of_trace? write' htrace
    (by decide +kernel)
  have hauthorize : authorize (.required (fun _ _ => .ok ()) 60000 5000)
      (.authorized exampleRequest) three.clusterId 1000 = .ok
        { configuration := exampleConfiguration "round-robin", expectedRevision := some 0
          writer := some exampleWriter } := rfl
  exact ⟨run, w₁, write, w₁', write', w, three.isRun_of_trace? htrace,
    ⟨_, _, _, hauthorize, happends⟩, ⟨_, _, _, hauthorize, happends'⟩, hw, ⟨hle, hentry⟩,
    ⟨hle', hentry'⟩, by decide, hbehind⟩

end InferLab.ControlPlane
