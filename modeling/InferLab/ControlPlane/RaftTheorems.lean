import InferLab.Consensus.Invariant
import InferLab.ControlPlane.Raft

/-!
# What the pieces of a Raft node compute

One specification for each function of `Raft.lean` that the critical sections are made of:
which log `mergeEntries` leaves, which configuration `applyCommitted` finds, which index
`highestCommittableIndex` picks, what a tally counts.
-/

namespace InferLab.ControlPlane

open List Except Option

open Consensus (overlay)

variable {Id : Type}

/-! ## Positions in the log -/

variable {state : PersistentState Id}

lemma lastLogPosition_eq (h : Indexed 0 state.log) :
    lastLogPosition state =
      (state.log.length, (state.log.getLast?.map (·.term)).getD 0) := by
  unfold lastLogPosition
  cases hlast : state.log.getLast? with
  | none =>
    obtain hnil := List.getLast?_eq_none_iff.mp hlast
    simp [hnil]
  | some entry =>
    have hget : state.log[state.log.length - 1]? = some entry := by
      rwa [← List.getLast?_eq_getElem?]
    obtain ⟨hlt, -⟩ := List.getElem?_eq_some_iff.mp hget
    have := (h _ _ hget).1
    simp only [map_some, getD_some, Prod.mk.injEq, and_true]
    omega

lemma logTerm_eq_some {index term : ℕ} (hpos : index ≠ 0) :
    logTerm state index = some term ↔
      ∃ e, state.log[index - 1]? = some e ∧ e.term = term := by
  simp [logTerm, hpos]

lemma previousMatches_iff {index term : ℕ} :
    previousMatches state index term = true ↔
      if index = 0 then term = 0 else ∃ e, state.log[index - 1]? = some e ∧ e.term = term := by
  split_ifs with hzero
  · simp only [previousMatches, logTerm, hzero, if_true, beq_self_eq_true, Bool.true_and,
      Bool.or_eq_true, beq_iff_eq, some.injEq]
    omega
  · rw [← logTerm_eq_some hzero]
    simp [previousMatches, hzero]

lemma candidateLogIsAtLeastAsUpToDate_iff {candidateIndex candidateTerm voterIndex voterTerm : ℕ} :
    candidateLogIsAtLeastAsUpToDate candidateIndex candidateTerm voterIndex voterTerm = true ↔
      voterTerm < candidateTerm ∨ (voterTerm = candidateTerm ∧ voterIndex ≤ candidateIndex) := by
  simp only [candidateLogIsAtLeastAsUpToDate, Bool.or_eq_true, Bool.and_eq_true, beq_iff_eq,
    decide_eq_true_eq]
  omega

/-! ## Merging the entries of a leader -/

lemma mergeEntries_eq {commitIndex prev : ℕ} {log entries log' : List LogEntry}
    {changed : Bool} (hprev : prev ≤ log.length)
    (h : mergeEntries commitIndex log (prev + 1) entries = .ok (log', changed)) :
    log' = overlay log (log.take prev ++ entries) ∧ (changed = false → log' = log) := by
  induction entries generalizing prev with
  | nil =>
    obtain ⟨rfl, rfl⟩ : log = log' ∧ false = changed := by simpa [mergeEntries] using h
    simp [overlay, take_prefix]
  | cons incoming rest ih =>
    rw [mergeEntries, Nat.add_sub_cancel] at h
    cases hget : log[prev]? with
    | none =>
      -- the log ends here: the rest is appended
      have hlen : prev = log.length := by
        have := List.getElem?_eq_none_iff.mp hget
        omega
      simp only [hget, ok.injEq, Prod.mk.injEq] at h
      obtain ⟨rfl, rfl⟩ := h
      have hnot : ¬ log.take prev ++ incoming :: rest <+: log := by
        intro hpre
        have := hpre.length_le
        simp only [length_append, length_take, length_cons] at this
        omega
      rw [overlay, if_neg hnot, hlen, take_length]
      simp
    | some existing =>
      obtain ⟨hlt, hval⟩ := List.getElem?_eq_some_iff.mp hget
      have htake : log.take (prev + 1) = log.take prev ++ [existing] := by
        rw [take_add_one, hget]
        rfl
      simp only [hget] at h
      split_ifs at h with hne hcommitted
      · -- a conflict: the log is cut here and the rest replaces what was there
        simp only [ok.injEq, Prod.mk.injEq] at h
        obtain ⟨rfl, rfl⟩ := h
        have hnot : ¬ log.take prev ++ incoming :: rest <+: log := by
          rintro ⟨r, hr⟩
          have : (log.take prev ++ incoming :: rest ++ r)[prev]? = some incoming := by
            rw [append_assoc, List.getElem?_append_right (by simp)]
            simp [Nat.min_eq_left hprev]
          rw [hr, hget] at this
          exact hne (some.inj this)
        simp [overlay, hnot]
      · obtain rfl : existing = incoming := by simpa using hne
        obtain ⟨hlog, hsame⟩ := ih hlt h
        rw [htake, append_assoc] at hlog
        exact ⟨hlog, hsame⟩

/-- Entries that agree with the committed start of the log can be merged. -/
theorem mergeEntries_ok {commitIndex prev : ℕ} {log entries : List LogEntry}
    (hagree : ∀ i e, entries[i]? = some e → prev + i < commitIndex → log[prev + i]? = some e) :
    ∃ log' changed, mergeEntries commitIndex log (prev + 1) entries = .ok (log', changed) := by
  induction entries generalizing prev with
  | nil => exact ⟨log, false, rfl⟩
  | cons incoming rest ih =>
    rw [mergeEntries, Nat.add_sub_cancel]
    cases hget : log[prev]? with
    | none => exact ⟨_, _, rfl⟩
    | some existing =>
      simp only
      split_ifs with hne hcommitted
      · have hsame := hagree 0 incoming rfl (by omega)
        rw [Nat.add_zero, hget] at hsame
        exact absurd (some.inj hsame) hne
      · exact ⟨_, _, rfl⟩
      · refine ih fun i e he hlt => ?_
        have := hagree (i + 1) e (by simpa using he) (by omega)
        rwa [← Nat.add_assoc, Nat.add_right_comm] at this

/-- Merging leaves the committed start of the log alone. -/
theorem mergeEntries_take {commitIndex index : ℕ} {log entries log' : List LogEntry}
    {changed : Bool} (hcommit : commitIndex ≤ log.length)
    (h : mergeEntries commitIndex log index entries = .ok (log', changed)) :
    log'.take commitIndex = log.take commitIndex := by
  induction entries generalizing index with
  | nil =>
    obtain ⟨rfl, -⟩ : log = log' ∧ false = changed := by simpa [mergeEntries] using h
    rfl
  | cons incoming rest ih =>
    rw [mergeEntries] at h
    cases hget : log[index - 1]? with
    | none =>
      simp only [hget, ok.injEq, Prod.mk.injEq] at h
      rw [← h.1, take_append_of_le_length hcommit]
    | some existing =>
      obtain ⟨hlt, -⟩ := List.getElem?_eq_some_iff.mp hget
      simp only [hget] at h
      split_ifs at h with hne hcommitted
      · -- a conflict lies behind the commit index
        simp only [ok.injEq, Prod.mk.injEq] at h
        have hle : commitIndex ≤ (log.take (index - 1)).length := by
          simp only [length_take]
          omega
        rw [← h.1, take_append_of_le_length hle, take_take, Nat.min_eq_left (by omega)]
      · exact ih h

/-! ## The committed configuration -/

/-- The configuration an entry sets, as it is reported once committed. -/
def configurationAt (clusterId : String) (entry : LogEntry) : Option CommittedConfiguration :=
  match entry.command with
  | .noop => none
  | .setRoutingConfiguration configuration writer =>
    some { clusterId, revision := entry.index, term := entry.term, configuration, writer }

/-- The last configuration that `entries` set. -/
def latestConfiguration (clusterId : String) (entries : List LogEntry) :
    Option CommittedConfiguration :=
  (entries.filterMap (configurationAt clusterId)).getLast?

/-- The configuration an entry sets passes its check. -/
def ValidCommand (entry : LogEntry) : Prop :=
  ∀ configuration writer, entry.command = .setRoutingConfiguration configuration writer →
    configuration.validate = .ok ()

lemma applyEntries_eq (clusterId : String) {entries : List LogEntry}
    (hvalid : ∀ e ∈ entries, ValidCommand e) (committed : Option CommittedConfiguration) :
    applyEntries clusterId committed entries =
      .ok ((latestConfiguration clusterId entries).or committed) := by
  induction entries generalizing committed with
  | nil => simp [applyEntries, latestConfiguration]
  | cons entry rest ih =>
    have hrest := ih fun e he => hvalid e (mem_cons_of_mem _ he)
    rw [applyEntries]
    cases hcommand : entry.command with
    | noop =>
      simp only [hrest]
      simp [latestConfiguration, configurationAt, hcommand]
    | setRoutingConfiguration configuration writer =>
      simp only [hvalid entry mem_cons_self configuration writer hcommand, hrest]
      simp only [latestConfiguration, filterMap_cons, configurationAt, hcommand]
      cases hlast : (List.filterMap (configurationAt clusterId) rest).getLast? with
      | none =>
        rw [List.getLast?_eq_none_iff] at hlast
        simp [hlast]
      | some last =>
        rw [List.getLast?_cons, hlast]
        simp

/-- Applying succeeds only on configurations that pass their check. -/
theorem valid_of_applyEntries {clusterId : String} {entries : List LogEntry}
    {committed committed' : Option CommittedConfiguration}
    (h : applyEntries clusterId committed entries = .ok committed') :
    ∀ e ∈ entries, ValidCommand e := by
  induction entries generalizing committed with
  | nil => simp
  | cons entry rest ih =>
    rw [applyEntries] at h
    cases hcommand : entry.command with
    | noop =>
      simp only [hcommand] at h
      exact forall_mem_cons.mpr ⟨by simp [ValidCommand, hcommand], ih h⟩
    | setRoutingConfiguration configuration writer =>
      cases hvalid : configuration.validate with
      | error error => simp [hcommand, hvalid] at h
      | ok checked =>
        simp only [hcommand, hvalid] at h
        refine forall_mem_cons.mpr ⟨?_, ih h⟩
        intro configuration' writer' hcommand'
        rw [hcommand] at hcommand'
        obtain ⟨rfl, -⟩ := Command.setRoutingConfiguration.inj hcommand'
        exact hvalid

lemma applyCommitted_eq {persistent : PersistentState Id}
    (hvalid : ∀ e ∈ persistent.log.take persistent.commitIndex, ValidCommand e) :
    applyCommitted persistent = .ok (persistent.commitIndex,
      latestConfiguration persistent.clusterId
        (persistent.log.take persistent.commitIndex)) := by
  rw [applyCommitted, applyEntries_eq persistent.clusterId hvalid none]
  simp only [or_none]
  rfl

lemma valid_of_applyCommitted {persistent : PersistentState Id}
    {applied : ℕ × Option CommittedConfiguration} (h : applyCommitted persistent = .ok applied) :
    ∀ e ∈ persistent.log.take persistent.commitIndex, ValidCommand e := by
  unfold applyCommitted at h
  cases happly : applyEntries persistent.clusterId none
      (persistent.log.take persistent.commitIndex) with
  | error error => simp [happly, bind, Except.bind] at h
  | ok committed => exact valid_of_applyEntries happly

/-! ## Counting -/

lemma highestCommittableIndex_eq_some {term majority index : ℕ} {matchIndexes : List ℕ}
    (h : highestCommittableIndex state term matchIndexes majority = some index) :
    state.commitIndex < index ∧ index ≤ state.log.length ∧
      (∃ e, state.log[index - 1]? = some e ∧ e.term = term) ∧
      majority ≤ (matchIndexes.filter (· ≥ index)).length := by
  have hmem := mem_of_find?_eq_some h
  have hp := List.find?_some h
  simp only [mem_reverse, mem_range'_1] at hmem
  simp only [Bool.and_eq_true, beq_iff_eq, decide_eq_true_eq] at hp
  exact ⟨by omega, by omega, (logTerm_eq_some (by omega)).mp hp.1, hp.2⟩

/-- A response counts as a vote for `request`. -/
def countsFor (request : RequestVoteRequest Id) (response : Option RequestVoteResponse) : Bool :=
  response.any fun response => response.term == request.term && response.voteGranted

lemma tallyVotes_votes (request : RequestVoteRequest Id)
    (responses : List (Id × Option RequestVoteResponse)) :
    (tallyVotes request responses).1 =
      1 + (responses.filter fun answer => countsFor request answer.2).length := by
  -- the fold from any tally adds the votes to it
  have hfold : ∀ tally : ℕ × ℕ, (responses.foldl (tallyVote request) tally).1 =
      tally.1 + (responses.filter fun answer => countsFor request answer.2).length := by
    induction responses with
    | nil => simp
    | cons answer rest ih =>
      intro tally
      obtain ⟨peer, response⟩ := answer
      rw [foldl_cons, ih]
      cases response with
      | none => simp [tallyVote, countsFor]
      | some response =>
        by_cases hcount : response.term = request.term ∧ response.voteGranted = true
        · simp [tallyVote, countsFor, hcount]
          omega
        · have : countsFor request (some response) = false := by
            simpa [countsFor] using hcount
          simp [tallyVote, hcount, this]
  exact hfold (1, request.term)

/-! ## Saving and applying -/

variable {α : Type}

lemma persistLocked_eq {clusterId : String} {state : VolatileState Id}
    (h : state.persistent.WellFormed clusterId) (hid : validateClusterId clusterId = .ok ())
    (next : VolatileState Id → Outcome Id α) :
    persistLocked state next =
      { next state with saves := state.persistent :: (next state).saves } := by
  rw [persistLocked, h.save_eq hid]

@[simp]
lemma persistIf_true (state : VolatileState Id) (next : VolatileState Id → Outcome Id α) :
    persistIf true state next = persistLocked state next := rfl

@[simp]
lemma persistIf_false (state : VolatileState Id) (next : VolatileState Id → Outcome Id α) :
    persistIf false state next = next state := rfl

lemma applyCommittedLocked_eq (state : VolatileState Id)
    (hvalid : ∀ e ∈ state.persistent.log.take state.persistent.commitIndex, ValidCommand e)
    (next : VolatileState Id → Outcome Id α) :
    applyCommittedLocked state next = next { state with
      lastApplied := state.persistent.commitIndex
      committedConfiguration := latestConfiguration state.persistent.clusterId
        (state.persistent.log.take state.persistent.commitIndex) } := by
  rw [applyCommittedLocked, applyCommitted_eq hvalid]

end InferLab.ControlPlane
