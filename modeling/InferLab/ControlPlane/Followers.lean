import InferLab.ControlPlane.Safety

/-!
# How far a follower commits

A follower that acknowledges a request raises its commit index to the leader's, as far as its
own log reaches. The request confirms the log only up to its last entry, so the two differ for
a request that stops short of what it calls committed. No leader of the protocol sends one: it
always sends all it has after the previous entry.
-/

namespace InferLab.ControlPlane

variable {Id : Type}

/-- A log that the request leaves longer than it confirms held the entries before. -/
theorem Merges.unconfirmed_iff {request : AppendEntriesRequest Id}
    {persistent : PersistentState Id} {log : List LogEntry} {changed : Bool}
    (h : Merges request persistent log changed) :
    request.prevLogIndex + request.entries.length < log.length ↔
      request.prevLogIndex + request.entries.length < persistent.log.length ∧
        persistent.log.take request.prevLogIndex ++ request.entries <+: persistent.log := by
  rw [h.log_eq, Consensus.overlay]
  split_ifs with hpre
  · simp [hpre]
  · rw [h.length_source]
    simp [hpre]

/-- The commit index after a successful answer, when it is within what the request confirms,
and that it always is for what a leader sends. -/
theorem follower_commit_bound [DecidableEq Id] [Fintype Id] (config : NodeConfig Id)
    (request : AppendEntriesRequest Id) (state : VolatileState Id)
    {response : AppendEntriesResponse}
    (h : (handleAppendEntries config request state).result = .ok response)
    (hsuccess : response.success = true) :
    let after := (handleAppendEntries config request state).state.persistent
    let confirmed := request.prevLogIndex + request.entries.length
    after.commitIndex =
        max state.persistent.commitIndex (min request.leaderCommit after.log.length) ∧
      (after.commitIndex ≤
          max state.persistent.commitIndex (min request.leaderCommit confirmed) ↔
        ¬ (max state.persistent.commitIndex confirmed <
            min request.leaderCommit state.persistent.log.length ∧
          state.persistent.log.take request.prevLogIndex ++ request.entries <+:
            state.persistent.log)) ∧
      ∀ (c : Cluster Id) (w : World Id) (p : Id), c.system.Reachable w →
        (p, request) ∈ w.appendRequests → after.commitIndex ≤
          max state.persistent.commitIndex (min request.leaderCommit confirmed) := by
  obtain ⟨log, changed, hmerges, hstate, -⟩ := handleAppendEntries_success h hsuccess
  simp only [hstate, true_and]
  have hlonger := hmerges.unconfirmed_iff
  have hle := hmerges.le_length
  constructor
  · have hlen : request.prevLogIndex + request.entries.length < log.length →
        log = state.persistent.log := by
      intro hlt
      rw [hmerges.log_eq, Consensus.overlay, if_pos (hlonger.mp hlt).2]
    constructor
    · rintro hbound ⟨hlt, hpre⟩
      have hlonger' := hlonger.mpr ⟨by omega, hpre⟩
      rw [hlen hlonger'] at hbound
      omega
    · intro hnot
      by_contra hbound
      have hlonger' : request.prevLogIndex + request.entries.length < log.length := by omega
      refine hnot ⟨?_, (hlonger.mp hlonger').2⟩
      rw [← hlen hlonger']
      omega
  · intro c w p hw hsent
    obtain ⟨a, -, hsim, -⟩ := c.simulation.reachable hw
    have hcommit := (hsim.appendRequests _ hsent).commit_le
    simp only at hcommit
    omega

/-- A follower whose log holds two entries, neither known to be committed. -/
def uncommittedFollower : VolatileState Cluster.Member :=
  openedState
    { clusterId := "inferlab-default", currentTerm := 1, votedFor := some 0,
      log := firstEntries, commitIndex := 0 } 0 none

/-- A heartbeat on top of the first entry commits the second one as well. -/
theorem follower_commits_unconfirmed :
    let request := firstRequest 1 1 2 []
    let outcome := handleAppendEntries (Cluster.three.config 1) request uncommittedFollower
    outcome.result = .ok { term := 1, success := true, matchIndex := 1 } ∧
      outcome.state.persistent.commitIndex = 2 ∧
      ¬ outcome.state.persistent.commitIndex ≤
        max uncommittedFollower.persistent.commitIndex
          (min request.leaderCommit (request.prevLogIndex + request.entries.length)) := by
  decide +kernel

theorem follower_commit_bound_heartbeat :
    (handleAppendEntries (Cluster.three.config 1) (firstRequest 2 1 2 [])
      uncommittedFollower).state.persistent.commitIndex = 2 := by
  have hresult : (handleAppendEntries (Cluster.three.config 1) (firstRequest 2 1 2 [])
      uncommittedFollower).result = .ok { term := 1, success := true, matchIndex := 2 } := by
    decide +kernel
  exact (follower_commit_bound (Cluster.three.config 1) (firstRequest 2 1 2 [])
    uncommittedFollower hresult rfl).1.trans (by decide +kernel)

end InferLab.ControlPlane
