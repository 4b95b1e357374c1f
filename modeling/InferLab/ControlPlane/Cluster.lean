import Mathlib.Data.Fintype.Card
import InferLab.Transition
import InferLab.ControlPlane.Raft

/-!
# The cluster

Three nodes, their disks and the network. A step runs one critical section of one node to
its end, cuts one short by a crash after some of its saves, restarts a node, or gives up a
call. Requests that were sent stay in the network and may be delivered at any time, in any
order, any number of times or never. A reply is kept with the request it answers, and a
caller takes at most one from each peer; a caller may thereby also see the answer to an
earlier request with the same content, which only adds runs.
-/

namespace InferLab.ControlPlane

open Option List

/-- The configurations of the nodes of one cluster: each has the others as peers. -/
structure Cluster (Id : Type) where
  clusterId : String
  config : Id → NodeConfig Id
  nodeId_eq : ∀ n, (config n).nodeId = n
  clusterId_eq : ∀ n, (config n).clusterId = clusterId
  mem_peers : ∀ n p, p ∈ (config n).peers ↔ p ≠ n

/-- The nodes, their disks, the calls in progress and the messages sent so far. -/
structure World (Id : Type) where
  node : Id → VolatileState Id
  disk : Id → PersistentState Id
  /-- the request of the campaign in progress, one at a time under the campaign lock -/
  campaign : Id → Option (RequestVoteRequest Id)
  /-- the term and requests of the replication round in progress, one at a time -/
  round : Id → Option (ℕ × List (Id × AppendEntriesRequest Id))
  /-- the client write in progress, one at a time under the proposal lock -/
  write : Id → Option PendingWrite
  voteRequests : List (Id × RequestVoteRequest Id)
  voteReplies : List (Id × RequestVoteRequest Id × RequestVoteResponse)
  appendRequests : List (Id × AppendEntriesRequest Id)
  appendReplies : List (Id × AppendEntriesRequest Id × AppendEntriesResponse)

/-- The critical sections. -/
inductive Event (Id : Type)
  | campaignStart (n : Id)
  | campaignEnd (n : Id) (responses : List (Id × Option RequestVoteResponse))
  | requestVote (n : Id) (request : RequestVoteRequest Id)
  | replicateStart (n : Id)
  | replicateEnd (n : Id) (responses : List (Id × Option AppendEntriesResponse))
  | appendEntries (n : Id) (request : AppendEntriesRequest Id)
  | write (n : Id) (configuration : RoutingConfiguration) (expectedRevision : Option ℕ)
      (writer : Option CommittedWriteProvenance)
  | poll (n : Id)

/-- The steps of the cluster. -/
inductive Action (Id : Type)
  /-- a section runs to its end -/
  | run (event : Event Id)
  /-- the node crashes in a section after the first `saved` of its saves, and reopens -/
  | crash (event : Event Id) (saved : ℕ)
  /-- the node crashes between two sections, and reopens -/
  | restart (n : Id)
  /-- a call gives up: it could not sign or trace, or timed out -/
  | abandonCampaign (n : Id)
  | abandonRound (n : Id)
  | abandonWrite (n : Id)

/-- A section about to run: the node, what it saves, and the world if it runs to its end. -/
structure Attempt (Id : Type) where
  node : Id
  saves : List (PersistentState Id)
  next : World Id

variable {Id : Type} [DecidableEq Id]

namespace World

/-- The world after node `n` has run a section, and `after` has passed on its result. -/
def finish {α : Type} (w : World Id) (n : Id) (outcome : Outcome Id α)
    (after : World Id → Except (RaftError Id) α → World Id) : Attempt Id where
  node := n
  saves := outcome.saves
  next := after
    { w with
      node := Function.update w.node n outcome.state
      disk := Function.update w.disk n (outcome.saves.getLast?.getD (w.disk n)) }
    outcome.result

end World

namespace Cluster

variable (c : Cluster Id)

/-- The section an event runs, when it can run. -/
def attempt (w : World Id) : Event Id → Option (Attempt Id)
  | .campaignStart n =>
    if w.campaign n = none then
      some <| w.finish n (campaignStart (c.config n) (w.node n)) fun w result =>
        match result with
        | .ok (some request) => { w with
            campaign := Function.update w.campaign n (some request)
            voteRequests := w.voteRequests ++ (c.config n).peers.map (·, request) }
        | _ => w
    else
      none
  | .campaignEnd n responses =>
    match w.campaign n with
    | none => none
    | some request =>
      if responses.map Prod.fst = (c.config n).peers ∧ ∀ answer ∈ responses,
          ∀ response ∈ answer.2, (answer.1, request, response) ∈ w.voteReplies then
        some <| w.finish n (campaignEnd (c.config n) request responses (w.node n)) fun w _ =>
          { w with campaign := Function.update w.campaign n none }
      else
        none
  | .requestVote n request =>
    if (n, request) ∈ w.voteRequests then
      some <| w.finish n (handleRequestVote (c.config n) request (w.node n)) fun w result =>
        match result with
        | .ok response => { w with voteReplies := w.voteReplies ++ [(n, request, response)] }
        | .error _ => w
    else
      none
  | .replicateStart n =>
    if w.round n = none then
      some <| w.finish n (replicateStart (c.config n) (w.node n)) fun w result =>
        match result with
        | .ok (some round) => { w with
            round := Function.update w.round n (some round)
            appendRequests := w.appendRequests ++ round.2 }
        | _ => w
    else
      none
  | .replicateEnd n responses =>
    match w.round n with
    | none => none
    | some (term, requests) =>
      if responses.map Prod.fst = requests.map Prod.fst ∧ ∀ answer ∈ responses.zip requests,
          ∀ response ∈ answer.1.2, (answer.1.1, answer.2.2, response) ∈ w.appendReplies then
        some <| w.finish n (replicateEnd (c.config n) term responses (w.node n)) fun w _ =>
          { w with round := Function.update w.round n none }
      else
        none
  | .appendEntries n request =>
    if (n, request) ∈ w.appendRequests then
      some <| w.finish n (handleAppendEntries (c.config n) request (w.node n)) fun w result =>
        match result with
        | .ok response => { w with appendReplies := w.appendReplies ++ [(n, request, response)] }
        | .error _ => w
    else
      none
  | .write n configuration expectedRevision writer =>
    if w.write n = none then
      some <| w.finish n (writeConfigurationWithFence (c.config n) configuration
          expectedRevision writer (w.node n)) fun w result =>
        match result with
        | .ok pending => { w with write := Function.update w.write n (some pending) }
        | .error _ => w
    else
      none
  | .poll n =>
    match w.write n with
    | none => none
    | some pending =>
      some <| w.finish n (pollWrite pending (w.node n)) fun w result =>
        match result with
        | .ok none => w
        | _ => { w with write := Function.update w.write n none }

/-- The node `n` starts again from what its file holds; its calls are gone. -/
def reopen (w : World Id) (n : Id) (file : PersistentState Id) : Option (World Id) :=
  match openNode (c.config n) file with
  | .ok (state, file) => some { w with
      node := Function.update w.node n state
      disk := Function.update w.disk n file
      campaign := Function.update w.campaign n none
      round := Function.update w.round n none
      write := Function.update w.write n none }
  | .error _ => none

def step? (w : World Id) : Action Id → Option (World Id)
  | .run event => (c.attempt w event).map (·.next)
  | .crash event saved =>
    match c.attempt w event with
    | some attempt =>
      c.reopen w attempt.node
        (((attempt.saves.take saved).getLast?).getD (w.disk attempt.node))
    | none => none
  | .restart n => c.reopen w n (w.disk n)
  | .abandonCampaign n => some { w with campaign := Function.update w.campaign n none }
  | .abandonRound n => some { w with round := Function.update w.round n none }
  | .abandonWrite n => some { w with write := Function.update w.write n none }

/-- Every node just opened on an empty disk. -/
def start : World Id where
  node n := openedState { PersistentState.default with clusterId := (c.config n).clusterId } 0 none
  disk n := { PersistentState.default with clusterId := (c.config n).clusterId }
  campaign _ := none
  round _ := none
  write _ := none
  voteRequests := []
  voteReplies := []
  appendRequests := []
  appendReplies := []

/-- All terms are below `u64::MAX`. -/
def Bounded (w : World Id) : Prop := ∀ n, (w.node n).persistent.currentTerm < u64Max

instance [Fintype Id] (w : World Id) : Decidable (Bounded w) :=
  inferInstanceAs (Decidable (∀ n, (w.node n).persistent.currentTerm < u64Max))

/-- The cluster as a transition system, as long as all terms stay below `u64::MAX`. -/
def system : System (World Id) where
  init w := w = c.start
  step w w' := (∃ action, c.step? w action = some w') ∧ Bounded w'

/-! ## Runs from a list of actions -/

/-- The worlds that a list of actions leads through, if all of them can be taken. -/
def trace? [Fintype Id] (w : World Id) : List (Action Id) → Option (List (World Id))
  | [] => some [w]
  | action :: rest =>
    match c.step? w action with
    | some w' => if Bounded w' then (trace? w' rest).map (w :: ·) else none
    | none => none

variable {run : List (World Id)} {actions : List (Action Id)}

lemma head?_of_trace? [Fintype Id] {w : World Id} (h : c.trace? w actions = some run) :
    run.head? = some w := by
  cases actions with
  | nil =>
    obtain rfl := some.inj h
    rfl
  | cons action rest =>
    simp only [trace?] at h
    split at h
    · simp only [ite_none_right_eq_some, map_eq_some_iff] at h
      obtain ⟨-, run', -, rfl⟩ := h
      rfl
    · simp at h

lemma isChain_of_trace? [Fintype Id] {w : World Id} (h : c.trace? w actions = some run) :
    run.IsChain c.system.step := by
  induction actions generalizing w run with
  | nil =>
    obtain rfl := some.inj h
    exact isChain_singleton w
  | cons action rest ih =>
    simp only [trace?] at h
    split at h
    · rename_i w' hstep
      simp only [ite_none_right_eq_some, map_eq_some_iff] at h
      obtain ⟨hbounded, run', htrace, rfl⟩ := h
      refine isChain_cons.mpr ⟨fun v hv => ?_, ih htrace⟩
      obtain rfl : w' = v := by simpa [c.head?_of_trace? htrace] using hv
      exact ⟨⟨action, hstep⟩, hbounded⟩
    · simp at h

/-- The worlds that actions lead through from the start are a run. -/
theorem isRun_of_trace? [Fintype Id] (h : c.trace? c.start actions = some run) :
    c.system.IsRun run :=
  ⟨⟨c.start, by simp [c.head?_of_trace? h], rfl⟩, c.isChain_of_trace? h⟩

/-- The world that a list of actions leads to. -/
def after? (w : World Id) : List (Action Id) → Option (World Id)
  | [] => some w
  | action :: rest => (c.step? w action).bind fun w => after? w rest

/-- Each action of a run is one of its steps. -/
theorem exists_step_of_trace? [Fintype Id] {w : World Id} {actions rest : List (Action Id)}
    {action : Action Id} (h : c.trace? w (actions ++ action :: rest) = some run) :
    ∃ w₁ w₂, [w₁, w₂] <:+: run ∧ c.after? w actions = some w₁ ∧
      c.step? w₁ action = some w₂ := by
  induction actions generalizing w run with
  | nil =>
    simp only [nil_append, trace?] at h
    split at h
    · rename_i w' hstep
      simp only [ite_none_right_eq_some, map_eq_some_iff] at h
      obtain ⟨-, run', htrace, rfl⟩ := h
      have hhead := c.head?_of_trace? htrace
      cases run' with
      | nil => simp at hhead
      | cons v l =>
        obtain rfl : v = w' := by simpa using hhead
        exact ⟨w, v, ⟨[], l, rfl⟩, rfl, hstep⟩
    · simp at h
  | cons first actions ih =>
    simp only [cons_append, trace?] at h
    split at h
    · rename_i w' hstep
      simp only [ite_none_right_eq_some, map_eq_some_iff] at h
      obtain ⟨-, run', htrace, rfl⟩ := h
      obtain ⟨w₁, w₂, hinfix, hafter, hlast⟩ := ih htrace
      exact ⟨w₁, w₂, hinfix.trans (suffix_cons w run').isInfix,
        by simp [after?, hstep, hafter], hlast⟩
    · simp at h

/-- The names of three nodes. -/
inductive Member
  | member0
  | member1
  | member2
  deriving DecidableEq, Repr

namespace Member

instance fintype : Fintype Member where
  elems := {member0, member1, member2}
  complete n := by cases n <;> decide

instance ofNat0 : OfNat Member 0 := ⟨member0⟩

instance ofNat1 : OfNat Member 1 := ⟨member1⟩

instance ofNat2 : OfNat Member 2 := ⟨member2⟩

def peers : Member → List Member
  | member0 => [1, 2]
  | member1 => [2, 0]
  | member2 => [0, 1]

end Member

/-- The cluster of nodes `0`, `1` and `2`. -/
def three : Cluster Member where
  clusterId := "inferlab-default"
  config n := {
    nodeId := n
    clusterId := "inferlab-default"
    peers := n.peers
    clusterId_ok := by decide
    peers_length := by revert n; decide
    nodup := by revert n; decide }
  nodeId_eq _ := rfl
  clusterId_eq _ := rfl
  mem_peers := by decide

end Cluster

end InferLab.ControlPlane
