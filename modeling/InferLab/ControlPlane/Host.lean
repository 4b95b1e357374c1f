import InferLab.Transition
import InferLab.ControlPlane.Handlers

/-!
# One node among requests with any content

A node, its file, and the votes it has given, when nothing is known about the rest of the
cluster: any critical section may run at any time, on any arguments. Saves and the event
journal may fail, and the node may crash and reopen.

A failed save is `StableStorage::save` returning an error: the file holds what it held before,
or what was to be saved when only the last flush failed. What else is in memory at that point
is not tracked; the node has its storage error, and only adds runs.
-/

namespace InferLab.ControlPlane

open List Option

variable {Id : Type}

/-- The critical sections, with arguments that may come from anyone. -/
inductive Call (Id : Type)
  | requestVote (request : RequestVoteRequest Id)
  | appendEntries (request : AppendEntriesRequest Id)
  | campaignStart
  | campaignEnd (request : RequestVoteRequest Id)
      (responses : List (Id × Option RequestVoteResponse))
  | replicateStart
  | replicateEnd (term : ℕ) (responses : List (Id × Option AppendEntriesResponse))
  | write (configuration : RoutingConfiguration) (expectedRevision : Option ℕ)
      (writer : Option CommittedWriteProvenance)
  | poll (pending : PendingWrite)

/-- What a section returns, as far as anyone acts on it here. -/
inductive Reply (Id : Type)
  | vote (response : RequestVoteResponse)
  | append (response : AppendEntriesResponse)
  | campaign (request : Option (RequestVoteRequest Id))
  | done

/-- The same outcome with another result. -/
def Outcome.map {α β : Type} (outcome : Outcome Id α) (f : α → β) : Outcome Id β where
  state := outcome.state
  saves := outcome.saves
  result := outcome.result.map f

lemma Outcome.map_result_eq_ok {α β : Type} {outcome : Outcome Id α} {f : α → β} {value : β} :
    (outcome.map f).result = .ok value ↔ ∃ x, outcome.result = .ok x ∧ f x = value := by
  unfold Outcome.map
  cases outcome.result <;> simp [Except.map]

section Run

variable [DecidableEq Id] (config : NodeConfig Id)

def Call.run (state : VolatileState Id) : Call Id → Outcome Id (Reply Id)
  | .requestVote request => (handleRequestVote config request state).map .vote
  | .appendEntries request => (handleAppendEntries config request state).map .append
  | .campaignStart => (ControlPlane.campaignStart config state).map .campaign
  | .campaignEnd request responses =>
    (ControlPlane.campaignEnd config request responses state).map fun _ => .done
  | .replicateStart => (ControlPlane.replicateStart config state).map fun _ => .done
  | .replicateEnd term responses =>
    (ControlPlane.replicateEnd config term responses state).map fun _ => .done
  | .write configuration expectedRevision writer =>
    (writeConfigurationWithFence config configuration expectedRevision writer state).map
      fun _ => .done
  | .poll pending => (pollWrite pending state).map fun _ => .done

/-- The vote that a reply gives: one that was granted, or the node's own when it stands. -/
def Call.givenVote : Call Id → Except (RaftError Id) (Reply Id) → Option (ℕ × Id)
  | .requestVote request, .ok (.vote response) =>
    if response.voteGranted then some (request.term, request.candidateId) else none
  | .campaignStart, .ok (.campaign (some request)) => some (request.term, request.candidateId)
  | _, _ => none

/-- A node with its file, and the votes it has given so far. -/
structure Host (Id : Type) where
  node : VolatileState Id
  disk : PersistentState Id
  given : List (ℕ × Id)

/-- What may happen to a node. -/
inductive Happening (Id : Type)
  /-- a section runs to its end -/
  | serve (call : Call Id)
  /-- a section runs, but its event cannot be recorded, which is the last it does -/
  | unrecorded (call : Call Id)
  /-- the save after the first `saved` of a section fails; `replaced` says whether the file was
  replaced all the same, and `memory` is what the section leaves -/
  | saveFails (call : Call Id) (saved : ℕ) (replaced : Bool) (memory : VolatileState Id)
  /-- the node crashes in a section after its first `saved` saves, and reopens -/
  | crash (call : Call Id) (saved : ℕ)
  /-- the node crashes between two sections, and reopens -/
  | restart

/-- The section in which something happens, if it is in one. -/
def Happening.call? : Happening Id → Option (Call Id)
  | .serve call | .unrecorded call | .saveFails call _ _ _ | .crash call _ => some call
  | .restart => none

namespace Host

/-- What the file holds after the first `saved` saves of an outcome. -/
def fileAfter {α : Type} (disk : PersistentState Id) (outcome : Outcome Id α) (saved : ℕ) :
    PersistentState Id :=
  (outcome.saves.take saved).getLast?.getD disk

def reopen (host : Host Id) (file : PersistentState Id) : Option (Host Id) :=
  match openNode config file with
  | .ok (node, disk) => some { host with node, disk }
  | .error _ => none

def step? (host : Host Id) : Happening Id → Option (Host Id)
  | .serve call =>
    let outcome := call.run config host.node
    some {
      node := outcome.state
      disk := outcome.saves.getLast?.getD host.disk
      given := host.given ++ (call.givenVote outcome.result).toList }
  | .unrecorded call =>
    let outcome := call.run config host.node
    some { host with
      node := outcome.state
      disk := outcome.saves.getLast?.getD host.disk }
  | .saveFails call saved replaced memory =>
    let outcome := call.run config host.node
    if outcome.saves[saved]? = some memory.persistent ∧ memory.storageError ≠ none then
      some { host with
        node := memory
        disk := fileAfter host.disk outcome (if replaced then saved + 1 else saved) }
    else
      none
  | .crash call saved =>
    host.reopen config (fileAfter host.disk (call.run config host.node) saved)
  | .restart => host.reopen config host.disk

/-- The node as a transition system, as far as `allowed` lets things happen to it: it is opened
on a file with any content. -/
def system (allowed : Host Id → Happening Id → Prop) : System (Host Id) where
  init host := host.given = [] ∧ ∃ file, openNode config file = .ok (host.node, host.disk)
  step host host' := ∃ happening, allowed host happening ∧
    host.step? config happening = some host'

/-- A node that has been opened for the first time. -/
def fresh : Host Id where
  node := openedState { PersistentState.default with clusterId := config.clusterId } 0 none
  disk := { PersistentState.default with clusterId := config.clusterId }
  given := []

lemma init_fresh (allowed : Host Id → Happening Id → Prop) :
    (system config allowed).init (fresh config) :=
  ⟨rfl, .default, openNode_default config⟩

omit [DecidableEq Id] in
lemma fileAfter_cases {α : Type} (disk : PersistentState Id) (outcome : Outcome Id α)
    (saved : ℕ) :
    fileAfter disk outcome saved = disk ∨ fileAfter disk outcome saved ∈ outcome.saves := by
  unfold fileAfter
  cases hlast : (outcome.saves.take saved).getLast? with
  | none => exact .inl rfl
  | some file => exact .inr (take_subset _ _ (mem_of_getLast? hlast))

omit [DecidableEq Id] in
/-- After a whole section the file holds its last save. -/
theorem getLast?_getD_eq_fileAfter {α : Type} (disk : PersistentState Id)
    (outcome : Outcome Id α) :
    outcome.saves.getLast?.getD disk = fileAfter disk outcome outcome.saves.length := by
  rw [fileAfter, take_length]

/-- What a happening can lead to: the end of a section, a node with a storage error, or a node
that has just been opened. -/
inductive Next (host : Host Id) (happening : Happening Id) : Host Id → Prop
  | ran {call : Call Id} (mem : call ∈ happening.call?) (given : List (ℕ × Id))
      (new : given = [] ∨ ∃ vote, call.givenVote (call.run config host.node).result = some vote ∧
        given = [vote]) :
      Next host happening {
        node := (call.run config host.node).state
        disk := (call.run config host.node).saves.getLast?.getD host.disk
        given := host.given ++ given }
  | failed {call : Call Id} (mem : call ∈ happening.call?) (saved : ℕ)
      (memory : VolatileState Id)
      (saves : memory.persistent ∈ (call.run config host.node).saves)
      (error : memory.storageError ≠ none) :
      Next host happening {
        node := memory
        disk := fileAfter host.disk (call.run config host.node) saved
        given := host.given }
  | opened {file disk : PersistentState Id} {node : VolatileState Id}
      (source : file = host.disk ∨
        ∃ call ∈ happening.call?, file ∈ (call.run config host.node).saves)
      (opens : openNode config file = .ok (node, disk)) :
      Next host happening { host with node, disk }

variable {config}

lemma step?_cases {host host' : Host Id} {happening : Happening Id}
    (h : host.step? config happening = some host') : Next config host happening host' := by
  have hopened : ∀ file, (file = host.disk ∨
      ∃ call ∈ happening.call?, file ∈ (call.run config host.node).saves) →
      host.reopen config file = some host' → Next config host happening host' := by
    intro file hsource hopen
    unfold reopen at hopen
    cases hnode : openNode config file with
    | error error => simp [hnode] at hopen
    | ok opened =>
      obtain ⟨node, disk⟩ := opened
      simp only [hnode, some.injEq] at hopen
      obtain rfl := hopen
      exact .opened hsource hnode
  cases happening with
  | serve call =>
    obtain rfl := some.inj h
    refine .ran rfl _ ?_
    cases hvote : call.givenVote (call.run config host.node).result with
    | none => exact .inl rfl
    | some vote => exact .inr ⟨vote, rfl, rfl⟩
  | unrecorded call =>
    obtain rfl := some.inj h
    have hran : Next config host (.unrecorded call) _ := .ran rfl [] (.inl rfl)
    rwa [append_nil] at hran
  | saveFails call saved replaced memory =>
    simp only [step?, ite_none_right_eq_some, some.injEq] at h
    obtain ⟨⟨hsave, herror⟩, rfl⟩ := h
    exact .failed rfl _ memory (mem_of_getElem? hsave) herror
  | crash call saved =>
    refine hopened _ ?_ h
    rcases fileAfter_cases host.disk (call.run config host.node) saved with hdisk | hmem
    · exact .inl hdisk
    · exact .inr ⟨call, rfl, hmem⟩
  | restart => exact hopened _ (.inl rfl) h

end Host

end Run

end InferLab.ControlPlane
