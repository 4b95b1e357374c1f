import InferLab.Renewer.Writes

/-!
# Trust renewer: the file over its lifetime

Every content of the file comes from the earlier ones by changes of the durable state, also those
that a loss of power may bring back. What was saved before a publication is behind all of them,
and that is why the renewer never publishes two policies for one generation.
-/

namespace InferLab.Renewer

open ServiceAuth Wire Attempt List Option Storage Except

variable [Ed25519] [Base64] [Sha256] [Json ServiceTrustSnapshot] {authority : Authority}

/-! ## Contents of the file -/

variable (authority) in
/-- What may come after a content: the first state after no file, then later ones. -/
def Follows : Option DurableRenewalState → Option DurableRenewalState → Prop
  | none, none => True
  | none, some state => Later authority authority.emptyState state
  | some _, none => False
  | some state, some later => Later authority state later

lemma Follows.refl : ∀ content, Follows authority content content
  | none => trivial
  | some _ => Relation.ReflTransGen.refl

lemma Follows.trans : ∀ a b c, Follows authority a b → Follows authority b c →
    Follows authority a c
  | none, none, none, _, _ => trivial
  | none, none, some _, _, h => h
  | none, some _, some _, h, h' => Relation.ReflTransGen.trans h h'
  | some _, some _, some _, h, h' => Relation.ReflTransGen.trans h h'

variable {state : DurableRenewalState}

/-- Every state in the file is linked. -/
theorem Follows.linked (h : Follows authority none (some state)) : Linked state :=
  Later.linked h rfl

section Chain

variable [Json DurableRenewalState]

/-- What was certain to be in the file at a publication. -/
def Publication.saved (publication : Publication) : Option DurableRenewalState :=
  decodeFile publication.disk.durable

/-- The bytes were saved as the pending renewal, which was valid at the time. -/
structure Publication.Genuine (publication : Publication) : Prop where
  synced : publication.disk.unsynced = []
  pending : ∃ state ∈ publication.saved, ∃ pending ∈ state.pending,
    pending.exactSnapshotJson = publication.exactBytes ∧
    pending.issuedAtMs ≤ publication.effectiveNowMs ∧
    publication.effectiveNowMs < pending.expiresAtMs

variable (authority) in
/-- The states in the file and the publications so far. -/
structure Chain (versions : Storage (Option DurableRenewalState)) (disk : Storage (Option Bytes))
    (published : List Publication) : Prop where
  disk_eq : disk = versions.map encodeFile
  grows : versions.Grows (Follows authority)
  rooted : ∀ content ∈ versions.history, Follows authority none content
  bounded : ∀ content ∈ versions.history, ∀ state ∈ content,
    (Json.toVec state).length ≤ maxTrustRenewerStateBytes
  remembered : ∀ publication ∈ published, ∀ content ∈ versions.contents,
    Follows authority publication.saved content
  ordered : published.Pairwise fun p q => Follows authority p.saved q.saved
  genuine : ∀ publication ∈ published, publication.Genuine
  saved_rooted : ∀ publication ∈ published, Follows authority none publication.saved

variable {versions : Storage (Option DurableRenewalState)} {disk : Storage (Option Bytes)}
  {published : List Publication} {next : DurableRenewalState}

section

variable (h : Chain authority versions disk published)
include h

lemma Chain.replace (hnext : Follows authority versions.visible (some next))
    (hbound : (Json.toVec next).length ≤ maxTrustRenewerStateBytes) :
    Chain authority (versions.replace (some next)) (disk.replace (some (Json.toVec next)))
      published where
  disk_eq := by
    rw [h.disk_eq, map_replace]
    rfl
  grows := h.grows.replace Follows.refl Follows.trans hnext
  rooted content hmem := by
    rw [history_replace] at hmem
    rcases mem_append.mp hmem with hold | hnew
    · exact h.rooted content hold
    · rw [mem_singleton.mp hnew]
      have hvisible := h.rooted _ (versions.mem_history versions.visible_mem)
      exact Follows.trans _ _ _ hvisible hnext
  bounded content hmem state hstate := by
    rw [history_replace] at hmem
    rcases mem_append.mp hmem with hold | hnew
    · exact h.bounded content hold state hstate
    · rw [mem_singleton.mp hnew] at hstate
      rw [← some.inj hstate]
      exact hbound
  remembered publication hpublished content hmem := by
    rw [contents_replace] at hmem
    rcases mem_append.mp hmem with hold | hnew
    · exact h.remembered publication hpublished content hold
    · rw [mem_singleton.mp hnew]
      exact Follows.trans _ _ _ (h.remembered publication hpublished _ versions.visible_mem) hnext
  ordered := h.ordered
  genuine := h.genuine
  saved_rooted := h.saved_rooted

lemma Chain.sync : Chain authority versions.sync disk.sync published where
  disk_eq := by rw [h.disk_eq, map_sync]
  grows := h.grows.sync
  rooted content hmem := h.rooted content (by rwa [history_sync] at hmem)
  bounded content hmem := h.bounded content (by rwa [history_sync] at hmem)
  remembered publication hpublished content hmem := by
    rw [mem_singleton.mp hmem]
    exact h.remembered publication hpublished _ versions.visible_mem
  ordered := h.ordered
  genuine := h.genuine
  saved_rooted := h.saved_rooted

lemma Chain.lose (kept : ℕ) : Chain authority (versions.lose kept) (disk.lose kept) published where
  disk_eq := by rw [h.disk_eq, map_lose]
  grows := h.grows.lose kept
  rooted content hmem := h.rooted content ((versions.history_lose kept).subset hmem)
  bounded content hmem := h.bounded content ((versions.history_lose kept).subset hmem)
  remembered publication hpublished content hmem := by
    rw [mem_singleton.mp hmem]
    exact h.remembered publication hpublished _ (versions.lose_mem kept)
  ordered := h.ordered
  genuine := h.genuine
  saved_rooted := h.saved_rooted

/-- A publication of what has just been saved. -/
theorem Chain.publish [LawfulJson DurableRenewalState] (hdurable : versions.durable = some next)
    (hsynced : versions.unsynced = []) {pending : PendingRenewal}
    (hpending : next.pending = some pending) {effectiveNowMs : UInt64}
    (hissued : pending.issuedAtMs ≤ effectiveNowMs)
    (hexpires : effectiveNowMs < pending.expiresAtMs) :
    Chain authority versions disk
      (published ++ [⟨pending.exactSnapshotJson, effectiveNowMs, disk⟩]) := by
  have hcontents : versions.contents = [some next] := by
    rw [contents, hdurable, hsynced]
  have hsaved : Publication.saved ⟨pending.exactSnapshotJson, effectiveNowMs, disk⟩ =
      some next := by
    rw [Publication.saved, h.disk_eq]
    show decodeFile (encodeFile versions.durable) = some next
    rw [hdurable]
    exact LawfulJson.fromSlice_toVec next
  have hmem : some next ∈ versions.contents := hcontents ▸ mem_singleton_self _
  refine ⟨h.disk_eq, h.grows, h.rooted, h.bounded,
    fun publication hpublished content hcontent => ?_, ?_, ?_, ?_⟩
  · rcases mem_append.mp hpublished with hold | hnew
    · exact h.remembered publication hold content hcontent
    · rw [hcontents] at hcontent
      rw [mem_singleton.mp hnew, hsaved, mem_singleton.mp hcontent]
      exact Follows.refl _
  · rw [pairwise_append]
    refine ⟨h.ordered, pairwise_singleton _ _, fun publication hold last hlast => ?_⟩
    rw [mem_singleton.mp hlast, hsaved]
    exact h.remembered publication hold _ hmem
  · intro publication hpublished
    rcases mem_append.mp hpublished with hold | hnew
    · exact h.genuine publication hold
    · rw [mem_singleton.mp hnew]
      refine ⟨?_, next, hsaved, pending, hpending, rfl, hissued, hexpires⟩
      rw [h.disk_eq]
      exact congrArg (List.map encodeFile) hsynced
  · intro publication hpublished
    rcases mem_append.mp hpublished with hold | hnew
    · exact h.saved_rooted publication hold
    · rw [mem_singleton.mp hnew, hsaved]
      exact h.rooted _ (versions.mem_history hmem)

end

omit [Ed25519] [Base64] [Sha256] [Json ServiceTrustSnapshot] in
/-- Every result of a write. -/
theorem persist_cases (disk : Storage (Option Bytes)) (state : DurableRenewalState)
    (outcome : PersistOutcome) :
    (Json.toVec state).length ≤ maxTrustRenewerStateBytes ∧
      (persist disk state outcome = ((disk.replace (some (Json.toVec state))).sync, .saved) ∨
       persist disk state outcome = (disk.replace (some (Json.toVec state)), .uncertain) ∨
       persist disk state outcome = (disk.replace (some (Json.toVec state)), .crashed true)) ∨
    persist disk state outcome = (disk, .failed) ∨
    persist disk state outcome = (disk, .crashed false) := by
  by_cases hlarge : maxTrustRenewerStateBytes < (Json.toVec state).length
  · simp [persist, hlarge]
  · have hbound := Nat.le_of_not_lt hlarge
    cases outcome with
    | saved => simp [persist, hlarge, hbound]
    | failed => simp [persist, hlarge]
    | uncertain => simp [persist, hlarge, hbound]
    | crashed replaced => cases replaced <;> simp [persist, hlarge, hbound]

end Chain

/-! ## Steps of the engine -/

section Engine

variable [Json DurableRenewalState] {P P' : Type}

variable (authority) in
def Kept (s : Session P) : Prop := ∃ versions, Chain authority versions s.disk s.published

variable (authority) in
/-- The engine has in memory what is visible in the file. -/
def Sound (s : Session Engine) : Prop :=
  ∃ versions, Chain authority versions s.disk s.published ∧
    versions.visible = some s.process.state

variable (authority) in
/-- The engine has in memory what is certain to be in the file. -/
def Saved (next : DurableRenewalState) (s : Session Engine) : Prop :=
  ∃ versions, Chain authority versions s.disk s.published ∧ versions.durable = some next ∧
    versions.unsynced = [] ∧ s.process.state = next

variable (authority) in
/-- A step that fails closed leaves a sound session; one in which the process ends leaves the
file. -/
def Stopped : Stop → Session Engine → Prop
  | .failed _, s => Sound authority s
  | .crashed, s => Kept authority s

variable (authority) in
/-- A sound session whose durable state satisfies `A`. -/
def Holding (A : DurableRenewalState → Prop) (s : Session Engine) : Prop :=
  Sound authority s ∧ A s.process.state

variable {versions : Storage (Option DurableRenewalState)} {next : DurableRenewalState}

variable {A : DurableRenewalState → Prop}

lemma check_ensures {α : Type} {x : Except RenewerErrorKind α} :
    Ensures (Holding authority A) (check x)
      (fun a => Holding authority fun state => A state ∧ x = .ok a)
      (Stopped authority) := by
  intro s hs
  cases x with
  | ok a => exact ⟨hs.1, hs.2, rfl⟩
  | error kind => exact hs.1

/-- Changes of the engine that leave its durable state alone. -/
theorem Holding.frame {s s' : Session Engine} (h : Holding authority A s)
    (hdisk : s'.disk = s.disk) (hpublished : s'.published = s.published)
    (hstate : s'.process.state = s.process.state) : Holding authority A s' := by
  unfold Holding Sound
  rw [hdisk, hpublished, hstate]
  exact h

lemma setPhase_ensures (phase : RenewerPhase) (kind : Option RenewerErrorKind) :
    Ensures (Holding authority A) (setPhase phase kind)
      (fun _ => Holding authority A) (Stopped authority) :=
  .update fun _ hs => hs.frame rfl rfl rfl

lemma observeClock_ensures (reading : Option UInt64) :
    Ensures (Holding authority A) (observeClock reading)
      (fun _ => Holding authority A) (Stopped authority) := by
  refine .bind check_ensures fun observed => ?_
  intro s hs
  exact Holding.frame (s := s) ⟨hs.1, hs.2.1⟩ rfl rfl rfl

lemma persistState_ensures (next : DurableRenewalState) (outcome : PersistOutcome) :
    Ensures (Holding authority fun state => Write authority state next)
      (persistState next outcome) (fun _ => Saved authority next) (Stopped authority) := by
  rintro s ⟨⟨versions, hchain, hvisible⟩, hwrite⟩
  have hnext : Follows authority versions.visible (some next) := by
    rw [hvisible]
    exact .single hwrite
  show Ends _ _ (persistState next outcome s)
  rcases persist_cases s.disk next outcome with ⟨hbound, h | h | h⟩ | h | h <;>
    simp only [persistState, Attempt.get_bind_apply, h]
  · exact ⟨_, (hchain.replace hnext hbound).sync, visible_replace _ _, rfl, rfl⟩
  · exact ⟨_, hchain.replace hnext hbound, visible_replace _ _⟩
  · exact ⟨_, hchain.replace hnext hbound⟩
  · exact ⟨versions, hchain, hvisible⟩
  · exact ⟨versions, hchain⟩

/-- A sound session after a save. -/
theorem Saved.holding {s : Session Engine} (h : Saved authority next s) (hA : A next) :
    Holding authority A s := by
  obtain ⟨versions, hchain, hdurable, hsynced, hstate⟩ := h
  refine ⟨⟨versions, hchain, ?_⟩, hstate ▸ hA⟩
  rw [visible, hsynced, hdurable, hstate]
  rfl

lemma reconcile_ensures (remote : Option DistributorSnapshot) (effectiveNowMs : UInt64)
    (outcome : PersistOutcome) :
    Ensures (Holding authority fun _ => True)
      (reconcile authority remote effectiveNowMs outcome)
      (fun _ => Holding authority fun _ => True) (Stopped authority) := by
  refine .read fun s hs => ?_
  have hheld : Holding authority (· = s.process.state) s := ⟨hs.1, rfl⟩
  cases remote with
  | none => exact (check_ensures s hs).imp (fun _ _ h => ⟨h.1, trivial⟩) fun _ _ h => h
  | some remote =>
    refine Ensures.bind check_ensures (fun _ => ?_) s hheld
    refine Ensures.bind check_ensures fun expiresAtMs => ?_
    refine .bind check_ensures fun change => ?_
    cases change with
    | none => exact .pure fun s' hs' => ⟨hs'.1, trivial⟩
    | some next =>
      refine (persistState_ensures next outcome).imp ?_
        (fun _ s' hs' => hs'.holding trivial) fun _ _ h => h
      rintro s' ⟨hsound, ⟨⟨heq, hverified⟩, hexpires⟩, hreconciled⟩
      refine ⟨hsound, heq ▸ write_of_reconciled hverified ?_ hreconciled⟩
      cases hsome : remote.snapshot.policy.expiresAtMs with
      | none =>
        rw [hsome] at hexpires
        cases hexpires
      | some found =>
        rw [hsome] at hexpires
        rw [ok.inj hexpires]

lemma createPending_ensures {previousGeneration : Option UInt64} {issuedAtMs : UInt64}
    {lateRecovery : Bool} {outcome : PersistOutcome} :
    Ensures (Holding authority fun state => state.pending = none ∧
        state.committed.map CommittedRenewal.generation = previousGeneration)
      (createPending authority previousGeneration issuedAtMs lateRecovery outcome)
      (fun _ => Holding authority fun _ => True) (Stopped authority) := by
  refine .bind check_ensures fun snapshot => ?_
  refine .bind check_ensures fun pending => ?_
  refine .read fun s hs => ?_
  obtain ⟨hsound, ⟨⟨hnone, hprevious⟩, hsigned⟩, hpending⟩ := hs
  have hwrite : Write authority s.process.state { s.process.state with pending := some pending } :=
    .stage hnone (hprevious ▸ of_mapError hsigned) (of_mapError hpending)
  refine Ensures.bind (persistState_ensures _ outcome) (fun _ => ?_) s ⟨hsound, hwrite⟩
  refine Ensures.bind (Q := fun _ => Holding authority fun _ => True) ?_ fun _ =>
    .pure fun _ h => h
  exact (setPhase_ensures _ _).imp (fun s' hs' => hs'.holding trivial)
    (fun _ _ h => h) fun _ _ h => h

lemma handleTransportError_ensures (error : TransportError) (outcome : PersistOutcome) :
    Ensures (Holding authority fun _ => True) (handleTransportError authority error outcome)
      (fun _ => Holding authority fun _ => True) (Stopped authority) := by
  refine .bind check_ensures fun _ => ?_
  refine .read fun s hs => ?_
  refine Ensures.bind (persistState_ensures _ outcome) (fun _ => ?_) s ⟨hs.1, .count _⟩
  refine Ensures.bind (Q := fun _ => Holding authority fun _ => True) ?_ fun _ =>
    .pure fun _ h => h
  exact (setPhase_ensures _ _).imp (fun s' hs' => hs'.holding trivial)
    (fun _ _ h => h) fun _ _ h => h

variable [LawfulJson DurableRenewalState]

/-- The bytes are handed over only after their record has been saved, at a time at which they are
valid. -/
theorem publishPending_ensures {pending : PendingRenewal} {input : StepInput} :
    Ensures (Holding authority fun state => state.pending = some pending)
      (publishPending authority pending input)
      (fun _ => Holding authority fun _ => True) (Stopped authority) := by
  refine .bind (observeClock_ensures _) fun effectiveNowMs => ?_
  refine .bind check_ensures fun _ => ?_
  refine .read fun s hs => ?_
  obtain ⟨hsound, hpending, hvalid⟩ := hs
  have htimes : pending.issuedAtMs ≤ effectiveNowMs ∧ effectiveNowMs < pending.expiresAtMs := by
    by_contra hnot
    rw [if_neg hnot] at hvalid
    cases hvalid
  refine Ensures.bind (persistState_ensures _ input.attemptSave) (fun _ => ?_) s
    ⟨hsound, .attempt _ _ hpending⟩
  set next := s.process.state.attempted pending effectiveNowMs
  refine .bind (Q := fun _ => Saved authority next) ?_ fun _ => ?_
  · exact .update fun s' hs' => hs'
  refine .bind (Q := fun _ => Holding authority fun _ => True) ?_ fun _ => ?_
  · refine .update fun s' hs' => ?_
    have hpublished : next.pending = some { pending with lateRecovery := _ } := rfl
    obtain ⟨versions, hchain, hdurable, hsynced, hstate⟩ := hs'
    have hchain' := hchain.publish hdurable hsynced hpublished htimes.1 htimes.2
    exact Saved.holding ⟨versions, hchain', hdurable, hsynced, hstate⟩ trivial
  cases input.publishReply with
  | none =>
    refine .throw fun s' hs' => ?_
    obtain ⟨versions, hchain, -⟩ := hs'.1
    exact ⟨versions, hchain⟩
  | some reply =>
    cases reply with
    | error error => exact handleTransportError_ensures error input.transientSave
    | ok outcome =>
      cases outcome with
      | accepted => exact .pure fun _ h => h
      | conflict => exact .pure fun _ h => h
      | rejected => exact .throw fun _ h => h.1

lemma advance_ensures (effectiveNowMs : UInt64) (input : StepInput) :
    Ensures (Holding authority fun _ => True) (advance authority effectiveNowMs input)
      (fun _ => Holding authority fun _ => True) (Stopped authority) := by
  refine .read fun s hs => ?_
  cases hpending : s.process.state.pending with
  | some pending => exact publishPending_ensures s ⟨hs.1, hpending⟩
  | none =>
    cases hcommitted : s.process.state.committed with
    | none => exact createPending_ensures s ⟨hs.1, hpending, by rw [hcommitted]; rfl⟩
    | some committed =>
      have hheld : Holding authority (fun state => state.pending = none ∧
          state.committed.map CommittedRenewal.generation = some committed.generation) s :=
        ⟨hs.1, hpending, by rw [hcommitted]; rfl⟩
      refine Ensures.bind check_ensures (fun schedule => ?_) s hheld
      cases schedule with
      | waiting deadlineMs waitMs =>
        refine .bind (setPhase_ensures _ _) fun _ => ?_
        exact .pure fun _ h => ⟨h.1, trivial⟩
      | due deadlineMs =>
        exact createPending_ensures.imp (fun s' hs' => ⟨hs'.1, hs'.2.1⟩) (fun _ _ h => h)
          fun _ _ h => h
      | late deadlineMs lateByMs =>
        exact createPending_ensures.imp (fun s' hs' => ⟨hs'.1, hs'.2.1⟩) (fun _ _ h => h)
          fun _ _ h => h

lemma attemptStep_ensures (input : StepInput) :
    Ensures (Holding authority fun _ => True) (attemptStep authority input)
      (fun _ => Holding authority fun _ => True) (Stopped authority) := by
  refine .bind (observeClock_ensures _) fun _ => ?_
  refine .read fun s hs => ?_
  refine Ensures.bind (setPhase_ensures _ _) (fun _ => ?_) s hs
  cases input.reply with
  | error error => exact handleTransportError_ensures error input.transientSave
  | ok remote =>
    refine .bind (observeClock_ensures _) fun effectiveNowMs => ?_
    refine .bind (reconcile_ensures remote effectiveNowMs _) fun _ => ?_
    exact advance_ensures effectiveNowMs input

end Engine

/-! ## Runs -/

section Runs

variable [Json DurableRenewalState] {versions : Storage (Option DurableRenewalState)}

variable (authority) in
/-- A process that runs has in memory what is visible in the file. -/
def Tracked (w : RenewerState) : Prop :=
  ∃ versions, Chain authority versions w.disk w.published ∧
    ∀ engine ∈ w.process, versions.visible = some engine.state

/-- The file is left when the process ends. -/
theorem Kept.tracked {P : Type} {s : Session P} (h : Kept authority s) :
    Tracked authority { s with process := none } := by
  obtain ⟨versions, hchain⟩ := h
  exact ⟨versions, hchain, fun engine hengine => absurd hengine (not_mem_none _)⟩

lemma Sound.tracked_stopped {s : Session Engine} (h : Sound authority s)
    (kind : RenewerErrorKind) : Tracked authority (s.stopped kind) := by
  obtain ⟨versions, hchain, hvisible⟩ := h
  exact ⟨versions, hchain, fun engine hengine => some.inj hengine ▸ hvisible⟩

/-- Failing closed counts the failure, and no more. -/
theorem Sound.tracked_failClosed {s : Session Engine} (h : Sound authority s)
    (kind : RenewerErrorKind) (outcome : PersistOutcome) :
    Tracked authority (failClosed kind outcome s) := by
  unfold failClosed
  by_cases hkind : kind = .stateDurabilityUncertain
  · rw [if_pos hkind]
    exact h.tracked_stopped kind
  rw [if_neg hkind]
  obtain ⟨versions, hchain, hvisible⟩ := h
  have hnext : Follows authority versions.visible (some s.process.state.countRejected) := by
    rw [hvisible]
    exact .single (.count _)
  rcases persist_cases s.disk s.process.state.countRejected outcome with
    ⟨hbound, h | h | h⟩ | h | h <;> simp only [h]
  · have hsaved : Sound authority { s with
        disk := (s.disk.replace (some (Json.toVec s.process.state.countRejected))).sync
        process := { s.process with state := s.process.state.countRejected } } :=
      ⟨_, (hchain.replace hnext hbound).sync, visible_replace _ _⟩
    exact hsaved.tracked_stopped kind
  · have hreplaced : Sound authority { s with
        disk := s.disk.replace (some (Json.toVec s.process.state.countRejected))
        process := { s.process with state := s.process.state.countRejected } } :=
      ⟨_, hchain.replace hnext hbound, visible_replace _ _⟩
    exact hreplaced.tracked_stopped _
  · have hreplaced : Kept authority { s with
        disk := s.disk.replace (some (Json.toVec s.process.state.countRejected)) } :=
      ⟨_, hchain.replace hnext hbound⟩
    exact hreplaced.tracked
  · exact Sound.tracked_stopped ⟨versions, hchain, hvisible⟩ _
  · exact Kept.tracked (s := s) ⟨versions, hchain⟩

lemma Sound.tracked_afterStep {outcome : PersistOutcome}
    {result : EStateM.Result Stop (Session Engine) StepOutcome}
    (h : Ends (fun _ => Holding authority fun _ => True) (Stopped authority) result) :
    Tracked authority (afterStep outcome result) := by
  cases result with
  | ok _ s =>
    obtain ⟨⟨versions, hchain, hvisible⟩, -⟩ := h
    exact ⟨versions, hchain, fun engine hengine => some.inj hengine ▸ hvisible⟩
  | error stop s =>
    cases stop with
    | failed kind => exact Sound.tracked_failClosed h kind outcome
    | crashed => exact Kept.tracked h

variable [LawfulJson DurableRenewalState]

lemma Sound.tracked_stepEngine {s : Session Engine} (h : Sound authority s)
    (input : StepInput) : Tracked authority (stepEngine authority input s) := by
  unfold stepEngine
  by_cases hclosed : s.process.phase = .failedClosed
  · rw [if_pos hclosed]
    obtain ⟨versions, hchain, hvisible⟩ := h
    exact ⟨versions, hchain, fun engine hengine => some.inj hengine ▸ hvisible⟩
  · rw [if_neg hclosed]
    exact Sound.tracked_afterStep (attemptStep_ensures input s ⟨h, trivial⟩)

omit [Ed25519] [Base64] [Sha256] [Json ServiceTrustSnapshot] in
/-- What is loaded is what was written. -/
theorem load_encodeFile {content : Option DurableRenewalState}
    (h : load (encodeFile content) = .ok state) : content = some state := by
  cases content with
  | none => cases h
  | some written =>
    obtain ⟨_, _, h⟩ := of_bind h
    obtain ⟨_, _, h⟩ := of_bind h
    rw [LawfulJson.fromSlice_toVec] at h
    exact congrArg some (ok.inj h)

omit [Ed25519] [Base64] [Sha256] [Json ServiceTrustSnapshot] [LawfulJson DurableRenewalState] in
lemma eq_none_of_load_missing {content : Option DurableRenewalState}
    (h : load (encodeFile content) = .error .missing) : content = none := by
  cases content with
  | none => rfl
  | some written =>
    simp only [load, encodeFile, map_some, require] at h
    split at h
    · split at h
      · cases hdecoded : (Json.fromSlice (Json.toVec written) : Option DurableRenewalState) with
        | none =>
          simp only [hdecoded] at h
          cases h
        | some state =>
          simp only [hdecoded] at h
          cases h
      · cases h
    · cases h

omit [Json DurableRenewalState] [LawfulJson DurableRenewalState] in
lemma state_of_startEngine {engine : Engine} (h : startEngine authority state = some engine) :
    engine.state = state := by
  unfold startEngine at h
  cases hvalid : authority.validateLoadedState state with
  | ok _ =>
    simp only [hvalid, some.injEq] at h
    rw [← h]
  | error _ =>
    simp only [hvalid] at h
    cases h

lemma Kept.tracked_openEngine {w : RenewerState} (h : Kept authority w)
    (hprocess : w.process = none) (outcome : PersistOutcome) :
    Tracked authority (openEngine authority outcome w) := by
  have hidle : Tracked authority w := by
    have htracked := h.tracked
    rwa [← hprocess] at htracked
  obtain ⟨versions, hchain⟩ := h
  have hvisible : w.disk.visible = encodeFile versions.visible := by
    rw [hchain.disk_eq, map_visible]
  unfold openEngine
  cases hload : load w.disk.visible with
  | ok state =>
    rw [hvisible] at hload
    cases hvalid : state.validate authority.authorityFingerprint
        authority.template.semanticFingerprint with
    | error error =>
      simp only [hvalid]
      exact hidle
    | ok _ =>
      simp only [hvalid]
      refine ⟨versions, hchain, fun engine hengine => ?_⟩
      rw [state_of_startEngine hengine]
      exact load_encodeFile hload
  | error error =>
    cases error with
    | missing =>
      rw [hvisible] at hload
      have hnext : Follows authority versions.visible (some authority.emptyState) := by
        rw [eq_none_of_load_missing hload]
        exact Relation.ReflTransGen.refl
      have hreplaced (hbound : (Json.toVec authority.emptyState).length ≤
          maxTrustRenewerStateBytes) : Tracked authority { w with
          disk := w.disk.replace (some (Json.toVec authority.emptyState)) } := by
        refine ⟨_, hchain.replace hnext hbound, fun engine hengine => ?_⟩
        exact absurd (hprocess.symm.trans hengine) (by simp)
      rcases persist_cases w.disk authority.emptyState outcome with
        ⟨hbound, h | h | h⟩ | h | h <;> simp only [h]
      · refine ⟨_, (hchain.replace hnext hbound).sync, fun engine hengine => ?_⟩
        have hstarted : startEngine authority authority.emptyState = some engine := hengine
        rw [state_of_startEngine hstarted]
        exact visible_replace _ _
      · exact hreplaced hbound
      · exact hreplaced hbound
      · exact hidle
      · exact hidle
    | _ => exact hidle

lemma Tracked.act {w w' : RenewerState} {action : RenewerAction}
    (h : Tracked authority w) (hact : w.act authority action = some w') : Tracked authority w' := by
  obtain ⟨versions, hchain, hprocess⟩ := h
  cases action with
  | start outcome =>
    cases hnone : w.process with
    | none =>
      simp only [RenewerState.act, hnone, some.injEq] at hact
      rw [← hact]
      exact Kept.tracked_openEngine ⟨versions, hchain⟩ hnone outcome
    | some engine => simp [RenewerState.act, hnone] at hact
  | step input =>
    cases hsome : w.process with
    | none => simp [RenewerState.act, hsome] at hact
    | some engine =>
      simp only [RenewerState.act, hsome, some.injEq] at hact
      rw [← hact]
      exact Sound.tracked_stepEngine ⟨versions, hchain, hprocess engine hsome⟩ input
  | crash =>
    obtain rfl := some.inj hact
    exact Kept.tracked (s := w) ⟨versions, hchain⟩
  | losePower kept =>
    obtain rfl := some.inj hact
    exact ⟨_, hchain.lose kept, fun engine hengine => absurd hengine (not_mem_none _)⟩

lemma tracked_of_reachable [Json EncodedRenewalTemplate] {config : RenewerConfig}
    {w : RenewerState} (hauthority : config.authority = .ok authority)
    (h : (renewerSystem config).Reachable w) : Tracked authority w := by
  refine h.invariant (I := Tracked authority) (fun s hinit => ?_) fun s s' hs hstep => ?_
  · rw [show s = _ from hinit]
    refine ⟨⟨[], none, []⟩, ⟨rfl, grows_singleton _, ?_, ?_, ?_, List.Pairwise.nil, ?_,
      ?_⟩, fun engine hengine => absurd hengine (not_mem_none _)⟩
    · intro content hmem
      rw [mem_singleton.mp hmem]
      trivial
    · intro content hmem
      rw [mem_singleton.mp hmem]
      exact fun state hstate => absurd hstate (not_mem_none _)
    all_goals exact fun publication hmem => absurd hmem not_mem_nil
  · obtain ⟨found, action, hfound, hact⟩ := hstep
    obtain rfl : found = authority := ok.inj (hfound.symm.trans hauthority)
    exact hs.act hact

end Runs

end InferLab.Renewer
