import InferLab.Receiver.Rollback

/-!
# Control plane: policies that are accepted and not activated

A poll saves the floor of a newer policy before it activates the policy, and the activation may
fail. Polls after that find nothing new: the file is the one of the floor, or the distributor
answers that nothing was modified. They report success, while the older policy is active. Only a
remote poll that is served the whole snapshot tries the activation again.

As long as no activation fails, the active policy is the one of the floor after every poll,
whether the poll succeeds or fails.
-/

namespace InferLab.Receiver

open ServiceAuth Attempt Option

section InSync

variable {W : Type} (accepted : W → PersistedServiceTrustFloor)

/-- The active policy has the generation of the floor. -/
def InSync (running : Running W) : Prop :=
  running.authorizer.trustPolicyGeneration = some (accepted running.watcher).generation

instance (running : Running W) : Decidable (InSync accepted running) :=
  inferInstanceAs (Decidable (_ = _))

/-- The mode of the authorizer and the floor in memory are these. -/
def Keeps (mode : Mode) (floor : PersistedServiceTrustFloor) (s : Session (Running W)) : Prop :=
  s.process.authorizer.mode = mode ∧ accepted s.process.watcher = floor

/-- What a call that fails has left: the mode, or a policy that is the one of the floor. -/
def Leaves (mode : Mode) (s : Session (Running W)) : Prop :=
  s.process.authorizer.mode = mode ∨ InSync accepted s.process

/-- What a poll that returns has left: all as it was, if it reports that there is nothing new, and
otherwise the policy of the floor is active. -/
def Settled {α : Type} (nothingNew : α) (mode : Mode) (floor : PersistedServiceTrustFloor)
    (outcome : α) (s : Session (Running W)) : Prop :=
  outcome = nothingNew ∧ Keeps accepted mode floor s ∨ InSync accepted s.process

variable {accepted} {mode : Mode} {floor floor' : PersistedServiceTrustFloor}
  {s s' : Session (Running W)}

lemma Settled.nothingNew {α : Type} {nothingNew : α} (h : Keeps accepted mode floor s) :
    Settled accepted nothingNew mode floor nothingNew s :=
  .inl ⟨rfl, h⟩

lemma inSync_of_mode_eq (hmode : s'.process.authorizer.mode = s.process.authorizer.mode)
    (hfloor : (accepted s'.process.watcher).generation = (accepted s.process.watcher).generation)
    (h : InSync accepted s.process) : InSync accepted s'.process := by
  unfold InSync ServiceAuthorizer.trustPolicyGeneration at h ⊢
  rw [hmode, hfloor]
  exact h

/-- Nothing is said about how the computation ends. -/
theorem ensures_true {σ ε α : Type} (x : EStateM ε σ α) :
    Ensures (fun _ => True) x (fun _ _ => True) (fun _ _ => True) := by
  intro s _
  cases x s <;> trivial

lemma keeps_observeWallClock (observedNowMs : UInt64) :
    Ensures (Keeps accepted mode floor) (observeWallClock observedNowMs)
      (fun _ => Keeps accepted mode floor) (fun _ => Leaves accepted mode) :=
  fun _ hs => hs

lemma keeps_updateWatcher {f : W → W} (hf : ∀ w, accepted w = floor → accepted (f w) = floor') :
    Ensures (Keeps accepted mode floor) (updateWatcher f) (fun _ => Keeps accepted mode floor')
      (fun _ => Leaves accepted mode) :=
  fun s hs => ⟨hs.1, hf s.process.watcher hs.2⟩

lemma keeps_check {α : Type} (x : Except String α) :
    Ensures (Keeps accepted mode floor) (check x) (fun _ => Keeps accepted mode floor)
      (fun _ => Leaves accepted mode) :=
  (check_ensures (fun _ _ h => .inl h.1) x).imp (fun _ h => h) (fun _ _ h => h.1) fun _ _ h => h

lemma keeps_replaceFile {replace : Session (Running W) → Session (Running W)}
    (hreplace : ∀ s, (replace s).process = s.process) (outcome : SaveOutcome) :
    Ensures (Keeps accepted mode floor) (replaceFile replace outcome)
      (fun _ => Keeps accepted mode floor) (fun _ => Leaves accepted mode) := by
  refine replaceFile_ensures (fun s hs => ?_) (fun _ _ h => .inl h.1) (fun _ _ h => .inl h.1)
    outcome
  unfold Keeps
  rw [hreplace]
  exact hs

lemma keeps_saveFloor [PrettyJson PersistedServiceTrustFloor]
    (saved : PersistedServiceTrustFloor) (outcome : SaveOutcome) :
    Ensures (Keeps accepted mode floor) (saveFloor saved outcome)
      (fun _ => Keeps accepted mode floor) (fun _ => Leaves accepted mode) := by
  unfold saveFloor
  refine (keeps_check _).bind fun _ => (keeps_check _).bind fun _ => ?_
  exact keeps_replaceFile (fun _ => by rfl) outcome

lemma keeps_saveCache [UrlParser] [PrettyJson PersistedServiceTrustCache]
    (cache : PersistedServiceTrustCache) (outcome : SaveOutcome) :
    Ensures (Keeps accepted mode floor) (saveCache cache outcome)
      (fun _ => Keeps accepted mode floor) (fun _ => Leaves accepted mode) := by
  unfold saveCache
  refine (keeps_check _).bind fun _ => (keeps_check _).bind fun _ => ?_
  exact keeps_replaceFile (fun _ => by rfl) outcome

lemma Installed.trustPolicyGeneration {authorizer : ServiceAuthorizer}
    {snapshot : VerifiedServiceTrustSnapshot} (h : Installed authorizer snapshot) :
    authorizer.trustPolicyGeneration = some snapshot.policy.generation := by
  obtain ⟨mode, hmode, -, -, hgeneration, -⟩ := h
  unfold ServiceAuthorizer.trustPolicyGeneration
  rw [hmode]
  exact hgeneration

/-- The policy of the floor is active after its activation, and the mode is the old one if the
activation fails. -/
theorem applySignedSnapshot_leaves [PrettyJson PersistedServiceTrustFloor]
    (snapshot : VerifiedServiceTrustSnapshot) (observedNowMs : UInt64) :
    Ensures (Keeps accepted mode (.fromVerified snapshot))
      (applySignedSnapshot snapshot observedNowMs)
      (fun activation s => Leaves accepted mode s ∧
        (activation.isSome = true → InSync accepted s.process))
      (fun _ => Leaves accepted mode) := by
  intro s hs
  rcases applySignedSnapshot_cases s.process.authorizer snapshot observedNowMs with
    ⟨activatedAtMs, hresult, hinstalled⟩ | ⟨hnever, hmode⟩
  · unfold applySignedSnapshot
    simp only [hresult]
    have hactive := hinstalled.trustPolicyGeneration.trans
      (congrArg (fun floor => some floor.generation) hs.2).symm
    exact ⟨.inr hactive, fun _ => hactive⟩
  · have hleft := hmode.trans hs.1
    unfold applySignedSnapshot
    cases hresult : (s.process.authorizer.applySignedSnapshot snapshot observedNowMs).1 with
    | error message =>
      simp only [hresult]
      exact .inl hleft
    | ok activation =>
      cases activation with
      | none =>
        simp only [hresult]
        exact ⟨.inl hleft, fun h => by cases h⟩
      | some activatedAtMs => exact absurd hresult (hnever activatedAtMs)

end InSync

/-! ## Polls of a file -/

section LocalPolls

variable [Ed25519] [Base64] [PrettyJson PersistedServiceTrustFloor] {mode : Mode}
  {floor : PersistedServiceTrustFloor}

lemma acceptSnapshot_settles (input : LocalPoll) (observedAtMs : UInt64) (bytes : Wire.Bytes)
    (verified : VerifiedServiceTrustSnapshot) :
    Ensures (Keeps ServiceTrustWatcher.acceptedFloor mode floor)
      (ServiceTrustWatcher.acceptSnapshot input observedAtMs bytes verified)
      (Settled ServiceTrustWatcher.acceptedFloor none mode floor)
      (fun _ => Leaves ServiceTrustWatcher.acceptedFloor mode) := by
  unfold ServiceTrustWatcher.acceptSnapshot
  refine .read fun s hs => ?_
  dsimp only
  refine (keeps_check _).bind (fun _ => ?_) s hs
  refine (keeps_check _).bind fun _ => ?_
  refine (keeps_check _).bind fun _ => ?_
  refine .ite (fun _ => ?_) fun _ => ?_
  · refine .read fun s hs => ?_
    refine Ensures.ite (fun _ => ?_) (fun _ => Ensures.pure fun s => Settled.nothingNew) s hs
    exact Ensures.bind (keeps_updateWatcher fun _ h => by exact h) fun _ =>
      .pure fun s => Settled.nothingNew
  · refine (keeps_saveFloor _ input.floorOutcome).bind fun _ => ?_
    refine (keeps_updateWatcher fun _ _ => by rfl).bind fun _ => ?_
    refine (keeps_check _).bind fun _ => ?_
    refine (applySignedSnapshot_leaves verified input.activationAtMs).bind fun activation => ?_
    refine .ite (fun _ => .throw fun s hs => hs.1) fun hsome => ?_
    refine .bind (Q := fun _ s => InSync ServiceTrustWatcher.acceptedFloor s.process)
      (.update fun s hs => hs.2 (isSome_iff_ne_none.mpr (by simpa using hsome)))
      fun _ => ?_
    exact .pure fun s hs => .inr hs

variable [Json ServiceTrustSnapshot]

lemma reloadOnce_settles_local (input : LocalPoll) :
    Ensures (Keeps ServiceTrustWatcher.acceptedFloor mode floor)
      (ServiceTrustWatcher.reloadOnce input)
      (Settled ServiceTrustWatcher.acceptedFloor none mode floor)
      (fun _ => Leaves ServiceTrustWatcher.acceptedFloor mode) := by
  unfold ServiceTrustWatcher.reloadOnce
  refine (keeps_observeWallClock input.observedAtMs).bind fun observedAtMs => ?_
  refine .read fun s hs => ?_
  cases readBounded s.process.watcher.snapshotPath maxSnapshotBytes input.file with
  | error message =>
    refine Ensures.ite (fun _ => Ensures.pure fun s => Settled.nothingNew) (fun _ => ?_) s hs
    exact (keeps_updateWatcher fun _ h => by exact h).bind fun _ =>
      Ensures.throw fun s hs => .inl hs.1
  | ok bytes =>
    refine Ensures.bind (keeps_updateWatcher fun _ h => by exact h) (fun _ => ?_) s hs
    refine Ensures.ite (fun _ => Ensures.pure fun s => Settled.nothingNew) fun _ => ?_
    exact (keeps_check _).bind fun verified =>
      acceptSnapshot_settles input observedAtMs bytes verified

end LocalPolls

/-! ## Polls of a distributor -/

section RemotePolls

variable [Ed25519] [Base64] [UrlParser] [PrettyJson PersistedServiceTrustFloor]
  [PrettyJson PersistedServiceTrustCache] {mode : Mode} {floor : PersistedServiceTrustFloor}

omit [Ed25519] [Base64] in
lemma keeps_persistRemoteAcceptance (url : String) (etag : Option String)
    (snapshot : VerifiedServiceTrustSnapshot) (cacheOutcome floorOutcome : SaveOutcome) :
    Ensures (Keeps RemoteServiceTrustWatcher.acceptedFloor mode floor)
      (persistRemoteAcceptanceRedacted url etag snapshot cacheOutcome floorOutcome)
      (fun _ => Keeps RemoteServiceTrustWatcher.acceptedFloor mode floor)
      (fun _ => Leaves RemoteServiceTrustWatcher.acceptedFloor mode) := by
  have hpersist : Ensures (Keeps RemoteServiceTrustWatcher.acceptedFloor mode floor)
      (persistRemoteAcceptance url etag snapshot cacheOutcome floorOutcome)
      (fun _ => Keeps RemoteServiceTrustWatcher.acceptedFloor mode floor)
      (fun _ => Leaves RemoteServiceTrustWatcher.acceptedFloor mode) := by
    unfold persistRemoteAcceptance
    refine (keeps_check _).bind fun version => ?_
    exact (keeps_saveCache _ cacheOutcome).bind fun _ => keeps_saveFloor _ floorOutcome
  unfold persistRemoteAcceptanceRedacted
  refine (attempt_ensures hpersist).bind fun result => ?_
  cases result with
  | ok _ => exact .pure fun s h => h.1 _ rfl
  | error message => exact .throw fun s h => h.2 message rfl

variable [Json ServiceTrustSnapshot]

omit [PrettyJson PersistedServiceTrustFloor] in
lemma keeps_acceptNotModified (input : RemotePoll) (etag : Option String) :
    Ensures (Keeps RemoteServiceTrustWatcher.acceptedFloor mode floor)
      (RemoteServiceTrustWatcher.acceptNotModified input etag)
      (fun _ => Keeps RemoteServiceTrustWatcher.acceptedFloor mode floor)
      (fun _ => Leaves RemoteServiceTrustWatcher.acceptedFloor mode) := by
  unfold RemoteServiceTrustWatcher.acceptNotModified
  refine (keeps_observeWallClock input.observedAtMs).bind fun observedAtMs => ?_
  cases etag with
  | none => exact .pure fun s hs => hs
  | some etag =>
    refine .read fun s hs => ?_
    refine Ensures.ite (fun _ => Ensures.pure fun s hs => hs) (fun _ => ?_) s hs
    refine Ensures.read fun s hs => ?_
    cases loadVerifiedCache _ s.disk input.cacheReadError _ observedAtMs with
    | error message => exact .inl hs.1
    | ok cached =>
      cases cached with
      | none => exact .inl hs.1
      | some cached =>
        refine (keeps_check _).bind (fun _ => ?_) s hs
        refine (attempt_ensures (keeps_saveCache _ input.cacheOutcome)).bind fun result => ?_
        cases result with
        | error message => exact .throw fun s hs => hs.2 message rfl
        | ok _ =>
          exact (keeps_updateWatcher fun _ h => by exact h).imp (fun s h => h.1 _ rfl)
            (fun _ _ h => h) fun _ _ h => h

omit [Json ServiceTrustSnapshot] in
/-- Where a poll is served a snapshot and succeeds, the active policy is the one of the floor. -/
theorem inSync_acceptSnapshot (input : RemotePoll) (etag : Option String)
    (verified : VerifiedServiceTrustSnapshot) :
    Ensures (Keeps RemoteServiceTrustWatcher.acceptedFloor mode floor)
      (RemoteServiceTrustWatcher.acceptSnapshot input etag verified)
      (fun _ s => InSync RemoteServiceTrustWatcher.acceptedFloor s.process)
      (fun _ => Leaves RemoteServiceTrustWatcher.acceptedFloor mode) := by
  unfold RemoteServiceTrustWatcher.acceptSnapshot
  refine .read fun s hs => ?_
  refine (keeps_check _).bind (fun _ => ?_) s hs
  refine (keeps_observeWallClock input.observedAtMs).bind fun observedAtMs => ?_
  refine (keeps_check _).bind fun _ => ?_
  refine (keeps_check _).bind fun _ => ?_
  refine (attempt_ensures (keeps_persistRemoteAcceptance _ etag verified input.cacheOutcome
    input.floorOutcome)).bind fun result => ?_
  cases result with
  | error message =>
    refine .bind (Q := fun _ => Leaves RemoteServiceTrustWatcher.acceptedFloor mode)
      (.update fun s hs => hs.2 message rfl) fun _ => ?_
    exact .throw fun s hs => hs
  | ok _ =>
    refine ((keeps_updateWatcher fun _ _ => by rfl).imp (fun s hs => hs.1 _ rfl) (fun _ _ h => h)
      fun _ _ h => h).bind fun _ => ?_
    refine (keeps_check _).bind fun _ => ?_
    refine .read fun s hs => ?_
    split
    case isTrue hactive =>
      exact hactive.2.trans (congrArg (fun floor => some floor.generation) hs.2).symm
    case isFalse =>
      refine (applySignedSnapshot_leaves verified input.activationAtMs).bind
        (fun activation => ?_) s hs
      cases activation with
      | none => exact .throw fun s hs => hs.1
      | some activatedAtMs =>
        refine (signReceipt_ensures _ verified activatedAtMs fun _ _ hs => hs.1).bind
          fun receipt => ?_
        refine .bind (.update (Q := fun _ s =>
          InSync RemoteServiceTrustWatcher.acceptedFloor s.process) ?_) fun _ =>
            .pure fun s h => h
        rintro _ ⟨s, hs, rfl, -⟩
        exact hs.2 rfl

lemma reloadOnce_settles_remote (input : RemotePoll) :
    Ensures (Keeps RemoteServiceTrustWatcher.acceptedFloor mode floor)
      (RemoteServiceTrustWatcher.reloadOnce input)
      (Settled RemoteServiceTrustWatcher.acceptedFloor .notModified mode floor)
      (fun _ => Leaves RemoteServiceTrustWatcher.acceptedFloor mode) := by
  unfold RemoteServiceTrustWatcher.reloadOnce
  refine .read fun s hs => ?_
  refine (keeps_check _).bind (fun _ => ?_) s hs
  refine (keeps_check _).bind fun fetched => ?_
  cases fetched with
  | notModified etag =>
    refine (keeps_acceptNotModified input etag).bind fun _ => ?_
    exact .pure fun s => Settled.nothingNew
  | snapshot bytes etag =>
    refine (keeps_check _).bind fun verified => ?_
    exact (inSync_acceptSnapshot input etag verified).imp (fun _ h => h) (fun _ _ h => .inr h)
      fun _ _ h => h

end RemotePolls

/-! ## Starts -/

section Starts

variable [Ed25519] [Base64] [UrlParser] [PrettyJson PersistedServiceTrustFloor]
  [PrettyJson PersistedServiceTrustCache] [Json ServiceTrustSnapshot]

omit [UrlParser] [PrettyJson PersistedServiceTrustCache] in
lemma inSync_bootstrap_local (config : LocalTrustConfig) (input : LocalBootstrap) :
    Ensures (fun _ => True) (bootstrapSignedServiceTrust config input)
      (fun running _ => InSync ServiceTrustWatcher.acceptedFloor running) (fun _ _ => True) := by
  unfold bootstrapSignedServiceTrust
  refine (ensures_true _).bind fun _ => ?_
  refine (ensures_true _).bind fun bytes => ?_
  refine (ensures_true _).bind fun verified => ?_
  refine (ensures_true _).bind fun _ => ?_
  refine (ensures_true _).bind fun _ => ?_
  refine .read fun s _ => ?_
  refine (ensures_true _).bind (fun _ => ?_) s trivial
  refine (ensures_true _).bind fun _ => ?_
  refine (ensures_true _).bind fun _ => ?_
  refine (ensures_true _).bind fun _ => ?_
  refine (check_ensures (fun _ _ _ => trivial) _).bind fun authorizer => ?_
  rintro s ⟨-, hrequired⟩
  exact (installed_of_requiredFromSignedSnapshot hrequired).trustPolicyGeneration

lemma inSync_bootstrap_remote (config : RemoteTrustConfig) (input : RemoteBootstrap) :
    Ensures (fun _ => True) (bootstrapRemoteSignedServiceTrust config input)
      (fun running _ => InSync RemoteServiceTrustWatcher.acceptedFloor running)
      (fun _ _ => True) := by
  unfold bootstrapRemoteSignedServiceTrust
  refine (ensures_true _).bind fun acquired => ?_
  refine (ensures_true _).bind fun _ => ?_
  refine (check_ensures (fun _ _ _ => trivial) _).bind fun authorizer => ?_
  rintro s ⟨-, hrequired⟩
  have hactive := (installed_of_requiredFromSignedSnapshot hrequired).trustPolicyGeneration
  refine (ensures_true _).bind (fun _ => ?_) s trivial
  refine (ensures_true _).bind fun receipt => ?_
  exact .pure fun _ _ => hactive

end Starts

/-! ## Runs -/

section Runs

def Process.InSync (process : Process) : Prop :=
  process.authorizer.trustPolicyGeneration = some process.acceptedFloor.generation

/-- The process, if one is running, has activated the policy of its floor. -/
def ReceiverState.InSync (s : ReceiverState) : Prop :=
  ∀ process, s.process = some process → process.InSync

/-- The activation of a poll fails: the poll ends with an error, the floor has been raised, and the
active policy is the one of before. -/
def activationFails {W α : Type} (accepted : W → PersistedServiceTrustFloor)
    (s : Session (Running W)) : EStateM.Result Stop (Session (Running W)) α → Bool
  | .error (.failed _) s' =>
    (accepted s'.process.watcher).generation ≠ (accepted s.process.watcher).generation ∧
      s'.process.authorizer.mode = s.process.authorizer.mode
  | _ => false

variable [Ed25519] [Base64] [UrlParser] [PrettyJson PersistedServiceTrustFloor]
  [PrettyJson PersistedServiceTrustCache] [Json ServiceTrustSnapshot]

def ReceiverAction.activationFails (s : ReceiverState) : ReceiverAction → Bool
  | .pollLocal input =>
    match s.process with
    | some (.localFile running) =>
      Receiver.activationFails ServiceTrustWatcher.acceptedFloor { s with process := running }
        (ServiceTrustWatcher.reloadOnce input { s with process := running })
    | _ => false
  | .pollRemote input =>
    match s.process with
    | some (.remote running) =>
      Receiver.activationFails RemoteServiceTrustWatcher.acceptedFloor { s with process := running }
        (RemoteServiceTrustWatcher.reloadOnce input { s with process := running })
    | _ => false
  | _ => false

def ReceiverState.stepActivating (s : ReceiverState) (action : ReceiverAction) :
    Option ReceiverState :=
  if action.activationFails s then none else s.step action

/-- The runs of a receiver in which no activation fails. -/
def activatingSystem : System ReceiverState where
  init := ReceiverState.Fresh
  step s s' := ∃ action, s.stepActivating action = some s'

section Calls

omit [Ed25519] [Base64] [UrlParser] [PrettyJson PersistedServiceTrustCache]
  [Json ServiceTrustSnapshot]

variable {W α : Type} {accepted : W → PersistedServiceTrustFloor} {wrap : Running W → Process}

omit [PrettyJson PersistedServiceTrustFloor] in
lemma inSync_running {s : Session (Running W)}
    (hwrap : ∀ running, (wrap running).InSync ↔ InSync accepted running)
    (h : InSync accepted s.process) :
    ReceiverState.InSync { s with process := some (wrap s.process) } := by
  intro process hprocess
  obtain rfl := some.inj hprocess
  exact (hwrap _).mpr h

lemma inSync_ended {P : Type} (s : Session P) : s.ended.InSync :=
  fun process hprocess => by cases hprocess

lemma inSync_afterPoll (hwrap : ∀ running, (wrap running).InSync ↔ InSync accepted running)
    {s : Session (Running W)} {result : EStateM.Result Stop (Session (Running W)) α}
    {nothingNew : α}
    (hends : Ends (Settled accepted nothingNew s.process.authorizer.mode
        (accepted s.process.watcher))
      (fun _ => Leaves accepted s.process.authorizer.mode) result)
    (hactivates : activationFails accepted s result = false) (h : InSync accepted s.process) :
    (afterPoll wrap result).InSync := by
  cases result with
  | ok a s' =>
    refine inSync_running hwrap ?_
    rcases hends with ⟨-, hkeeps⟩ | hsync
    · exact inSync_of_mode_eq hkeeps.1 (congrArg _ hkeeps.2) h
    · exact hsync
  | error stop s' =>
    cases stop with
    | failed message =>
      refine inSync_running hwrap ?_
      rcases hends with hmode | hsync
      · -- the floor has not been raised, since the activation would have failed
        have hfloor := of_decide_eq_false hactivates
        exact inSync_of_mode_eq hmode (not_not.mp fun hraised => hfloor ⟨hraised, hmode⟩) h
      · exact hsync
    | crashed => exact inSync_ended s'

lemma inSync_afterStart (hwrap : ∀ running, (wrap running).InSync ↔ InSync accepted running)
    {result : EStateM.Result Stop (Session Unit) (Running W)}
    (hends : Ends (fun running _ => InSync accepted running) (fun _ _ => True) result) :
    (afterStart wrap result).InSync := by
  cases result with
  | ok running s =>
    intro process hprocess
    obtain rfl := some.inj hprocess
    exact (hwrap running).mpr hends
  | error stop s => exact inSync_ended s

end Calls

variable {s s' : ReceiverState}

lemma ReceiverState.InSync.step (h : s.InSync) {action : ReceiverAction}
    (hstep : s.stepActivating action = some s') : s'.InSync := by
  obtain ⟨hactivates, hstep⟩ := ite_none_left_eq_some.mp hstep
  rw [Bool.not_eq_true] at hactivates
  cases ReceiverState.stepped hstep with
  | startLocal config input =>
    exact inSync_afterStart (fun _ => Iff.rfl) (inSync_bootstrap_local config input _ trivial)
  | startRemote config input =>
    exact inSync_afterStart (fun _ => Iff.rfl) (inSync_bootstrap_remote config input _ trivial)
  | pollLocal input running hprocess =>
    simp only [ReceiverAction.activationFails, hprocess] at hactivates
    exact inSync_afterPoll (fun _ => Iff.rfl) (reloadOnce_settles_local input _ ⟨rfl, rfl⟩)
      hactivates (h _ hprocess)
  | pollRemote input running hprocess =>
    simp only [ReceiverAction.activationFails, hprocess] at hactivates
    exact inSync_afterPoll (fun _ => Iff.rfl) (reloadOnce_settles_remote input _ ⟨rfl, rfl⟩)
      hactivates (h _ hprocess)
  | postReceipt status running hprocess =>
    have hsync : Receiver.InSync RemoteServiceTrustWatcher.acceptedFloor running := h _ hprocess
    unfold RemoteServiceTrustWatcher.postPendingReceipt
    split <;> exact inSync_running (fun _ => Iff.rfl) hsync
  | observe observedNowMs =>
    intro process hprocess
    obtain ⟨old, hold, rfl⟩ := map_eq_some_iff.mp hprocess
    have hsync := h old hold
    cases old <;> exact hsync
  | crash => exact inSync_ended s
  | changeCache cache => exact h

lemma ReceiverState.InSync.steps (h : s.InSync) (hsteps : activatingSystem.Steps s s') :
    s'.InSync := by
  induction hsteps with
  | refl => exact h
  | tail _ hlast ih =>
    obtain ⟨action, hlast⟩ := hlast
    exact ih.step hlast

section Recovery

omit [Ed25519] [Base64] [UrlParser] [PrettyJson PersistedServiceTrustFloor]
  [PrettyJson PersistedServiceTrustCache] [Json ServiceTrustSnapshot]

variable {W α : Type} {accepted : W → PersistedServiceTrustFloor}

/-- A poll that reports something new has brought the active policy to the floor. -/
theorem inSync_of_new {poll : Call (Running W) α} {nothingNew outcome : α}
    (hsettles : ∀ mode floor, Ensures (Keeps accepted mode floor) poll
      (Settled accepted nothingNew mode floor) (fun _ => Leaves accepted mode))
    {s polled : Session (Running W)} (hpolled : poll s = .ok outcome polled)
    (hnew : outcome ≠ nothingNew) : InSync accepted polled.process := by
  have hends := hsettles _ _ s ⟨rfl, rfl⟩
  rw [hpolled] at hends
  exact hends.resolve_left fun hnothing => hnew hnothing.1

end Recovery

/-- In a run in which no activation fails, the active policy is the one of the floor at all times:
after every poll of either watcher, whether it reports success or an error. After a failed
activation the same holds again from the next poll on that activates a policy: one of the file that
returns a generation, or a remote one that succeeds with an answer other than 304. -/
theorem polls_inSync :
    (∀ s, activatingSystem.Reachable s → s.InSync) ∧
    (∀ input s generation polled, ServiceTrustWatcher.reloadOnce input s = .ok generation polled →
      generation ≠ none →
      ∀ s', activatingSystem.Steps { polled with process := some (.localFile polled.process) } s' →
        s'.InSync) ∧
    ∀ input s outcome polled, RemoteServiceTrustWatcher.reloadOnce input s = .ok outcome polled →
      outcome ≠ .notModified →
      ∀ s', activatingSystem.Steps { polled with process := some (.remote polled.process) } s' →
        s'.InSync := by
  refine ⟨?_, ?_, ?_⟩
  · rintro s ⟨s₀, hfresh, hsteps⟩
    -- nothing runs before the first start
    refine ReceiverState.InSync.steps (fun process hprocess => ?_) hsteps
    cases hfresh.2.1.symm.trans hprocess
  · intro input s generation polled hpolled hnew s' hsteps
    have hsync := inSync_of_new (fun _ _ => reloadOnce_settles_local input) hpolled hnew
    exact (inSync_running (fun _ => Iff.rfl) hsync).steps hsteps
  · intro input s outcome polled hpolled hnew s' hsteps
    have hsync := inSync_of_new (fun _ _ => reloadOnce_settles_remote input) hpolled hnew
    exact (inSync_running (fun _ => Iff.rfl) hsync).steps hsteps

end Runs

/-! ## A signer that is handed over during a poll -/

section Example

@[reducible]
def sampleSnapshotJson : Json ServiceTrustSnapshot := snapshotCodec.json

@[reducible]
def sampleFloorJson : PrettyJson PersistedServiceTrustFloor := floorCodec.prettyJson

@[reducible]
def sampleCacheJson : PrettyJson PersistedServiceTrustCache := cacheCodec.prettyJson

attribute [local instance] checksumEd25519 standardBase64 originParser sampleSnapshotJson
  sampleFloorJson sampleCacheJson

/-- Polls follow one another whether they fail or not. What each of them returned, and the state
after all of them. -/
def pollAll {W I α : Type} (poll : I → Call (Running W) α) :
    List I → Session (Running W) → Option (List (Option α) × Session (Running W))
  | [], s => some ([], s)
  | input :: inputs, s =>
    match poll input s with
    | .ok a s => (pollAll poll inputs s).map fun (results, s) => (some a :: results, s)
    | .error (.failed _) s => (pollAll poll inputs s).map fun (results, s) => (none :: results, s)
    | .error .crashed _ => none

/-- A start and the polls after it. -/
def startAndPoll {W I α : Type} (poll : I → Call (Running W) α) (inputs : List I) :
    EStateM.Result Stop (Session Unit) (Running W) →
      Option (List (Option α) × Session (Running W))
  | .ok running s => pollAll poll inputs { s with process := running }
  | .error _ _ => none

/-- The value and the state of a call that has returned. -/
def returned {σ α : Type} : EStateM.Result Stop σ α → Option (α × σ)
  | .ok a s => some (a, s)
  | .error _ _ => none

lemma returned_eq_some {σ α : Type} {r : EStateM.Result Stop σ α} {a : α} {s : σ}
    (h : returned r = some (a, s)) : r = .ok a s := by
  cases r with
  | ok b t =>
    cases h
    rfl
  | error e t => cases h

/-- Before the first start. -/
def freshSession : Session Unit := ⟨⟨none, none⟩, (), none, [⟨none, none⟩], []⟩

/-- A credential that no policy trusts. -/
def otherIdentity : SigningIdentity := ⟨"n", "x", rootSeed⟩

/-- A poll that is served the second policy with a tag. -/
def taggedInput (activationIdentity : SigningIdentity) : RemotePoll :=
  { pollInput secondSnapshot .saved with
    response := .ok ⟨200, some [50], none, [.ok (snapshotCodec.put secondSnapshot)]⟩
    activationIdentity := activationIdentity }

/-- A poll that is answered with 304. -/
def notModifiedInput : RemotePoll :=
  { pollInput secondSnapshot .saved with response := .ok ⟨304, some [50], none, []⟩ }

def localConfig : LocalTrustConfig where
  snapshotPath := "snapshot"
  floorPath := "floor"
  clusterId := "c"
  roots := roots
  localSigningCredential := .dynamic
  validityConfig := ⟨false, 1000, 1000000⟩
  pollIntervalMs := 1000
  maxAgeMs := 30000
  maxFutureSkewMs := 5000

def localStart : LocalBootstrap :=
  ⟨.ok (snapshotCodec.put firstSnapshot), nodeIdentity, 2000, none, .saved, nodeIdentity, 2000⟩

/-- A poll that finds a policy in the file. -/
def fileInput (snapshot : ServiceTrustSnapshot) (activationIdentity : SigningIdentity) :
    LocalPoll :=
  ⟨3000, .ok (snapshotCodec.put snapshot), nodeIdentity, .saved, activationIdentity, 3000⟩

def thirdSnapshot : ServiceTrustSnapshot := nodeSnapshot 3
  "AA0VEJvknqiP2WJNpa1Tx1JUnj2/YET9OX4jh2eQGv4qCtJqA1sGjmfI0weDXKdcyX5O78LcgMdiiZbRxOC0YQ=="

/-- The signer is handed over before the second policy is activated. -/
def stallingRemote : Option (List (Option RemoteReloadOutcome) ×
    Session (Running RemoteServiceTrustWatcher)) :=
  startAndPoll RemoteServiceTrustWatcher.reloadOnce [taggedInput otherIdentity, notModifiedInput]
    (bootstrapRemoteSignedServiceTrust remoteConfig (startInput firstSnapshot) freshSession)

/-- The same with a file. The signer has been handed back when the file is polled again. -/
def stallingLocal : Option (List (Option (Option UInt64)) ×
    Session (Running ServiceTrustWatcher)) :=
  startAndPoll ServiceTrustWatcher.reloadOnce
    [fileInput secondSnapshot otherIdentity, fileInput secondSnapshot nodeIdentity]
    (bootstrapSignedServiceTrust localConfig localStart freshSession)

/-- Polls that end out of step, and one more after them, found by running them. -/
theorem exists_stalled {W α : Type} {accepted : W → PersistedServiceTrustFloor}
    {polls : Option (List (Option α) × Session (Running W))} {last : Call (Running W) α}
    {results : List (Option α)} {a : α}
    (h : (polls.bind fun polled => (returned (last polled.2)).map fun result =>
      (polled.1, decide (InSync accepted polled.2.process), result.1)) = some (results, false, a)) :
    ∃ s s', polls = some (results, s) ∧ ¬InSync accepted s.process ∧ last s = .ok a s' := by
  obtain ⟨⟨_, s⟩, hpolls, h⟩ := bind_eq_some_iff.mp h
  obtain ⟨⟨_, s'⟩, hlast, hresults⟩ := map_eq_some_iff.mp h
  simp only [Prod.mk.injEq] at hresults
  obtain ⟨rfl, hsync, rfl⟩ := hresults
  exact ⟨s, s', hpolls, of_decide_eq_false hsync, returned_eq_some hlast⟩

lemma exists_stallingRemote :
    ∃ s s', stallingRemote = some ([none, some .notModified], s) ∧
      ¬InSync RemoteServiceTrustWatcher.acceptedFloor s.process ∧
      RemoteServiceTrustWatcher.reloadOnce (taggedInput nodeIdentity) s = .ok (.updated 2) s' :=
  exists_stalled (by decide +kernel)

lemma exists_stallingLocal :
    ∃ s s', stallingLocal = some ([none, some none], s) ∧
      ¬InSync ServiceTrustWatcher.acceptedFloor s.process ∧
      ServiceTrustWatcher.reloadOnce (fileInput thirdSnapshot nodeIdentity) s = .ok (some 3) s' :=
  exists_stalled (by decide +kernel)

/-- A poll of an unreadable file, one that updates and one that finds nothing new. -/
def unfailingPolls : List ReceiverAction := [
  .startLocal localConfig localStart,
  .pollLocal { fileInput secondSnapshot nodeIdentity with file := .error "unreadable" },
  .pollLocal (fileInput secondSnapshot nodeIdentity),
  .pollLocal (fileInput secondSnapshot nodeIdentity)]

theorem polls_inSync_recovered :
    (∃ s, unfailingPolls.foldlM ReceiverState.stepActivating freshReceiver = some s ∧
      s.process.isSome ∧ s.InSync) ∧
    (∃ s s', stallingLocal = some ([none, some none], s) ∧
      ServiceTrustWatcher.reloadOnce (fileInput thirdSnapshot nodeIdentity) s = .ok (some 3) s' ∧
      ReceiverState.InSync { s' with process := some (.localFile s'.process) }) ∧
    ∃ s s', stallingRemote = some ([none, some .notModified], s) ∧
      RemoteServiceTrustWatcher.reloadOnce (taggedInput nodeIdentity) s = .ok (.updated 2) s' ∧
      ReceiverState.InSync { s' with process := some (.remote s'.process) } := by
  obtain ⟨hrun, hlocal, hremote⟩ := polls_inSync
  refine ⟨?_, ?_, ?_⟩
  · have hpolls : (unfailingPolls.foldlM ReceiverState.stepActivating freshReceiver).map
        (·.process.isSome) = some true := by decide +kernel
    obtain ⟨s, hs, hrunning⟩ := map_eq_some_iff.mp hpolls
    exact ⟨s, hs, hrunning, hrun s ⟨freshReceiver, ⟨rfl, rfl, rfl, rfl, rfl⟩,
      System.Steps.of_actions (fun _ action _ h => ⟨action, h⟩) hs⟩⟩
  · obtain ⟨s, s', hstalled, -, hlast⟩ := exists_stallingLocal
    exact ⟨s, s', hstalled, hlast, hlocal _ s _ s' hlast (by simp) _ .refl⟩
  · obtain ⟨s, s', hstalled, -, hlast⟩ := exists_stallingRemote
    exact ⟨s, s', hstalled, hlast, hremote _ s _ s' hlast (by simp) _ .refl⟩

/-- The activation of the second policy fails, and the policy stays inactive. The next poll of the
distributor reports that nothing was modified, and that of the file that there is nothing new. -/
theorem poll_stalls :
    (∃ s, stallingRemote = some ([none, some .notModified], s) ∧
      ¬InSync RemoteServiceTrustWatcher.acceptedFloor s.process) ∧
    ∃ s, stallingLocal = some ([none, some none], s) ∧
      ¬InSync ServiceTrustWatcher.acceptedFloor s.process := by
  obtain ⟨s, -, hstalled, hsync, -⟩ := exists_stallingRemote
  obtain ⟨s', -, hstalled', hsync', -⟩ := exists_stallingLocal
  exact ⟨⟨s, hstalled, hsync⟩, s', hstalled', hsync'⟩

end Example

end InferLab.Receiver
